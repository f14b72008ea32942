import Pageworks.Markdown.Target

/-!
# Blocks

A markdown document is a list of blocks, with the definitions of labels that it contains.

## Main definitions

* `Alignment`: how the cells of a column are aligned.
* `Block`: paragraphs, headings, lists and the like.
-/

namespace Pageworks.Markdown

/-- How the cells of a column are aligned. -/
inductive Alignment
  | left
  | right
  | center
  deriving DecidableEq, Repr

/-- The name of an alignment. -/
def Alignment.name : Alignment → String
  | .left => "left"
  | .right => "right"
  | .center => "center"

/-- The blocks of a document.  The texts of paragraphs, headings and cells are still to be read for
inline markup. -/
inductive Block
  /-- A paragraph. -/
  | paragraph (text : List Char)
  /-- A heading of a level from one to six. -/
  | heading (level : Nat) (text : List Char)
  /-- A thematic break. -/
  | rule
  /-- Code by its indentation. -/
  | code (text : List Char)
  /-- Code between fences, with what follows the opening one. -/
  | fenced (info text : List Char)
  /-- Markup that stands as it is. -/
  | html (text : List Char)
  /-- A quotation. -/
  | quote (blocks : List Block)
  /-- A list, numbered from a first number or not at all; the paragraphs of a tight list stand
  without tags. -/
  | list (first : Option Nat) (tight : Bool) (items : List (List Block))
  /-- A table with a row of column heads; a column may have an alignment. -/
  | table (columns : List (Option Alignment)) (heads : List (List Char))
      (rows : List (List (List Char)))
  deriving Inhabited

end Pageworks.Markdown
