import Pageworks.Markdown.Html

/-!
# Inline content

The text of a paragraph, a heading or a cell is a list of pieces.

## Main definitions

* `Emphasis`: the ways to set off text.
* `Inline`: the pieces.
* `Inline.plain`: what a piece says without markup.
-/

namespace Pageworks.Markdown

/-- The ways to set off text. -/
inductive Emphasis
  | weak
  | strong
  | strike
  deriving DecidableEq, Repr

/-- The element of an emphasis. -/
def Emphasis.element : Emphasis → String
  | .weak => "em"
  | .strong => "strong"
  | .strike => "s"

/-- The pieces of inline content. -/
inductive Inline
  /-- Text as it is written. -/
  | text (s : List Char)
  /-- Text that is written by an escape or a character reference. -/
  | escaped (s : List Char)
  /-- A span of code. -/
  | code (s : List Char)
  /-- A line end that means nothing. -/
  | softBreak
  /-- A line end that breaks the line. -/
  | hardBreak
  /-- Markup that stands as it is. -/
  | html (s : List Char)
  /-- The start of an emphasis. -/
  | opening (e : Emphasis)
  /-- The end of an emphasis. -/
  | closing (e : Emphasis)
  /-- A link to an address; an empty title is none. -/
  | link (url title : List Char) (content : List Inline)
  /-- An image with its description. -/
  | image (url title : List Char) (description : List Inline)
  deriving Inhabited

mutual

/-- What a piece says as a description; only text as it is written counts. -/
def Inline.plain : Inline → List Char
  | .text s => s
  | .softBreak => ['\n']
  | .link _ _ content => Inline.plainAll content
  | .image _ _ description => Inline.plainAll description
  | .escaped _ | .code _ | .hardBreak | .html _ | .opening _ | .closing _ => []

/-- What some pieces say as a description. -/
def Inline.plainAll : List Inline → List Char
  | [] => []
  | x :: xs => x.plain ++ Inline.plainAll xs

end

end Pageworks.Markdown
