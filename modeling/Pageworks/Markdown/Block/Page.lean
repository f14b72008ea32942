import Pageworks.Markdown.Block.Start
import Pageworks.Markdown.Block.Table
import Pageworks.Markdown.Preset

/-!
# Lines as blocks see them

Inside a container the lines lack its marks and are indented against its margin.  Whether a line
belongs to the paragraph above it depends on what the line could start instead.

## Main definitions

* `Page`: the lines of a container.
* `Page.tableHead?`: the head of a table at a line.
* `Interrupted`, `Page.interrupts`: a line that ends the block above it without an empty line.
* `Page.paragraphEnd`, `Page.underlined?`, `Page.definitionAt?`: what a paragraph's lines are.
* `Page.codeEnd`, `Page.fenceEnd`, `Page.htmlEnd`: where blocks of code and markup end.
-/

namespace Pageworks.Markdown

open Pageworks.Text

/-- The lines of a container. -/
structure Page where
  /-- Which constructs are markdown. -/
  preset : Preset
  /-- The lines of the document, those of the container without its marks. -/
  lines : Array Line
  /-- Lines from here on are not looked at. -/
  limit : Nat
  /-- The column at which content starts. -/
  margin : Nat
  /-- The column at which the innermost list starts, if there is one. -/
  listMargin : Option Nat

/-- What a line may interrupt. -/
inductive Interrupted
  | paragraph
  | definition
  | quote
  | list
  | table
  deriving DecidableEq, Repr

namespace Page

/-- The line of a number. -/
def line (p : Page) (i : Nat) : Line := p.lines.getD i Line.none

/-- The line starts too far left for the container. -/
def isOutdented (p : Page) (i : Nat) : Bool := (p.line i).column < p.margin

/-- The line starts so far right that it would be code. -/
def isDeep (p : Page) (i : Nat) : Bool := p.margin + 3 < (p.line i).column

/-- The line is code by its indentation. -/
def isIndented (p : Page) (i : Nat) : Bool := p.preset.markup && p.isDeep i

/-- The text of the lines between two numbers, less the margin. -/
def textBetween (p : Page) (i j : Nat) (margin : Nat) : List (List Char) :=
  (List.range (j - i)).map fun k => (p.line (i + k)).without margin

/-- The same lines, each with its line end. -/
def linesBetween (p : Page) (i j : Nat) (margin : Nat) : List Char :=
  (List.range (j - i)).flatMap fun k =>
    (p.line (i + k)).without margin ++ (p.line (i + k)).lineEnd

/-- The head of a table that starts at a line: the alignments and the column heads. -/
def tableHead? (p : Page) (stop i : Nat) :
    Option (List (Option Alignment) × List (List Char)) := do
  let head := (p.line i).content
  if p.preset.tables && i + 2 ≤ stop && !p.isOutdented (i + 1) && !p.isIndented (i + 1) &&
      !p.isIndented i && head.contains '|' then
    let columns ← alignments? (p.line (i + 1)).content
    let heads := cells head
    if heads.length == columns.length && !heads.isEmpty then some (columns, heads) else none
  else none

/-- The list item that starts at a line. -/
def itemAt? (p : Page) (i : Nat) : Option ListMark :=
  let column := (p.line i).column
  if p.listMargin.any fun m => m + 4 ≤ column && column < p.margin then none
  else listMark? (p.line i).content

/-- The markup that starts at a line. -/
def htmlAt? (p : Page) (i : Nat) : Option HtmlBlock :=
  if p.preset.html then HtmlBlock.of? (p.line i).content else none

/-- A list may start here although a paragraph stands above: an item with content, and in a
numbered list the first one. -/
def startsListBelow (p : Page) (i : Nat) (mark : ListMark) : Bool :=
  p.isOutdented i || (!mark.isBare && mark.number.all (· == 1))

/-- The line ends the block above it without an empty line. -/
def interrupts (p : Page) (stop : Nat) (above : Interrupted) (i : Nat) : Bool :=
  let content := (p.line i).content
  p.preset.markup && !p.isIndented i &&
    ((fence? content).isSome || content.head? == some '>' || isRule content ||
      (above != .list &&
        ((p.itemAt? i).any (fun m => above != .paragraph || p.startsListBelow i m) ||
          (p.htmlAt? i).any HtmlBlock.interrupts || (heading? content).isSome)) ||
      ((above == .paragraph || above == .definition) && (p.tableHead? stop i).isSome))

/-- The line goes on with the paragraph above it. -/
def continues (p : Page) (stop : Nat) (i : Nat) : Bool :=
  p.isDeep i || (p.line i).column < 0 || !p.interrupts stop .paragraph i

/-- The first line that does not belong to the paragraph of the lines before `i`. -/
def paragraphEnd (p : Page) (i : Nat) : Nat :=
  if i < p.limit then
    if (p.line i).isEmpty || !p.continues p.limit i then i else p.paragraphEnd (i + 1)
  else i
termination_by p.limit - i

/-- The line that makes the lines before `i` a heading, with the level. -/
def underlined? (p : Page) (stop i : Nat) : Option (Nat × Nat) :=
  if i < stop then
    if (p.line i).isEmpty then none
    else
      let level := if p.isDeep i || p.isOutdented i then none else underline? (p.line i).content
      match level with
      | some level => some (level, i)
      | none => if p.continues stop i then p.underlined? stop (i + 1) else none
  else none
termination_by stop - i

/-- The lines from `i` on that may belong to a definition. -/
def definitionLines (p : Page) (i : Nat) : List Char :=
  if i < p.limit then
    let l := p.line i
    if l.isEmpty || !(p.isIndented i || l.column < 0 || !p.interrupts p.limit .definition i) then []
    else l.content ++ l.lineEnd ++ p.definitionLines (i + 1)
  else []
termination_by p.limit - i

/-- The definition that starts at a line, and the line after it. -/
def definitionAt? (p : Page) (i : Nat) : Option (Definition × Nat) :=
  let l := p.line i
  if p.isIndented i || l.content.head? != some '[' then none
  else
    (definition? (l.content ++ l.lineEnd ++ p.definitionLines (i + 1))).map fun (d, n) => (d, i + n)

/-- The line after the last line of indented code, which `last` is so far. -/
def codeEnd (p : Page) (stop last i : Nat) : Nat :=
  if i < stop then
    if (p.line i).isEmpty then p.codeEnd stop last (i + 1)
    else if p.isIndented i then p.codeEnd stop (i + 1) (i + 1)
    else last
  else last
termination_by stop - i

/-- The line after the code of a fence, and the line after the fence that closes it. -/
def fenceEnd (p : Page) (stop : Nat) (f : Fence) (i : Nat) : Nat × Nat :=
  if i < stop then
    let l := p.line i
    if l.isEmpty then (if l.ended then p.fenceEnd stop f (i + 1) else (i, i))
    else if p.isOutdented i then (i, i)
    else if !p.isIndented i && f.closes l.content then (i, i + 1)
    else p.fenceEnd stop f (i + 1)
  else (i, i)
termination_by stop - i

/-- The line after a block of markup, looking from line `i` on. -/
def htmlEnd (p : Page) (stop : Nat) (kind : HtmlBlock) (i : Nat) : Nat :=
  if i < stop then
    let content := (p.line i).content
    if p.isOutdented i then i
    else if kind.endsAt content then (if content.isEmpty then i else i + 1)
    else p.htmlEnd stop kind (i + 1)
  else i
termination_by stop - i

/-- The first line from `i` on that is not empty. -/
def skipEmpty (p : Page) (i : Nat) : Nat :=
  if i < p.limit then
    if (p.line i).isEmpty then p.skipEmpty (i + 1) else i
  else i
termination_by p.limit - i

end Page

end Pageworks.Markdown
