import Pageworks.Text.Blank
import Pageworks.Text.Split

/-!
# Lines of a markdown text

A line knows its text after the marks of the containers around it, and the column at which its
content starts.  A tab goes on to the next column that is a multiple of four; the columns of a line
inside a container are counted from the margin of the page, so that a line also knows its own.

## Main definitions

* `Line`: a line and where its content starts.
* `Line.content`, `Line.isEmpty`: what follows the indentation.
* `Line.without`: the text of a line less so many columns of indentation.
* `Line.insideQuote`: the line after the mark of a quotation.
* `Line.insideItem`: the line after the mark of a list item.
* `linesOf`: the lines of a text.
-/

namespace Pageworks.Markdown

open Pageworks.Text

/-- The characters that indent. -/
def isIndent (c : Char) : Bool := c == ' ' || c == '\t'

/-- The column after the given one and a character that indents. -/
def nextColumn (base column : Nat) (c : Char) : Nat :=
  if c == '\t' then column + (4 - (column + base) % 4) else column + 1

/-- The column after indentation. -/
def columnAfter (base : Nat) : Nat → List Char → Nat
  | column, [] => column
  | column, c :: cs => columnAfter base (nextColumn base column c) cs

/-- A line of a markdown text. -/
structure Line where
  /-- The text of the line, its indentation included. -/
  text : List Char
  /-- How many characters at the start of the text are not content. -/
  shift : Nat
  /-- The column of the content; negative where the line goes on with a paragraph of a
  quotation without its mark. -/
  column : Int
  /-- How far the text is from the margin, for its tabs. -/
  base : Nat
  /-- A line end follows. -/
  ended : Bool
  deriving DecidableEq, Repr

namespace Line

/-- The line behind the last one. -/
def none : Line := ⟨[], 0, 0, 0, false⟩

/-- A line of the page itself. -/
def ofText (text : List Char) (ended : Bool) : Line :=
  let indentation := text.takeWhile isIndent
  ⟨text, indentation.length, columnAfter 0 0 indentation, 0, ended⟩

/-- The text of the line after its indentation. -/
def content (l : Line) : List Char := l.text.drop l.shift

/-- The line has no content. -/
def isEmpty (l : Line) : Bool := l.content.isEmpty

/-- The line end, if there is one. -/
def lineEnd (l : Line) : List Char := if l.ended then ['\n'] else []

/-- What is left of a text after the given columns.  The first `shift` characters count one column
each if they do not indent; a tab that reaches too far leaves blanks. -/
def dropColumns (base wanted : Nat) : Nat → Nat → List Char → List Char
  | _, column, [] => List.replicate (column - wanted) ' '
  | shift, column, c :: cs =>
    if wanted ≤ column then List.replicate (column - wanted) ' ' ++ c :: cs
    else if isIndent c then dropColumns base wanted (shift - 1) (nextColumn base column c) cs
    else if 0 < shift then dropColumns base wanted (shift - 1) (column + 1) cs
    else c :: cs

/-- The text of the line less so many columns of indentation. -/
def without (columns : Nat) (l : Line) : List Char := dropColumns l.base columns l.shift 0 l.text

/-- The line after the mark of a quotation, with the space that belongs to the mark, if the line
has the mark. -/
def insideQuote? (l : Line) : Option Line :=
  match l.content with
  | '>' :: cs =>
    let column := l.column.toNat + 1
    let (spaced, tabbed, cs) :=
      match cs with
      | ' ' :: rest => (true, false, rest)
      | '\t' :: rest =>
        if (l.base + column) % 4 == 3 then (true, false, rest) else (true, true, cs)
      | _ => (false, false, cs)
    let start := if spaced && !tabbed then column + 1 else column
    let indentation := cs.takeWhile isIndent
    let after := columnAfter (l.base + if tabbed then 1 else 0) start indentation
    some {
      text := cs, shift := indentation.length, column := after - start
      base := column + (if spaced then 1 else 0), ended := l.ended }
  | _ => Option.none

/-- The line as the first one of a list item whose mark has the given width, and the column at
which the content of the item starts. -/
def insideItem (width : Nat) (l : Line) : Line × Nat :=
  let start := l.column.toNat + width
  let indentation := (l.content.drop width).takeWhile isIndent
  let after := columnAfter l.base start indentation
  let isBare := (l.content.drop (width + indentation.length)).isEmpty
  let gap := if isBare || 4 < after - start then 1 else after - start
  ({ l with shift := l.shift + width + indentation.length, column := after }, start + gap)

/-- A line of a quotation that lacks its mark and goes on with the paragraph before it. -/
def lazily (l : Line) : Line := { l with column := -1 }

/-- The line with its columns counted from another margin. -/
def shiftedBy (margin : Nat) (l : Line) : Line := { l with column := l.column - margin }

end Line

/-- The lines of a text.  Blanks behind the last line end are no line. -/
def linesOf (text : List Char) : List Line :=
  match (fields (· == '\n') text).reverse with
  | [] => []
  | last :: before =>
    let whole := before.reverse.map fun l => Line.ofText l true
    if last.all isIndent then whole else whole ++ [Line.ofText last false]

/-- A text with every line ending as a line feed and without zero characters. -/
def tidied (text : List Char) : List Char :=
  (unifyNewlines text).map fun c => if c.toNat == 0 then Char.ofNat 0xFFFD else c

end Pageworks.Markdown
