import Pageworks.Markdown.Block

/-!
# Rows of tables

The cells of a row stand between bars; a backslash before a bar makes it part of the cell.  The
second line of a table tells the alignment of each column.

## Main definitions

* `cells`: the cells of a row.
* `alignments?`: the alignments that the second line of a table tells.
-/

namespace Pageworks.Markdown

open Pageworks.Text

/-- The fields of a row after the reversed beginning of the first one. -/
def barFields : List Char → List Char → List (List Char)
  | acc, [] => [acc.reverse]
  | acc, c :: cs =>
    if c == '|' then
      match acc with
      | '\\' :: before => barFields ('|' :: before) cs
      | _ => acc.reverse :: barFields [] cs
    else barFields (c :: acc) cs

/-- The list without an empty text at its start. -/
def dropEmptyHead : List (List Char) → List (List Char)
  | [] :: rest => rest
  | cells => cells

/-- The cells of a row; the bars around the row do not count. -/
def cells (row : List Char) : List (List Char) :=
  (dropEmptyHead (dropEmptyHead (barFields [] (trim row))).reverse).reverse.map trim

/-- The alignment that a cell of the second line tells, which has hyphens only, perhaps with colons
at its ends. -/
def alignment? (cell : List Char) : Option (Option Alignment) :=
  let left := cell.head? == some ':'
  let hyphens := if left then cell.tail else cell
  let right := hyphens.getLast? == some ':'
  let hyphens := if right then hyphens.dropLast else hyphens
  if hyphens.isEmpty || !hyphens.all (· == '-') then none
  else some (match left, right with
    | true, true => some .center
    | true, false => some .left
    | false, true => some .right
    | false, false => none)

/-- The characters of the second line of a table, blanks apart. -/
def isAlignmentChar (c : Char) : Bool := c == '|' || c == '-' || c == ':'

/-- The line may be the second of a table and is no list item. -/
def isAlignmentRow : List Char → Bool
  | c :: d :: cs =>
    isAlignmentChar c && (isAlignmentChar d || (isIndent d && c != '-')) &&
      cs.all fun e => isAlignmentChar e || isIndent e
  | _ => false

/-- The list without an empty text at either end. -/
def trimEmpty (texts : List (List Char)) : List (List Char) :=
  match texts with
  | [] => []
  | first :: rest =>
    let tail := if rest.getLast? == some [] then rest.dropLast else rest
    if first.isEmpty then tail else first :: tail

/-- The alignments that the second line of a table tells. -/
def alignments? (content : List Char) : Option (List (Option Alignment)) :=
  if isAlignmentRow content then
    (trimEmpty ((fields (· == '|') (trim content)).map trim)).mapM alignment?
  else none

end Pageworks.Markdown
