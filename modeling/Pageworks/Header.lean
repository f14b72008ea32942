import Pageworks.Text.Split

/-!
# Document headers

A document may begin with a header between two fences.  A fence is a line of three dashes and
then only spaces and tabs.

## Main definitions

* `Header.afterOpening?`, `Header.afterClosing?`: the rest of a text after a fence.
* `Header.untilClosing?`: a text cut at its first closing fence.
* `Header.split`: the header of a document, if it has one, and its body.
-/

namespace Pageworks.Header

open Pageworks.Text

/-- Spaces and tabs, which may follow the dashes of a fence. -/
def isPadding (c : Char) : Bool := c == ' ' || c == '\t'

/-- What follows the dashes and the padding of a fence, if the text starts with them. -/
def afterDashes? (cs : List Char) : Option (List Char) :=
  (startsWith? ['-', '-', '-'] cs).map (List.dropWhile isPadding)

/-- What follows a line feed, with or without a carriage return before it. -/
def afterNewline? : List Char → Option (List Char)
  | '\n' :: cs => some cs
  | '\r' :: '\n' :: cs => some cs
  | _ => none

/-- What follows an opening fence. -/
def afterOpening? (cs : List Char) : Option (List Char) := (afterDashes? cs).bind afterNewline?

/-- What follows a closing fence, which may also end the text. -/
def afterClosing? (cs : List Char) : Option (List Char) :=
  (afterDashes? cs).bind fun
    | [] => some []
    | rest => afterNewline? rest

/-- The text before the first closing fence at a line start, and the text after that fence. -/
def untilClosing? : Bool → List Char → Option (List Char × List Char)
  | _, [] => none
  | lineStart, c :: cs =>
    match if lineStart then afterClosing? (c :: cs) else none with
    | some rest => some ([], rest)
    | none => (untilClosing? (c == '\n') cs).map fun (header, rest) => (c :: header, rest)

/-- The header of a document, if there is one, and its body. -/
def split (text : String) : Option String × String :=
  match (afterOpening? text.toList).bind (untilClosing? true) with
  | some (header, body) => (some (String.ofList header), String.ofList body)
  | none => (none, text)

end Pageworks.Header
