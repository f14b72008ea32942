import Pageworks.Markdown.Entity
import Pageworks.Markdown.Line
import Pageworks.Markdown.Url
import Pageworks.Text.Folding

/-!
# Targets of links

A link names its target by an address with an optional title, or by the label of a definition that
stands elsewhere in the document.

## Main definitions

* `destination?`, `title?`: the address and the title that a text starts with.
* `labelKey`: what two labels for the same definition have in common.
* `Definition`, `definition?`: a definition of a label, and the one that a text starts with.
* `Definition.find?`: the first definition of a label.
-/

namespace Pageworks.Markdown

open Pageworks.Text

/-- How deep parentheses may nest in an address. -/
def maxParentheses : Nat := 32

/-- An address up to the closing angle bracket, after the reversed part already read. -/
def angled? : List Char → List Char → Option (List Char × List Char)
  | _, [] => none
  | acc, '>' :: cs => some (acc.reverse, cs)
  | acc, '\\' :: c :: cs => angled? (c :: '\\' :: acc) cs
  | acc, c :: cs => if c == '\n' || c == '<' then none else angled? (c :: acc) cs

/-- An address of characters other than blanks and controls, its parentheses in balance. -/
def bare? : Nat → List Char → List Char → Option (List Char × List Char)
  | depth, acc, [] => if depth == 0 && !acc.isEmpty then some (acc.reverse, []) else none
  | depth, acc, '\\' :: c :: cs =>
    if c == ' ' then
      if depth == 0 && !acc.isEmpty then some (acc.reverse, '\\' :: c :: cs) else none
    else bare? depth (c :: '\\' :: acc) cs
  | depth, acc, c :: cs =>
    if c.toNat ≤ 0x20 || c.toNat == 0x7F || (c == ')' && depth == 0) then
      if depth == 0 && !acc.isEmpty then some (acc.reverse, c :: cs) else none
    else if c == '(' then
      if maxParentheses ≤ depth then none else bare? (depth + 1) (c :: acc) cs
    else bare? (if c == ')' then depth - 1 else depth) (c :: acc) cs

/-- The address that a text starts with, and the rest. -/
def destination? (cs : List Char) : Option (List Char × List Char) :=
  (match cs with
    | '<' :: rest => angled? [] rest
    | _ => bare? 0 [] cs).map fun (address, rest) => (unescape address, rest)

/-- A title up to its closing mark, after the reversed part already read. -/
def titleUpTo? (close : Char) : List Char → List Char → Option (List Char × List Char)
  | _, [] => none
  | acc, '\\' :: c :: cs => titleUpTo? close (c :: '\\' :: acc) cs
  | acc, c :: cs =>
    if c == close then some (acc.reverse, cs)
    else if c == '(' && close == ')' then none
    else titleUpTo? close (c :: acc) cs

/-- The title that a text starts with, as it is written, and the rest. -/
def title? : List Char → Option (List Char × List Char)
  | [] => none
  | c :: cs =>
    if c == '"' || c == Char.ofNat 39 then titleUpTo? c [] cs
    else if c == '(' then titleUpTo? ')' [] cs
    else none

/-- The text with every run of blanks as one space. -/
def collapsed : List Char → List Char
  | [] => []
  | c :: cs =>
    if isBlank c then
      if cs.head?.any isBlank then collapsed cs else ' ' :: collapsed cs
    else c :: collapsed cs

/-- What two labels for the same definition have in common. -/
def labelKey (label : List Char) : List Char := upperFold (collapsed (trim label))

/-- What a label stands for. -/
structure Definition where
  /-- The key of the label. -/
  key : List Char
  /-- The address, as it stands in an attribute. -/
  url : List Char
  /-- The title, empty for none. -/
  title : List Char
  deriving DecidableEq, Repr

/-- The first definition of a label. -/
def Definition.find? (label : List Char) (ds : List Definition) : Option Definition :=
  let key := labelKey label
  ds.find? fun d => d.key == key

/-- A label up to its closing bracket, after the reversed part already read. -/
def labelUpTo? : List Char → List Char → Option (List Char × List Char)
  | _, [] => none
  | acc, ']' :: cs => some (acc.reverse, cs)
  | acc, '\\' :: c :: cs => labelUpTo? (c :: '\\' :: acc) cs
  | acc, c :: cs => if c == '[' then none else labelUpTo? (c :: acc) cs

/-- Indentation and line ends. -/
def isGap (c : Char) : Bool := isIndent c || c == '\n'

/-- What is left of a text when only indentation is left of its line. -/
def atLineEnd? (cs : List Char) : Option (List Char) :=
  match cs.dropWhile isIndent with
  | [] => some []
  | '\n' :: rest => some ('\n' :: rest)
  | _ => none

/-- The title after an address, with the text behind it.  A gap must come before a title that
stands on one line. -/
def titleAfter? (cs : List Char) : Option (List Char × List Char) := do
  let start := cs.dropWhile isGap
  let (written, rest) ← title? start
  if start.length != cs.length || written.contains '\n' then some (unescape written, rest) else none

/-- The title and the rest of the line after an address.  A title with more behind it on its line
is none; an empty one fails. -/
def titleOrNone? (cs : List Char) : Option (List Char × List Char) :=
  let untitled := (atLineEnd? cs).map fun rest => ([], rest)
  match titleAfter? cs with
  | none => untitled
  | some (title, rest) =>
    match atLineEnd? rest with
    | some rest => some (title, rest)
    | none => if title.isEmpty then none else untitled

/-- The definition that a text starts with, and how many lines it takes. -/
def definition? : List Char → Option (Definition × Nat)
  | '[' :: cs => do
    let (label, afterLabel) ← labelUpTo? [] cs
    let start ← startsWith? [':'] afterLabel
    let (address, afterAddress) ← destination? (start.dropWhile isGap)
    let url := Url.normalized address
    let (title, rest) ← titleOrNone? afterAddress
    let key := labelKey label
    if Url.isSafe url && !key.isEmpty then
      some (⟨key, url, title⟩, (cs.take (cs.length - rest.length)).count '\n' + 1)
    else none
  | _ => none

end Pageworks.Markdown
