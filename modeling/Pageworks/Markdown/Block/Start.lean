import Pageworks.Markdown.Html
import Pageworks.Markdown.Line

/-!
# What blocks start with

Fences, breaks, headings and list items show in the content of their first line.

## Main definitions

* `Fence`, `fence?`: the opening fence of code.
* `Fence.closes`: a line closes the code.
* `isRule`: a thematic break.
* `heading?`: a heading with its level and text.
* `underline?`: a line that makes the paragraph above it a heading.
* `ListMark`, `listMark?`: the mark of a list item.
-/

namespace Pageworks.Markdown

open Pageworks.Text

/-- An opening fence. -/
structure Fence where
  /-- The character that the fence is made of. -/
  mark : Char
  /-- How many of them. -/
  length : Nat
  /-- What follows on the line. -/
  info : List Char

/-- The opening fence that a line is. -/
def fence? : List Char → Option Fence
  | [] => none
  | c :: cs =>
    if c == '~' || c == '\x60' then
      let n := (cs.takeWhile (· == c)).length
      let info := cs.drop n
      if 2 ≤ n && !(c == '\x60' && info.contains c) then some ⟨c, n + 1, info⟩ else none
    else none

/-- The line is a closing fence: at least as long as the opening one, and nothing after it. -/
def Fence.closes (f : Fence) (content : List Char) : Bool :=
  f.length ≤ (content.takeWhile (· == f.mark)).length &&
    (content.dropWhile (· == f.mark)).all isIndent

/-- The line is a thematic break: three equal marks or more and nothing else. -/
def isRule : List Char → Bool
  | [] => false
  | c :: cs =>
    (c == '*' || c == '-' || c == '_') && 2 ≤ cs.count c && cs.all fun d => d == c || isIndent d

/-- The text of a heading without the marks at its end. -/
def withoutClosing (cs : List Char) : List Char :=
  let text := dropTrailing isIndent cs
  let unmarked := dropTrailing (· == '#') text
  trim (if unmarked.getLast?.any isIndent then unmarked else text)

/-- The heading that a line is: its level and text. -/
def heading? (content : List Char) : Option (Nat × List Char) :=
  let level := (content.takeWhile (· == '#')).length
  let rest := content.drop level
  if 1 ≤ level && level ≤ 6 && (rest.isEmpty || rest.head?.any isIndent) then
    some (level, withoutClosing rest)
  else none

/-- The level of the heading that the paragraph above the line becomes. -/
def underline? : List Char → Option Nat
  | [] => none
  | c :: cs =>
    if (c == '=' || c == '-') && (cs.dropWhile (· == c)).all isIndent then
      some (if c == '=' then 1 else 2)
    else none

/-- The mark of a list item. -/
structure ListMark where
  /-- The number of the item, if the list is numbered. -/
  number : Option Nat
  /-- The character that items of one list have in common. -/
  sign : Char
  /-- How many characters the mark takes. -/
  width : Nat
  /-- Nothing follows the mark on its line. -/
  isBare : Bool

/-- The mark with the given text behind it, which must start with indentation or be empty. -/
def ListMark.before? (number : Option Nat) (sign : Char) (width : Nat) (rest : List Char) :
    Option ListMark :=
  if rest.isEmpty || rest.head?.any isIndent then some ⟨number, sign, width, rest.all isIndent⟩
  else none

/-- The most digits of the number of an item. -/
def maxNumberDigits : Nat := 9

/-- The mark of the list item that a line is. -/
def listMark? : List Char → Option ListMark
  | [] => none
  | c :: cs =>
    if c == '*' || c == '-' || c == '+' then ListMark.before? none c 1 cs
    else
      let digits := (c :: cs).takeWhile isAsciiDigit
      match (c :: cs).drop digits.length with
      | sign :: rest =>
        if 1 ≤ digits.length && digits.length ≤ maxNumberDigits && (sign == '.' || sign == ')') then
          ListMark.before? (some (digits.foldl (fun n d => n * 10 + hexValue d) 0)) sign
            (digits.length + 1) rest
        else none
      | [] => none

/-- Two marks belong to one list. -/
def ListMark.continues (a b : ListMark) : Bool :=
  a.number.isSome == b.number.isSome && a.sign == b.sign

end Pageworks.Markdown
