import Pageworks.Text.Split

/-!
# A place in a YAML text

The scanner reads a text from the front and keeps the number of characters read, the line and the
column.

## Main definitions

* `Cursor`: the place, with the text from it on.
* `Cursor.peek`, `Cursor.skip`: looking ahead and moving on.
* `Cursor.takeLineBreak`: a line break in its normal form.
* `isPrintable`: the characters that a text may hold.
-/

namespace Pageworks.Yaml

open Pageworks.Text

/-- The characters that a text may hold: tabs, line ends, and what is neither a control nor
reserved. -/
def isPrintable (c : Char) : Bool :=
  let n := c.toNat
  n == 9 || n == 10 || n == 13 || (0x20 ≤ n && n ≤ 0x7E) || n == 0x85 ||
    (0xA0 ≤ n && n ≤ 0xD7FF) || (0xE000 ≤ n && n ≤ 0xFFFD) || 0x10000 ≤ n

/-- Line ends, and the zero that stands for the end of the text. -/
def isBreakOrEnd (c : Char) : Bool :=
  let n := c.toNat
  n == 0 || n == 10 || n == 13 || n == 0x85 || n == 0x2028 || n == 0x2029

/-- Line ends. -/
def isBreak (c : Char) : Bool := isBreakOrEnd c && c.toNat != 0

/-- Spaces, line ends and the end of the text. -/
def isSpaceOrEnd (c : Char) : Bool := c == ' ' || isBreakOrEnd c

/-- Spaces, tabs, line ends and the end of the text. -/
def isBlankOrEnd (c : Char) : Bool := c == '\t' || isSpaceOrEnd c

/-- A place in a text. -/
structure Cursor where
  /-- The text from here on. -/
  rest : List Char
  /-- How many characters lie before. -/
  index : Nat
  /-- How many line ends lie before. -/
  line : Nat
  /-- How many characters lie before on the line. -/
  column : Nat

namespace Cursor

/-- The start of a text. -/
def start (text : List Char) : Cursor := ⟨text, 0, 0, 0⟩

/-- The character so many places ahead, zero behind the end. -/
def peek (c : Cursor) (n : Nat) : Char := c.rest.getD n (Char.ofNat 0)

/-- The character here. -/
def here (c : Cursor) : Char := c.rest.headD (Char.ofNat 0)

/-- The place one character on.  A byte order mark takes no column. -/
def next (c : Cursor) : Cursor :=
  match c.rest with
  | [] => c
  | x :: rest =>
    if isBreak x && !(x == '\r' && rest.head? == some '\n') then
      ⟨rest, c.index + 1, c.line + 1, 0⟩
    else if x.toNat == 0xFEFF then ⟨rest, c.index + 1, c.line, c.column⟩
    else ⟨rest, c.index + 1, c.line, c.column + 1⟩

/-- The place so many characters on. -/
def skip (c : Cursor) : Nat → Cursor
  | 0 => c
  | n + 1 => c.next.skip n

/-- The longest run of a class from here. -/
def run (p : Char → Bool) (c : Cursor) : List Char := c.rest.takeWhile p

/-- The longest run of a class from here, and the place after it. -/
def takeRun (p : Char → Bool) (c : Cursor) : List Char × Cursor :=
  let r := c.run p
  (r, c.skip r.length)

/-- The place after the longest run of a class. -/
def skipRun (p : Char → Bool) (c : Cursor) : Cursor := c.skip (c.run p).length

/-- The place after all characters up to the end of the line. -/
def skipLine (c : Cursor) : Cursor := c.skipRun fun x => !isBreakOrEnd x

/-- A line break here, if there is one: carriage returns, line feeds and next-line controls
become line feeds. -/
def takeLineBreak (c : Cursor) : Option Char × Cursor :=
  let x := c.here
  if x == '\r' && c.peek 1 == '\n' then (some '\n', c.skip 2)
  else if x == '\r' || x == '\n' || x.toNat == 0x85 then (some '\n', c.next)
  else if x.toNat == 0x2028 || x.toNat == 0x2029 then (some x, c.next)
  else (none, c)

/-- Three times the given character, then a blank or the end. -/
def atMarker (x : Char) (c : Cursor) : Bool :=
  c.here == x && c.peek 1 == x && c.peek 2 == x && isBlankOrEnd (c.peek 3)

/-- A marker between documents stands here. -/
def atDocumentMarker (c : Cursor) : Bool := c.atMarker '-' || c.atMarker '.'

end Cursor

end Pageworks.Yaml
