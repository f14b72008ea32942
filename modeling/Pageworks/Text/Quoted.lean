import Pageworks.Text.Category

/-!
# Quoted texts

A text in messages stands between apostrophes, or between quotation marks if it holds an
apostrophe and no quotation mark.  Inside, the backslash, the quote in use and every unprintable
character are escaped.

## Main definitions

* `quoted`: the quoted form of a text.
* `quotedBytes`: the quoted form of a sequence of bytes.
-/

namespace Pageworks.Text

/-- The apostrophe. -/
def apostrophe : Char := Char.ofNat 39

/-- Lower-case hexadecimal digits of `n`, at least `width` of them. -/
def hexDigits (width n : Nat) : List Char :=
  let ds := Nat.toDigits 16 n
  List.replicate (width - ds.length) '0' ++ ds

/-- The quote for a text: the apostrophe unless only the quotation mark avoids an escape. -/
def quoteFor (cs : List Char) : Char :=
  if cs.contains apostrophe && !cs.contains '"' then '"' else apostrophe

/-- One character between quotes `q`. -/
def escapeIn (q c : Char) : List Char :=
  if c == q || c == '\\' then ['\\', c]
  else if c == '\t' then ['\\', 't']
  else if c == '\n' then ['\\', 'n']
  else if c == '\r' then ['\\', 'r']
  else if isPrintable c then [c]
  else if c.toNat ≤ 0xFF then '\\' :: 'x' :: hexDigits 2 c.toNat
  else if c.toNat ≤ 0xFFFF then '\\' :: 'u' :: hexDigits 4 c.toNat
  else '\\' :: 'U' :: hexDigits 8 c.toNat

/-- The quoted form of a text. -/
def quoted (s : String) : String :=
  let cs := s.toList
  let q := quoteFor cs
  String.ofList (q :: cs.flatMap (escapeIn q) ++ [q])

/-- The quoted form of a sequence of bytes, marked by a `b`; bytes beyond ASCII are escaped. -/
def quotedBytes (bs : List UInt8) : String :=
  let cs := bs.map fun b => Char.ofNat b.toNat
  let q := quoteFor cs
  let one := fun (c : Char) =>
    if 128 ≤ c.toNat then '\\' :: 'x' :: hexDigits 2 c.toNat else escapeIn q c
  String.ofList ('b' :: q :: cs.flatMap one ++ [q])

end Pageworks.Text
