import Pageworks.Text.Category

/-!
# Percent encoding

The bytes of an address that may not stand there as they are are written as a percent sign with two
hexadecimal digits.

## Main definitions

* `Percent.encode`: an address with every such byte encoded.
* `Percent.decode`: an address with every encoded byte as it is read.
-/

namespace Pageworks.Markdown.Percent

open Pageworks.Text

/-- Upper-case hexadecimal digits. -/
def hexDigit (n : Nat) : Char := if n < 10 then Char.ofNat (48 + n) else Char.ofNat (55 + n)

/-- A byte as a percent sign and two digits. -/
def byte (b : Nat) : List Char := ['%', hexDigit (b / 16), hexDigit (b % 16)]

/-- The marks that stand in an address as they are. -/
def safe : List Char := ";/?:@&=+$,-_.!~*()#".toList ++ [Char.ofNat 39]

/-- One character of an address. -/
def encodeChar (c : Char) : List Char :=
  if isAsciiAlnum c || safe.contains c then [c]
  else (String.ofList [c]).toUTF8.toList.flatMap fun b => byte b.toNat

/-- An address with every byte encoded that may not stand as it is; what is encoded already
stays. -/
def encode : List Char → List Char
  | [] => []
  | '%' :: a :: b :: cs =>
    if isHexDigit a && isHexDigit b then '%' :: a :: b :: encode cs
    else byte 37 ++ encode (a :: b :: cs)
  | c :: cs => encodeChar c ++ encode cs

/-- The marks that stay encoded, since they would change what an address says. -/
def kept : List Char := ";/?:@&=+$,#%".toList

/-- The encoded byte that a text starts with, and the rest. -/
def byte? : List Char → Option (Nat × List Char)
  | '%' :: a :: b :: cs =>
    if isHexDigit a && isHexDigit b then some (hexValue a * 16 + hexValue b, cs) else none
  | _ => none

/-- So many encoded bytes that continue a character, and the rest. -/
def trail? : Nat → List Char → Option (List Nat × List Char)
  | 0, cs => some ([], cs)
  | n + 1, cs => do
    let (b, cs) ← byte? cs
    if b / 64 == 2 then
      let (bs, cs) ← trail? n cs
      some (b :: bs, cs)
    else none

/-- How many bytes continue a character that starts with the byte. -/
def trailLength? (b : Nat) : Option Nat :=
  if b / 32 == 6 then some 1 else if b / 16 == 14 then some 2 else if b / 8 == 30 then some 3
  else none

/-- What stands for a byte that is no part of a character. -/
def broken : Char := Char.ofNat 0xFFFD

/-- The characters of a sequence of bytes, or a replacement for each byte. -/
def charactersOf (bs : List Nat) : List Char :=
  match String.fromUTF8? ⟨(bs.map fun b => b.toUInt8).toArray⟩ with
  | some s => s.toList
  | none => bs.map fun _ => broken

/-- The encoded character that a text starts with, and the rest. -/
def character? (cs : List Char) : Option (List Char × List Char) := do
  let (b, rest) ← byte? cs
  if b < 128 then
    let c := Char.ofNat b
    some (if kept.contains c then byte b else [c], rest)
  else
    match trailLength? b with
    | some n =>
      match trail? n rest with
      | some (bs, rest) => some (charactersOf (b :: bs), rest)
      | none => some ([broken], rest)
    | none => some ([broken], rest)

/-- An address with the encoded characters as they are read.  The fuel is its length. -/
def decodeFrom : Nat → List Char → List Char
  | 0, cs => cs
  | _, [] => []
  | fuel + 1, c :: cs =>
    match character? (c :: cs) with
    | some (t, rest) => t ++ decodeFrom fuel rest
    | none => c :: decodeFrom fuel cs

/-- An address with the encoded characters as they are read. -/
def decode (cs : List Char) : List Char := decodeFrom cs.length cs

end Pageworks.Markdown.Percent
