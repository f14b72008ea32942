import Pageworks.Text.Category
import Pageworks.Text.Split

/-!
# Host names beyond ASCII

The labels of a host name are written in ASCII: the ASCII characters of the label, a hyphen, and
then numbers that say which other characters go where.  The numbers have digits of varying weight,
so that the end of each can be seen.

## Main definitions

* `Punycode.encode`, `Punycode.decode?`: a label in ASCII and back.
* `Punycode.toAscii`, `Punycode.toUnicode?`: the same for all labels of a host name.
-/

namespace Pageworks.Markdown.Punycode

open Pageworks.Text

/-- The weight below which the digit at a place ends its number. -/
def threshold (place bias : Nat) : Nat := min 26 (max 1 (36 * (place + 1) - bias))

/-- Halves a difference until it is small, counting the steps. -/
def damp (fuel delta steps : Nat) : Nat :=
  match fuel with
  | 0 => steps + 36 * delta / (delta + 38)
  | fuel + 1 =>
    if 455 < delta then damp fuel (delta / 35) (steps + 36)
    else steps + 36 * delta / (delta + 38)

/-- The bias for the next number, after a difference and so many characters. -/
def adapt (delta : Nat) (first : Bool) (count : Nat) : Nat :=
  let d := if first then delta / 700 else delta / 2
  damp d (d + d / count) 0

/-- A digit: the letters, then the figures. -/
def digit (n : Nat) : Char := if n < 26 then Char.ofNat (97 + n) else Char.ofNat (22 + n)

/-- The digits of a number from a place on. -/
def digitsFrom (fuel n place bias : Nat) : List Char :=
  match fuel with
  | 0 => []
  | fuel + 1 =>
    let t := threshold place bias
    if n < t then [digit n]
    else digit (t + (n - t) % (36 - t)) :: digitsFrom fuel ((n - t) / (36 - t)) (place + 1) bias

/-- Where encoding stands: the next insertion is counted from here. -/
structure Encoder where
  /-- Insertions passed since the last one written. -/
  delta : Nat
  /-- How many characters the label has so far. -/
  count : Nat
  /-- The bias of the next number. -/
  bias : Nat
  /-- No number is written yet. -/
  first : Bool
  /-- The numbers written, the last one first. -/
  written : List (List Char)

/-- Passes one character of the label while the characters `n` are being inserted. -/
def Encoder.pass (n : Nat) (e : Encoder) (c : Char) : Encoder :=
  if c.toNat < n then { e with delta := e.delta + 1 }
  else if c.toNat == n then
    { delta := 0, count := e.count + 1, bias := adapt e.delta e.first (e.count + 1), first := false
      written := digitsFrom (e.delta + 1) e.delta 0 e.bias :: e.written }
  else e

/-- Inserts the characters of the given codes in turn, the code before each being known. -/
def insertAll (label : List Char) : Nat → List Nat → Encoder → Encoder
  | _, [], e => e
  | before, n :: ns, e =>
    let e := { e with delta := e.delta + (n - before) * (e.count + 1) }
    let e := label.foldl (Encoder.pass n) e
    insertAll label (n + 1) ns { e with delta := e.delta + 1 }

/-- A label in ASCII. -/
def encode (label : List Char) : List Char :=
  let basic := label.filter fun c => c.toNat < 128
  let others := ((label.filter fun c => 128 ≤ c.toNat).map Char.toNat).mergeSort.eraseDups
  let e := insertAll label 128 others ⟨0, basic.length, 72, true, []⟩
  (if basic.isEmpty then [] else basic ++ ['-']) ++ e.written.reverse.flatten

/-- The value of a digit. -/
def digitValue? (c : Char) : Option Nat :=
  if isAsciiLetter c then some ((asciiLower c).toNat - 97)
  else if isAsciiDigit c then some (c.toNat - 22)
  else none

/-- The number that a text starts with, and the rest. -/
def number? (bias : Nat) : Nat → Nat → Nat → List Char → Option (Nat × List Char)
  | _, _, _, [] => none
  | place, weight, sum, c :: cs => do
    let d ← digitValue? c
    let t := threshold place bias
    let sum := sum + d * weight
    if d < t then some (sum, cs) else number? bias (place + 1) (weight * (36 - t)) sum cs

/-- Inserts the characters that the numbers tell.  Every number takes at least one digit, so the
fuel is the count of digits. -/
def decodeFrom (fuel n at_ bias : Nat) (first : Bool) (label digits : List Char) :
    Option (List Char) :=
  match fuel, digits with
  | _, [] => some label
  | 0, _ => none
  | fuel + 1, digits => do
    let (delta, rest) ← number? bias 0 1 0 digits
    let place := at_ + delta
    let count := label.length + 1
    let n := n + place / count
    if 0x10FFFF < n || (0xD800 ≤ n && n ≤ 0xDFFF) then none
    else
      let i := place % count
      decodeFrom fuel n (i + 1) (adapt delta first count) false
        (label.take i ++ Char.ofNat n :: label.drop i) rest

/-- The label that a text in ASCII stands for. -/
def decode? (s : List Char) : Option (List Char) :=
  let tail := (s.reverse.takeWhile (· != '-')).reverse
  let basic := if s.contains '-' then s.take (s.length - tail.length - 1) else []
  if s.all fun c => c.toNat < 128 then decodeFrom tail.length 128 0 72 true basic tail else none

/-- The points that separate the labels of a host name. -/
def isPoint (c : Char) : Bool :=
  c == '.' || c.toNat == 0x3002 || c.toNat == 0xFF0E || c.toNat == 0xFF61

/-- What the written form of a label beyond ASCII starts with. -/
def mark : List Char := ['x', 'n', '-', '-']

/-- A host name with each label in ASCII. -/
def toAscii (host : List Char) : List Char :=
  ['.'].intercalate ((fields isPoint host).map fun label =>
    if label.any fun c => 0x7F ≤ c.toNat then mark ++ encode label else label)

/-- A host name with each label as it is read, if every label can be read. -/
def toUnicode? (host : List Char) : Option (List Char) :=
  ((fields isPoint host).mapM fun label =>
    match startsWith? mark label with
    | some s => decode? (s.map asciiLower)
    | none => some label).map ['.'].intercalate

end Pageworks.Markdown.Punycode
