import Pageworks.Text.Blank
import Pageworks.Text.Category

/-!
# Numerals

Reading integers and floating-point numbers.  Digits may be those of any script; single low lines
may stand between digits; blanks at the ends do not count.

## Main definitions

* `Numeral.int?`: an integer in a base, with its number of digits.
* `Numeral.float?`: a floating-point number.
-/

namespace Pageworks.Numeral

open Pageworks.Text

/-- The value of a digit in bases up to 36. -/
def digitValue (c : Char) : Nat :=
  if c.toNat < 128 then hexValue c else (decimalValue? c).getD 36

/-- The values of a run of digits below the base, with single low lines between them. -/
def digitsOf? (base : Nat) : List Char → Option (List Nat)
  | [] => none
  | [c] => if digitValue c < base then some [digitValue c] else none
  | c :: '_' :: cs =>
    if digitValue c < base then (digitsOf? base cs).map (digitValue c :: ·) else none
  | c :: cs => if digitValue c < base then (digitsOf? base cs).map (digitValue c :: ·) else none

/-- The number that digits stand for, the first one leading. -/
def ofDigits (base : Nat) (ds : List Nat) : Nat := ds.foldl (fun n d => n * base + d) 0

/-- A sign, whether it is negative, and the rest. -/
def splitSign : List Char → Bool × List Char
  | '-' :: cs => (true, cs)
  | '+' :: cs => (false, cs)
  | cs => (false, cs)

/-- The text without the mark of its base and a low line behind the mark. -/
def dropBaseMark (base : Nat) (cs : List Char) : List Char :=
  let mark := if base == 16 then some 'x' else if base == 8 then some 'o'
    else if base == 2 then some 'b' else none
  match cs with
  | '0' :: m :: rest =>
    if mark == some (asciiLower m) then
      match rest with
      | '_' :: rest => rest
      | rest => rest
    else cs
  | cs => cs

/-- An integer in a base, and how many digits it is written with. -/
def int? (base : Nat) (cs : List Char) : Option (Int × Nat) :=
  let (negative, cs) := splitSign (trim cs)
  (digitsOf? base (dropBaseMark base cs)).map fun ds =>
    let n : Int := ofDigits base ds
    (if negative then -n else n, ds.length)

/-- `n · 10 ^ e` as a floating-point number. -/
def scale (n : Nat) (digits : Nat) (e : Int) : Float :=
  if n == 0 then 0.0
  else if 400 < e + digits then 1.0 / 0.0
  else if e + digits < -400 then 0.0
  else if e < 0 then Float.ofScientific n true (-e).toNat
  else Float.ofScientific n false e.toNat

/-- An exponent at the end of a numeral. -/
def exponent? (cs : List Char) : Option Int :=
  match cs with
  | [] => some 0
  | e :: cs =>
    if e == 'e' || e == 'E' then
      let (negative, cs) := splitSign cs
      (digitsOf? 10 cs).map fun ds =>
        let n : Int := ofDigits 10 ds
        if negative then -n else n
    else none

/-- The digits of an optional run before another part of a numeral. -/
def digitsOrNone? (cs : List Char) : Option (List Nat) :=
  if cs.isEmpty then some [] else digitsOf? 10 cs

/-- The magnitude of a floating-point number in digits. -/
def magnitude? (cs : List Char) : Option Float := do
  let isDigitOrLine := fun (c : Char) => digitValue c < 10 || c == '_'
  let whole ← digitsOrNone? (cs.takeWhile isDigitOrLine)
  let rest := cs.dropWhile isDigitOrLine
  let (fraction, rest) ←
    match rest with
    | '.' :: rest =>
      (digitsOrNone? (rest.takeWhile isDigitOrLine)).map (·, rest.dropWhile isDigitOrLine)
    | rest => some ([], rest)
  if whole.isEmpty && fraction.isEmpty then none
  let e ← exponent? rest
  let ds := whole ++ fraction
  return scale (ofDigits 10 ds) ds.length (e - fraction.length)

/-- A floating-point number: digits, an infinity or no number. -/
def float? (cs : List Char) : Option Float :=
  let (negative, cs) := splitSign (trim cs)
  let word := String.ofList (cs.map asciiLower)
  let magnitude :=
    if word == "inf" || word == "infinity" then some (1.0 / 0.0)
    else if word == "nan" then some (0.0 / 0.0)
    else magnitude? cs
  magnitude.map fun x => if negative then -x else x

end Pageworks.Numeral
