import Pageworks.Decimal.Numeral
import Pageworks.Text.Pattern
import Pageworks.Text.Split
import Pageworks.Yaml.Fault
import Pageworks.Value

/-!
# Scalars of YAML

A plain scalar gets its tag from its look, and a tag makes a value of a text.

## Main definitions

* `Tag`: the tags that values can be made of.
* `Tag.ofText`: the tag of a plain text.
* `Scalar.value`: the value of a text under a tag.
-/

namespace Pageworks.Yaml

open Pageworks.Text

/-- The tags of the core vocabulary. -/
inductive Tag
  | null | bool | int | float | binary | timestamp | text
  | sequence | mapping | set | orderedMap | pairs
  /-- The tag of `<<`. -/
  | merge
  /-- The tag of `=`. -/
  | default
  /-- Any other tag. -/
  | unknown
  deriving DecidableEq, Repr

/-- What the names of tags start with. -/
def tagStart : String := "tag:yaml.org,2002:"

/-- The tag of a name. -/
def Tag.ofName (name : String) : Tag :=
  match startsWith? tagStart.toList name.toList with
  | none => .unknown
  | some suffix =>
    match String.ofList suffix with
    | "null" => .null
    | "bool" => .bool
    | "int" => .int
    | "float" => .float
    | "binary" => .binary
    | "timestamp" => .timestamp
    | "str" => .text
    | "seq" => .sequence
    | "map" => .mapping
    | "set" => .set
    | "omap" => .orderedMap
    | "pairs" => .pairs
    | "merge" => .merge
    | "value" => .default
    | _ => .unknown

namespace Look

open Pattern

/-- One digit. -/
def digit : Pattern := one isAsciiDigit

/-- One digit or low line. -/
def digitOrLine : Pattern := one fun c => isAsciiDigit c || c == '_'

/-- An optional sign. -/
def sign : Pattern := opt (among "+-")

/-- Base sixty: a colon and a number below sixty. -/
def sixtieth : Pattern := all [char ':', opt (among "012345"), digit]

/-- An exponent with its sign. -/
def exponent : Pattern := opt (all [among "eE", among "+-", plus digit])

/-- Some words. -/
def words (ws : List String) : Pattern := any (ws.map word)

/-- Words of truth. -/
def bool : Pattern :=
  words ["yes", "Yes", "YES", "no", "No", "NO", "true", "True", "TRUE", "false", "False", "FALSE",
    "on", "On", "ON", "off", "Off", "OFF"]

/-- Floating-point numbers: with a point, in base sixty with a point, infinities, no number. -/
def float : Pattern := any [
  all [sign, digit, star digitOrLine, char '.', star digitOrLine, exponent],
  all [char '.', digit, star digitOrLine, exponent],
  all [sign, digit, star digitOrLine, plus sixtieth, char '.', star digitOrLine],
  all [sign, char '.', words ["inf", "Inf", "INF"]],
  all [char '.', words ["nan", "NaN", "NAN"]]]

/-- Integers: binary, octal, decimal, hexadecimal and in base sixty. -/
def int : Pattern := any [
  all [sign, word "0b", plus (among "01_")],
  all [sign, word "0", plus (among "01234567_")],
  all [sign, alt (word "0") (seq (among "123456789") (star digitOrLine))],
  all [sign, word "0x", plus (one fun c => isHexDigit c || c == '_')],
  all [sign, among "123456789", star digitOrLine, plus sixtieth]]

/-- Null words, and nothing. -/
def null : Pattern := words ["~", "null", "Null", "NULL", ""]

/-- Days, and moments with an optional fraction and offset. -/
def timestamp : Pattern :=
  let two := times digit 2 2
  let oneOrTwo := times digit 1 2
  any [
    all [times digit 4 4, char '-', two, char '-', two],
    all [times digit 4 4, char '-', oneOrTwo, char '-', oneOrTwo,
      alt (among "Tt") (plus (among " \t")), oneOrTwo, char ':', two, char ':', two,
      opt (seq (char '.') (star digit)),
      opt (seq (star (among " \t"))
        (alt (char 'Z') (all [among "+-", oneOrTwo, opt (seq (char ':') two)])))]]

/-- The looks in the order in which they are tried, each with the first characters that it is
tried for; the zero character stands for the empty text. -/
def table : List (Tag × String × Pattern) := [
  (.bool, "yYnNtTfFoO", bool),
  (.float, "-+0123456789.", float),
  (.int, "-+0123456789", int),
  (.merge, "<", word "<<"),
  (.null, "~nN\x00", null),
  (.timestamp, "0123456789", timestamp),
  (.default, "=", word "=")]

end Look

/-- The tag of a plain text: that of the first look it has, or else a text.  A line feed at its
end does not change the look. -/
def Tag.ofText (s : String) : Tag :=
  let cs := s.toList
  let first := cs.headD (Char.ofNat 0)
  let body := if cs.getLast? == some '\n' then cs.dropLast else cs
  match Look.table.find? fun (_, starts, p) =>
      starts.toList.contains first && (p.matchesAll cs || p.matchesAll body) with
  | some (t, _, _) => t
  | none => .text

namespace Scalar

/-- The text without low lines. -/
def withoutLines (s : String) : List Char := s.toList.filter (· != '_')

/-- The integer of a text in a base. -/
def intIn (base : Nat) (cs : List Char) : Except Fault Int :=
  match Numeral.int? base cs with
  | none => .error (.notInteger base (String.ofList cs))
  | some (n, count) =>
    if base == 10 && digitLimit < count then .error (.tooManyDigits count) else .ok n

/-- A number with its first sign taken off: a number needs a first character. -/
def splitSign (cs : List Char) : Except Fault (Bool × List Char) :=
  match cs with
  | [] => .error .emptyNumber
  | _ => .ok (Numeral.splitSign cs)

/-- The integer of a text: its beginning decides the base, and colons separate the places of base
sixty. -/
def intValue (s : String) : Except Fault Int := do
  let (negative, cs) ← splitSign (withoutLines s)
  let n ←
    if cs == ['0'] then pure 0
    else match cs with
      | '0' :: 'b' :: rest => intIn 2 rest
      | '0' :: 'x' :: rest => intIn 16 rest
      | '0' :: _ => intIn 8 cs
      | [] => throw .emptyNumber
      | _ =>
        if cs.contains ':' then do
          let places ← (fields (· == ':') cs).mapM (intIn 10)
          pure (places.foldl (fun n d => n * 60 + d) 0)
        else intIn 10 cs
  return if negative then -n else n

/-- The floating-point number of a text. -/
def floatIn (cs : List Char) : Except Fault Float :=
  match Numeral.float? cs with
  | some x => .ok x
  | none => .error (.notFloat (String.ofList cs))

/-- The floating-point number of a text; colons separate the places of base sixty, which are
added from the last one on. -/
def floatValue (s : String) : Except Fault Float := do
  let (negative, cs) ← splitSign ((withoutLines s).map asciiLower)
  let x ←
    if cs == ".inf".toList then pure (1.0 / 0.0)
    else if cs == ".nan".toList then return 0.0 / 0.0
    else if cs.contains ':' then do
      let places ← (fields (· == ':') cs).mapM floatIn
      pure (places.reverse.foldl (fun (sum, base) d => (sum + d * base, base * 60.0))
        ((0.0 : Float), (1.0 : Float))).1
    else floatIn cs
  return if negative then -1.0 * x else x

/-- The truth of a word, in any case. -/
def boolValue (s : String) : Except Fault Bool :=
  let w := String.ofList (s.toList.map asciiLower)
  if w == "yes" || w == "true" || w == "on" then .ok true
  else if w == "no" || w == "false" || w == "off" then .ok false
  else .error .notTruth

/-- The value of a character in base 64. -/
def sextet? (c : Char) : Option Nat :=
  if 'A' ≤ c && c ≤ 'Z' then some (c.toNat - 65)
  else if 'a' ≤ c && c ≤ 'z' then some (c.toNat - 71)
  else if isAsciiDigit c then some (c.toNat + 4)
  else if c == '+' then some 62
  else if c == '/' then some 63
  else none

/-- Bytes of a text in base 64: `place` counts the characters of a group, `left` holds the bits
not yet used.  Padding that completes a group ends the text, and other characters are passed. -/
def base64From (place left pads : Nat) : List Char → List UInt8 → Option (List UInt8)
  | [], acc => if place == 0 then some acc.reverse else none
  | c :: cs, acc =>
    if c == '=' then
      if 2 ≤ place then
        if 4 ≤ place + (pads + 1) then some acc.reverse
        else base64From place left (pads + 1) cs acc
      else base64From place left pads cs acc
    else match sextet? c with
      | none => base64From place left pads cs acc
      | some v =>
        if place == 0 then base64From 1 v 0 cs acc
        else if place == 1 then base64From 2 (v % 16) 0 cs (UInt8.ofNat (left * 4 + v / 16) :: acc)
        else if place == 2 then base64From 3 (v % 4) 0 cs (UInt8.ofNat (left * 16 + v / 4) :: acc)
        else base64From 0 0 0 cs (UInt8.ofNat (left * 64 + v) :: acc)

/-- The bytes of a text in base 64, which holds ASCII only. -/
def binaryValue (s : String) : Except Fault (List UInt8) :=
  if s.toList.any fun c => 128 ≤ c.toNat then .error .malformed
  else match base64From 0 0 0 s.toList [] with
    | some bs => .ok bs
    | none => .error .malformed

/-- One or two digits. -/
def oneOrTwo? (cs : List Char) : Option (Nat × List Char) :=
  (Moment.digits? 2 cs).orElse fun _ => Moment.digits? 1 cs

/-- A given character and what a reader makes of the rest. -/
def after? {α : Type} (c : Char) (read : List Char → Option α) : List Char → Option α
  | x :: cs => if x == c then read cs else none
  | [] => none

/-- An offset from universal time, or nothing, up to the end of the text. -/
def offset? (cs : List Char) : Option (Option Int) :=
  let body := cs.dropWhile fun c => c == ' ' || c == '\t'
  match body with
  | ['Z'] | ['Z', '\n'] => some (some 0)
  | sign :: rest =>
    if sign == '+' || sign == '-' then do
      let (h, rest) ← oneOrTwo? rest
      let (m, rest) ← match rest with
        | ':' :: rest => Moment.digits? 2 rest
        | rest => some (0, rest)
      if rest == [] || rest == ['\n'] then
        let z : Int := h * 60 + m
        some (some (if sign == '-' then -z else z))
      else none
    else if cs == ['\n'] then some none else none
  | [] => if cs == [] then some none else none

/-- A day or a moment as it is written, its parts unchecked. -/
def timestamp? (cs : List Char) : Option (Date ⊕ Moment) := do
  let (y, cs) ← Moment.digits? 4 cs
  let (mo, cs) ← after? '-' oneOrTwo? cs
  let (d, cs) ← after? '-' oneOrTwo? cs
  let date : Date := ⟨y, mo, d⟩
  if cs == [] || cs == ['\n'] then return .inl date
  let cs ← match cs with
    | c :: rest =>
      if c == 'T' || c == 't' then some rest
      else if c == ' ' || c == '\t' then
        some (rest.dropWhile fun c => c == ' ' || c == '\t')
      else none
    | [] => none
  let (h, cs) ← oneOrTwo? cs
  let (mi, cs) ← after? ':' (Moment.digits? 2) cs
  let (s, cs) ← after? ':' (Moment.digits? 2) cs
  let (micro, cs) := match cs with
    | '.' :: rest => (Moment.microOf (rest.takeWhile isAsciiDigit), rest.dropWhile isAsciiDigit)
    | cs => (0, cs)
  let offset ← offset? cs
  return .inr ⟨date, h, mi, s, micro, offset⟩

/-- The day or the moment of a text. -/
def timestampValue (s : String) : Except Fault Value :=
  match timestamp? s.toList with
  | none => .error .notMoment
  | some (.inl d) =>
    match d.check with
    | .ok d => .ok (.date d)
    | .error e => .error (.outOfCalendar e)
  | some (.inr t) =>
    match t.check with
    | .ok t => .ok (.moment t)
    | .error e => .error (.outOfCalendar e)

/-- The value of a text under a tag.  Tags of collections and unknown tags make no value of a
text. -/
def value (tag : Tag) (s : String) : Except Fault Value :=
  match tag with
  | .null => .ok .null
  | .bool => (boolValue s).map .bool
  | .int => (intValue s).map .int
  | .float => (floatValue s).map .float
  | .binary => (binaryValue s).map .bytes
  | .timestamp => timestampValue s
  | .text => .ok (.text s)
  | _ => .error .malformed

end Scalar

end Pageworks.Yaml
