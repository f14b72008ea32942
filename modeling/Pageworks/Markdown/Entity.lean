import Pageworks.Markdown.Entity.Table
import Pageworks.Text.Category
import Pageworks.Text.Split

/-!
# Character references

A character of a markdown text may be written by its name or by its number, between an ampersand
and a semicolon, and punctuation may be written after a backslash.

## Main definitions

* `Markdown.namedText?`: the text of a name.
* `Markdown.isCharacterCode`: the numbers that stand for a character.
* `Markdown.entity?`: the character reference that a text starts with.
* `Markdown.unescape`: a text with all escapes and references replaced.
-/

namespace Pageworks.Markdown

open Pageworks.Text

/-- The number that hexadecimal digits stand for. -/
def hexNumber (ds : List Char) : Nat := ds.foldl (fun n c => n * 16 + hexValue c) 0

/-- The number that decimal digits stand for. -/
def decimalNumber (ds : List Char) : Nat := ds.foldl (fun n c => n * 10 + hexValue c) 0

/-- The text of a name, if there is one of that name. -/
def namedText? (name : List Char) : Option (List Char) :=
  let key := name ++ [':']
  entityRows.findSome? fun row =>
    (fields (· == ' ') row.toList).findSome? fun entry =>
      (startsWith? key entry).map fun codes =>
        (fields (· == '+') codes).map fun ds => Char.ofNat (hexNumber ds)

/-- The numbers that stand for a character: neither surrogates nor noncharacters nor controls
other than tab, line feed, form feed and carriage return. -/
def isCharacterCode (n : Nat) : Bool :=
  n ≤ 0x10FFFF && !(0xD800 ≤ n && n ≤ 0xDFFF) && !(0xFDD0 ≤ n && n ≤ 0xFDEF) &&
    0xFFFE != n % 0x10000 && 0xFFFF != n % 0x10000 && 8 < n && n != 0x0B &&
    !(0x0E ≤ n && n ≤ 0x1F) && !(0x7F ≤ n && n ≤ 0x9F)

/-- The number between `#` and the semicolon, with at most so many hexadecimal or decimal
digits. -/
def numericCode? (maxHex maxDecimal : Nat) (body : List Char) : Option Nat :=
  match body with
  | '#' :: x :: ds =>
    if x == 'x' || x == 'X' then
      if !ds.isEmpty && ds.length ≤ maxHex && ds.all isHexDigit then some (hexNumber ds) else none
    else if ds.length < maxDecimal && (x :: ds).all isAsciiDigit then
      some (decimalNumber (x :: ds))
    else none
  | _ => none

/-- What stands between the ampersand that a text starts with and the next semicolon, and the text
after it. -/
def entityBody? : List Char → Option (List Char × List Char)
  | '&' :: cs =>
    let body := (cs.take 33).takeWhile fun c => c == '#' || isAsciiAlnum c
    match cs.drop body.length with
    | ';' :: rest => some (body, rest)
    | _ => none
  | _ => none

/-- The replacement of a number that stands for no character. -/
def replacement : Char := Char.ofNat 0xFFFD

/-- The text of the character reference that a text starts with, and the rest. -/
def entity? (cs : List Char) : Option (List Char × List Char) := do
  let (body, rest) ← entityBody? cs
  match numericCode? 6 7 body with
  | some n => some ([if isCharacterCode n then Char.ofNat n else replacement], rest)
  | none => (namedText? body).map fun t => (t, rest)

/-- The character reference that a text starts with, where a number that stands for no character
stays as it is written. -/
def plainEntity? (cs : List Char) : Option (List Char × List Char) := do
  let (body, rest) ← entityBody? cs
  match namedText? body, numericCode? 8 8 body with
  | some t, _ => some (t, rest)
  | none, some n => if isCharacterCode n then some ([Char.ofNat n], rest) else none
  | none, none => none

/-- ASCII punctuation, which a backslash makes literal. -/
def isAsciiPunctuation (c : Char) : Bool :=
  let n := c.toNat
  (33 ≤ n && n ≤ 47) || (58 ≤ n && n ≤ 64) || (91 ≤ n && n ≤ 96) || (123 ≤ n && n ≤ 126)

theorem entityBody?_length {cs body rest : List Char} (h : entityBody? cs = some (body, rest)) :
    rest.length < cs.length := by
  unfold entityBody? at h
  split at h
  · next cs =>
    simp only at h
    split at h
    · next r hr =>
      simp only [Option.some.injEq, Prod.mk.injEq] at h
      obtain ⟨_, rfl⟩ := h
      have := congrArg List.length hr
      simp only [List.length_drop, List.length_cons] at this
      simp only [List.length_cons]
      omega
    · simp at h
  · simp at h

theorem plainEntity?_length {cs t rest : List Char} (h : plainEntity? cs = some (t, rest)) :
    rest.length < cs.length := by
  unfold plainEntity? at h
  cases hb : entityBody? cs with
  | none => simp [hb] at h
  | some p =>
    obtain ⟨body, r⟩ := p
    have hr := entityBody?_length hb
    simp only [hb, Option.bind_eq_bind, Option.bind_some] at h
    split at h
    · simp_all
    · split at h <;> simp_all
    · simp at h

/-- The text with every escaped punctuation character and every character reference replaced. -/
def unescape (s : List Char) : List Char :=
  match s with
  | [] => []
  | '\\' :: c :: cs =>
    if isAsciiPunctuation c then c :: unescape cs else '\\' :: unescape (c :: cs)
  | c :: cs =>
    match _h : plainEntity? (c :: cs) with
    | some (t, rest) => t ++ unescape rest
    | none => c :: unescape cs
termination_by s.length
decreasing_by
  all_goals first
    | exact plainEntity?_length _h
    | (simp only [List.length_cons]; omega)

end Pageworks.Markdown
