import Pageworks.Markdown.Inline
import Pageworks.Markdown.Preset
import Pageworks.Markdown.Target

/-!
# Pieces of inline content

Most pieces show in the characters from their start on: escapes, character references, addresses
and tags between angle brackets, spans of code.

## Main definitions

* `Source`: the characters of inline content.
* `Source.textEnd`: where plain text ends.
* `Source.escape?`, `Source.reference?`, `Source.autolink?`, `Source.tag?`: pieces at a place.
* `Memo`: what is known about the characters ahead.
* `Source.code?`: the span of code at a place.
* `Source.target?`: the address in parentheses at a place.
-/

namespace Pageworks.Markdown

open Pageworks.Text

/-- The characters of inline content. -/
structure Source where
  /-- Which constructs are markdown. -/
  preset : Preset
  /-- The definitions of the document. -/
  definitions : List Definition
  /-- The characters. -/
  chars : Array Char

/-- What is known about the characters ahead. -/
structure Memo where
  /-- Where the piece at a place ends. -/
  ends : List (Nat × Nat)
  /-- The last place where a run of backticks of a length starts. -/
  runs : List (Nat × Nat)
  /-- All runs of backticks are known. -/
  complete : Bool

/-- Nothing is known. -/
def Memo.empty : Memo := ⟨[], [], false⟩

/-- The characters that may start a piece other than plain text. -/
def isSpecial (c : Char) : Bool := "\n!#$%&*+-:<=>@[\\]^_\x60\x7b\x7d~".toList.contains c

namespace Source

/-- The character at a place. -/
def char? (s : Source) (i : Nat) : Option Char := s.chars[i]?

/-- The characters between two places. -/
def between (s : Source) (i j : Nat) : List Char := (s.chars.extract i j).toList

/-- All characters from a place on. -/
def suffix (s : Source) (i : Nat) : List Char := s.between i s.chars.size

/-- The first place from `i` on, before `stop`, whose character is not in the class. -/
def passing (s : Source) (p : Char → Bool) (stop i : Nat) : Nat :=
  if i < stop then
    if (s.char? i).any p then s.passing p stop (i + 1) else i
  else i
termination_by stop - i

/-- Where the plain text at a place ends. -/
def textEnd (s : Source) (stop i : Nat) : Nat := s.passing (fun c => !isSpecial c) stop i

/-- The character after a backslash: a line end breaks the line, punctuation stands for itself, and
before anything else the backslash does. -/
def escape? (s : Source) (stop i : Nat) : Option (Inline × Nat) :=
  if i + 1 < stop then
    match s.char? i, s.char? (i + 1) with
    | some '\\', some '\n' => some (.hardBreak, s.passing isIndent stop (i + 2))
    | some '\\', some c =>
      some (.escaped (if isAsciiPunctuation c then [c] else ['\\', c]), i + 2)
    | _, _ => none
  else none

/-- The character reference at a place. -/
def reference? (s : Source) (stop i : Nat) : Option (Inline × Nat) :=
  if i + 1 < stop && s.char? i == some '&' then
    let rest := s.between i (i + 40)
    (entity? rest).map fun (t, after) => (.escaped t, i + (rest.length - after.length))
  else none

open Pattern in
/-- An address with a scheme, as it may stand between angle brackets. -/
def addressPattern : Pattern :=
  Pattern.all [one isAsciiLetter,
    times (one fun c => isAsciiAlnum c || c == '+' || c == '.' || c == '-') 1 31, char ':',
    star (one fun c => 0x20 < c.toNat && c != '<' && c != '>'), opt (char '\n'), atEnd]

open Pattern in
/-- A label of the domain of a mail address. -/
def mailLabel : Pattern :=
  seq (one isAsciiAlnum)
    (opt (seq (times (one fun c => isAsciiAlnum c || c == '-') 0 61) (one isAsciiAlnum)))

open Pattern in
/-- A mail address. -/
def mailPattern : Pattern :=
  Pattern.all [
    plus (one fun c => isAsciiAlnum c || c == Char.ofNat 39 ||
      ".!#$%&*+/=?^_\x60\x7b|\x7d~-".toList.contains c),
    char '@', mailLabel, star (seq (char '.') mailLabel), opt (char '\n'), atEnd]

/-- The address between angle brackets at a place, as a link to itself. -/
def autolink? (s : Source) (stop i : Nat) : Option (Inline × Nat) :=
  let last := s.passing (fun c => c != '<' && c != '>') stop (i + 1)
  if s.char? i == some '<' && last < stop && s.char? last == some '>' then
    let address := s.between (i + 1) last
    let url? :=
      if addressPattern.matchesAll address then some (Url.normalized address)
      else if mailPattern.matchesAll address then some (Url.normalized ("mailto:".toList ++ address))
      else none
    match url? with
    | some url =>
      if Url.isSafe url then some (.link url [] [.text (Url.shown address)], last + 1) else none
    | none => none
  else none

/-- The tag at a place. -/
def tag? (s : Source) (stop i : Nat) : Option (Inline × Nat) :=
  if s.preset.html && i + 2 < stop && s.char? i == some '<' then
    let rest := s.suffix i
    (Html.tag.after? rest).map fun after =>
      let length := rest.length - after.length
      (.html (rest.take length), i + length)
  else none

/-- The content of a span of code: line ends are spaces, and one space is taken off at both ends
unless there is nothing else. -/
def codeText (cs : List Char) : List Char :=
  let cs := cs.map fun c => if c == '\n' then ' ' else c
  if cs.head? == some ' ' && cs.getLast? == some ' ' && !(trim cs).isEmpty then
    (cs.drop 1).dropLast
  else cs

/-- The next run of as many backticks as `length`, from place `i` on, and the runs passed. -/
def closingRun (s : Source) (stop length : Nat) (i : Nat) (memo : Memo) :
    Option (Nat × Nat) × Memo :=
  if i < s.chars.size then
    if s.char? i == some '\x60' then
      let last := s.passing (· == '\x60') stop (i + 1)
      let last := max last (i + 1)
      if last - i == length then (some (i, last), memo)
      else s.closingRun stop length last { memo with runs := (last - i, i) :: memo.runs }
    else s.closingRun stop length (i + 1) memo
  else (none, { memo with complete := true })
termination_by s.chars.size - i

/-- The span of code that a run of backticks opens, or the run alone, and the place after it. -/
def code (s : Source) (stop i : Nat) (memo : Memo) : Inline × Nat × Memo :=
  let start := s.passing (· == '\x60') stop (i + 1)
  let length := start - i
  let alone := Inline.text (List.replicate length '\x60')
  if memo.complete && (memo.runs.lookup length).getD 0 ≤ i then (alone, start, memo)
  else
    match s.closingRun stop length start memo with
    | (some (last, next), memo) => (.code (codeText (s.between start last)), next, memo)
    | (none, memo) => (alone, start, memo)

/-- What stands in parentheses after the text of a link. -/
inductive Target
  /-- An address with a title, and the place after it. -/
  | found (url title : List Char) (next : Nat)
  /-- Nothing that could be an address, up to the given place. -/
  | garbled (next : Nat)
  /-- Nothing at all. -/
  | missing

/-- What stands in the parentheses that open at a place. -/
def target (s : Source) (stop i : Nat) : Target :=
  let start := (s.between (i + 1) stop).dropWhile isGap
  if start.isEmpty then .missing
  else
    let (url, afterUrl) :=
      match destination? start with
      | some (address, rest) =>
        let url := Url.normalized address
        if Url.isSafe url then (url, rest) else ([], start)
      | none => ([], start)
    let afterGap := afterUrl.dropWhile isGap
    let titled := if afterGap.length == afterUrl.length then none else title? afterGap
    let (title, rest) :=
      match titled with
      | some (written, rest) => (unescape written, rest.dropWhile isGap)
      | none => ([], afterGap)
    let place := stop - rest.length
    if rest.head? == some ')' then .found url title (place + 1) else .garbled (place + 1)

end Source

end Pageworks.Markdown
