import Pageworks.Markdown.Inline
import Pageworks.Text.Category

/-!
# Delimiters of emphasis

Every character of a run of asterisks or low lines, and every pair of tildes, may open or close an
emphasis, depending on what stands around the run.  A closing delimiter belongs to the nearest
opening one of its kind before it that is still free; delimiters between the two are passed over.

## Main definitions

* `Delimiter`: a delimiter and its partner.
* `Flank`, `flank`: what a run of delimiters can do.
* `pair`: the partners of delimiters.
* `emphasize`: content with its emphases between paired delimiters.
-/

namespace Pageworks.Markdown

open Pageworks.Text

/-- White space around delimiters. -/
def isSpaceChar (c : Char) : Bool :=
  let n := c.toNat
  (9 ≤ n && n ≤ 13) || n == 0x20 || n == 0xA0 || n == 0x1680 || (0x2000 ≤ n && n ≤ 0x200A) ||
    n == 0x202F || n == 0x205F || n == 0x3000

/-- What a run of delimiters can do. -/
structure Flank where
  /-- The run can open an emphasis. -/
  opens : Bool
  /-- The run can close an emphasis. -/
  closes : Bool

/-- What a run between two characters can do.  Inside words only some delimiters work. -/
def flank (before after : Char) (insideWords : Bool) : Flank :=
  let left := !(isSpaceChar after || (isPunctuation after &&
    !(isSpaceChar before || isPunctuation before)))
  let right := !(isSpaceChar before || (isPunctuation before &&
    !(isSpaceChar after || isPunctuation after)))
  { opens := left && (insideWords || !right || isPunctuation before)
    closes := right && (insideWords || !left || isPunctuation after) }

/-- A delimiter. -/
structure Delimiter where
  /-- The character that it is made of. -/
  mark : Char
  /-- The length of the run that it belongs to; zero where lengths do not matter. -/
  length : Nat
  /-- Its place in the content. -/
  place : Nat
  /-- It can open an emphasis. -/
  opens : Bool
  /-- It can close an emphasis. -/
  closes : Bool
  /-- The number of the delimiter that closes what this one opens. -/
  partner : Option Nat
  deriving Inhabited

/-- The lengths of two runs do not fit: one of them could both open and close, and the lengths add
up to a multiple of three without being multiples of three. -/
def Delimiter.mismatch (opener closer : Delimiter) : Bool :=
  (opener.closes || closer.opens) && (opener.length + closer.length) % 3 == 0 &&
    (opener.length % 3 != 0 || closer.length % 3 != 0)

/-- What delimiters that found no opener have in common. -/
abbrev SearchKey := Char × Bool × Nat

/-- Pairing in progress. -/
structure Pairing where
  /-- The delimiters. -/
  all : Array Delimiter
  /-- How many delimiters to pass over before each one seen so far. -/
  jumps : Array Nat
  /-- The first delimiter of the current run. -/
  header : Nat
  /-- The place of the delimiter before, unless a new run starts. -/
  last : Option Nat
  /-- How many delimiters at the front need no search any more. -/
  floors : List (SearchKey × Nat)

namespace Pairing

/-- The delimiter of a number. -/
def get (s : Pairing) (i : Nat) : Delimiter := s.all.getD i default

/-- How many delimiters to pass over before one. -/
def jump (s : Pairing) (i : Nat) : Nat := s.jumps.getD i 0

/-- The number of the opener for a closer, searched among the first `i` delimiters but not the
first `floor`. -/
def opener? (s : Pairing) (closer : Delimiter) (floor : Nat) : Nat → Option Nat
  | 0 => none
  | i + 1 =>
    if i < floor then none
    else
      let o := s.get i
      if o.mark == closer.mark && o.opens && o.partner.isNone && !o.mismatch closer then some i
      else opener? s closer floor (i - s.jump i)
termination_by i => i
decreasing_by exact Nat.lt_succ_of_le (Nat.sub_le i (s.jump i))

/-- Pairs the delimiter of a number with the opener of another. -/
def join (s : Pairing) (o c : Nat) : Pairing :=
  let passed := if 0 < o && !(s.get (o - 1)).opens then s.jump (o - 1) + 1 else 0
  { s with
    all := (s.all.setIfInBounds o { s.get o with partner := some c, closes := false }).setIfInBounds
      c { s.get c with opens := false }
    jumps := (s.jumps.setIfInBounds c (c - o + passed)).setIfInBounds o passed
    last := none }

/-- Looks for the partner of the delimiter of a number. -/
def close (s : Pairing) (c : Nat) : Pairing :=
  let d := s.get c
  let start := s.header - s.jump s.header
  let key : SearchKey := (d.mark, d.opens, d.length % 3)
  match s.opener? d ((s.floors.lookup key).getD 0) start with
  | some o => s.join o c
  | none => if start == 0 then s else { s with floors := (key, start) :: s.floors }

/-- Goes on to the delimiter of a number. -/
def step (s : Pairing) (c : Nat) : Pairing :=
  let d := s.get c
  let sameRun := (s.get s.header).mark == d.mark && s.last.map (· + 1) == some d.place
  let s := { s with
    jumps := s.jumps.push 0, header := if sameRun then s.header else c, last := some d.place }
  if d.closes then s.close c else s

end Pairing

/-- The delimiters with their partners. -/
def pair (ds : Array Delimiter) : Array Delimiter :=
  ((List.range ds.size).foldl Pairing.step ⟨ds, #[], 0, none, []⟩).all

/-- A single tilde as text. -/
def isLoneTilde : Inline → Bool
  | .text s => s == ['~']
  | _ => false

/-- The end of a strike. -/
def isStrikeEnd : Inline → Bool
  | .closing .strike => true
  | _ => false

/-- Content with its strikes, and the places of single tildes before the end of one. -/
def strikePairs (ds : Array Delimiter) (content : Array Inline) : Array Inline × List Nat :=
  ds.foldl (fun (content, lone) d =>
    match d.mark == '~', d.partner with
    | true, some e =>
      let last := (ds.getD e default).place
      let content := (content.setIfInBounds d.place (.opening .strike)).setIfInBounds last
        (.closing .strike)
      if isLoneTilde (content.getD (last - 1) .softBreak) then (content, (last - 1) :: lone)
      else (content, lone)
    | _, _ => (content, lone)) (content, [])

/-- How many strikes end one after another from a place on. -/
def strikeEnds (content : Array Inline) (i : Nat) : Nat :=
  ((content.toList.drop i).takeWhile isStrikeEnd).length

/-- Content with the piece at a place moved behind the strikes that end after it. -/
def moveBehind (content : Array Inline) (i : Nat) : Array Inline :=
  content.swapIfInBounds i (i + strikeEnds content (i + 1))

/-- Content with its strikes; an odd tilde stands outside. -/
def strike (ds : Array Delimiter) (content : Array Inline) : Array Inline :=
  let (content, lone) := strikePairs ds content
  lone.foldl moveBehind content

/-- Content with its weak and strong emphases, from the last of the first `i` delimiters back.  Two
delimiters next to each other with partners next to each other make a strong one. -/
def emphasizeFrom (ds : Array Delimiter) : Nat → Array Inline → Array Inline
  | 0, content => content
  | i + 1, content =>
    let d := ds.getD i default
    match d.mark == '*' || d.mark == '_', d.partner with
    | true, some e =>
      let closer := ds.getD e default
      let outer := ds.getD (i - 1) default
      let outerCloser := ds.getD (e + 1) default
      let isStrong := 0 < i && outer.partner == some (e + 1) && outer.mark == d.mark &&
        outer.place + 1 == d.place && outerCloser.place == closer.place + 1
      if isStrong then
        let content := (content.setIfInBounds d.place (.opening .strong)).setIfInBounds closer.place
          (.closing .strong)
        emphasizeFrom ds (i - 1)
          ((content.setIfInBounds outer.place (.text [])).setIfInBounds outerCloser.place (.text []))
      else
        emphasizeFrom ds i
          ((content.setIfInBounds d.place (.opening .weak)).setIfInBounds closer.place
            (.closing .weak))
    | _, _ => emphasizeFrom ds i content
termination_by i => i

/-- Content with its emphases between the delimiters that belong together. -/
def emphasize (ds : Array Delimiter) (content : Array Inline) : Array Inline :=
  let ds := pair ds
  emphasizeFrom ds ds.size (strike ds content)

end Pageworks.Markdown
