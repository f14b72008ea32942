import Pageworks.Markdown.Inline.Delimiter
import Pageworks.Markdown.Inline.Label

/-!
# Reading inline content

The characters of a text become pieces from left to right; characters that start no piece are plain
text.  Delimiters become emphases at the end, in the text and in the content of every link apart.

## Main definitions

* `Draft`: content while it is read.
* `Source.delimiters`: a run of delimiters.
* `Source.content`: the content between two places, links in links down to a depth.
* `inlines`: the content of a text.
-/

namespace Pageworks.Markdown

open Pageworks.Text

/-- Content while it is read. -/
structure Draft where
  /-- The pieces so far. -/
  pieces : Array Inline
  /-- Plain text after them, reversed. -/
  pending : List Char
  /-- The delimiters among the pieces. -/
  delimiters : Array Delimiter
  /-- What is known about the characters ahead. -/
  memo : Memo

namespace Draft

/-- Plain text becomes a piece. -/
def settle (d : Draft) : Draft :=
  if d.pending.isEmpty then d
  else { d with pieces := d.pieces.push (.text d.pending.reverse), pending := [] }

/-- One more piece. -/
def add (d : Draft) (x : Inline) : Draft :=
  let d := d.settle
  { d with pieces := d.pieces.push x }

/-- More plain text. -/
def write (d : Draft) (cs : List Char) : Draft := { d with pending := cs.reverse ++ d.pending }

/-- A line end: two spaces before it break the line, and spaces before it are dropped. -/
def endLine (d : Draft) : Draft :=
  match d.pending with
  | ' ' :: ' ' :: before => { d with pending := before.dropWhile (· == ' ') }.add .hardBreak
  | ' ' :: before => { d with pending := before }.add .softBreak
  | _ => d.add .softBreak

/-- A delimiter in a run of the given length. -/
def delimiter (text : List Char) (mark : Char) (length : Nat) (f : Flank) (d : Draft) : Draft :=
  let d := d.add (.text text)
  let new : Delimiter := ⟨mark, length, d.pieces.size - 1, f.opens, f.closes, none⟩
  { d with delimiters := d.delimiters.push new }

/-- A number of delimiters. -/
def delimitersOf (text : List Char) (mark : Char) (length : Nat) (f : Flank) (count : Nat)
    (d : Draft) : Draft :=
  (List.range count).foldl (fun d _ => d.delimiter text mark length f) d

/-- The content, with its emphases. -/
def finish (d : Draft) : List Inline :=
  let d := d.settle
  (emphasize d.delimiters d.pieces).toList

end Draft

namespace Source

/-- The run of delimiters at a place and the place after it, if there is one: asterisks, low lines,
or two tildes and more. -/
def delimiters? (s : Source) (stop i : Nat) (c : Char) (d : Draft) : Option (Draft × Nat) :=
  let next := s.passing (· == c) stop i
  let count := next - i
  let before := if i == 0 then ' ' else (s.char? (i - 1)).getD ' '
  let after := if next < stop then (s.char? next).getD ' ' else ' '
  if c == '~' then
    if s.preset.strikes && 2 ≤ count then
      let f := flank before after true
      let d := if count % 2 == 1 then d.add (.text ['~']) else d
      some (d.delimitersOf ['~', '~'] c 0 f (count / 2), next)
    else none
  else if c == '*' || c == '_' then
    some (d.delimitersOf [c] c count (flank before after (c == '*')) count, next)
  else none

/-- The pieces that show in the characters themselves. -/
def simple? (s : Source) (stop i : Nat) : Option (Inline × Nat) :=
  (s.escape? stop i) <|> (s.autolink? stop i) <|> (s.tag? stop i) <|> (s.reference? stop i)

/-- Reads the piece at a place.  `describe` reads the description of an image, `within` the content
of a link. -/
def readPiece (s : Source) (describe : List Char → List Inline) (pass : Passing)
    (within : (stop place : Nat) → Memo → List Inline × Memo) (stop i : Nat) (d : Draft) :
    Draft × Nat :=
  match s.char? i with
  | none => (d, i + 1)
  | some c =>
    let plain := (d.write [c], i + 1)
    if !isSpecial c then
      let next := max (i + 1) (s.textEnd stop i)
      (d.write (s.between i next), next)
    else if c == '\n' then (d.endLine, s.passing isIndent stop (i + 1))
    else if c == '\x60' then
      match s.code stop i d.memo with
      | (.text t, next, memo) => ({ d with memo := memo }.write t, next)
      | (x, next, memo) => ({ d with memo := memo }.add x, next)
    else if c == '[' then
      match s.link? pass stop i d.memo with
      | (some a, memo) =>
        let (content, memo) := within a.last a.start memo
        ({ d with memo := memo }.add (.link a.url a.title content), a.next)
      | (none, memo) => ({ d with memo := memo }.write [c], i + 1)
    else if c == '!' then
      match s.image? pass stop i d.memo with
      | (some a, memo) =>
        let description := describe (s.between a.start a.last)
        ({ d with memo := memo }.add (.image a.url a.title description), a.next)
      | (none, memo) => ({ d with memo := memo }.write [c], i + 1)
    else
      match s.delimiters? stop i c d with
      | some r => r
      | none => (s.simple? stop i).elim plain fun (x, next) => (d.add x, next)

/-- Reads pieces from a place on.  The fuel is the number of characters. -/
def readPieces (s : Source) (describe : List Char → List Inline) (pass : Passing)
    (within : (stop place : Nat) → Memo → List Inline × Memo) (stop : Nat) :
    Nat → Nat → Draft → Draft
  | 0, _, d => d
  | fuel + 1, i, d =>
    if stop ≤ i then d
    else
      let (d, next) := s.readPiece describe pass within stop i d
      s.readPieces describe pass within stop fuel next d

/-- The content between two places, links in links down to a depth; below it everything is plain
text. -/
def content (s : Source) (describe : List Char → List Inline) :
    Nat → (stop place : Nat) → Memo → List Inline × Memo
  | 0, stop, i, memo =>
    (if i < stop then [.text (s.between i stop)] else [], memo)
  | depth + 1, stop, i, memo =>
    let d := s.readPieces describe (s.passOver (depth + 1)) (s.content describe depth) stop
      (stop - i) i ⟨#[], [], #[], memo⟩
    (d.finish, d.memo)

end Source

/-- The content of a text.  Descriptions of images are shorter than the text around them, so that
the fuel may be the length of the text. -/
def inlinesFrom (preset : Preset) (definitions : List Definition) : Nat → List Char → List Inline
  | 0, _ => []
  | fuel + 1, text =>
    let s : Source := ⟨preset, definitions, text.toArray⟩
    (s.content (inlinesFrom preset definitions fuel) preset.maxDepth s.chars.size 0 Memo.empty).1

/-- The content of a text. -/
def inlines (preset : Preset) (definitions : List Definition) (text : List Char) : List Inline :=
  if preset.markup then inlinesFrom preset definitions (text.length + 1) text else [.text text]

end Pageworks.Markdown
