import Pageworks.FileTree
import Pageworks.Import
import Pageworks.Text.Pattern

/-!
# Globs

A glob names files by a pattern for each name on the way to them.  A star stands for any
characters, a question mark for one, brackets for one of a set, and two stars alone for any number
of directories.

## Main definitions

* `Glob.Part`, `Glob`: the patterns.
* `Glob.parse`: the glob of a text.
* `Glob.select`: what a glob leads to from a directory.
* `Glob.filesBelow`: the files at any depth that a glob leads to.
-/

namespace Pageworks

open Pageworks.Text

/-- Why a text is no glob. -/
inductive GlobFault
  /-- It starts at the root of the file tree. -/
  | absolute
  /-- Two stars stand beside other characters. -/
  | mixedDepth
  deriving DecidableEq, Repr

/-- The pattern of one name. -/
inductive Glob.Part
  /-- Any number of directories. -/
  | anyDepth
  /-- A given name. -/
  | exact (name : String)
  /-- A name that a pattern describes. -/
  | wild (pattern : Pattern)

/-- Patterns for the names on the way to a file. -/
structure Glob where
  /-- The patterns. -/
  parts : List Glob.Part
  /-- Only directories count, because a slash stands at the end. -/
  directoriesOnly : Bool

namespace Glob

/-- A character or a range of characters in brackets. -/
structure Range where
  /-- The first character. -/
  first : Char
  /-- The last character. -/
  last : Char
  deriving DecidableEq, Repr

/-- The ranges between brackets.  A hyphen between two characters makes a range of them. -/
def rangesOf : List Char → List Range
  | a :: '-' :: b :: cs => ⟨a, b⟩ :: rangesOf cs
  | a :: cs => ⟨a, a⟩ :: rangesOf cs
  | [] => []

/-- A range holds a character. -/
def Range.holds (r : Range) (c : Char) : Bool :=
  decide (r.first.toNat ≤ c.toNat) && decide (c.toNat ≤ r.last.toNat)

/-- The characters that the text between brackets stands for.  Ranges that run backwards are
dropped, and an exclamation mark in front of what is left stands for all other characters. -/
def classOf (text : List Char) : Char → Bool :=
  let proper := fun (rs : List Range) => rs.filter fun r => decide (r.first.toNat ≤ r.last.toNat)
  let holds := fun (rs : List Range) (c : Char) => rs.any fun r => r.holds c
  match text with
  | '!' :: rest => fun c => !holds (proper (rangesOf rest)) c
  | _ =>
    match proper (rangesOf text) with
    | ⟨'!', '!'⟩ :: rest => fun c => !holds rest c
    | rs => holds rs

/-- The text between brackets and what follows, once the opening one has been read.  A closing
bracket that comes first, also behind an exclamation mark, belongs to the text. -/
def bracketed? (cs : List Char) : Option (List Char × List Char) :=
  let lead := match cs with
    | '!' :: ']' :: _ => 2
    | '!' :: _ | ']' :: _ => 1
    | _ => 0
  let body := (cs.drop lead).takeWhile (· != ']')
  match (cs.drop lead).dropWhile (· != ']') with
  | _ :: rest => some (cs.take lead ++ body, rest)
  | [] => none

/-- The pattern of a name, read with as much fuel as it has characters.  An opening bracket
without a closing one stands for itself. -/
def patternFrom : Nat → List Char → Pattern
  | 0, _ | _, [] => .empty
  | fuel + 1, c :: cs =>
    if c == '*' then .seq (.star (.one fun _ => true)) (patternFrom fuel cs)
    else if c == '?' then .seq (.one fun _ => true) (patternFrom fuel cs)
    else if c == '[' then
      match bracketed? cs with
      | some (text, rest) => .seq (.one (classOf text)) (patternFrom fuel rest)
      | none => .seq (.char '[') (patternFrom fuel cs)
    else .seq (.char c) (patternFrom fuel cs)

/-- The text holds two stars side by side. -/
def hasTwoStars : List Char → Bool
  | '*' :: '*' :: _ => true
  | _ :: cs => hasTwoStars cs
  | [] => false

/-- The pattern that one part of a text writes. -/
def Part.parse (name : String) : Except GlobFault Part :=
  let cs := name.toList
  if name == "**" then .ok .anyDepth
  else if hasTwoStars cs then .error .mixedDepth
  else if cs.any fun c => c == '*' || c == '?' || c == '[' then
    .ok (.wild (patternFrom cs.length cs))
  else .ok (.exact name)

/-- The glob that a text writes. -/
def parse (text : String) : Except GlobFault Glob :=
  let l := Location.parse text
  if l.isAbsolute then .error .absolute
  else (l.names.mapM Part.parse).map fun parts => ⟨parts, text.toList.getLast? == some '/'⟩

/-- A location with the place that it leads to. -/
abbrev Spot := Location × Place

/-- The spot one name further. -/
def further (s : Spot) (name : String) : Spot := (s.1.join [name], s.2.follow name)

/-- The directories at a spot and below it. -/
def directoriesBelow (t : FileTree) (s : Spot) : List Spot :=
  (t.directoriesFrom s.2).map fun p => (s.1.join (p.drop s.2.length), p)

/-- Where a part leads to from a directory. -/
def stepsFrom (t : FileTree) (s : Spot) : Part → Except FileFault (List Spot)
  | .anyDepth => .ok (directoriesBelow t s)
  | .exact name =>
    if FileTree.maxNameBytes < name.utf8ByteSize then .error .nameTooLong
    else
      let next := further s name
      .ok (if (t.entry? next.2).isSome then [next] else [])
  | .wild pattern =>
    .ok (((t.namesIn s.2).filter fun n => pattern.matchesAll n.toList).map (further s))

/-- What parts lead to from a directory; on the way are only directories. -/
def select (t : FileTree) (s : Spot) : List Part → Except FileFault (List Spot)
  | [] => .ok [s]
  | part :: parts => do
    let next ← stepsFrom t s part
    let ahead := if parts.isEmpty then next else next.filter fun s => t.isDirectory s.2
    return (← ahead.mapM fun s => select t s parts).flatten

/-- The files that a glob leads to from a directory or any directory below it, each once, ordered
name by name.  From anything else it leads to none. -/
def filesBelow (g : Glob) (t : FileTree) (working : Place) (root : Location) :
    Except FileFault (List Location) := do
  match ← t.look working root with
  | some .directory =>
    let found ← select t (root, root.place working) (.anyDepth :: g.parts)
    let files := found.filter fun s => t.isFile s.2
    return if g.directoriesOnly then []
      else Import.dedupFrom [] ((files.map (·.1)).mergeSort Location.le)
  | _ => return []

end Glob

end Pageworks
