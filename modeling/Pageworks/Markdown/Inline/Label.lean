import Pageworks.Markdown.Inline.Source

/-!
# Labels of links

The label of a link runs from its bracket to the bracket that closes it.  Brackets inside other
pieces do not count, so the pieces on the way have to be passed over; a link among them is one too,
and a link in the label of a link makes the outer one no link.

## Main definitions

* `Passing`: passes over the piece at a place.
* `Source.labelEnd`: the bracket that closes a label.
* `Source.link?`, `Source.image?`: the link and the image at a place.
* `Source.passOver`: passes over pieces, links in links down to a depth.
-/

namespace Pageworks.Markdown

/-- Passes over the piece at a place: the place after it. -/
abbrev Passing := (stop place : Nat) → Memo → Nat × Memo

/-- A link or an image: the label and what it leads to. -/
structure Anchor where
  /-- The first character of the label. -/
  start : Nat
  /-- The bracket that closes the label. -/
  last : Nat
  /-- The address. -/
  url : List Char
  /-- The title. -/
  title : List Char
  /-- The place after the whole. -/
  next : Nat

namespace Source

/-- The bracket that closes the label of which the piece at a place is part, so many brackets being
open.  With `single` no other link may be in the label.  The fuel is the number of characters. -/
def labelEnd (s : Source) (pass : Passing) (single : Bool) (stop : Nat) :
    Nat → Nat → Nat → Memo → Option Nat × Memo
  | 0, _, _, memo => (none, memo)
  | fuel + 1, depth, i, memo =>
    if stop ≤ i then (none, memo)
    else if s.char? i == some ']' && depth == 1 then (some i, memo)
    else
      let (next, memo) := pass stop i memo
      match s.char? i with
      | some ']' => s.labelEnd pass single stop fuel (depth - 1) next memo
      | some '[' =>
        if next == i + 1 then s.labelEnd pass single stop fuel (depth + 1) next memo
        else if single then (none, memo)
        else s.labelEnd pass single stop fuel depth next memo
      | _ => s.labelEnd pass single stop fuel depth next memo

/-- The bracket that closes the label that starts at a place. -/
def closing? (s : Source) (pass : Passing) (single : Bool) (stop i : Nat) (memo : Memo) :
    Option Nat × Memo :=
  s.labelEnd pass single stop (stop - i) 1 i memo

/-- The anchor of a label that stands for a definition.  The label of the definition may follow in
brackets at a place; without one, or with an empty one, the label stands for itself. -/
def byDefinition? (s : Source) (pass : Passing) (stop start last i : Nat) (memo : Memo) :
    Option Anchor × Memo :=
  if s.definitions.isEmpty then (none, memo)
  else
    let (explicit, memo) :=
      if i < stop && s.char? i == some '[' then s.closing? pass false stop (i + 1) memo
      else (none, memo)
    let own := s.between start last
    let (label, next) :=
      match explicit with
      | some e => (if e == i + 1 then own else s.between (i + 1) e, e + 1)
      | none => (own, last + 1)
    ((Definition.find? label s.definitions).map fun d => ⟨start, last, d.url, d.title, next⟩, memo)

/-- The anchor of a label that starts at a place.  An address in parentheses counts before a
definition; where parentheses hold no address, a definition counts only with `loose`. -/
def anchor? (s : Source) (pass : Passing) (single loose : Bool) (stop start : Nat) (memo : Memo) :
    Option Anchor × Memo :=
  match s.closing? pass single stop start memo with
  | (none, memo) => (none, memo)
  | (some last, memo) =>
    if last + 1 < stop && s.char? (last + 1) == some '(' then
      match s.target stop (last + 1) with
      | .found url title next => (some ⟨start, last, url, title, next⟩, memo)
      | .garbled next =>
        if loose then s.byDefinition? pass stop start last next memo else (none, memo)
      | .missing => (none, memo)
    else s.byDefinition? pass stop start last (last + 1) memo

/-- The link at a place. -/
def link? (s : Source) (pass : Passing) (stop i : Nat) (memo : Memo) : Option Anchor × Memo :=
  if s.char? i == some '[' then s.anchor? pass true true stop (i + 1) memo else (none, memo)

/-- The image at a place. -/
def image? (s : Source) (pass : Passing) (stop i : Nat) (memo : Memo) : Option Anchor × Memo :=
  if s.char? i == some '!' && i + 1 < stop && s.char? (i + 1) == some '[' then
    s.anchor? pass false false stop (i + 2) memo
  else (none, memo)

/-- The place after the piece at a place, given how to pass over the pieces of a label. -/
def pieceEnd (s : Source) (pass : Passing) (stop i : Nat) (memo : Memo) : Nat × Memo :=
  match s.char? i with
  | some '\n' => (s.passing isIndent stop (i + 1), memo)
  | some '\\' => ((s.escape? stop i).elim (i + 1) (·.2), memo)
  | some '\x60' =>
    let (_, next, memo) := s.code stop i memo
    (next, memo)
  | some '[' =>
    let (a, memo) := s.link? pass stop i memo
    (a.elim (i + 1) Anchor.next, memo)
  | some '!' =>
    let (a, memo) := s.image? pass stop i memo
    (a.elim (i + 1) Anchor.next, memo)
  | some '<' =>
    (((s.autolink? stop i) <|> (s.tag? stop i)).elim (i + 1) (·.2), memo)
  | some '&' => ((s.reference? stop i).elim (i + 1) (·.2), memo)
  | _ => (max (i + 1) (s.textEnd stop i), memo)

/-- Passes over the piece at a place, links in links down to a depth; below it everything is passed
over.  What is found is kept in the memo. -/
def passOver (s : Source) : Nat → Passing
  | depth, stop, i, memo =>
    match memo.ends.lookup i with
    | some next => (next, memo)
    | none =>
      let (next, memo) :=
        match depth with
        | 0 => (stop + 1, memo)
        | depth + 1 => s.pieceEnd (s.passOver depth) stop i memo
      (next, { memo with ends := (i, next) :: memo.ends })

end Source

end Pageworks.Markdown
