import Pageworks.Text.Blank

/-!
# Patterns

A pattern describes beginnings of a text.  Alternatives are tried in order and repetitions take
as much as they can, giving back only as far as the rest of the pattern needs; so a match is
determined by the order in which the pattern is written.

## Main definitions

* `Pattern`: the syntax.
* `Pattern.run`: the first match that the continuation accepts.
* `Pattern.after?`: the rest of the text after the match.
* `Pattern.matchesAll`, `Pattern.occurs`: the pattern describes the whole text, or a part of it.
-/

namespace Pageworks.Text

/-- Descriptions of the beginning of a text. -/
inductive Pattern
  /-- Nothing. -/
  | empty
  /-- One character of a class. -/
  | one (p : Char → Bool)
  /-- One pattern, then the other. -/
  | seq (a b : Pattern)
  /-- The first pattern or else the second. -/
  | alt (a b : Pattern)
  /-- As many repetitions as possible. -/
  | star (a : Pattern)
  /-- Nothing, where the pattern does not match. -/
  | barring (a : Pattern)
  /-- Nothing, at the end of the text. -/
  | atEnd

namespace Pattern

/-- The first way to match that the continuation accepts.  A repetition must consume. -/
def run {α : Type} : Pattern → List Char → (List Char → Option α) → Option α
  | .empty, s, k => k s
  | .one _, [], _ => none
  | .one p, c :: s, k => if p c then k s else none
  | .seq a b, s, k => run a s fun s' => if _h : s'.length ≤ s.length then run b s' k else none
  | .alt a b, s, k =>
    match run a s k with
    | some r => some r
    | none => run b s k
  | .star a, s, k =>
    match run a s fun s' => if _h : s'.length < s.length then run (.star a) s' k else none with
    | some r => some r
    | none => k s
  | .barring a, s, k =>
    match run a s some with
    | some _ => none
    | none => k s
  | .atEnd, s, k => if s.isEmpty then k s else none
termination_by p s => (s.length, sizeOf p)
decreasing_by
  all_goals simp_wf
  all_goals first
    | (apply Prod.Lex.right; omega)
    | (apply Prod.Lex.left; assumption)
    | (rcases Nat.lt_or_eq_of_le _h with h | h
       · exact Prod.Lex.left _ _ h
       · rw [h]; apply Prod.Lex.right; omega)

/-- The rest of the text after the pattern, if the text starts with it. -/
def after? (p : Pattern) (s : List Char) : Option (List Char) := p.run s some

/-- The pattern describes the whole text. -/
def matchesAll (p : Pattern) (s : List Char) : Bool :=
  (p.run s fun r => if r.isEmpty then some () else none).isSome

/-- The pattern describes some part of the text. -/
def occurs (p : Pattern) : List Char → Bool
  | [] => (p.after? []).isSome
  | c :: cs => (p.after? (c :: cs)).isSome || occurs p cs

/-- A given character. -/
def char (c : Char) : Pattern := one (· == c)

/-- A given text. -/
def word (s : String) : Pattern := s.toList.foldr (fun c p => seq (char c) p) empty

/-- One of the given characters. -/
def among (s : String) : Pattern := one fun c => s.toList.contains c

/-- One or more repetitions. -/
def plus (a : Pattern) : Pattern := seq a (star a)

/-- The pattern or nothing. -/
def opt (a : Pattern) : Pattern := alt a empty

/-- A sequence of patterns. -/
def all (ps : List Pattern) : Pattern := ps.foldr seq empty

/-- The first pattern that matches. -/
def any : List Pattern → Pattern
  | [] => one fun _ => false
  | [p] => p
  | p :: ps => alt p (any ps)

/-- Between `lo` and `hi` repetitions, as many as possible. -/
def times (a : Pattern) : Nat → Nat → Pattern
  | _, 0 => empty
  | 0, hi + 1 => opt (seq a (times a 0 hi))
  | lo + 1, hi + 1 => seq a (times a lo hi)

end Pattern

end Pageworks.Text
