/-!
# Ranges of code points

A character class is a list of inclusive ranges of code points, and a case mapping is a list of
runs.  Both are data, searched from the front.

## Main definitions

* `Ranges`, `Ranges.has`: a class and its membership test.
* `FoldRun`, `FoldRun.image?`: a run of a case mapping and what it sends a code point to.
-/

namespace Pageworks.Text

/-- A class of characters: inclusive ranges of code points. -/
abbrev Ranges := List (Nat × Nat)

/-- The character lies in one of the ranges. -/
def Ranges.has (rs : Ranges) (c : Char) : Bool :=
  rs.any fun r => r.1 ≤ c.toNat && c.toNat ≤ r.2

/-- A run of a case mapping: `first`, `first + step`, …, `last` go to `image`, `image + step`, … -/
structure FoldRun where
  /-- The first code point of the run. -/
  first : Nat
  /-- The last code point of the run. -/
  last : Nat
  /-- The distance of neighbours in the run. -/
  step : Nat
  /-- What the first code point goes to. -/
  image : Nat

/-- What the run sends a code point to, if it lies in the run. -/
def FoldRun.image? (r : FoldRun) (n : Nat) : Option Nat :=
  if r.first ≤ n && n ≤ r.last && (n - r.first) % r.step == 0 then some (r.image + (n - r.first))
  else none

end Pageworks.Text
