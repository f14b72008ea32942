import Pageworks.Text.Table.Folding

/-!
# Case folding

Two texts are the same up to case when their full case foldings are equal.

## Main definitions

* `caseFold`: full case folding, character by character.
* `upperFold`: the upper case of the lower case, the key under which link labels are matched.
-/

namespace Pageworks.Text

/-- What a case mapping sends a character to; a character without an entry stays. -/
def mapCase (runs : List FoldRun) (expansions : List (Nat × List Nat)) (c : Char) : List Char :=
  match runs.findSome? fun r => r.image? c.toNat with
  | some n => [Char.ofNat n]
  | none =>
    match expansions.lookup c.toNat with
    | some ns => ns.map Char.ofNat
    | none => [c]

/-- Full case folding of a text. -/
def caseFold (cs : List Char) : List Char :=
  cs.flatMap (mapCase Table.caseFoldRuns Table.caseFoldExpansions)

/-- The full upper case of the full lower case of a text. -/
def upperFold (cs : List Char) : List Char :=
  cs.flatMap (mapCase Table.upperOfLowerRuns Table.upperOfLowerExpansions)

@[simp] theorem caseFold_nil : caseFold [] = [] := rfl

end Pageworks.Text
