import Mathlib.Data.List.Nodup
import Pageworks.Proofs.Location
import Pageworks.Store

/-!
# The record store as a map from paths

With at most one record for a path, the store is a map: what it holds for a path says everything,
and committing or removing a record changes what it holds for one path.

## Main results

* `Store.mem_records_iff` — a record is in the store if the store holds it for its path.
* `Store.get?_commit`, `Store.get?_remove` — **each change concerns one path.**
-/

namespace Pageworks.Store

variable {s : Store} {r : Record} {path : String}

/-- What the store holds for a path has that path. -/
theorem path_of_get? (h : s.get? path = some r) : r.path = path :=
  beq_iff_eq.mp (List.find?_some (p := fun r : Record => r.path == path) h)

theorem mem_records_of_get? (h : s.get? path = some r) : r ∈ s.records :=
  List.mem_of_find?_eq_some h

/-- A record is in the store if the store holds it for its path. -/
theorem mem_records_iff : r ∈ s.records ↔ s.get? r.path = some r := by
  refine ⟨fun h => ?_, mem_records_of_get?⟩
  obtain ⟨x, hx⟩ : ∃ x, s.get? r.path = some x :=
    Option.isSome_iff_exists.mp (List.find?_isSome.mpr ⟨r, h, beq_self_eq_true _⟩)
  rw [hx, List.inj_on_of_nodup_map s.distinct (mem_records_of_get? hx) h (path_of_get? hx)]

theorem get?_eq_some_iff : s.get? path = some r ↔ r ∈ s.records ∧ r.path = path := by
  constructor
  · intro h
    exact ⟨mem_records_of_get? h, path_of_get? h⟩
  · rintro ⟨h, rfl⟩
    exact mem_records_iff.mp h

theorem get?_eq_none_iff : s.get? path = none ↔ path ∉ s.records.map Record.path := by
  rw [List.mem_map, Option.eq_none_iff_forall_ne_some]
  constructor
  · rintro h ⟨r, hr, rfl⟩
    exact h r (mem_records_iff.mp hr)
  · intro h r hr
    exact h ⟨r, get?_eq_some_iff.mp hr⟩

/-! ### Changes -/

theorem mem_put {x : Record} :
    x ∈ (s.put r).records ↔ x = r ∨ x ∈ s.records ∧ x.path ≠ r.path := by
  rw [put]
  split
  · next h =>
    change x ∈ replaced r s.records ↔ _
    rw [replaced, List.mem_map]
    constructor
    · rintro ⟨y, hy, rfl⟩
      split
      · exact .inl rfl
      · next hne => exact .inr ⟨hy, by simpa using hne⟩
    · rintro (rfl | ⟨hx, hne⟩)
      · obtain ⟨y, hy, hpath⟩ := List.mem_map.mp h
        exact ⟨y, hy, if_pos (beq_iff_eq.mpr hpath)⟩
      · exact ⟨x, hx, if_neg (by simpa using hne)⟩
  · next h =>
    rw [List.mem_append, List.mem_singleton]
    constructor
    · rintro (hx | rfl)
      · exact .inr ⟨hx, fun hpath => h (hpath ▸ List.mem_map_of_mem hx)⟩
      · exact .inl rfl
    · rintro (rfl | ⟨hx, -⟩)
      · exact .inr rfl
      · exact .inl hx

theorem mem_remove {x : Record} : x ∈ (s.remove path).records ↔ x ∈ s.records ∧ x.path ≠ path := by
  rw [remove, List.mem_filter, bne_iff_ne]

theorem get?_put (s : Store) (r : Record) (path : String) :
    (s.put r).get? path = if path = r.path then some r else s.get? path := by
  ext x
  rw [get?_eq_some_iff, mem_put]
  by_cases hpath : path = r.path
  · rw [if_pos hpath, Option.some.injEq, hpath]
    constructor
    · rintro ⟨rfl | ⟨-, hne⟩, hx⟩
      · rfl
      · exact absurd hx hne
    · rintro rfl
      exact ⟨.inl rfl, rfl⟩
  · rw [if_neg hpath, get?_eq_some_iff]
    constructor
    · rintro ⟨rfl | ⟨hx, -⟩, rfl⟩
      · exact absurd rfl hpath
      · exact ⟨hx, rfl⟩
    · rintro ⟨hx, rfl⟩
      exact ⟨.inr ⟨hx, hpath⟩, rfl⟩

theorem get?_remove (s : Store) (p path : String) :
    (s.remove p).get? path = if path = p then none else s.get? path := by
  ext x
  rw [get?_eq_some_iff, mem_remove]
  by_cases hpath : path = p
  · rw [if_pos hpath, hpath]
    constructor
    · rintro ⟨⟨-, hne⟩, hx⟩
      exact absurd hx hne
    · intro h
      cases h
  · rw [if_neg hpath, get?_eq_some_iff]
    constructor
    · rintro ⟨⟨hx, -⟩, rfl⟩
      exact ⟨hx, rfl⟩
    · rintro ⟨hx, rfl⟩
      exact ⟨⟨hx, hpath⟩, rfl⟩

/-- What a store holds for the path of a record once it is committed: the old record, if it was
made from the same key. -/
def kept (r : Record) : Option Record → Record
  | some old => if old.cacheKey == r.cacheKey then old else r
  | none => r

/-- Committing a record concerns its path only. -/
theorem get?_commit (s : Store) (r : Record) (path : String) :
    (s.commit r).1.get? path =
      if path = r.path then some (kept r (s.get? path)) else s.get? path := by
  rw [commit]
  by_cases hpath : path = r.path
  · rw [if_pos hpath, hpath]
    cases hold : s.get? r.path with
    | none => exact (get?_put s r r.path).trans (if_pos rfl)
    | some old =>
      dsimp only [kept]
      split
      · exact hold
      · exact (get?_put s r r.path).trans (if_pos rfl)
  · rw [if_neg hpath]
    cases s.get? r.path with
    | none => exact (get?_put s r path).trans (if_neg hpath)
    | some old =>
      dsimp only
      split
      · rfl
      · exact (get?_put s r path).trans (if_neg hpath)

end Pageworks.Store
