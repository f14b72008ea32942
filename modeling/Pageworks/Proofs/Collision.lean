import Mathlib.Data.List.Nodup
import Pageworks.Build.Survey

/-!
# Documents that generate the same file

The name of a unit keeps less than the path that it is made from, so different documents may
generate files that differ in case only, or not at all.  The documents of a build are looked at one
after the other, and the first one whose name is taken ends the search.

What carries the proofs is that the names taken so far are the names of the documents before, each
with its own document, since no two of those are the same up to case.

## Main definitions

* `SameUnit root d e` — the documents generate the same file up to case.
* `ShareUnit root ds` — two documents at different positions do.
* `Collision.IsFirst c root ds` — the collision is between the first document that generates the same
  file as an earlier one, and that earlier one.

## Main results

* `collision?_eq_some_iff` — **the collision that is found is the first one**.
* `collision?_eq_none_iff` — **none is found if and only if all documents generate files of their own**.
* `collision?_isSome_iff` — one is found wherever two documents generate the same file.
-/

namespace Pageworks

open Pageworks.Text

/-- The documents generate the same file up to case. -/
def SameUnit (root : String) (d e : Document) : Prop :=
  caseFold (Component.unitName d.path root).toList =
    caseFold (Component.unitName e.path root).toList

/-- Two documents at different positions generate the same file up to case. -/
def ShareUnit (root : String) (ds : List Document) : Prop :=
  ∃ i j, ∃ (_ : i < j) (_ : j < ds.length), SameUnit root ds[i] ds[j]

/-- The collision is between the first document that generates the same file as an earlier one, and
that earlier one. -/
def Collision.IsFirst (c : Collision) (root : String) (ds : List Document) : Prop :=
  ∃ before d after, ds = before ++ d :: after ∧
    before.Pairwise (fun x y => ¬ SameUnit root x y) ∧
    ∃ a ∈ before, SameUnit root a d ∧ c = ⟨a.path, d.path, Component.unitName d.path root⟩

/-! ### The names that are taken -/

section

variable {nameOf : Document → String} {seen ds : List Document} {d : Document} {c : Collision}

/-- A name up to case. -/
private def foldedName (nameOf : Document → String) (d : Document) : List Char :=
  caseFold (nameOf d).toList

/-- The names of documents with their owners, the last one first. -/
private def owners (nameOf : Document → String) (ds : List Document) :
    List (List Char × String) :=
  ds.reverse.map fun d => (foldedName nameOf d, d.path)

private theorem owners_concat (seen : List Document) (d : Document) :
    owners nameOf (seen ++ [d]) = (foldedName nameOf d, d.path) :: owners nameOf seen := by
  rw [owners, List.reverse_append, List.reverse_singleton, List.singleton_append, List.map_cons]
  rfl

private theorem mem_owners {x : List Char × String} :
    x ∈ owners nameOf seen ↔ ∃ a ∈ seen, (foldedName nameOf a, a.path) = x := by
  rw [owners, List.mem_map]
  exact exists_congr fun a => and_congr_left fun _ => List.mem_reverse

private theorem ownerOf?_eq_none_iff : ownerOf? (owners nameOf seen) (nameOf d) = none ↔
    foldedName nameOf d ∉ seen.map (foldedName nameOf) := by
  rw [ownerOf?, List.lookup_eq_none_iff, List.mem_map]
  constructor
  · rintro h ⟨a, ha, hname⟩
    exact bne_iff_ne.mp (h _ (mem_owners.mpr ⟨a, ha, rfl⟩)) hname.symm
  · intro h x hx
    obtain ⟨a, ha, rfl⟩ := mem_owners.mp hx
    exact bne_iff_ne.mpr fun hname => h ⟨a, ha, hname.symm⟩

/-- The owner of a name is one of the documents. -/
private theorem exists_of_ownerOf? {first : String}
    (h : ownerOf? (owners nameOf seen) (nameOf d) = some first) :
    ∃ a ∈ seen, foldedName nameOf a = foldedName nameOf d ∧ a.path = first := by
  rw [ownerOf?, List.lookup_eq_some_iff] at h
  obtain ⟨before, after, hsplit, -⟩ := h
  have hmem : (caseFold (nameOf d).toList, first) ∈ owners nameOf seen := by
    rw [hsplit]
    exact List.mem_append_right _ List.mem_cons_self
  obtain ⟨a, ha, heq⟩ := mem_owners.mp hmem
  exact ⟨a, ha, congrArg Prod.fst heq, congrArg Prod.snd heq⟩

/-- One more document with a name of its own. -/
private theorem nodup_concat (hseen : (seen.map (foldedName nameOf)).Nodup)
    (hd : foldedName nameOf d ∉ seen.map (foldedName nameOf)) :
    ((seen ++ [d]).map (foldedName nameOf)).Nodup := by
  rw [List.map_append, List.map_singleton, ← List.concat_eq_append]
  exact hseen.concat hd

private theorem collisionFrom?_cons_of_some {first : String}
    (h : ownerOf? (owners nameOf seen) (nameOf d) = some first) :
    collisionFrom? nameOf (owners nameOf seen) (d :: ds) = some ⟨first, d.path, nameOf d⟩ := by
  rw [collisionFrom?, h]

/-- A document with a name of its own joins those before. -/
private theorem collisionFrom?_cons_of_none (h : ownerOf? (owners nameOf seen) (nameOf d) = none) :
    collisionFrom? nameOf (owners nameOf seen) (d :: ds) =
      collisionFrom? nameOf (owners nameOf (seen ++ [d])) ds := by
  rw [collisionFrom?, h, owners_concat]
  rfl

private theorem collisionFrom?_eq_none_iff (hseen : (seen.map (foldedName nameOf)).Nodup) :
    collisionFrom? nameOf (owners nameOf seen) ds = none ↔
      ((seen ++ ds).map (foldedName nameOf)).Nodup := by
  induction ds generalizing seen with
  | nil =>
    rw [List.append_nil]
    exact ⟨fun _ => hseen, fun _ => rfl⟩
  | cons d ds ih =>
    cases howner : ownerOf? (owners nameOf seen) (nameOf d) with
    | some first =>
      obtain ⟨a, ha, hname, -⟩ := exists_of_ownerOf? howner
      rw [collisionFrom?_cons_of_some howner]
      refine iff_of_false (by simp) fun hnodup => ?_
      rw [List.map_append, List.nodup_append] at hnodup
      exact hnodup.2.2 _ (List.mem_map_of_mem ha) _ (List.mem_map_of_mem List.mem_cons_self) hname
    | none =>
      rw [collisionFrom?_cons_of_none howner,
        ih (nodup_concat hseen (ownerOf?_eq_none_iff.mp howner)), List.append_assoc,
        List.singleton_append]

private theorem collisionFrom?_eq_some_iff (hseen : (seen.map (foldedName nameOf)).Nodup) :
    collisionFrom? nameOf (owners nameOf seen) ds = some c ↔
      ∃ before d after, ds = before ++ d :: after ∧
        ((seen ++ before).map (foldedName nameOf)).Nodup ∧
        ∃ a ∈ seen ++ before, foldedName nameOf a = foldedName nameOf d ∧
          c = ⟨a.path, d.path, nameOf d⟩ := by
  induction ds generalizing seen with
  | nil =>
    refine iff_of_false (by simp [collisionFrom?]) ?_
    rintro ⟨before, d, after, hsplit, -⟩
    exact List.append_ne_nil_of_right_ne_nil before (List.cons_ne_nil d after) hsplit.symm
  | cons d ds ih =>
    cases howner : ownerOf? (owners nameOf seen) (nameOf d) with
    | some first =>
      obtain ⟨a, ha, hname, rfl⟩ := exists_of_ownerOf? howner
      rw [collisionFrom?_cons_of_some howner]
      constructor
      · intro h
        refine ⟨[], d, ds, rfl, by rwa [List.append_nil], a, by rwa [List.append_nil], hname, ?_⟩
        exact (Option.some.inj h).symm
      · rintro ⟨before, e, after, hsplit, hnodup, b, hb, hbname, rfl⟩
        -- the document has an owner for its name, so none before it has one
        cases before with
        | nil =>
          obtain ⟨rfl, -⟩ := List.cons.inj hsplit
          rw [List.append_nil] at hb
          rw [List.inj_on_of_nodup_map hseen ha hb (hname.trans hbname.symm)]
        | cons x before =>
          obtain ⟨rfl, -⟩ := List.cons.inj hsplit
          rw [List.map_append, List.nodup_append] at hnodup
          exact absurd hname (hnodup.2.2 _ (List.mem_map_of_mem ha) _
            (List.mem_map_of_mem List.mem_cons_self))
    | none =>
      have hd := ownerOf?_eq_none_iff.mp howner
      rw [collisionFrom?_cons_of_none howner, ih (nodup_concat hseen hd)]
      constructor
      · rintro ⟨before, e, after, rfl, h⟩
        rw [List.append_assoc, List.singleton_append] at h
        exact ⟨d :: before, e, after, rfl, h⟩
      · rintro ⟨before, e, after, hsplit, hnodup, a, ha, hname, hc⟩
        cases before with
        | nil =>
          obtain ⟨rfl, -⟩ := List.cons.inj hsplit
          rw [List.append_nil] at ha
          exact absurd (hname ▸ List.mem_map_of_mem ha) hd
        | cons x before =>
          obtain ⟨rfl, rfl⟩ := List.cons.inj hsplit
          refine ⟨before, e, after, rfl, ?_, a, ?_, hname, hc⟩
          · rwa [List.append_assoc, List.singleton_append]
          · rwa [List.append_assoc, List.singleton_append]

end

/-! ### Collisions -/

section

variable {root : String} {ds : List Document}

private theorem nodup_foldedName_iff :
    (ds.map (foldedName fun d => Component.unitName d.path root)).Nodup ↔
      ds.Pairwise fun d e => ¬ SameUnit root d e := List.pairwise_map

/-- Before the first document no name is taken. -/
private theorem nodup_foldedName_nil {nameOf : Document → String} :
    (([] : List Document).map (foldedName nameOf)).Nodup := List.nodup_nil

/-- **The collision that is found is the first one.** -/
theorem collision?_eq_some_iff {c : Collision} :
    collision? root ds = some c ↔ c.IsFirst root ds := by
  refine Iff.trans (collisionFrom?_eq_some_iff nodup_foldedName_nil) ?_
  simp only [List.nil_append, nodup_foldedName_iff]
  exact Iff.rfl

/-- **No collision is found if and only if all documents generate files of their own.** -/
theorem collision?_eq_none_iff :
    collision? root ds = none ↔ ds.Pairwise fun d e => ¬ SameUnit root d e :=
  (collisionFrom?_eq_none_iff nodup_foldedName_nil).trans nodup_foldedName_iff

/-- **A collision is found wherever two documents generate the same file.** -/
theorem collision?_isSome_iff : (∃ c, collision? root ds = some c) ↔ ShareUnit root ds := by
  rw [ShareUnit, ← Option.isSome_iff_exists, ← not_iff_not, Bool.not_eq_true, Option.isSome_eq_false_iff,
    Option.isNone_iff_eq_none, collision?_eq_none_iff, List.pairwise_iff_getElem]
  constructor
  · rintro h ⟨i, j, hij, hj, hsame⟩
    exact h i j (Nat.lt_trans hij hj) hj hij hsame
  · intro h i j _ hj hij hsame
    exact h ⟨i, j, hij, hj, hsame⟩

/-- Documents without a collision generate files of different names, so their paths differ too. -/
theorem nodup_of_collision? (h : collision? root ds = none) :
    (ds.map fun d => Component.unitName d.path root).Nodup := by
  rw [List.nodup_iff_pairwise_ne, List.pairwise_map]
  refine (collision?_eq_none_iff.mp h).imp fun hne hname => hne ?_
  rw [SameUnit, hname]

end

end Pageworks
