import Mathlib.Tactic.Common
import Pageworks.Import

/-!
# Import files as sets of names

The names that govern a document are sorted and each is written once.  So neither the order of
the import files nor a name that several of them declare can be seen in a unit.

## Main results

* `Import.mem_dedupFrom`, `Import.nodup_dedupFrom` — leaving out later copies loses nothing and
  leaves every element once.
* `Import.sortedSet_congr` — **a sorted set is known by its members.**
* `Import.names_congr` — the names of import files depend on the set of their texts only.
-/

namespace Pageworks.Import

/-! ### Later copies left out -/

variable {α : Type} [BEq α] [LawfulBEq α]

theorem mem_dedupFrom {a : α} {as : List α} :
    ∀ {seen : List α}, a ∈ dedupFrom seen as ↔ a ∈ as ∧ a ∉ seen := by
  induction as with
  | nil => intro seen; simp [dedupFrom]
  | cons x as ih =>
    intro seen
    rw [dedupFrom]
    by_cases hx : x ∈ seen
    · rw [if_pos (List.contains_iff_mem.mpr hx), ih, List.mem_cons]
      constructor
      · rintro ⟨has, hseen⟩
        exact ⟨.inr has, hseen⟩
      · rintro ⟨rfl | has, hseen⟩
        · exact absurd hx hseen
        · exact ⟨has, hseen⟩
    · rw [if_neg (mt List.contains_iff_mem.mp hx), List.mem_cons, ih, List.mem_cons, List.mem_cons]
      constructor
      · rintro (rfl | ⟨has, hseen⟩)
        · exact ⟨.inl rfl, hx⟩
        · exact ⟨.inr has, fun h => hseen (.inr h)⟩
      · rintro ⟨rfl | has, hseen⟩
        · exact .inl rfl
        · by_cases hax : a = x
          · exact .inl hax
          · exact .inr ⟨has, fun h => h.elim hax hseen⟩

theorem nodup_dedupFrom (as : List α) : ∀ seen : List α, (dedupFrom seen as).Nodup := by
  induction as with
  | nil => intro seen; exact List.nodup_nil
  | cons x as ih =>
    intro seen
    rw [dedupFrom]
    split
    · exact ih seen
    · refine List.nodup_cons.mpr ⟨?_, ih _⟩
      rw [mem_dedupFrom]
      exact fun h => h.2 List.mem_cons_self

omit [LawfulBEq α] in
theorem dedupFrom_sublist (as : List α) : ∀ seen : List α, (dedupFrom seen as).Sublist as := by
  induction as with
  | nil => intro seen; exact List.Sublist.refl _
  | cons x as ih =>
    intro seen
    rw [dedupFrom]
    split
    · exact (ih seen).cons x
    · exact (ih _).cons_cons x

/-! ### Sorted sets -/

theorem mem_sortedSet {a : String} {as : List String} : a ∈ sortedSet as ↔ a ∈ as := by
  rw [sortedSet, mem_dedupFrom, List.mem_mergeSort]
  exact ⟨And.left, fun h => ⟨h, List.not_mem_nil⟩⟩

/-- A sorted set is in code-point order. -/
theorem pairwise_sortedSet (as : List String) : (sortedSet as).Pairwise (· ≤ ·) := by
  have hsorted : (as.mergeSort fun a b => decide (a ≤ b)).Pairwise
      fun a b => decide (a ≤ b) = true := by
    refine List.pairwise_mergeSort ?_ ?_ as
    · intro a b c hab hbc
      exact decide_eq_true (String.le_trans (of_decide_eq_true hab) (of_decide_eq_true hbc))
    · intro a b
      rw [Bool.or_eq_true, decide_eq_true_iff, decide_eq_true_iff]
      exact String.le_total a b
  exact (hsorted.sublist (dedupFrom_sublist _ _)).imp of_decide_eq_true

/-- **A sorted set is known by its members.** -/
theorem sortedSet_congr {as bs : List String} (h : ∀ a, a ∈ as ↔ a ∈ bs) :
    sortedSet as = sortedSet bs := by
  -- both hold every member once, and there is only one way to sort it
  have hperm : (sortedSet as).Perm (sortedSet bs) := by
    refine (List.perm_ext_iff_of_nodup (nodup_dedupFrom _ _) (nodup_dedupFrom _ _)).mpr ?_
    intro a
    exact mem_sortedSet.trans ((h a).trans mem_sortedSet.symm)
  exact hperm.eq_of_pairwise (fun a b _ _ => String.le_antisymm) (pairwise_sortedSet as)
    (pairwise_sortedSet bs)

/-- The names of import files depend on the set of their texts only. -/
theorem names_congr {es fs : List ImportEntry}
    (h : ∀ text, text ∈ es.map ImportEntry.text ↔ text ∈ fs.map ImportEntry.text)
    (extra : List String) : names es extra = names fs extra := by
  have hnames : ∀ gs : List ImportEntry,
      gs.flatMap ImportEntry.names = (gs.map ImportEntry.text).flatMap scan := by
    intro gs
    rw [List.flatMap_map]
    rfl
  rw [names, names, hnames, hnames]
  refine sortedSet_congr fun name => ?_
  simp only [List.mem_append, List.mem_flatMap, h]

/-! ### Governing entries -/

theorem applicable_of_parent?_eq_none {document : String} (h : Path.parent? document = none)
    (es : List ImportEntry) : applicable es document = .error ⟨.noDirectory, document⟩ := by
  rw [applicable, h]

theorem applicable_of_parent? {document dir : String} (h : Path.parent? document = some dir)
    (es : List ImportEntry) :
    applicable es document = .ok (es.filter fun e => Path.isWithin dir e.directory) := by
  rw [applicable, h]

/-- What governs a document is selected from all entries by its directory. -/
theorem applicable_eq_ok_iff {es imports : List ImportEntry} {document : String} :
    applicable es document = .ok imports ↔ ∃ dir, Path.parent? document = some dir ∧
      imports = es.filter fun e => Path.isWithin dir e.directory := by
  constructor
  · intro h
    cases hdir : Path.parent? document with
    | none => rw [applicable_of_parent?_eq_none hdir] at h; cases h
    | some dir =>
      rw [applicable_of_parent? hdir] at h
      exact ⟨dir, rfl, (Except.ok.inj h).symm⟩
  · rintro ⟨dir, hdir, rfl⟩
    exact applicable_of_parent? hdir es

/-- Which entries govern a document depends on their paths only. -/
theorem applicable_map {f : ImportEntry → ImportEntry} (hf : ∀ e, (f e).path = e.path)
    (es : List ImportEntry) (document : String) :
    applicable (es.map f) document = (applicable es document).map (List.map f) := by
  rw [applicable, applicable]
  cases Path.parent? document with
  | none => rfl
  | some dir =>
    have hfilter : es.filter ((fun e => Path.isWithin dir e.directory) ∘ f) =
        es.filter fun e => Path.isWithin dir e.directory := by
      refine List.filter_congr fun e _ => ?_
      rw [Function.comp_apply, ImportEntry.directory, hf, ImportEntry.directory]
    exact congrArg Except.ok (List.filter_map.trans (congrArg (List.map f) hfilter))

end Pageworks.Import
