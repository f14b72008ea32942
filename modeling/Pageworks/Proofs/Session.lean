import Pageworks.Proofs.Store

/-!
# Sessions and their histories

Whatever is asked of a session, in whatever order, the session is a map from paths to records with
one snapshot: for every path it holds the record that was written last, of all the changes that
have not been taken back.

A history is a list of requests, the newest first.  What a rollback takes back is told from the
history alone: everything down to the last save.  What carries the proof is that a session shows
what it would show if nothing that was taken back had ever been asked.

## Main definitions

* `Request`, `Session.of` — what is asked of a session, and the session after a history.
* `Request.inEffect` — a history without what was taken back.
* `LastWrite path r h` — in the history, `r` was written to the path and has not been written over
  or removed since.
* `Session.Reflects σ h` — everything that the session answers is told by the history.

## Main results

* `Session.rollback_of` — a rollback leads back to the last save.
* `Session.live_inEffect` — **what was taken back leaves no trace.**
* `Session.get?_of_iff` — **a session holds what was written last.**
* `Session.reflects_of` — **every session reflects its history.**
-/

namespace Pageworks

namespace Store

variable {s : Store} {r : Record}

/-! ### Committing -/

/-- All that a commit can do. -/
theorem commit_cases (s : Store) (r : Record) :
    (s.get? r.path = none ∧ s.commit r = (s.put r, r, .created)) ∨
      (∃ old, s.get? r.path = some old ∧ old.cacheKey = r.cacheKey ∧
        s.commit r = (s, old, .unchanged)) ∨
      ∃ old, s.get? r.path = some old ∧ old.cacheKey ≠ r.cacheKey ∧
        s.commit r = (s.put r, r, .updated) := by
  rw [commit]
  cases hold : s.get? r.path with
  | none => exact .inl ⟨rfl, rfl⟩
  | some old =>
    by_cases hkey : old.cacheKey = r.cacheKey
    · exact .inr (.inl ⟨old, rfl, hkey, if_pos (beq_iff_eq.mpr hkey)⟩)
    · exact .inr (.inr ⟨old, rfl, hkey, if_neg fun h => hkey (beq_iff_eq.mp h)⟩)

theorem commit_created_iff : (s.commit r).2.2 = .created ↔ s.get? r.path = none := by
  rcases s.commit_cases r with ⟨hnone, hc⟩ | ⟨old, hold, -, hc⟩ | ⟨old, hold, -, hc⟩
  · rw [hc]
    exact ⟨fun _ => hnone, fun _ => rfl⟩
  all_goals
    rw [hc, hold]
    exact ⟨nofun, nofun⟩

theorem commit_unchanged_iff : (s.commit r).2.2 = .unchanged ↔
    ∃ old, s.get? r.path = some old ∧ old.cacheKey = r.cacheKey := by
  rcases s.commit_cases r with ⟨hnone, hc⟩ | ⟨old, hold, hkey, hc⟩ | ⟨old, hold, hkey, hc⟩
  · rw [hc, hnone]
    exact ⟨nofun, nofun⟩
  · rw [hc]
    exact ⟨fun _ => ⟨old, hold, hkey⟩, fun _ => rfl⟩
  · rw [hc]
    refine ⟨nofun, ?_⟩
    rintro ⟨x, hx, hxkey⟩
    obtain rfl := Option.some.inj (hold.symm.trans hx)
    exact absurd hxkey hkey

theorem commit_updated_iff : (s.commit r).2.2 = .updated ↔
    ∃ old, s.get? r.path = some old ∧ old.cacheKey ≠ r.cacheKey := by
  rcases s.commit_cases r with ⟨hnone, hc⟩ | ⟨old, hold, hkey, hc⟩ | ⟨old, hold, hkey, hc⟩
  · rw [hc, hnone]
    exact ⟨nofun, nofun⟩
  · rw [hc]
    refine ⟨nofun, ?_⟩
    rintro ⟨x, hx, hxkey⟩
    obtain rfl := Option.some.inj (hold.symm.trans hx)
    exact absurd hkey hxkey
  · rw [hc]
    exact ⟨fun _ => ⟨old, hold, hkey⟩, fun _ => rfl⟩

/-- A commit from the key that is stored already changes nothing and answers what is stored. -/
theorem commit_of_unchanged (h : (s.commit r).2.2 = .unchanged) :
    (s.commit r).1 = s ∧ s.get? r.path = some (s.commit r).2.1 := by
  rcases s.commit_cases r with ⟨-, hc⟩ | ⟨old, hold, -, hc⟩ | ⟨old, -, -, hc⟩
  · rw [hc] at h
    cases h
  · rw [hc]
    exact ⟨rfl, hold⟩
  · rw [hc] at h
    cases h

/-- Any other commit stores its record. -/
theorem commit_of_ne_unchanged (h : (s.commit r).2.2 ≠ .unchanged) :
    s.commit r = (s.put r, r, (s.commit r).2.2) := by
  rcases s.commit_cases r with ⟨-, hc⟩ | ⟨old, -, -, hc⟩ | ⟨old, -, -, hc⟩
  · rw [hc]
  · rw [hc] at h
    exact absurd rfl h
  · rw [hc]

theorem isCurrent_iff {path key : String} :
    s.isCurrent path key = true ↔ ∃ r, s.get? path = some r ∧ r.cacheKey = key := by
  rw [isCurrent, Option.any_eq_true]
  exact exists_congr fun r => and_congr_right fun _ => beq_iff_eq

/-! ### Listing -/

theorem perm_all (s : Store) : s.all.Perm s.records := List.mergeSort_perm _ _

theorem listed_trans (a b c : Record) (hab : decide (a.unitName ≤ b.unitName) = true)
    (hbc : decide (b.unitName ≤ c.unitName) = true) : decide (a.unitName ≤ c.unitName) = true :=
  decide_eq_true (String.le_trans (of_decide_eq_true hab) (of_decide_eq_true hbc))

theorem listed_total (a b : Record) :
    (decide (a.unitName ≤ b.unitName) || decide (b.unitName ≤ a.unitName)) = true := by
  rw [Bool.or_eq_true, decide_eq_true_iff, decide_eq_true_iff]
  exact String.le_total _ _

theorem pairwise_all (s : Store) : s.all.Pairwise fun a b => a.unitName ≤ b.unitName :=
  (List.pairwise_mergeSort listed_trans listed_total s.records).imp fun h => decide_eq_true_iff.mp h

end Store

/-! ### Histories -/

/-- What is asked of a session. -/
inductive Request
  /-- A record is committed. -/
  | commit (r : Record)
  /-- The record of a path is removed. -/
  | remove (path : String)
  /-- All changes are kept. -/
  | save
  /-- The changes since the last save are taken back. -/
  | rollback
  /-- The record of a path is looked up. -/
  | get (path : String)
  /-- The record of a path is compared with a key. -/
  | isCurrent (path cacheKey : String)
  /-- All records are listed. -/
  | all
  deriving DecidableEq

namespace Session

/-- The session after one more request. -/
def serve (σ : Session) : Request → Session
  | .commit r => (σ.commit r).1
  | .remove path => (σ.remove path).1
  | .save => σ.save
  | .rollback => σ.rollback
  | .get _ | .isCurrent _ _ | .all => σ

/-- The session that was opened on an empty store, after a history. -/
def of : List Request → Session
  | [] => empty
  | q :: h => (of h).serve q

end Session

namespace Request

/-- The history up to the last save. -/
def untilSave (h : List Request) : List Request := h.dropWhile (· != .save)

/-- The history without what was taken back, and without the rollbacks themselves. -/
def inEffect : List Request → List Request
  | [] => []
  | .rollback :: h => inEffect (untilSave h)
  | q :: h => q :: inEffect h
termination_by h => h.length
decreasing_by
  · exact Nat.lt_succ_of_le (List.dropWhile_sublist _).length_le
  · exact Nat.lt_succ_self _

/-- After the history, the request changes what is held for the path: a record is written to it, or
removed from it.  A commit that leaves its record unchanged writes nothing. -/
def Changes (h : List Request) (path : String) : Request → Prop
  | .commit r => r.path = path ∧ ((Session.of h).commit r).2.2 ≠ .unchanged
  | .remove p => p = path
  | _ => False

end Request

/-- In the history, the record was written to the path, and nothing has changed there since. -/
inductive LastWrite (path : String) (r : Record) : List Request → Prop
  | written {h : List Request} (hr : (Request.commit r).Changes h path) :
    LastWrite path r (.commit r :: h)
  | kept {h : List Request} {q : Request} (hw : LastWrite path r h) (hq : ¬ q.Changes h path) :
    LastWrite path r (q :: h)

namespace Session

open Request

variable {h : List Request} {path : String} {r : Record}

theorem saved_serve (σ : Session) {q : Request} (hq : q ≠ .save) :
    (σ.serve q).saved = σ.saved := by
  cases q with
  | save => exact absurd rfl hq
  | _ => rfl

/-- A rollback leads back to the last save. -/
theorem rollback_of (h : List Request) : (of h).rollback = of (untilSave h) := by
  induction h with
  | nil => rfl
  | cons q h ih =>
    by_cases hq : q = .save
    · rw [hq]
      rfl
    · have hskip : untilSave (q :: h) = untilSave h :=
        List.dropWhile_cons_of_pos (bne_iff_ne.mpr hq)
      have hsaved : (of (q :: h)).saved = (of h).saved := (of h).saved_serve hq
      rw [hskip, ← ih, rollback, hsaved]
      rfl

theorem untilSave_append {newer older : List Request} (hnewer : Request.save ∉ newer) :
    untilSave (newer ++ .save :: older) = .save :: older := by
  have hall : ∀ q ∈ newer, (q != .save) = true := fun q hq =>
    bne_iff_ne.mpr fun heq => hnewer (heq ▸ hq)
  rw [untilSave, List.dropWhile_append_of_pos hall]
  rfl

theorem untilSave_eq_nil (hsave : Request.save ∉ h) : untilSave h = [] :=
  List.dropWhile_eq_nil_iff.mpr fun _ hq => bne_iff_ne.mpr fun heq => hsave (heq ▸ hq)

/-- **What was taken back leaves no trace.** -/
theorem live_inEffect (h : List Request) : (of (inEffect h)).live = (of h).live := by
  induction h using inEffect.induct with
  | case1 => rw [inEffect]
  | case2 h ih =>
    rw [inEffect, ih, ← rollback_of]
    rfl
  | case3 q h hq ih =>
    rw [inEffect]
    · -- everything but a rollback does to what is shown what it does wherever the same is shown
      cases q with
      | rollback => exact absurd rfl hq
      | commit r =>
        change ((of (inEffect h)).live.commit r).1 = ((of h).live.commit r).1
        rw [ih]
      | remove p =>
        change (of (inEffect h)).live.remove p = (of h).live.remove p
        rw [ih]
      | save => exact ih
      | get _ => exact ih
      | isCurrent _ _ => exact ih
      | all => exact ih
    · exact hq

theorem rollback_notMem_inEffect (h : List Request) : Request.rollback ∉ inEffect h := by
  induction h using inEffect.induct with
  | case1 => rw [inEffect]; exact List.not_mem_nil
  | case2 h ih => rw [inEffect]; exact ih
  | case3 q h hq ih =>
    rw [inEffect]
    · rw [List.mem_cons, not_or]
      exact ⟨fun heq => hq heq.symm, ih⟩
    · exact hq

/-- A request that does not change what is held for a path leaves it as it is. -/
theorem get?_serve {q : Request} (hroll : q ≠ .rollback) (hq : ¬ q.Changes h path) :
    ((of h).serve q).live.get? path = (of h).live.get? path := by
  cases q with
  | rollback => exact absurd rfl hroll
  | commit x =>
    change ((of h).live.commit x).1.get? path = _
    by_cases hpath : x.path = path
    · have hstatus : ((of h).live.commit x).2.2 = .unchanged :=
        Decidable.not_not.mp fun hne => hq ⟨hpath, hne⟩
      rw [(Store.commit_of_unchanged hstatus).1]
    · exact (Store.get?_commit _ x path).trans (if_neg fun heq => hpath heq.symm)
  | remove p => exact (Store.get?_remove _ p path).trans (if_neg fun heq => hq heq.symm)
  | save => rfl
  | get _ => rfl
  | isCurrent _ _ => rfl
  | all => rfl

/-- Without rollbacks, a session holds what was written last. -/
private theorem get?_of_iff_lastWrite (hroll : Request.rollback ∉ h) :
    (of h).live.get? path = some r ↔ LastWrite path r h := by
  induction h with
  | nil => exact ⟨nofun, nofun⟩
  | cons q h ih =>
    rw [List.mem_cons, not_or] at hroll
    by_cases hq : q.Changes h path
    · cases q with
      | commit x =>
        -- the record that is written now is held, and no other one
        have hput : ((of h).serve (.commit x)).live = (of h).live.put x :=
          congrArg Prod.fst (Store.commit_of_ne_unchanged hq.2)
        have hheld : (of (.commit x :: h)).live.get? path = some x := by
          rw [of, hput, Store.get?_put, if_pos hq.1.symm]
        rw [hheld]
        constructor
        · intro heq
          rw [← Option.some.inj heq]
          exact .written hq
        · intro hw
          cases hw with
          | written _ => rfl
          | kept _ hne => exact absurd hq hne
      | remove p =>
        have hnone : (of (.remove p :: h)).live.get? path = none :=
          (Store.get?_remove _ p path).trans (if_pos hq.symm)
        rw [hnone]
        refine ⟨nofun, fun hw => ?_⟩
        cases hw with
        | kept _ hne => exact absurd hq hne
      | save => exact hq.elim
      | rollback => exact hq.elim
      | get _ => exact hq.elim
      | isCurrent _ _ => exact hq.elim
      | all => exact hq.elim
    · rw [of, get?_serve (fun heq => hroll.1 heq.symm) hq, ih hroll.2]
      constructor
      · exact fun hw => .kept hw hq
      · intro hw
        cases hw with
        | written hr => exact absurd hr hq
        | kept hw _ => exact hw

/-- **A session holds what was written last**, of all that has not been taken back. -/
theorem get?_of_iff (h : List Request) :
    (of h).live.get? path = some r ↔ LastWrite path r (inEffect h) := by
  rw [← live_inEffect]
  exact get?_of_iff_lastWrite (rollback_notMem_inEffect h)

/-- Everything that the session answers is told by the history, the newest request first. -/
structure Reflects (σ : Session) (h : List Request) : Prop where
  /-- No path has two records. -/
  distinct : (σ.live.records.map Record.path).Nodup
  /-- For every path, the record that was written last is held. -/
  held : ∀ path r, σ.live.get? path = some r ↔ LastWrite path r (inEffect h)
  /-- A key is current if the record that was written last was made from it. -/
  current : ∀ path key, σ.live.isCurrent path key = true ↔
    ∃ r, LastWrite path r (inEffect h) ∧ r.cacheKey = key
  /-- A commit creates a record exactly where there is none. -/
  created : ∀ r, (σ.commit r).2.2 = .created ↔ ∀ old, ¬ LastWrite r.path old (inEffect h)
  /-- A commit changes nothing exactly if the record was made from the same key. -/
  unchanged : ∀ r, (σ.commit r).2.2 = .unchanged ↔
    ∃ old, LastWrite r.path old (inEffect h) ∧ old.cacheKey = r.cacheKey
  /-- A commit updates the record otherwise. -/
  updated : ∀ r, (σ.commit r).2.2 = .updated ↔
    ∃ old, LastWrite r.path old (inEffect h) ∧ old.cacheKey ≠ r.cacheKey
  /-- A commit that changes nothing leaves all records alone and answers the one that is held. -/
  untouched : ∀ r, (σ.commit r).2.2 = .unchanged →
    (σ.commit r).1 = σ ∧ LastWrite r.path (σ.commit r).2.1 (inEffect h)
  /-- Any other commit stores its record, which is answered, and leaves all others alone. -/
  written : ∀ r, (σ.commit r).2.2 ≠ .unchanged → (σ.commit r).2.1 = r ∧
    (σ.commit r).1.live.get? r.path = some r ∧
    ∀ path, path ≠ r.path → (σ.commit r).1.live.get? path = σ.live.get? path
  /-- A removal takes away the record of its path, if there is one, and leaves all others alone. -/
  removed : ∀ path, ((σ.remove path).2 = true ↔ ∃ r, LastWrite path r (inEffect h)) ∧
    (σ.remove path).1.live.get? path = none ∧
    ∀ other, other ≠ path → (σ.remove path).1.live.get? other = σ.live.get? other
  /-- A save changes no record. -/
  save : σ.save.live = σ.live
  /-- A rollback restores the records of the last save. -/
  rollback : ∀ newer older, h = newer ++ .save :: older → Request.save ∉ newer →
    σ.rollback.live = (of older).live
  /-- Without any save, a rollback restores the empty store. -/
  rollbackAll : Request.save ∉ h → σ.rollback.live = .empty
  /-- Exactly the records that are held are listed. -/
  listed : ∀ r, r ∈ σ.live.all ↔ LastWrite r.path r (inEffect h)
  /-- They are listed by the names of their units, each once. -/
  sorted : (σ.live.all.Pairwise fun a b => a.unitName ≤ b.unitName) ∧
    (σ.live.all.map Record.path).Nodup

/-- **Every session reflects its history**, whatever has been asked of it and in whatever order. -/
theorem reflects_of (h : List Request) : (of h).Reflects h where
  distinct := (of h).live.distinct
  held := fun _ _ => get?_of_iff h
  current := fun path key => by
    rw [Store.isCurrent_iff]
    exact exists_congr fun r => and_congr_left fun _ => get?_of_iff h
  created := fun r => by
    refine Store.commit_created_iff.trans ?_
    rw [Option.eq_none_iff_forall_ne_some]
    exact forall_congr' fun old => not_congr (get?_of_iff h)
  unchanged := fun r => by
    refine Store.commit_unchanged_iff.trans ?_
    exact exists_congr fun old => and_congr_left fun _ => get?_of_iff h
  updated := fun r => by
    refine Store.commit_updated_iff.trans ?_
    exact exists_congr fun old => and_congr_left fun _ => get?_of_iff h
  untouched := fun r hstatus => by
    obtain ⟨hlive, hheld⟩ := Store.commit_of_unchanged hstatus
    refine ⟨?_, (get?_of_iff h).mp hheld⟩
    change { of h with live := ((of h).live.commit r).1 } = of h
    rw [hlive]
  written := fun r hstatus => by
    have hcommit := Store.commit_of_ne_unchanged hstatus
    have hlive : ((of h).commit r).1.live = (of h).live.put r := congrArg Prod.fst hcommit
    refine ⟨congrArg (fun x => x.2.1) hcommit, ?_, fun path hpath => ?_⟩
    · rw [hlive, Store.get?_put, if_pos rfl]
    · rw [hlive, Store.get?_put, if_neg hpath]
  removed := fun path => by
    refine ⟨?_, (Store.get?_remove _ path path).trans (if_pos rfl), fun other hother =>
      (Store.get?_remove _ path other).trans (if_neg hother)⟩
    change ((of h).live.get? path).isSome = true ↔ _
    rw [Option.isSome_iff_exists]
    exact exists_congr fun r => get?_of_iff h
  save := rfl
  rollback := by
    rintro newer older rfl hnewer
    rw [rollback_of, untilSave_append hnewer]
    rfl
  rollbackAll := fun hsave => by
    rw [rollback_of, untilSave_eq_nil hsave]
    rfl
  listed := fun r => by
    rw [(of h).live.perm_all.mem_iff, Store.mem_records_iff]
    exact get?_of_iff h
  sorted := by
    have hperm := (of h).live.perm_all
    exact ⟨(of h).live.pairwise_all, (hperm.map Record.path).nodup_iff.mpr (of h).live.distinct⟩

-- An update and a removal are taken back, and the page is what it was when it was saved.
example : (of [.rollback, .remove "/a.md", .commit ⟨"/a.md", "b", "2", "full", "", [], none⟩, .save,
    .commit ⟨"/a.md", "a", "1", "full", "", [], none⟩]).live.isCurrent "/a.md" "1" = true := by
  decide

end Session

end Pageworks
