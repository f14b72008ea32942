import Pageworks.Proofs.Build.History
import Pageworks.Proofs.Build.Success
import Pageworks.Proofs.Session

/-!
# What a build reports

A build looks at every document once to decide what is to be done about it, commits the units that it
has generated, each commit deciding again, and at last asks the store, as it is by then, for records
of documents that are gone.  What it reports is told here from the documents that it finds and from
the records that it starts with, and so is what it makes of the records.

The two decisions about a document agree because no commit before it touches the record of its path:
no two documents have one path, and nothing is forgotten before the last commit.

## Main definitions

* `Survey.status` — what happens to a document, told from its key and its record.
* `Step.answers` — what the commits among some steps answer, each at its time.
* `Survey.Accounts` — report and records are what a build makes of documents and records.

## Main results

* `Step.answers_eq` — commits at different paths answer what they would answer at the start.
* `Survey.forall₂_kept` — a plan keeps one record for each document that is not left alone.
* `Survey.gone_commits` — commits do not change what is found to be gone.
* `Build.accounts` — **a build that succeeds reports what it has done**, to every document and to
  every record.
-/

namespace Pageworks

/-! ### Lists -/

section

variable {α β γ ε : Type}

/-- A row of results, in the order of what they are the results of. -/
private theorem forall₂_of_mapM {f : α → Except ε β} {as : List α} {bs : List β}
    (h : as.mapM f = .ok bs) : List.Forall₂ (fun a b => f a = .ok b) as bs := by
  induction as generalizing bs with
  | nil =>
    rw [List.mapM_nil] at h
    rw [← Except.ok.inj h]
    exact .nil
  | cons a as ih =>
    rw [List.mapM_cons, bind_eq_ok_iff] at h
    obtain ⟨b, hb, h⟩ := h
    obtain ⟨cs, hcs, h⟩ := bind_eq_ok_iff.mp h
    rw [← Except.ok.inj h]
    exact .cons hb (ih hcs)

private theorem map_eq_of_forall₂ {R : α → β → Prop} {f : α → γ} {g : β → γ} {as : List α}
    {bs : List β} (h : List.Forall₂ R as bs) (hfg : ∀ a b, R a b → f a = g b) :
    as.map f = bs.map g := by
  have hmap : List.Forall₂ (· = ·) (as.map f) (bs.map g) :=
    List.forall₂_map_left_iff.mpr (List.forall₂_map_right_iff.mpr (h.imp hfg))
  rwa [List.forall₂_eq_eq_eq] at hmap

private theorem forall₂_comp {R : α → β → Prop} {S : β → γ → Prop} {as : List α} {bs : List β}
    {cs : List γ} (h : List.Forall₂ R as bs) (h' : List.Forall₂ S bs cs) :
    List.Forall₂ (fun a c => ∃ b, R a b ∧ S b c) as cs := by
  induction h generalizing cs with
  | nil =>
    cases h'
    exact .nil
  | cons hab _ ih =>
    cases h' with
    | cons hbc h' => exact .cons ⟨_, hab, hbc⟩ (ih h')

/-- Sorting keeps the order of what is chosen, since it moves nothing past its equals. -/
private theorem filter_mergeSort {le : α → α → Bool}
    (htrans : ∀ a b c, le a b = true → le b c = true → le a c = true)
    (htotal : ∀ a b, (le a b || le b a) = true) (p : α → Bool) (l : List α) :
    (l.mergeSort le).filter p = (l.filter p).mergeSort le := by
  induction l with
  | nil => rw [List.mergeSort_nil, List.filter_nil, List.mergeSort_nil]
  | cons a l ih =>
    obtain ⟨l₁, l₂, hsort, hl, hlt⟩ := List.mergeSort_cons htrans htotal a l
    rw [hl, List.filter_append] at ih
    rw [hsort, List.filter_append]
    by_cases ha : p a = true
    · rw [List.filter_cons_of_pos ha, List.filter_cons_of_pos ha]
      obtain ⟨m₁, m₂, hsort', hm, hlt'⟩ := List.mergeSort_cons htrans htotal a (l.filter p)
      -- on both sides the element stands between what is less and what is not
      have hge : ∀ {x y z : List α}, z.mergeSort le = x ++ a :: y → ∀ b ∈ y, le a b = true := by
        intro x y z hz b hb
        have hsorted := List.pairwise_mergeSort htrans htotal z
        rw [hz, List.pairwise_append, List.pairwise_cons] at hsorted
        exact hsorted.2.1.1 b hb
      have hsplit : ∀ {x y : List α}, (∀ b ∈ x, (!le a b) = true) → (∀ b ∈ y, le a b = true) →
          (x ++ y).filter (fun b => !le a b) = x ∧ (x ++ y).filter (le a) = y := by
        intro x y hx hy
        rw [List.filter_append, List.filter_append, List.filter_eq_self.mpr hx,
          List.filter_eq_self.mpr hy]
        constructor
        · rw [List.filter_eq_nil_iff.mpr fun b hb => by rw [hy b hb]; decide, List.append_nil]
        · refine (congrArg (· ++ y) (List.filter_eq_nil_iff.mpr fun b hb => ?_)).trans rfl
          rw [Bool.not_eq_true, ← Bool.not_eq_true']
          exact hx b hb
      obtain ⟨hx, hy⟩ := hsplit (fun b hb => hlt b (List.mem_filter.mp hb).1)
        (fun b hb => hge hsort b (List.mem_filter.mp hb).1)
      obtain ⟨hx', hy'⟩ := hsplit hlt' (hge hsort')
      rw [ih, hm] at hx hy
      rw [hsort', hx.symm.trans hx', hy.symm.trans hy']
    · rw [List.filter_cons_of_neg ha, List.filter_cons_of_neg ha]
      exact ih

end

namespace Store

variable {s t : Store} {r : Record}

/-- What a commit answers depends on the record of its path only. -/
theorem commit_status_congr (h : s.get? r.path = t.get? r.path) :
    (s.commit r).2.2 = (t.commit r).2.2 := by
  rw [commit, commit, h]
  cases t.get? r.path with
  | none => rfl
  | some old =>
    dsimp only
    by_cases hkey : (old.cacheKey == r.cacheKey) = true
    · rw [if_pos hkey, if_pos hkey]
    · rw [if_neg hkey, if_neg hkey]

/-- A commit leaves the records of other paths as they are, in their order. -/
theorem filter_commit {p : Record → Bool} (hp : ∀ x : Record, x.path = r.path → p x = false) :
    (s.commit r).1.records.filter p = s.records.filter p := by
  have hreplaced : ∀ rs : List Record, (replaced r rs).filter p = rs.filter p := by
    intro rs
    induction rs with
    | nil => rfl
    | cons x xs ih =>
      rw [replaced] at ih ⊢
      rw [List.map_cons, List.filter_cons, List.filter_cons, ih]
      split
      · next hpath =>
        rw [hp r rfl, hp x (beq_iff_eq.mp hpath)]
        rfl
      · rfl
  have hput : (s.put r).records.filter p = s.records.filter p := by
    rw [put]
    split
    · exact hreplaced s.records
    · dsimp only
      rw [List.filter_append, List.filter_cons_of_neg (by rw [hp r rfl]; decide), List.filter_nil,
        List.append_nil]
  rcases s.commit_cases r with ⟨-, hc⟩ | ⟨old, -, -, hc⟩ | ⟨old, -, -, hc⟩
  · rw [hc]
    exact hput
  · rw [hc]
  · rw [hc]
    exact hput

/-- What is chosen from a listing by unit name is the listing of what is chosen. -/
theorem filter_all (s : Store) (p : Record → Bool) : s.all.filter p =
    (s.records.filter p).mergeSort fun a b => decide (a.unitName ≤ b.unitName) :=
  filter_mergeSort listed_trans listed_total p s.records

end Store

namespace Step

variable {store σ : Store} {steps : List Step} {s : Step}

/-- The record that a step keeps, if it keeps one. -/
def kept? : Step → Option Record
  | .keep r => some r
  | .tell _ | .restore _ _ | .discard _ | .forget _ | .fail _ => none

/-- What the commit of a step answers, if it commits anything. -/
def answer? (store : Store) : Step → Option Status
  | .keep r => some (store.commit r).2.2
  | .tell _ | .restore _ _ | .discard _ | .forget _ | .fail _ => none

/-- What the commits among some steps answer, each in the store that the steps before it leave. -/
def answers : Store → List Step → List Status
  | _, [] => []
  | store, s :: ss => (s.answer? store).toList ++ answers (s.onStore store) ss

theorem get?_onStore (s : Step) (store : Store) (path : String) :
    (s.onStore store).get? path = s.onRecord path (store.get? path) := by
  cases s with
  | keep r => exact Store.get?_commit _ _ _
  | forget p => exact Store.get?_remove _ _ _
  | tell _ => rfl
  | restore _ _ => rfl
  | discard _ => rfl
  | fail _ => rfl

theorem mem_filterMap_kept? {r : Record} : r ∈ steps.filterMap kept? ↔ .keep r ∈ steps := by
  rw [List.mem_filterMap]
  constructor
  · rintro ⟨s, hs, hr⟩
    cases s with
    | keep x => rwa [← Option.some.inj hr]
    | tell _ => cases hr
    | restore _ _ => cases hr
    | discard _ => cases hr
    | forget _ => cases hr
    | fail _ => cases hr
  · exact fun h => ⟨_, h, rfl⟩

/-- **Commits at different paths answer what they would answer at the start**, if nothing that is
committed is forgotten. -/
theorem answers_eq (hagree : ∀ r, .keep r ∈ steps → σ.get? r.path = store.get? r.path)
    (hpaths : ((steps.filterMap kept?).map Record.path).Nodup)
    (hforget : ∀ r, .keep r ∈ steps → .forget r.path ∉ steps) :
    answers σ steps = (steps.filterMap kept?).map fun r => (store.commit r).2.2 := by
  induction steps generalizing σ with
  | nil => rfl
  | cons s ss ih =>
    have hrest : ∀ r, .keep r ∈ ss → (s.onStore σ).get? r.path = store.get? r.path := by
      intro r hr
      rw [get?_onStore, ← hagree r (List.mem_cons_of_mem _ hr)]
      cases s with
      | keep x =>
        -- the paths of the records differ, so this one is not the later one
        rw [onRecord, if_neg]
        intro hpath
        have hnew := (List.nodup_cons.mp (show ((x :: ss.filterMap kept?).map _).Nodup from hpaths)).1
        exact hnew (hpath ▸ List.mem_map_of_mem (mem_filterMap_kept?.mpr hr))
      | forget p =>
        rw [onRecord, if_neg]
        rintro rfl
        exact hforget r (List.mem_cons_of_mem _ hr) List.mem_cons_self
      | tell _ => rfl
      | restore _ _ => rfl
      | discard _ => rfl
      | fail _ => rfl
    have hpaths' : ((ss.filterMap kept?).map Record.path).Nodup :=
      hpaths.sublist (((List.sublist_cons_self s ss).filterMap kept?).map Record.path)
    rw [answers, ih hrest hpaths' fun r hr hf =>
      hforget r (List.mem_cons_of_mem _ hr) (List.mem_cons_of_mem _ hf)]
    cases s with
    | keep r =>
      rw [answer?, Store.commit_status_congr (hagree r List.mem_cons_self)]
      rfl
    | forget _ => rfl
    | tell _ => rfl
    | restore _ _ => rfl
    | discard _ => rfl
    | fail _ => rfl

end Step

namespace Survey

variable {s : Survey} {store : Store} {time : Option Moment} {d : Document} {key : String}

/-! ### What happens to a document -/

/-- What happens to a document, told from its key and its record. -/
def status (s : Survey) (store : Store) (d : Document) : Status :=
  match store.get? d.path with
  | none => .created
  | some r => if s.key d = .ok r.cacheKey then .unchanged else .updated

/-- The documents that are not left alone. -/
def renewed (s : Survey) (store : Store) : List Document :=
  s.documents.filter fun d => s.status store d != .unchanged

/-- Created is what had no record. -/
theorem status_eq_created_iff :
    s.status store d = .created ↔ d.path ∉ store.records.map Record.path := by
  rw [← Store.get?_eq_none_iff, status]
  cases store.get? d.path with
  | none => exact ⟨fun _ => rfl, fun _ => rfl⟩
  | some r =>
    dsimp only
    constructor
    · intro h
      split at h <;> cases h
    · intro h
      cases h

/-- Unchanged is what had a record made from its key. -/
theorem status_eq_unchanged_iff : s.status store d = .unchanged ↔
    ∃ r ∈ store.records, r.path = d.path ∧ s.key d = .ok r.cacheKey := by
  constructor
  · intro h
    rw [status] at h
    cases hget : store.get? d.path with
    | none =>
      rw [hget] at h
      cases h
    | some r =>
      rw [hget] at h
      dsimp only at h
      split at h
      · next hkey => exact ⟨r, Store.mem_records_of_get? hget, Store.path_of_get? hget, hkey⟩
      · cases h
  · rintro ⟨r, hr, hpath, hkey⟩
    rw [Store.mem_records_iff, hpath] at hr
    rw [status, hr]
    exact if_pos hkey

theorem status_ne_removed : s.status store d ≠ .removed := by
  rw [status]
  split
  · intro h
    cases h
  · split <;> intro h <;> cases h

private theorem status_of_none (h : store.get? d.path = none) : s.status store d = .created := by
  rw [status, h]

private theorem status_of_some {r : Record} (h : store.get? d.path = some r)
    (hkey : s.key d = .ok key) :
    s.status store d = if r.cacheKey == key then .unchanged else .updated := by
  rw [status, h, hkey]
  dsimp only
  by_cases hr : r.cacheKey = key
  · rw [if_pos (congrArg Except.ok hr.symm), if_pos (beq_iff_eq.mpr hr)]
  · rw [if_neg fun heq => hr (Except.ok.inj heq).symm, if_neg (mt beq_iff_eq.mp hr)]

/-- The first decision about a document: whether it is to be generated. -/
theorem stale?_eq (hkey : s.key d = .ok key) : s.stale? store d =
    if s.status store d = .unchanged then none else some ⟨d, key, s.status store d⟩ := by
  unfold stale? verdict
  rw [hkey]
  dsimp only
  cases hget : store.get? d.path with
  | none =>
    rw [status_of_none hget]
    rfl
  | some r =>
    dsimp only
    rw [status_of_some hget hkey]
    cases r.cacheKey == key <;> rfl

/-- The second decision: what a commit of its unit answers. -/
theorem status_commit (hkey : s.key d = .ok key) (mode : String) (u : GeneratedUnit) :
    (store.commit (Record.ofUnit d.path key mode u time)).2.2 = s.status store d := by
  rw [Store.commit, show (Record.ofUnit d.path key mode u time).path = d.path from rfl]
  cases hget : store.get? d.path with
  | none =>
    rw [status_of_none hget]
  | some r =>
    dsimp only
    rw [status_of_some hget hkey, show (Record.ofUnit d.path key mode u time).cacheKey = key from rfl]
    cases r.cacheKey == key <;> rfl

theorem exists_current_iff :
    (∃ r, s.verdict store d = .current r) ↔ s.status store d = .unchanged := by
  rw [status_eq_unchanged_iff]
  constructor
  · rintro ⟨r, hv⟩
    obtain ⟨key', hkey', hr, rfl⟩ := verdict_eq_current_iff.mp hv
    exact ⟨r, Store.mem_records_of_get? hr, Store.path_of_get? hr, hkey'⟩
  · rintro ⟨r, hr, hpath, hkey'⟩
    rw [Store.mem_records_iff, hpath] at hr
    exact ⟨r, verdict_eq_current_iff.mpr ⟨_, hkey', hr, rfl⟩⟩

/-! ### The steps of a plan -/

section

variable [SetOrder] (hfail : ∀ e, .fail e ∉ (s.plan store time).steps)

include hfail

theorem exists_key_of_plan (hd : d ∈ s.documents) : ∃ key, s.key d = .ok key := by
  rcases current_or_renews hfail hd with ⟨r, hv⟩ | ⟨-, key, old, hv⟩
  · obtain ⟨key, hkey, -⟩ := verdict_eq_current_iff.mp hv
    exact ⟨key, hkey⟩
  · exact ⟨key, (verdict_eq_stale_iff.mp hv).1⟩

theorem mem_renewed_iff : d ∈ s.renewed store ↔ s.Renews store d := by
  rw [renewed, List.mem_filter, bne_iff_ne]
  constructor
  · rintro ⟨hd, hne⟩
    exact (current_or_renews hfail hd).resolve_left (mt exists_current_iff.mp hne)
  · intro h
    refine ⟨h.1, fun hsame => ?_⟩
    obtain ⟨r, hv⟩ := exists_current_iff.mpr hsame
    exact not_renews_of_current hv h

/-- What is to be generated are the documents that are not left alone, in their order. -/
theorem forall₂_stale : List.Forall₂ (fun d x => x.document = d ∧ x.status = s.status store d ∧
    s.key d = .ok x.key) (s.renewed store) (s.stale store) := by
  have hall : ∀ ds : List Document, (∀ d ∈ ds, ∃ key, s.key d = .ok key) →
      List.Forall₂ (fun d x => x.document = d ∧ x.status = s.status store d ∧ s.key d = .ok x.key)
        (ds.filter fun d => s.status store d != .unchanged) (ds.filterMap (s.stale? store)) := by
    intro ds hkeys
    induction ds with
    | nil => exact .nil
    | cons d ds ih =>
      obtain ⟨key, hkey⟩ := hkeys d List.mem_cons_self
      have hrest := ih fun x hx => hkeys x (List.mem_cons_of_mem _ hx)
      by_cases h : s.status store d = .unchanged
      · rw [List.filter_cons, if_neg (by rw [h]; decide), List.filterMap_cons, stale?_eq hkey,
          if_pos h]
        exact hrest
      · rw [List.filter_cons, if_pos (bne_iff_ne.mpr h), List.filterMap_cons, stale?_eq hkey,
          if_neg h]
        exact .cons ⟨rfl, rfl, hkey⟩ hrest
  exact hall s.documents fun d hd => exists_key_of_plan hfail hd

omit hfail in
/-- Records are kept by the steps that generate, and by no others. -/
private theorem filterMap_kept?_plan : (s.plan store time).steps.filterMap Step.kept? =
    (s.generateSteps time (s.stale store)).filterMap Step.kept? := by
  have hlook : (s.documents.flatMap fun d => s.lookSteps d (s.verdict store d)).filterMap
      Step.kept? = [] := by
    rw [List.filterMap_flatMap]
    refine List.flatMap_eq_nil_iff.mpr fun d _ => ?_
    cases s.verdict store d with
    | failing e => rfl
    | current r => rfl
    | stale key old =>
      cases old with
      | none => rfl
      | some r =>
        rw [lookSteps]
        split <;> rfl
  have hwarnings : ((s.stale store).flatMap fun x => (warnings x.document).map Step.tell).filterMap
      Step.kept? = [] := by
    rw [List.filterMap_flatMap]
    refine List.flatMap_eq_nil_iff.mpr fun x _ => List.filterMap_eq_nil_iff.mpr fun y hy => ?_
    obtain ⟨e, -, rfl⟩ := List.mem_map.mp hy
    rfl
  have hsweep : (s.sweepSteps store).filterMap Step.kept? = [] := by
    rw [sweepSteps]
    split
    · rfl
    · rw [List.filterMap_flatMap]
      refine List.flatMap_eq_nil_iff.mpr fun r _ => ?_
      rw [forgetSteps]
      split <;> rfl
  rw [plan]
  dsimp only
  rw [List.filterMap_append, List.filterMap_append, List.filterMap_append, List.filterMap_append,
    List.filterMap_cons, hlook, hwarnings, hsweep]
  exact List.append_nil _ |>.trans (List.append_nil _)

/-- **A plan keeps one record for each document that is not left alone**, in their order. -/
theorem forall₂_kept : List.Forall₂ (fun d r => ∃ key u, s.key d = .ok key ∧ s.unit d = .ok u ∧
    r = Record.ofUnit d.path key s.mode.name u time) (s.renewed store)
      ((s.plan store time).steps.filterMap Step.kept?) := by
  have hall : ∀ x ∈ s.stale store, ∃ z, (s.unit x.document).map (x, ·) = .ok z := by
    intro x hx
    obtain ⟨hd, old, hv, -⟩ := mem_stale_iff.mp hx
    obtain ⟨u, hu⟩ := exists_unit_of_plan hfail ⟨hd, x.key, old, hv⟩
    exact ⟨_, map_eq_ok_iff.mpr ⟨u, hu, rfl⟩⟩
  obtain ⟨units, hunits⟩ := exists_mapM_eq_ok hall
  have hkept : (s.plan store time).steps.filterMap Step.kept? = units.map fun x =>
      Record.ofUnit x.1.document.path x.1.key s.mode.name x.2 time := by
    rw [filterMap_kept?_plan, generateSteps, hunits]
    dsimp only
    rw [List.filterMap_flatMap, List.map_eq_flatMap]
    rfl
  rw [hkept, List.forall₂_map_right_iff]
  refine (forall₂_comp (forall₂_stale hfail) (forall₂_of_mapM hunits)).imp ?_
  rintro d ⟨x, u⟩ ⟨y, ⟨rfl, -, hkey⟩, hy⟩
  obtain ⟨v, hv, heq⟩ := map_eq_ok_iff.mp hy
  obtain ⟨rfl, rfl⟩ := Prod.mk.inj heq
  exact ⟨_, _, hkey, hv, rfl⟩

end

/-- **Commits do not change what is found to be gone**, when the store is asked after them. -/
theorem gone_commits {rs : List Record} (hrs : ∀ r ∈ rs, r.path ∈ s.documents.map Document.path) :
    s.gone (rs.foldl (fun σ r => (σ.commit r).1) store) = s.gone store := by
  have hrecords : (rs.foldl (fun σ r => (σ.commit r).1) store).records.filter
      (fun r => s.isGone r.path) = store.records.filter fun r => s.isGone r.path := by
    induction rs generalizing store with
    | nil => rfl
    | cons r rs ih =>
      rw [List.foldl_cons, ih fun x hx => hrs x (List.mem_cons_of_mem _ hx)]
      refine Store.filter_commit fun x hpath => ?_
      rw [isGone, hpath, List.contains_iff_mem.mpr (hrs r List.mem_cons_self)]
      rfl
  rw [gone, gone]
  split
  · rw [Store.filter_all, Store.filter_all, hrecords]
  · rfl

/-! ### The report -/

/-- Every document is created, updated or unchanged, and counted once as such. -/
private theorem countP_status (s : Survey) (store : Store) (ds : List Document) :
    (ds.countP fun d => s.status store d == .created) +
      (ds.countP fun d => s.status store d == .updated) +
        (ds.countP fun d => s.status store d == .unchanged) = ds.length := by
  induction ds with
  | nil => rfl
  | cons d ds ih =>
    rw [List.countP_cons, List.countP_cons, List.countP_cons, List.length_cons, ← ih]
    cases hstatus : s.status store d with
    | removed => exact absurd hstatus status_ne_removed
    | created => simp; omega
    | updated => simp; omega
    | unchanged => simp; omega

/-- Report and records are what a build makes of the documents and of the records that it finds, with
the records `new` that it commits and the records `gone` that it removes. -/
structure Accounts [SetOrder] (s : Survey) (time : Option Moment) (store store' : Store)
    (report : Report) (new gone : List Record) : Prop where
  -- every document is counted once
  distinct : (s.documents.map Document.path).Nodup
  created : report.created = s.documents.countP fun d => s.status store d == .created
  updated : report.updated = s.documents.countP fun d => s.status store d == .updated
  unchanged : report.unchanged = s.documents.countP fun d => s.status store d == .unchanged
  total : report.created + report.updated + report.unchanged = s.documents.length
  -- every document that is not left alone has a new record, and its commit answers what was decided
  committed : List.Forall₂ (fun d r => ∃ key u, s.key d = .ok key ∧ s.unit d = .ok u ∧
    r = Record.ofUnit d.path key s.mode.name u time) (s.renewed store) new
  answers : Step.answers store (s.plan store time).steps = (s.renewed store).map (s.status store)
  -- what is in the scope of a directory and has no document is removed, also if that is asked late
  mem_gone : ∀ r, r ∈ gone ↔ s.sweeps = .ok true ∧ r ∈ store.records ∧
    r.path ∉ s.documents.map Document.path ∧ Path.isWithin (Path.slashed r.path) s.scope = true
  live : s.gone (new.foldl (fun σ r => (σ.commit r).1) store) = gone
  nodup : gone.Nodup
  sorted : gone.Pairwise fun a b => a.unitName ≤ b.unitName
  removed : report.removed = gone.length
  -- the changes are told in order
  changes : report.changes = (s.renewed store).map (fun d => (s.status store d, s.unitName d)) ++
    gone.map fun r => (.removed, r.unitName)
  length : report.changes.length = report.created + report.updated + report.removed
  -- new records take the place of old ones, and all others stay
  mem_records : ∀ r, r ∈ store'.records ↔
    r ∈ new ∨ r ∈ store.records ∧ r ∉ gone ∧ r.path ∉ new.map Record.path
  alone : ∀ d ∈ s.documents, s.status store d = .unchanged →
    store'.get? d.path = store.get? d.path

section

variable {t : FileTree} {root out : Place} {files files' : FileTree} {store' : Store}

/-- The documents with one status among those that are not left alone. -/
private theorem countP_stale [SetOrder] (hfail : ∀ e, .fail e ∉ (s.plan store time).steps)
    (c : Status) (hc : c ≠ .unchanged) : ((s.stale store).countP fun x => x.status == c) =
      s.documents.countP fun d => s.status store d == c := by
  have hmap : (s.renewed store).map (s.status store) = (s.stale store).map Stale.status :=
    map_eq_of_forall₂ (forall₂_stale hfail) fun d x hx => hx.2.1.symm
  have hcount := congrArg (List.countP (· == c)) hmap
  rw [List.countP_map, List.countP_map, renewed, List.countP_filter] at hcount
  refine hcount.symm.trans (List.countP_congr fun d _ => ?_)
  dsimp only [Function.comp]
  rw [Bool.and_eq_true, bne_iff_ne, beq_iff_eq, and_iff_left_iff_imp]
  exact fun h => h ▸ hc

private theorem length_current :
    (s.current store).length = s.documents.countP fun d => s.status store d == .unchanged := by
  rw [current, ← List.countP_eq_length_filter]
  refine List.countP_congr fun d _ => ?_
  rw [beq_iff_eq, ← exists_current_iff]
  cases s.verdict store d <;> simp

/-- Those that are left alone are the others. -/
private theorem length_renewed (s : Survey) (store : Store) : (s.renewed store).length +
    (s.documents.countP fun d => s.status store d == .unchanged) = s.documents.length := by
  rw [renewed, ← List.countP_eq_length_filter, Nat.add_comm,
    List.length_eq_countP_add_countP fun d => s.status store d == .unchanged]
  refine congrArg _ (List.countP_congr fun d _ => ?_)
  rw [bne_iff_ne, decide_eq_true_iff, beq_iff_eq]

section

variable [SetOrder] (hfail : ∀ e, .fail e ∉ (s.plan store time).steps)

include hfail

/-- The changes of the documents, in their order. -/
private theorem map_changes_stale : (s.stale store).map (fun x => (x.status, s.unitName x.document)) =
    (s.renewed store).map fun d => (s.status store d, s.unitName d) := by
  refine (map_eq_of_forall₂ (forall₂_stale hfail) ?_).symm
  rintro d x ⟨rfl, hstatus, -⟩
  rw [hstatus]

/-- The paths of new records are those of the documents that they are made for. -/
private theorem path_of_kept : (s.renewed store).map Document.path =
    ((s.plan store time).steps.filterMap Step.kept?).map Record.path := by
  refine map_eq_of_forall₂ (forall₂_kept hfail) ?_
  rintro d r ⟨key, u, -, -, rfl⟩
  rfl

private theorem path_mem_of_keep {r : Record} (hr : .keep r ∈ (s.plan store time).steps) :
    r.path ∈ s.documents.map Document.path := by
  have hmem : r.path ∈ (s.renewed store).map Document.path := by
    rw [path_of_kept hfail]
    exact List.mem_map_of_mem (Step.mem_filterMap_kept?.mpr hr)
  exact List.map_subset _ List.filter_sublist.subset hmem

/-- **The commits of a plan answer what was decided about their documents**, since nothing that is
committed is forgotten. -/
theorem answers_plan (hdistinct : (s.documents.map Document.path).Nodup) :
    Step.answers store (s.plan store time).steps = (s.renewed store).map (s.status store) := by
  have hagree : ∀ r, .keep r ∈ (s.plan store time).steps → store.get? r.path = store.get? r.path :=
    fun _ _ => rfl
  rw [Step.answers_eq hagree]
  · refine (map_eq_of_forall₂ (forall₂_kept hfail) ?_).symm
    rintro d r ⟨key, u, hkey, -, rfl⟩
    exact (status_commit hkey _ _).symm
  · rw [← path_of_kept hfail]
    exact hdistinct.sublist (List.filter_sublist.map _)
  · intro r hr hforget
    obtain ⟨x, hx, hpath⟩ := (forget_mem_plan hfail).mp hforget
    exact (mem_gone_iff.mp hx).2.2.1 (hpath ▸ path_mem_of_keep hfail hr)

/-- Every change is counted once. -/
private theorem length_changes : (s.report store).changes.length =
    (s.report store).created + (s.report store).updated + (s.report store).removed := by
  have htotal := countP_status s store s.documents
  have hrenewed := length_renewed s store
  rw [report]
  dsimp only
  rw [map_changes_stale hfail, List.length_append, List.length_map, List.length_map,
    countP_stale hfail .created (by decide), countP_stale hfail .updated (by decide)]
  omega

end

private theorem nodup_gone : (s.gone store).Nodup := by
  rw [gone]
  split
  · exact (store.perm_all.nodup_iff.mpr store.distinct.of_map).filter _
  · exact List.nodup_nil

private theorem pairwise_gone : (s.gone store).Pairwise fun a b => a.unitName ≤ b.unitName := by
  rw [gone]
  split
  · exact store.pairwise_all.filter _
  · exact .nil

/-- **What is recorded in the end** is what was committed, and what was recorded before under no path
of these and not removed. -/
theorem Carried.mem_records_iff [SetOrder] (hc : s.Carried time out files files' store store')
    (h : s.Found t root) {r : Record} : r ∈ store'.records ↔
      .keep r ∈ (s.plan store time).steps ∨ r ∈ store.records ∧ r ∉ s.gone store ∧
        ∀ d, s.Renews store d → d.path ≠ r.path := by
  constructor
  · intro hr
    by_cases hrenews : ∃ d, s.Renews store d ∧ d.path = r.path
    · obtain ⟨d, hd, hpath⟩ := hrenews
      obtain ⟨key, u, hkey, hu, hget⟩ := hc.stored h hd
      rw [hpath, Store.mem_records_iff.mp hr] at hget
      obtain ⟨hmem, key', old, hv⟩ := hd
      obtain rfl := Except.ok.inj (hkey.symm.trans (verdict_eq_stale_iff.mp hv).1)
      exact .inl ((keep_mem_plan hc.noFail).mpr
        ⟨d, hmem, key, old, u, hv, hu, hpath ▸ Option.some.inj hget⟩)
    · have hnot : ∀ d, s.Renews store d → d.path ≠ r.path := fun d hd hpath => hrenews ⟨d, hd, hpath⟩
      have hgone : ∀ x ∈ s.gone store, x.path ≠ r.path := by
        intro x hx hpath
        have hnone := hc.forgotten hx
        rw [hpath, Store.mem_records_iff.mp hr] at hnone
        cases hnone
      have hget := hc.remembered hnot hgone
      rw [Store.mem_records_iff.mp hr] at hget
      exact .inr ⟨Store.mem_records_of_get? hget.symm, fun hx => hgone r hx rfl, hnot⟩
  · rintro (hr | ⟨hr, hgone, hnot⟩)
    · obtain ⟨d, hd, key, old, u, hv, hu, rfl⟩ := (keep_mem_plan hc.noFail).mp hr
      obtain ⟨key', u', hkey, hu', hget⟩ := hc.stored h ⟨hd, key, old, hv⟩
      obtain rfl := Except.ok.inj (hkey.symm.trans (verdict_eq_stale_iff.mp hv).1)
      obtain rfl := Except.ok.inj (hu.symm.trans hu')
      exact Store.mem_records_of_get? hget
    · refine Store.mem_records_iff.mpr ((hc.remembered hnot ?_).trans (Store.mem_records_iff.mp hr))
      intro x hx hpath
      have hxget := Store.mem_records_iff.mp (mem_gone_iff.mp hx).2.1
      rw [hpath, Store.mem_records_iff.mp hr] at hxget
      exact hgone (Option.some.inj hxget ▸ hx)

/-- **A build that has taken the steps of its plan reports what it has done.** -/
theorem Carried.accounts_report [SetOrder] (hc : s.Carried time out files files' store store')
    (h : s.Found t root) : s.Accounts time store store' (s.report store)
      ((s.plan store time).steps.filterMap Step.kept?) (s.gone store) where
  distinct := h.nodup_paths
  created := countP_stale hc.noFail .created (by decide)
  updated := countP_stale hc.noFail .updated (by decide)
  unchanged := length_current
  total := by
    rw [report]
    dsimp only
    rw [countP_stale hc.noFail .created (by decide), countP_stale hc.noFail .updated (by decide),
      length_current]
    exact countP_status s store s.documents
  committed := forall₂_kept hc.noFail
  answers := answers_plan hc.noFail h.nodup_paths
  mem_gone := fun r => mem_gone_iff
  live := gone_commits fun r hr => path_mem_of_keep hc.noFail (Step.mem_filterMap_kept?.mp hr)
  nodup := nodup_gone
  sorted := pairwise_gone
  removed := rfl
  changes := by
    rw [report, ← map_changes_stale hc.noFail]
  length := length_changes hc.noFail
  mem_records := fun r => by
    rw [hc.mem_records_iff h, Step.mem_filterMap_kept?, ← path_of_kept hc.noFail]
    refine or_congr_right (and_congr_right fun _ => and_congr_right fun _ => ?_)
    constructor
    · intro hnot hmem
      obtain ⟨d, hd, hpath⟩ := List.mem_map.mp hmem
      exact hnot d ((mem_renewed_iff hc.noFail).mp hd) hpath
    · intro hnot d hd hpath
      exact hnot (hpath ▸ List.mem_map_of_mem ((mem_renewed_iff hc.noFail).mpr hd))
  alone := fun d hd hsame => by
    obtain ⟨r, hv⟩ := exists_current_iff.mpr hsame
    obtain ⟨-, -, hr, -⟩ := verdict_eq_current_iff.mp hv
    rw [hc.get?_of_current h hd hv, hr]

end

end Survey

namespace Build

variable {settings : Settings} {working : Place} {l : Location} {time : Option Moment}
  {files : FileTree} {store : Store} {report : Report} {s : Survey}

/-- **A build that succeeds reports what it has done**, to every document and to every record.  A build
of a file removes nothing, and a build of a directory looks for what is gone from it. -/
theorem accounts [SetOrder] (hstore : store.Reachable) (hfiles : files.WellFormed)
    (hworking : files.isDirectory working = true)
    (hs : Survey.take files working l settings = .ok s)
    (h : (run settings working l time files store).result = .ok report) :
    ∃ new gone, s.Accounts time store (run settings working l time files store).store report new gone ∧
      (files.look working l = .ok (some .directory) → s.sweeps = .ok true) ∧
      ∀ bytes, files.look working l = .ok (some (.file bytes)) → gone = [] := by
  have hdir : files.entry? working = some .directory := beq_iff_eq.mp hworking
  obtain ⟨s', hs', hc⟩ := carried_of_run hfiles hdir (fun r hr => hstore.plainName hr) h
  obtain rfl : s' = s := Except.ok.inj (hs'.symm.trans hs)
  obtain ⟨-, hfound⟩ := Survey.found_of_take hfiles hdir hs
  obtain ⟨-, -, -, -, -, -, -, -, -, hsweeps⟩ := Survey.take_eq_ok_iff.mp hs
  obtain rfl := report_of_run hfiles hdir (fun r hr => hstore.plainName hr) hs h
  refine ⟨_, _, hc.accounts_report hfound, ?_, ?_⟩
  · intro hlook
    exact hsweeps.trans (Survey.sweepsAt_of_look hlook)
  · intro bytes hlook
    rw [Survey.sweepsAt_of_look hlook] at hsweeps
    rw [Survey.gone, hsweeps]
    rfl

attribute [local instance] SetOrder.standard

/-- After a page is renamed one page is created, and the unit of its old name is removed. -/
theorem accounts_renamed : ∃ report, afterRename.result = .ok report ∧ report.created = 1 ∧
    (.removed, "a.md.g.cs") ∈ report.changes := by
  obtain ⟨hentries, hisok⟩ := renamed_spec
  obtain ⟨report, hok⟩ := exists_of_isOk hisok
  have hfacts : beforeRename.store.records.map (fun r => (r.path, r.unitName)) =
        [("/site/a.md", "a.md.g.cs")] ∧
      Path.isWithin (Path.slashed "/site/a.md") "/site" = true := by
    decide +kernel
  obtain ⟨hrecords, hscope⟩ := hfacts
  obtain ⟨r, hr, hnames⟩ := List.map_eq_singleton_iff.mp hrecords
  obtain ⟨hpath, hname⟩ := Prod.mk.inj hnames
  have hstatus : (Survey.onePage "/site" "/site/b.md" "B").status beforeRename.store
      ⟨"/site/b.md", "x\n"⟩ = .created := by
    rw [Survey.status_eq_created_iff, hr, List.map_singleton, hpath]
    decide
  obtain ⟨new, gone, haccounts, -, -⟩ := accounts history_beforeRename.reachable
    (FileTree.wellFormed_of_entries hentries) (beq_iff_eq.mpr (FileTree.entry?_nil _)) take_renamed
    hok
  have hcreated : report.created = 1 := by
    rw [haccounts.created]
    exact List.countP_eq_length.mpr fun d hd => by
      rw [List.mem_singleton.mp hd, hstatus]
      rfl
  refine ⟨report, hok, hcreated, ?_⟩
  have hgone : r ∈ gone := by
    rw [haccounts.mem_gone, hr, hpath]
    exact ⟨rfl, List.mem_cons_self, by decide, hscope⟩
  rw [haccounts.changes, List.mem_append]
  exact .inr (List.mem_map.mpr ⟨r, hgone, by rw [hname]⟩)

end Build

end Pageworks
