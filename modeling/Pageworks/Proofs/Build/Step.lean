import Pageworks.Build.Step
import Pageworks.Proofs.FileTree
import Pageworks.Proofs.Sources
import Pageworks.Proofs.Store

/-!
# What steps of a build do

A run of steps fails or succeeds as a whole; if it succeeds, what it has done to one place of the
file tree and to one path of the store can be told step by step, without the rest of either.  What
a whole run does is then a fold, and where few steps concern a place the fold is easily computed.

## Main definitions

* `Step.Plain` — the step works with a plain name in the output directory.
* `Step.onEntry`, `Step.onRecord` — what a step makes of an entry and of a record.
* `Step.name?`, `Step.written?` — the name that a step works with, and the file that it writes.

## Main results

* `Step.write_eq_ok_iff`, `Step.run_restore_eq_ok_iff`, `Step.run_discard_eq_ok_iff` — the steps that
  work with files, once they succeed.
* `Step.runAll_spec` — **a run that succeeds is the fold of its steps**, for every place and path.
* `Step.onEntry_written`, `Step.onEntry_unwritten`, `Step.onEntry_restored` — what is at a place
  afterwards.
* `Step.onRecord_stored`, `Step.onRecord_forgotten`, `Step.onRecord_kept` — what is stored for a
  path afterwards.
-/

namespace Pageworks.Step

/-! ### Single steps -/

/-- The step works with a plain name in the output directory, if with any. -/
def Plain : Step → Prop
  | .restore n _ | .discard n => PlainName n
  | .keep r => PlainName r.unitName
  | .tell _ | .forget _ | .fail _ => True

/-- The entry that a file of the text is. -/
def fileOf (text : String) : Entry := .file (Fingerprint.bytesOf text)

/-- What a step makes of the entry at a place `q`, working in the directory `out`. -/
def onEntry (out q : Place) (e : Option Entry) : Step → Option Entry
  | .restore n text => if q = out ++ [n] then e.or (some (fileOf text)) else e
  | .discard n => if q = out ++ [n] then none else e
  | .keep r => if q = out ++ [r.unitName] then some (fileOf r.text) else e
  | .tell _ | .forget _ | .fail _ => e

/-- What a step makes of the record of a path. -/
def onRecord (path : String) (r : Option Record) : Step → Option Record
  | .keep x => if path = x.path then some (Store.kept x r) else r
  | .forget p => if path = p then none else r
  | .tell _ | .restore _ _ | .discard _ | .fail _ => r

/-- The name that a step works with in the output directory, if it works there. -/
def name? : Step → Option String
  | .restore n _ | .discard n => some n
  | .keep r => some r.unitName
  | .tell _ | .forget _ | .fail _ => none

theorem plain_iff {s : Step} : s.Plain ↔ ∀ n, s.name? = some n → PlainName n := by
  cases s <;> simp [Plain, name?]

/-- The name and the text of the file that a step writes, if it writes one. -/
def written? : Step → Option (String × String)
  | .restore n text => some (n, text)
  | .keep r => some (r.unitName, r.text)
  | .tell _ | .discard _ | .forget _ | .fail _ => none

/-- What a step makes of the store. -/
def onStore (store : Store) : Step → Store
  | .keep r => (store.commit r).1
  | .forget path => store.remove path
  | .tell _ | .restore _ _ | .discard _ | .fail _ => store

section

variable {working : Place} {output : Location} {p p' : Progress} {s : Step} {steps : List Step}

/-- The output directory is ready, and no directory is lost. -/
structure Keeps (working : Place) (output : Location) (t t' : FileTree) : Prop where
  ready : t'.Ready working output
  directory : ∀ q, t.entry? q = some .directory → t'.entry? q = some .directory

theorem Keeps.refl {t : FileTree} (h : t.Ready working output) : Keeps working output t t :=
  ⟨h, fun _ hq => hq⟩

/-! What the steps that work with files do when they succeed. -/

theorem write_eq_ok_iff {n text : String} : write working output p n text = .ok p' ↔
    ∃ t, p.files.write working (output.resolve n) text = .ok t ∧ { p with files := t } = p' := by
  rw [write, map_eq_ok_iff]
  exact exists_congr fun t => and_congr_left' mapError_eq_ok_iff

theorem run_restore_eq_ok_iff {n text : String} :
    run working output p (.restore n text) = .ok p' ↔
      (∃ e, p.files.look working (output.resolve n) = .ok (some e)) ∧ p = p' ∨
        p.files.look working (output.resolve n) = .ok none ∧
          write working output p n text = .ok p' := by
  delta run
  dsimp only
  cases hlook : p.files.look working (output.resolve n) with
  | error f => simp
  | ok e =>
    cases e with
    | none => simp
    | some e => simp

theorem run_discard_eq_ok_iff {n : String} : run working output p (.discard n) = .ok p' ↔
    ∃ t, p.files.unlink working (output.resolve n) = .ok t ∧ { p with files := t } = p' := by
  delta run
  dsimp only
  rw [map_eq_ok_iff]
  exact exists_congr fun t => and_congr_left' mapError_eq_ok_iff

private theorem write_spec {n text : String} (h : p.files.Ready working output) (hn : PlainName n)
    (hw : write working output p n text = .ok p') :
    Keeps working output p.files p'.files ∧ p'.store = p.store ∧ ∀ q, p'.files.entry? q =
      if q = output.place working ++ [n] then some (fileOf text) else p.files.entry? q := by
  obtain ⟨t, ht, rfl⟩ := write_eq_ok_iff.mp hw
  obtain ⟨hfile, ha⟩ := h.write hn ht
  exact ⟨⟨h.alters hfile.toProperName ha, fun _ => ha.directory⟩, rfl, ha.entry?⟩

private theorem restore_spec {n text : String} (h : p.files.Ready working output)
    (hn : PlainName n) (hrun : run working output p (.restore n text) = .ok p') :
    Keeps working output p.files p'.files ∧ p'.store = p.store ∧
      ∀ q, p'.files.entry? q =
        onEntry (output.place working) q (p.files.entry? q) (.restore n text) := by
  rcases run_restore_eq_ok_iff.mp hrun with ⟨⟨e, hl⟩, rfl⟩ | ⟨hl, hw⟩
  · refine ⟨.refl h, rfl, fun q => ?_⟩
    rw [onEntry]
    split
    · next hq => rw [hq, ← h.look hn hl, Option.some_or]
    · rfl
  · obtain ⟨hready, hstore, hentry⟩ := write_spec h hn hw
    refine ⟨hready, hstore, fun q => ?_⟩
    rw [hentry, onEntry]
    split
    · next hq => rw [hq, ← h.look hn hl, Option.none_or]
    · rfl

private theorem discard_spec {n : String} (h : p.files.Ready working output) (hn : PlainName n)
    (hrun : run working output p (.discard n) = .ok p') :
    Keeps working output p.files p'.files ∧ p'.store = p.store ∧
      ∀ q, p'.files.entry? q =
        onEntry (output.place working) q (p.files.entry? q) (.discard n) := by
  obtain ⟨t, ht, rfl⟩ := run_discard_eq_ok_iff.mp hrun
  obtain ⟨hfile, ha⟩ := h.unlink hn ht
  exact ⟨⟨h.alters hfile.toProperName ha, fun _ => ha.directory⟩, rfl, ha.entry?⟩

/-- **A step that succeeds** keeps the output directory ready and all directories, and does to every
place and to every path what it is said to do. -/
theorem run_spec (h : p.files.Ready working output) (hs : s.Plain)
    (hrun : run working output p s = .ok p') :
    Keeps working output p.files p'.files ∧
      (∀ q, p'.files.entry? q = s.onEntry (output.place working) q (p.files.entry? q)) ∧
      ∀ path, p'.store.get? path = s.onRecord path (p.store.get? path) := by
  cases s with
  | tell e =>
    rw [← Except.ok.inj hrun]
    exact ⟨.refl h, fun _ => rfl, fun _ => rfl⟩
  | restore n text =>
    obtain ⟨hready, hstore, hentry⟩ := restore_spec h hs hrun
    exact ⟨hready, hentry, fun _ => by rw [hstore]; rfl⟩
  | discard n =>
    obtain ⟨hready, hstore, hentry⟩ := discard_spec h hs hrun
    exact ⟨hready, hentry, fun _ => by rw [hstore]; rfl⟩
  | keep r =>
    obtain ⟨hready, hstore, hentry⟩ :=
      write_spec (p := { p with store := (p.store.commit r).1 }) h hs hrun
    refine ⟨hready, hentry, fun path => ?_⟩
    rw [hstore]
    exact Store.get?_commit _ _ _
  | forget path =>
    rw [← Except.ok.inj hrun]
    exact ⟨.refl h, fun _ => rfl, fun q => Store.get?_remove _ _ _⟩
  | fail e => cases hrun

/-! ### Runs -/

theorem runAll_cons (h : run working output p s = .ok p') :
    runAll working output p (s :: steps) = runAll working output p' steps := by
  rw [runAll, h]

/-- A run that succeeds has taken its first step, and has gone on from there. -/
theorem of_runAll_cons (h : (runAll working output p (s :: steps)).2 = .ok ()) :
    ∃ q, run working output p s = .ok q ∧
      runAll working output p (s :: steps) = runAll working output q steps := by
  cases hstep : run working output p s with
  | ok q => exact ⟨q, rfl, runAll_cons hstep⟩
  | error e =>
    rw [runAll, hstep] at h
    cases h

/-- **A run that succeeds is the fold of its steps**, for every place and every path. -/
theorem runAll_spec (h : p.files.Ready working output) (hs : ∀ s ∈ steps, s.Plain)
    (hrun : (runAll working output p steps).2 = .ok ()) :
    Keeps working output p.files (runAll working output p steps).1.files ∧
      (∀ q, (runAll working output p steps).1.files.entry? q =
        steps.foldl (onEntry (output.place working) q) (p.files.entry? q)) ∧
      ∀ path, (runAll working output p steps).1.store.get? path =
        steps.foldl (onRecord path) (p.store.get? path) := by
  induction steps generalizing p with
  | nil => exact ⟨.refl h, fun _ => rfl, fun _ => rfl⟩
  | cons s ss ih =>
    obtain ⟨q, hstep, hrest⟩ := of_runAll_cons hrun
    rw [hrest] at hrun ⊢
    obtain ⟨hkeeps, hentry, hrecord⟩ := run_spec h (hs s List.mem_cons_self) hstep
    obtain ⟨hkeeps', hentry', hrecord'⟩ :=
      ih hkeeps.ready (fun x hx => hs x (List.mem_cons_of_mem _ hx)) hrun
    refine ⟨⟨hkeeps'.ready, fun q hq => hkeeps'.directory q (hkeeps.directory q hq)⟩,
      fun q => ?_, fun path => ?_⟩
    · rw [hentry', hentry, List.foldl_cons]
    · rw [hrecord', hrecord, List.foldl_cons]

private theorem store_of_write {n text : String} (hw : write working output p n text = .ok p') :
    p'.store = p.store := by
  obtain ⟨t, -, rfl⟩ := write_eq_ok_iff.mp hw
  rfl

/-- **Whatever the files are**, a step that succeeds does to the store what it is said to do. -/
theorem store_of_run (hrun : run working output p s = .ok p') : p'.store = s.onStore p.store := by
  cases s with
  | tell e =>
    rw [← Except.ok.inj hrun]
    rfl
  | restore n text =>
    rcases run_restore_eq_ok_iff.mp hrun with ⟨-, rfl⟩ | ⟨-, hw⟩
    · rfl
    · exact store_of_write hw
  | discard n =>
    obtain ⟨t, -, rfl⟩ := run_discard_eq_ok_iff.mp hrun
    rfl
  | keep r => exact store_of_write hrun
  | forget path =>
    rw [← Except.ok.inj hrun]
    rfl
  | fail e => cases hrun

theorem store_of_runAll {q : Progress} (hrun : runAll working output p steps = (q, .ok ())) :
    q.store = steps.foldl onStore p.store := by
  induction steps generalizing p with
  | nil =>
    obtain ⟨rfl, -⟩ := Prod.mk.inj hrun
    rfl
  | cons s ss ih =>
    obtain ⟨p', hstep, hrest⟩ := of_runAll_cons (congrArg Prod.snd hrun)
    rw [ih (hrest.symm.trans hrun), store_of_run hstep, List.foldl_cons]

/-- Steps that do nothing to the store leave it as it is. -/
theorem foldl_onStore {store : Store} (h : ∀ s ∈ steps, ∀ x, onStore x s = x) :
    steps.foldl onStore store = store := by
  induction steps with
  | nil => rfl
  | cons s ss ih =>
    rw [List.foldl_cons, h s List.mem_cons_self]
    exact ih fun x hx => h x (List.mem_cons_of_mem _ hx)

/-- A step stores no other record than the one that it keeps. -/
private theorem mem_store_of_run {r : Record} (hrun : run working output p s = .ok p')
    (hr : r ∈ p'.store.records) : r ∈ p.store.records ∨ s = .keep r := by
  rw [store_of_run hrun] at hr
  cases s with
  | keep x =>
    rw [onStore, Store.mem_records_iff] at hr
    have hget := (Store.get?_commit p.store x r.path).symm.trans hr
    split at hget
    · cases hold : p.store.get? r.path with
      | none =>
        rw [hold] at hget
        exact .inr (by rw [← Option.some.inj hget]; rfl)
      | some old =>
        rw [hold, Store.kept] at hget
        split at hget
        · exact .inl (Option.some.inj hget ▸ Store.mem_records_of_get? hold)
        · exact .inr (by rw [← Option.some.inj hget])
    · exact .inl (Store.mem_records_of_get? hget)
  | forget path => exact .inl (Store.mem_remove.mp hr).1
  | tell _ => exact .inl hr
  | restore _ _ => exact .inl hr
  | discard _ => exact .inl hr
  | fail _ => exact .inl hr

/-- A run stores no other records than those that it keeps, whatever the files are. -/
theorem mem_store_of_runAll {r : Record}
    (hr : r ∈ (runAll working output p steps).1.store.records) :
    r ∈ p.store.records ∨ .keep r ∈ steps := by
  induction steps generalizing p with
  | nil => exact .inl hr
  | cons s ss ih =>
    rw [runAll] at hr
    cases hstep : run working output p s with
    | error e =>
      rw [hstep] at hr
      exact .inl hr
    | ok q =>
      rw [hstep] at hr
      rcases ih hr with hr | hr
      · rcases mem_store_of_run hstep hr with hr | rfl
        · exact .inl hr
        · exact .inr List.mem_cons_self
      · exact .inr (List.mem_cons_of_mem _ hr)

/-- Steps in a row are taken one part after the other. -/
theorem runAll_append {q : Progress} (hrun : runAll working output p steps = (q, .ok ()))
    (more : List Step) : runAll working output p (steps ++ more) = runAll working output q more := by
  induction steps generalizing p with
  | nil =>
    obtain ⟨rfl, -⟩ := Prod.mk.inj hrun
    rfl
  | cons s ss ih =>
    obtain ⟨p', hstep, hrest⟩ := of_runAll_cons (congrArg Prod.snd hrun)
    rw [List.cons_append, runAll_cons hstep]
    exact ih (hrest.symm.trans hrun)

/-- The step changes neither files nor records where the files are `t`. -/
def Idle (working : Place) (output : Location) (t : FileTree) (s : Step) : Prop :=
  ∀ p : Progress, p.files = t →
    ∃ q, run working output p s = .ok q ∧ q.files = p.files ∧ q.store = p.store

/-- Telling changes neither. -/
theorem idle_of_tell {t : FileTree} (h : ∃ e, s = .tell e) : s.Idle working output t := by
  obtain ⟨e, rfl⟩ := h
  exact fun p _ => ⟨{ p with log := p.log ++ [e] }, rfl, rfl, rfl⟩

/-- Looking for a file that is there. -/
theorem idle_restore {t : FileTree} {n text : String} (h : t.Ready working output)
    (hn : FileTree.FileName n) (hsome : (t.entry? (output.place working ++ [n])).isSome) :
    (Step.restore n text).Idle working output t := by
  rintro p rfl
  obtain ⟨e, he⟩ := Option.isSome_iff_exists.mp hsome
  exact ⟨p, run_restore_eq_ok_iff.mpr (.inl ⟨⟨e, by rw [h.look_eq hn, he]⟩, rfl⟩), rfl, rfl⟩

/-- A run of idle steps changes neither files nor records. -/
theorem runAll_idle (h : ∀ s ∈ steps, s.Idle working output p.files) :
    ∃ q : Progress, runAll working output p steps = (q, .ok ()) ∧ q.files = p.files ∧
      q.store = p.store := by
  induction steps generalizing p with
  | nil => exact ⟨p, rfl, rfl, rfl⟩
  | cons s ss ih =>
    obtain ⟨p', hrun, hfiles, hstore⟩ := h s List.mem_cons_self p rfl
    obtain ⟨q, hq, hfiles', hstore'⟩ := ih (p := p') fun x hx => by
      rw [hfiles]
      exact h x (List.mem_cons_of_mem _ hx)
    exact ⟨q, (runAll_cons hrun).trans hq, hfiles'.trans hfiles, hstore'.trans hstore⟩

/-- **A run that fails has taken all steps before one that fails**, and is left as they leave it. -/
theorem exists_of_runAll_error {e : BuildError}
    (hrun : (runAll working output p steps).2 = .error e) : ∃ taken s rest,
      steps = taken ++ s :: rest ∧
      runAll working output p taken = ((runAll working output p steps).1, .ok ()) ∧
      run working output (runAll working output p steps).1 s = .error e := by
  induction steps generalizing p with
  | nil => cases hrun
  | cons s ss ih =>
    rw [runAll] at hrun ⊢
    cases hstep : run working output p s with
    | error f =>
      rw [hstep] at hrun
      obtain rfl : f = e := Except.error.inj hrun
      exact ⟨[], s, ss, rfl, rfl, hstep⟩
    | ok q =>
      rw [hstep] at hrun
      obtain ⟨taken, x, rest, rfl, htaken, hx⟩ := ih hrun
      exact ⟨s :: taken, x, rest, rfl, (runAll_cons hstep).trans htaken, hx⟩

/-- A step fails because of a file, or because it is there to fail. -/
theorem of_run_eq_error {e : BuildError} (h : run working output p s = .error e) :
    (∃ f, e = .file f) ∨ s = .fail e := by
  have hwrite : ∀ {q : Progress} {n text : String}, write working output q n text = .error e →
      ∃ f, e = .file f := by
    intro q n text hw
    obtain ⟨f, -, hf⟩ := mapError_eq_error_iff.mp (map_eq_error_iff.mp hw)
    exact ⟨f, hf.symm⟩
  cases s with
  | tell _ => cases h
  | restore n text =>
    delta run at h
    dsimp only at h
    split at h
    · next f _ => exact .inl ⟨f, (Except.error.inj h).symm⟩
    · cases h
    · exact .inl (hwrite h)
  | discard n =>
    obtain ⟨f, -, hf⟩ := mapError_eq_error_iff.mp (map_eq_error_iff.mp h)
    exact .inl ⟨f, hf.symm⟩
  | keep r => exact .inl (hwrite h)
  | forget _ => cases h
  | fail e' => exact .inr (congrArg Step.fail (Except.error.inj h))

/-- A run with a failing step does not succeed. -/
theorem fail_notMem (hrun : (runAll working output p steps).2 = .ok ()) (e : BuildError) :
    .fail e ∉ steps := by
  induction steps generalizing p with
  | nil => exact List.not_mem_nil
  | cons s ss ih =>
    obtain ⟨q, hstep, hrest⟩ := of_runAll_cons hrun
    rw [hrest] at hrun
    intro hmem
    rcases List.mem_cons.mp hmem with rfl | hmem
    · cases hstep
    · exact ih hrun hmem

end

/-! ### Steps that concern one place

A unit is written by few of the steps of a run, and what is at its place afterwards follows from
which steps there are, in whatever order. -/

section

variable {out q : Place} {n : String} {steps : List Step} {e : Option Entry}

/-- What is not directly in the output directory stays. -/
theorem onEntry_elsewhere (hq : ∀ n, q ≠ out ++ [n]) : steps.foldl (onEntry out q) e = e := by
  induction steps generalizing e with
  | nil => rfl
  | cons s ss ih =>
    rw [List.foldl_cons, ih]
    cases s <;> first | rfl | exact if_neg (hq _)

/-! In the output directory a step concerns the place whose name it bears. -/

private theorem child_eq_iff {m : String} : out ++ [n] = out ++ [m] ↔ m = n :=
  ⟨fun h => (Place.child_inj h).symm, fun h => by rw [h]⟩

theorem onEntry_restore {m text : String} : onEntry out (out ++ [n]) e (.restore m text) =
    if m = n then e.or (some (fileOf text)) else e :=
  if_congr child_eq_iff rfl rfl

theorem onEntry_discard {m : String} : onEntry out (out ++ [n]) e (.discard m) =
    if m = n then none else e :=
  if_congr child_eq_iff rfl rfl

theorem onEntry_keep {r : Record} : onEntry out (out ++ [n]) e (.keep r) =
    if r.unitName = n then some (fileOf r.text) else e :=
  if_congr child_eq_iff rfl rfl

/-- Whether a step is among some steps, told for the first one and for the rest. -/
private theorem ite_mem_cons {α : Type} {s x : Step} {ss : List Step} {a b : α} :
    (if x ∈ s :: ss then a else b) = if s = x then a else if x ∈ ss then a else b := by
  by_cases h : s = x
  · rw [if_pos h, if_pos (by rw [h]; exact List.mem_cons_self)]
  · rw [if_neg h]
    exact if_congr (List.mem_cons.trans (or_iff_right (Ne.symm h))) rfl rfl

/-- **What is there stays, and what is kept is written**, unless its name is discarded or something
else is kept under it. -/
theorem onEntry_written {x : Entry} (hd : .discard n ∉ steps)
    (hk : ∀ r, .keep r ∈ steps → r.unitName = n → fileOf r.text = x)
    (h : e = some x ∨ ∃ r, .keep r ∈ steps ∧ r.unitName = n) :
    steps.foldl (onEntry out (out ++ [n])) e = some x := by
  induction steps generalizing e with
  | nil =>
    rcases h with h | ⟨r, hr, -⟩
    · exact h
    · exact absurd hr List.not_mem_nil
  | cons s ss ih =>
    -- once the entry is `x`, every further step leaves it so
    have hhead : (∃ r, s = .keep r ∧ r.unitName = n) ∨ e = some x →
        onEntry out (out ++ [n]) e s = some x := by
      rintro (⟨r, rfl, hr⟩ | rfl)
      · rw [onEntry_keep, if_pos hr, hk r List.mem_cons_self hr]
      · cases s with
        | restore m text => rw [onEntry_restore, Option.some_or, ite_self]
        | discard m =>
          rw [onEntry_discard, if_neg]
          rintro rfl
          exact hd List.mem_cons_self
        | keep r =>
          rw [onEntry_keep]
          split
          · next hr => rw [hk r List.mem_cons_self hr]
          · rfl
        | tell _ => rfl
        | forget _ => rfl
        | fail _ => rfl
    rw [List.foldl_cons]
    refine ih (List.not_mem_of_not_mem_cons hd) (fun r hr => hk r (List.mem_cons_of_mem _ hr)) ?_
    rcases h with h | ⟨r, hr, hn⟩
    · exact .inl (hhead (.inr h))
    · rcases List.mem_cons.mp hr with hr | hr
      · exact .inl (hhead (.inl ⟨r, hr.symm, hn⟩))
      · exact .inr ⟨r, hr, hn⟩

/-- **What is discarded is gone**, unless something is written under its name. -/
theorem onEntry_unwritten (hr : ∀ text, .restore n text ∉ steps)
    (hk : ∀ r, .keep r ∈ steps → r.unitName ≠ n) :
    steps.foldl (onEntry out (out ++ [n])) e = if .discard n ∈ steps then none else e := by
  induction steps generalizing e with
  | nil => rfl
  | cons s ss ih =>
    have hhead : onEntry out (out ++ [n]) e s = if s = .discard n then none else e := by
      cases s with
      | restore m text =>
        rw [onEntry_restore, if_neg, if_neg nofun]
        rintro rfl
        exact hr text List.mem_cons_self
      | discard m => simp only [onEntry_discard, discard.injEq]
      | keep r => rw [onEntry_keep, if_neg (hk r List.mem_cons_self), if_neg nofun]
      | tell _ => rfl
      | forget _ => rfl
      | fail _ => rfl
    rw [List.foldl_cons, ih (fun text => List.not_mem_of_not_mem_cons (hr text))
      (fun r hr => hk r (List.mem_cons_of_mem _ hr)), hhead, ite_mem_cons]
    by_cases hs : s = .discard n
    · rw [if_pos hs, if_pos hs, ite_self]
    · rw [if_neg hs, if_neg hs]

/-- **What is missing is restored**, and what is there stays, if nothing is kept or discarded under
the name and there is one text to restore. -/
theorem onEntry_restored {text : String} (hd : .discard n ∉ steps)
    (hk : ∀ r, .keep r ∈ steps → r.unitName ≠ n)
    (hr : ∀ text', .restore n text' ∈ steps → text' = text) :
    steps.foldl (onEntry out (out ++ [n])) e =
      e.or (if .restore n text ∈ steps then some (fileOf text) else none) := by
  induction steps generalizing e with
  | nil => exact (Option.or_none).symm
  | cons s ss ih =>
    have hhead : onEntry out (out ++ [n]) e s =
        e.or (if s = .restore n text then some (fileOf text) else none) := by
      cases s with
      | restore m text' =>
        rw [onEntry_restore]
        by_cases hm : m = n
        · subst hm
          obtain rfl := hr text' List.mem_cons_self
          rw [if_pos rfl, if_pos rfl]
        · rw [if_neg hm, if_neg fun h => hm (restore.inj h).1, Option.or_none]
      | discard m =>
        rw [onEntry_discard, if_neg, if_neg nofun, Option.or_none]
        rintro rfl
        exact hd List.mem_cons_self
      | keep r =>
        rw [onEntry_keep, if_neg (hk r List.mem_cons_self), if_neg nofun, Option.or_none]
      | tell _ => exact (Option.or_none).symm
      | forget _ => exact (Option.or_none).symm
      | fail _ => exact (Option.or_none).symm
    rw [List.foldl_cons, ih (List.not_mem_of_not_mem_cons hd)
      (fun r hr => hk r (List.mem_cons_of_mem _ hr))
      (fun text' h => hr text' (List.mem_cons_of_mem _ h)), hhead, ite_mem_cons, Option.or_assoc]
    split
    · rw [Option.some_or]
    · rw [Option.none_or]

/-- **A file comes from somewhere**: it was there before, or one of the steps has written it. -/
theorem of_onEntry_eq_file {bytes : List UInt8}
    (h : steps.foldl (onEntry out (out ++ [n])) e = some (.file bytes)) :
    e = some (.file bytes) ∨
      ∃ s ∈ steps, ∃ text, s.written? = some (n, text) ∧ bytes = Fingerprint.bytesOf text := by
  induction steps generalizing e with
  | nil => exact .inl h
  | cons s ss ih =>
    rw [List.foldl_cons] at h
    rcases ih h with hhead | ⟨x, hx, htext⟩
    · -- after the first step the file is there, so it was there before or is what the step writes
      have hsame : ∀ text, some (fileOf text) = some (.file bytes) →
          bytes = Fingerprint.bytesOf text := by
        rintro text ⟨⟩
        rfl
      cases s with
      | restore m text =>
        rw [onEntry_restore] at hhead
        split at hhead
        · next hm =>
          cases e with
          | some f => exact .inl hhead
          | none => exact .inr ⟨_, List.mem_cons_self, text, by rw [← hm]; rfl, hsame text hhead⟩
        · exact .inl hhead
      | discard m =>
        rw [onEntry_discard] at hhead
        split at hhead
        · cases hhead
        · exact .inl hhead
      | keep r =>
        rw [onEntry_keep] at hhead
        split at hhead
        · next hm =>
          exact .inr ⟨_, List.mem_cons_self, r.text, by rw [← hm]; rfl, hsame r.text hhead⟩
        · exact .inl hhead
      | tell _ => exact .inl hhead
      | forget _ => exact .inl hhead
      | fail _ => exact .inl hhead
    · exact .inr ⟨x, List.mem_cons_of_mem _ hx, htext⟩

end

/-! ### Steps that concern one path -/

section

variable {path : String} {r : Option Record} {steps : List Step}

/-- The record of a path stays if no step keeps or forgets it. -/
theorem onRecord_kept (hk : ∀ x, .keep x ∈ steps → x.path ≠ path) (hf : .forget path ∉ steps) :
    steps.foldl (onRecord path) r = r := by
  induction steps generalizing r with
  | nil => rfl
  | cons s ss ih =>
    rw [List.foldl_cons, ih (fun x hx => hk x (List.mem_cons_of_mem _ hx))
      (List.not_mem_of_not_mem_cons hf)]
    cases s with
    | keep x => exact if_neg fun hx => hk x List.mem_cons_self hx.symm
    | forget p => exact if_neg fun hp => hf (by rw [hp]; exact List.mem_cons_self)
    | tell _ => rfl
    | restore _ _ => rfl
    | discard _ => rfl
    | fail _ => rfl

/-- **A record is stored** if the steps keep no other one for its path and do not forget it, unless
one made from the same key is there. -/
theorem onRecord_stored {x : Record} (hk : ∀ y, .keep y ∈ steps → y.path = x.path → y = x)
    (hf : .forget x.path ∉ steps) (hold : Store.kept x r = x)
    (h : r = some x ∨ .keep x ∈ steps) : steps.foldl (onRecord x.path) r = some x := by
  have hagain : Store.kept x (some x) = x := if_pos (beq_self_eq_true _)
  induction steps generalizing r with
  | nil =>
    rcases h with h | h
    · exact h
    · exact absurd h List.not_mem_nil
  | cons s ss ih =>
    -- a step stores the record or has nothing to do with its path
    have hhead : onRecord x.path r s = some x ∨ onRecord x.path r s = r ∧ s ≠ .keep x := by
      cases s with
      | keep y =>
        by_cases hy : x.path = y.path
        · obtain rfl := hk y List.mem_cons_self hy.symm
          exact .inl (by rw [onRecord, if_pos rfl, hold])
        · refine .inr ⟨if_neg hy, ?_⟩
          rintro ⟨rfl⟩
          exact hy rfl
      | forget p =>
        refine .inr ⟨if_neg ?_, nofun⟩
        rintro rfl
        exact hf List.mem_cons_self
      | tell _ => exact .inr ⟨rfl, nofun⟩
      | restore _ _ => exact .inr ⟨rfl, nofun⟩
      | discard _ => exact .inr ⟨rfl, nofun⟩
      | fail _ => exact .inr ⟨rfl, nofun⟩
    have hk' : ∀ y, .keep y ∈ ss → y.path = x.path → y = x :=
      fun y hy => hk y (List.mem_cons_of_mem _ hy)
    have hf' := List.not_mem_of_not_mem_cons hf
    rw [List.foldl_cons]
    rcases hhead with hhead | ⟨hhead, hne⟩
    · rw [hhead]
      exact ih hk' hf' hagain (.inl rfl)
    · rw [hhead]
      refine ih hk' hf' hold ?_
      rcases h with h | h
      · exact .inl h
      · exact .inr ((List.mem_cons.mp h).resolve_left fun heq => hne heq.symm)

/-- **A forgotten record is gone**, if none is kept for its path. -/
theorem onRecord_forgotten (hk : ∀ x, .keep x ∈ steps → x.path ≠ path)
    (h : r = none ∨ .forget path ∈ steps) : steps.foldl (onRecord path) r = none := by
  induction steps generalizing r with
  | nil =>
    rcases h with h | h
    · exact h
    · exact absurd h List.not_mem_nil
  | cons s ss ih =>
    have hhead : s = .forget path ∨ r = none → onRecord path r s = none := by
      rintro (rfl | rfl)
      · exact if_pos rfl
      · cases s with
        | keep x => exact if_neg fun hx => hk x List.mem_cons_self hx.symm
        | forget p => exact ite_self _
        | tell _ => rfl
        | restore _ _ => rfl
        | discard _ => rfl
        | fail _ => rfl
    rw [List.foldl_cons]
    refine ih (fun x hx => hk x (List.mem_cons_of_mem _ hx)) ?_
    rcases h with h | h
    · exact .inl (hhead (.inr h))
    · rcases List.mem_cons.mp h with h | h
      · exact .inl (hhead (.inl h.symm))
      · exact .inr h

end

end Pageworks.Step
