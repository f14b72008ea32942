import Pageworks.Proofs.Build.Plan

/-!
# When a build succeeds

A step fails only if no file can have its name or a directory stands in its way, and no step puts a
directory in the way of a later one.  So whether a build succeeds can be told from the tree that it
starts with: every document must have a key and a unit, and every name must be free for a file.

## Main definitions

* `Step.Admitted` — nothing keeps the step from being taken.

## Main results

* `Step.runAll_isOk_iff` — **a run succeeds if and only if all its steps are admitted** at its start.
* `Build.result_eq_ok_iff` — so does a build, and then it reports what it has planned.
* `Build.run_settled` — a build does nothing where everything is settled.
* `Survey.admitted_of_mem_plan` — documents with units and names that are free are all that it takes.
-/

namespace Pageworks

namespace Step

/-- Nothing keeps the step from being taken in the directory `out`. -/
def Admitted (t : FileTree) (out : Place) : Step → Prop
  | .restore n _ => FileTree.FileName n
  | .discard n => FileTree.FileName n ∧ t.entry? (out ++ [n]) ≠ some .directory
  | .keep r => FileTree.FileName r.unitName ∧ t.entry? (out ++ [r.unitName]) ≠ some .directory
  | .tell _ | .forget _ => True
  | .fail _ => False

section

variable {working : Place} {output : Location} {p q : Progress} {s : Step} {steps : List Step}

private theorem write_isOk_iff {n text : String} (h : p.files.Ready working output)
    (hn : PlainName n) : (∃ q, write working output p n text = .ok q) ↔
      FileTree.FileName n ∧ p.files.entry? (output.place working ++ [n]) ≠ some .directory := by
  constructor
  · rintro ⟨q, hq⟩
    obtain ⟨t, ht, -⟩ := write_eq_ok_iff.mp hq
    obtain ⟨hfile, ha⟩ := h.write hn ht
    exact ⟨hfile, ha.notDirectory⟩
  · rintro ⟨hfile, hdir⟩
    exact ⟨_, write_eq_ok_iff.mpr ⟨_, h.write_eq hfile hdir text, rfl⟩⟩

private theorem restore_isOk_iff {n text : String} (h : p.files.Ready working output)
    (hn : PlainName n) :
    (∃ q, run working output p (.restore n text) = .ok q) ↔ FileTree.FileName n := by
  constructor
  · rintro ⟨q, hq⟩
    rcases run_restore_eq_ok_iff.mp hq with ⟨⟨e, hlook⟩, -⟩ | ⟨-, hw⟩
    · rcases h.locate_resolve hn with ⟨hfile, -⟩ | ⟨-, ⟨-, hl⟩ | hl⟩
      · exact hfile
      -- nothing is found under a name that a file cannot have
      · rw [FileTree.look, hl] at hlook
        cases hlook
      · rw [FileTree.look, hl] at hlook
        cases hlook
    · exact ((write_isOk_iff h hn).mp ⟨q, hw⟩).1
  · intro hfile
    cases hentry : p.files.entry? (output.place working ++ [n]) with
    | some e =>
      exact ⟨p, run_restore_eq_ok_iff.mpr (.inl ⟨⟨e, by rw [h.look_eq hfile, hentry]⟩, rfl⟩)⟩
    | none =>
      obtain ⟨q, hw⟩ : ∃ q, write working output p n text = .ok q := by
        refine (write_isOk_iff h hn).mpr ⟨hfile, fun hdir => ?_⟩
        rw [hentry] at hdir
        cases hdir
      exact ⟨q, run_restore_eq_ok_iff.mpr (.inr ⟨by rw [h.look_eq hfile, hentry], hw⟩)⟩

private theorem discard_isOk_iff {n : String} (h : p.files.Ready working output)
    (hn : PlainName n) : (∃ q, run working output p (.discard n) = .ok q) ↔
      FileTree.FileName n ∧ p.files.entry? (output.place working ++ [n]) ≠ some .directory := by
  constructor
  · rintro ⟨q, hq⟩
    obtain ⟨t, ht, -⟩ := run_discard_eq_ok_iff.mp hq
    obtain ⟨hfile, ha⟩ := h.unlink hn ht
    exact ⟨hfile, ha.notDirectory⟩
  · rintro ⟨hfile, hdir⟩
    exact ⟨_, run_discard_eq_ok_iff.mpr ⟨_, h.unlink_eq hfile hdir, rfl⟩⟩

theorem run_isOk_iff (h : p.files.Ready working output) (hs : s.Plain) :
    (∃ q, run working output p s = .ok q) ↔ s.Admitted p.files (output.place working) := by
  cases s with
  | restore n text => exact restore_isOk_iff h hs
  | discard n => exact discard_isOk_iff h hs
  | keep r => exact write_isOk_iff (p := { p with store := (p.store.commit r).1 }) h hs
  | tell e => exact ⟨fun _ => trivial, fun _ => ⟨_, rfl⟩⟩
  | forget path => exact ⟨fun _ => trivial, fun _ => ⟨_, rfl⟩⟩
  | fail e => exact ⟨fun ⟨q, hq⟩ => (by cases hq), fun hfalse => absurd hfalse id⟩

/-- A step leaves directories where they are, and makes none. -/
private theorem directory_iff_of_run (h : p.files.Ready working output) (hs : s.Plain)
    (hrun : run working output p s = .ok q) (x : Place) :
    q.files.entry? x = some .directory ↔ p.files.entry? x = some .directory := by
  obtain ⟨hkeeps, hentry, -⟩ := run_spec h hs hrun
  refine ⟨fun hx => ?_, hkeeps.directory x⟩
  rw [hentry] at hx
  cases s with
  | restore n text =>
    rw [onEntry] at hx
    split at hx
    · cases hbefore : p.files.entry? x with
      | none => rw [hbefore] at hx; cases hx
      | some e => rwa [hbefore, Option.some_or] at hx
    · exact hx
  | discard n =>
    rw [onEntry] at hx
    split at hx
    · cases hx
    · exact hx
  | keep r =>
    rw [onEntry] at hx
    split at hx
    · cases hx
    · exact hx
  | tell _ => exact hx
  | forget _ => exact hx
  | fail _ => exact hx

/-- No step hinders a later one, or makes way for it. -/
private theorem admitted_congr {t t' : FileTree} {out : Place}
    (h : ∀ x, t'.entry? x = some .directory ↔ t.entry? x = some .directory) (s : Step) :
    s.Admitted t' out ↔ s.Admitted t out := by
  cases s with
  | discard n => exact and_congr_right fun _ => not_congr (h _)
  | keep r => exact and_congr_right fun _ => not_congr (h _)
  | restore n text => exact Iff.rfl
  | tell _ => exact Iff.rfl
  | forget _ => exact Iff.rfl
  | fail _ => exact Iff.rfl

/-- **A run succeeds if and only if all its steps are admitted** at its start. -/
theorem runAll_isOk_iff (h : p.files.Ready working output) (hs : ∀ s ∈ steps, s.Plain) :
    (runAll working output p steps).2 = .ok () ↔
      ∀ s ∈ steps, s.Admitted p.files (output.place working) := by
  induction steps generalizing p with
  | nil => exact ⟨fun _ s hmem => absurd hmem List.not_mem_nil, fun _ => rfl⟩
  | cons s ss ih =>
    have hplain := hs s List.mem_cons_self
    rw [runAll, List.forall_mem_cons, ← run_isOk_iff h hplain]
    cases hstep : run working output p s with
    | error e =>
      constructor
      · intro hrun
        cases hrun
      · rintro ⟨⟨q, hq⟩, -⟩
        cases hq
    | ok q =>
      obtain ⟨hkeeps, -, -⟩ := run_spec h hplain hstep
      have hrest := ih hkeeps.ready fun x hx => hs x (List.mem_cons_of_mem _ hx)
      refine hrest.trans ?_
      rw [and_iff_right ⟨q, rfl⟩]
      exact forall₂_congr fun x _ => admitted_congr (directory_iff_of_run h hplain hstep) x

end

end Step

namespace Survey

variable {s : Survey} {store : Store} {time : Option Moment} {t : FileTree} {out : Place}

/-- **Documents with units and names that are free** are all that a plan takes. -/
theorem admitted_of_mem_plan [SetOrder] (hkeys : ∀ d ∈ s.documents, ∃ key, s.key d = .ok key)
    (hunits : ∀ d ∈ s.documents, ∃ u, s.unit d = .ok u) (hsweeps : ∃ b, s.sweeps = .ok b)
    (hnames : ∀ n, n ∈ s.unitNames ∨ n ∈ store.records.map Record.unitName →
      FileTree.FileName n ∧ t.entry? (out ++ [n]) ≠ some .directory)
    {x : Step} (hx : x ∈ (s.plan store time).steps) : x.Admitted t out := by
  have hname : ∀ n, x.name? = some n → FileTree.FileName n ∧ t.entry? (out ++ [n]) ≠ some .directory :=
    fun n hn => hnames n (of_name?_mem_plan hx hn)
  cases x with
  | restore n text => exact (hname n rfl).1
  | discard n => exact hname n rfl
  | keep r => exact hname r.unitName rfl
  | tell e => exact trivial
  | forget path => exact trivial
  | fail e => exact fail_notMem_plan hkeys hunits hsweeps e hx

end Survey

namespace Build

variable [SetOrder] {settings : Settings} {working : Place} {l : Location} {time : Option Moment}
  {files made : FileTree} {store : Store} {s : Survey}

/-- **A build succeeds if and only if all its steps are admitted** once the output directory is made,
and then it reports what it has planned. -/
theorem result_eq_ok_iff (hfiles : files.WellFormed)
    (hworking : files.entry? working = some .directory)
    (hplain : ∀ r ∈ store.records, PlainName r.unitName)
    (hs : Survey.take files working l settings = .ok s)
    (hmade : files.makeDirectory working (.parse settings.outputDirectory) = .ok made)
    {report : Report} :
    (run settings working l time files store).result = .ok report ↔
      report = s.report store ∧ ∀ x ∈ (s.plan store time).steps,
        x.Admitted made ((Location.parse settings.outputDirectory).place working) := by
  obtain ⟨hready, -⟩ := FileTree.ready_of_makeDirectory hfiles hworking hmade
  rw [← Step.runAll_isOk_iff (p := ⟨made, store, []⟩) hready
    fun x hx => Survey.plain_of_mem_plan hplain hx, run_eq_follow hs hmade, follow]
  dsimp only
  split
  · next hok =>
    rw [hok]
    exact ⟨fun h => ⟨(Except.ok.inj h).symm, rfl⟩, fun h => congrArg Except.ok h.1.symm⟩
  · next e herror =>
    rw [herror]
    exact ⟨fun h => (by cases h), fun h => (by cases h.2)⟩

/-- A build that succeeds reports what it has planned. -/
theorem report_of_run (hfiles : files.WellFormed)
    (hworking : files.entry? working = some .directory)
    (hplain : ∀ r ∈ store.records, PlainName r.unitName)
    (hs : Survey.take files working l settings = .ok s) {report : Report}
    (h : (run settings working l time files store).result = .ok report) :
    report = s.report store := by
  obtain ⟨-, made, -, hmade, -⟩ := exists_runAll_of_run h
  exact ((result_eq_ok_iff hfiles hworking hplain hs hmade).mp h).1

/-- **Where everything is settled, a build does nothing**: it succeeds and leaves the records as they
were, and the files too if all units are there. -/
theorem run_settled (hfiles : files.WellFormed) (hworking : files.entry? working = some .directory)
    (hplain : ∀ r ∈ store.records, PlainName r.unitName)
    (hs : Survey.take files working l settings = .ok s)
    (hmade : files.makeDirectory working (.parse settings.outputDirectory) = .ok made)
    (h : s.Settled store) (hsweeps : ∃ b, s.sweeps = .ok b)
    (hnames : ∀ d ∈ s.documents, ∀ r, s.verdict store d = .current r →
      FileTree.FileName r.unitName) (time : Option Moment) :
    (run settings working l time files store).result = .ok ⟨0, 0, s.documents.length, 0, []⟩ ∧
      (run settings working l time files store).store = store ∧
      ((∀ d ∈ s.documents, ∀ r, s.verdict store d = .current r →
          (made.entry? ((Location.parse settings.outputDirectory).place working ++
            [r.unitName])).isSome) →
        (run settings working l time files store).files = made) := by
  have hsteps := fun x (hx : x ∈ (s.plan store time).steps) => h.of_mem_plan hsweeps hx
  have hresult : (run settings working l time files store).result =
      .ok ⟨0, 0, s.documents.length, 0, []⟩ := by
    rw [result_eq_ok_iff hfiles hworking hplain hs hmade]
    refine ⟨h.report_eq.symm, fun x hx => ?_⟩
    rcases hsteps x hx with ⟨e, rfl⟩ | ⟨d, hd, r, hv, rfl⟩
    · exact trivial
    · exact hnames d hd r hv
  obtain ⟨hready, -⟩ := FileTree.ready_of_makeDirectory hfiles hworking hmade
  obtain ⟨s', made', hs', hmade', hok, hfiles', hstore'⟩ := exists_runAll_of_run hresult
  obtain rfl : s' = s := Except.ok.inj (hs'.symm.trans hs)
  obtain rfl : made' = made := Except.ok.inj (hmade'.symm.trans hmade)
  refine ⟨hresult, ?_, fun hunits => ?_⟩
  · rw [hstore', Step.store_of_runAll (Prod.ext rfl hok)]
    refine Step.foldl_onStore fun x hx => ?_
    rcases hsteps x hx with ⟨e, rfl⟩ | ⟨d, -, r, -, rfl⟩
    · exact fun _ => rfl
    · exact fun _ => rfl
  · have hidle : ∀ x ∈ (s'.plan store time).steps,
        x.Idle working (.parse settings.outputDirectory) made' := by
      intro x hx
      rcases hsteps x hx with htell | ⟨d, hd, r, hv, rfl⟩
      · exact Step.idle_of_tell htell
      · exact Step.idle_restore hready (hnames d hd r hv) (hunits d hd r hv)
    obtain ⟨q, hq, hqfiles, -⟩ := Step.runAll_idle (p := ⟨made', store, []⟩) hidle
    rw [hfiles', hq]
    exact hqfiles

end Build

end Pageworks
