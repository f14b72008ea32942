import Pageworks.Proofs.Build.Frame

/-!
# Builds as transactions

A build changes the store record by record while it also writes files, and it may fail between any
two of these changes.  All of them belong to one session, which is saved at the end of the build or
not at all.  So a build that fails has no effect on the store, however far it has come.

What carries the proof is that no step of a build touches what is saved.

## Main definitions

* `Session.take`, `Session.takeAll` — what steps of a build do in a session.

## Main results

* `Session.rollback_takeAll` — **taking back a session gives the store that it was opened on**,
  after any steps.
* `Session.live_takeAll` — what a session shows is what the steps of a build have made of the store.
* `Build.atomic` — **a build that fails leaves the store as it was**, wherever it has failed.
-/

namespace Pageworks

namespace Session

/-- What a step of a build does in a session. -/
def take (σ : Session) : Step → Session
  | .keep r => (σ.commit r).1
  | .forget path => (σ.remove path).1
  | .tell _ | .restore _ _ | .discard _ | .fail _ => σ

/-- What steps of a build do in a session, one after the other. -/
def takeAll (σ : Session) (steps : List Step) : Session := steps.foldl take σ

/-- No step touches what is saved. -/
theorem saved_take (σ : Session) (s : Step) : (σ.take s).saved = σ.saved := by
  cases s <;> rfl

/-- A step does to what the session shows what it does to a store. -/
theorem live_take (σ : Session) (s : Step) : (σ.take s).live = s.onStore σ.live := by
  cases s <;> rfl

theorem saved_takeAll (σ : Session) (steps : List Step) : (σ.takeAll steps).saved = σ.saved := by
  induction steps generalizing σ with
  | nil => rfl
  | cons s ss ih => exact (ih (σ.take s)).trans (saved_take σ s)

/-- **Taking back a session gives the store that it was opened on**, after any steps. -/
theorem rollback_takeAll (store : Store) (steps : List Step) :
    ((on store).takeAll steps).rollback = on store := by
  rw [rollback, saved_takeAll]
  rfl

theorem live_takeAll_eq_foldl (σ : Session) (steps : List Step) :
    (σ.takeAll steps).live = steps.foldl Step.onStore σ.live := by
  induction steps generalizing σ with
  | nil => rfl
  | cons s ss ih => exact (ih (σ.take s)).trans (by rw [live_take, List.foldl_cons])

/-- **What a session shows is what the steps of a build have made of the store**, as long as none
of them fails. -/
theorem live_takeAll {working : Place} {output : Location} {p q : Progress} {steps : List Step}
    (hrun : Step.runAll working output p steps = (q, .ok ())) :
    ((on p.store).takeAll steps).live = q.store := by
  rw [live_takeAll_eq_foldl, Step.store_of_runAll hrun]
  rfl

end Session

namespace Build

variable {settings : Settings} {working : Place} {l : Location} {time : Option Moment}
  {files : FileTree} {store : Store}

/-- **A build that fails leaves the store as it was.**  Either it has begun nothing, or it has taken
some steps of its plan in a session, up to one that fails: then the files stay as these steps have
left them, while the session, whatever it shows by then, is taken back.  Nor does anything reach the
store if the session breaks off after any number of steps, because of the store itself. -/
theorem atomic [SetOrder] {e : BuildError}
    (h : (run settings working l time files store).result = .error e) :
    (run settings working l time files store).store = store ∧
      ((run settings working l time files store).files = files ∨
        ∃ s made taken step rest p, Survey.take files working l settings = .ok s ∧
          files.makeDirectory working (.parse settings.outputDirectory) = .ok made ∧
          (s.plan store time).steps = taken ++ step :: rest ∧
          Step.runAll working (.parse settings.outputDirectory) ⟨made, store, []⟩ taken =
            (p, .ok ()) ∧
          Step.run working (.parse settings.outputDirectory) p step = .error e ∧
          (run settings working l time files store).files = p.files ∧
          ((Session.on store).takeAll taken).live = p.store ∧
          ((Session.on store).takeAll taken).rollback.live =
            (run settings working l time files store).store) ∧
      ∀ s, Survey.take files working l settings = .ok s → ∀ k,
        ((Session.on store).takeAll ((s.plan store time).steps.take k)).rollback.live = store := by
  have hstore := store_of_error h
  refine ⟨hstore, ?_, fun s _ k => by rw [Session.rollback_takeAll]; rfl⟩
  rcases exists_runAll_of_error h with hfiles | ⟨s, made, taken, step, rest, p, hs, hmade, hsteps,
    htaken, hstep, hfiles⟩
  · exact .inl hfiles
  · refine .inr ⟨s, made, taken, step, rest, p, hs, hmade, hsteps, htaken, hstep, hfiles,
      Session.live_takeAll htaken, ?_⟩
    rw [Session.rollback_takeAll, hstore]
    rfl

/-- Two directories with pages, and a directory where the unit of a page would be written. -/
def blocked : FileTree := FileTree.twins.plant ["out", "page.md.g.cs"] .directory

private theorem take_blocked : Survey.take blocked [] (.parse "b") (.declaring "A") =
    .ok { Survey.onePage "/b" "/b/index.md" "A" with
      documents := [⟨"/b/index.md", "y\n"⟩, ⟨"/b/page.md", "z\n"⟩] } := by
  refine Survey.take_of_directory rfl rfl ?_ rfl ?_ ?_ ?_ rfl rfl
  all_goals decide +kernel

attribute [local instance] SetOrder.standard

/-- A build that cannot write its second unit leaves the first one, but no record. -/
theorem atomic_blocked :
    (run (.declaring "A") [] (.parse "b") none blocked .empty).result.toBool = false ∧
      (run (.declaring "A") [] (.parse "b") none blocked .empty).files.isFile
        ["out", "index.md.g.cs"] = true ∧
      (run (.declaring "A") [] (.parse "b") none blocked .empty).store = .empty := by
  have hresult : (run (.declaring "A") [] (.parse "b") none blocked .empty).result.toBool = false :=
    by rw [run, take_blocked]; decide +kernel
  refine ⟨hresult, by rw [run, take_blocked]; decide +kernel, ?_⟩
  cases hrun : (run (.declaring "A") [] (.parse "b") none blocked .empty).result with
  | ok report => rw [hrun] at hresult; cases hresult
  | error e => exact (atomic hrun).1

end Build

end Pageworks
