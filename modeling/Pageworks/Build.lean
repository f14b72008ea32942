import Pageworks.Build.Plan

/-!
# Builds

A build generates the documents at a location that are not up to date, writes their units into the
output directory and records them.  A build that fails leaves the records as they were.

## Main definitions

* `BuildOutcome`: what a build leaves behind.
* `Build.run`: builds what is at a location.
-/

namespace Pageworks

/-- What a build leaves behind. -/
structure BuildOutcome where
  /-- The files. -/
  files : FileTree
  /-- The records. -/
  store : Store
  /-- What was told. -/
  log : List LogEntry
  /-- What the build reports, or why it failed. -/
  result : Except BuildError Report

namespace Build

variable [SetOrder]

/-- Takes the steps of a survey's plan, the output directory being there. -/
def follow (s : Survey) (working : Place) (output : Location) (time : Option Moment)
    (files : FileTree) (store : Store) : BuildOutcome :=
  let plan := s.plan store time
  let (p, result) := Step.runAll working output ⟨files, store, []⟩ plan.steps
  match result with
  | .ok () => ⟨p.files, p.store, p.log, .ok plan.report⟩
  | .error e => ⟨p.files, store, p.log, .error e⟩

/-- Builds what is at a location, seen from the working directory. -/
def run (settings : Settings) (working : Place) (l : Location) (time : Option Moment)
    (files : FileTree) (store : Store) : BuildOutcome :=
  match Survey.take files working l settings with
  | .error e => ⟨files, store, [], .error e⟩
  | .ok s =>
    let output := Location.parse settings.outputDirectory
    match files.makeDirectory working output with
    | .error f => ⟨files, store, [], .error (.file f)⟩
    | .ok files => follow s working output time files store

end Build

end Pageworks
