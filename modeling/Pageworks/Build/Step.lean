import Pageworks.Build.Survey
import Pageworks.Log
import Pageworks.Store

/-!
# Steps of a build

A build changes the output directory and the record store in single steps.  A step that fails ends
the build.

## Main definitions

* `Step`: the steps.
* `Progress`: what a build has changed so far.
* `Step.run`, `Step.runAll`: a step, and steps one after the other.
-/

namespace Pageworks

/-- A step of a build. -/
inductive Step
  /-- Tells something. -/
  | tell (e : LogEntry)
  /-- Writes a file of the output directory if it is missing. -/
  | restore (name text : String)
  /-- Removes a file of the output directory. -/
  | discard (name : String)
  /-- Commits a record and writes its unit. -/
  | keep (r : Record)
  /-- Removes the record of a path. -/
  | forget (path : String)
  /-- Fails. -/
  | fail (e : BuildError)
  deriving DecidableEq, Repr

/-- What a build has changed so far. -/
structure Progress where
  /-- The files. -/
  files : FileTree
  /-- The records. -/
  store : Store
  /-- What was told. -/
  log : List LogEntry
  deriving DecidableEq, Repr

namespace Step

/-- Writes a file of the output directory. -/
def write (working : Place) (output : Location) (p : Progress) (name text : String) :
    Except BuildError Progress :=
  ((p.files.write working (output.resolve name) text).mapError .file).map fun t =>
    { p with files := t }

/-- Takes a step.  What a failing step has changed in the store stays with the step, since a failed
build forgets all changes to the store. -/
def run (working : Place) (output : Location) (p : Progress) : Step → Except BuildError Progress
  | .tell e => .ok { p with log := p.log ++ [e] }
  | .restore name text =>
    match p.files.look working (output.resolve name) with
    | .error f => .error (.file f)
    | .ok (some _) => .ok p
    | .ok none => write working output p name text
  | .discard name =>
    ((p.files.unlink working (output.resolve name)).mapError .file).map fun t =>
      { p with files := t }
  | .keep r => write working output { p with store := (p.store.commit r).1 } r.unitName r.text
  | .forget path => .ok { p with store := p.store.remove path }
  | .fail e => .error e

/-- Takes steps until one fails.  What was changed up to then is left. -/
def runAll (working : Place) (output : Location) :
    Progress → List Step → Progress × Except BuildError Unit
  | p, [] => (p, .ok ())
  | p, s :: ss =>
    match run working output p s with
    | .ok p => runAll working output p ss
    | .error e => (p, .error e)

end Step

end Pageworks
