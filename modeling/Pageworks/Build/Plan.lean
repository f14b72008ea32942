import Pageworks.Build.Step

/-!
# Plans of a build

Which steps a build takes follows from what it found and from the records of earlier builds.  A
document whose key is the one of its record is left alone, and every other one is generated.

## Main definitions

* `Verdict`, `Survey.verdict`: what is to be done about a document.
* `Survey.stale`, `Survey.gone`: the documents to generate and the records to forget.
* `Plan`, `Survey.plan`: the steps of a build, and what it reports at their end.
-/

namespace Pageworks

/-- What is to be done about a document. -/
inductive Verdict
  /-- Nothing: its record was made from the same key. -/
  | current (r : Record)
  /-- It is generated under a key; it may have a record made from another one. -/
  | stale (key : String) (old : Option Record)
  /-- It cannot be generated. -/
  | failing (e : BuildError)
  deriving DecidableEq, Repr

/-- What a build reports. -/
structure Report where
  /-- How many documents had no record. -/
  created : Nat
  /-- How many documents had a record made from another key. -/
  updated : Nat
  /-- How many documents were left alone. -/
  unchanged : Nat
  /-- How many records were forgotten. -/
  removed : Nat
  /-- The unit names of all documents that were not left alone, with what happened to them. -/
  changes : List (Status × String)
  deriving DecidableEq, Repr

/-- The counts of a report in words. -/
def Report.summary (r : Report) : String :=
  "Build complete - " ++ toString r.created ++ " created, " ++ toString r.updated ++
    " updated, " ++ toString r.unchanged ++ " unchanged, " ++ toString r.removed ++ " removed"

/-- The steps of a build, and what it reports at their end. -/
structure Plan where
  /-- The steps, in order. -/
  steps : List Step
  /-- What the build reports once all steps are taken. -/
  report : Report
  deriving DecidableEq, Repr

namespace Survey

/-- A step that tells about a decision. -/
def decision (message : String) : Step := .tell ⟨.debug, message⟩

/-- What is to be done about a document. -/
def verdict (s : Survey) (store : Store) (d : Document) : Verdict :=
  match s.key d with
  | .error e => .failing e
  | .ok key =>
    match store.get? d.path with
    | none => .stale key none
    | some r => if r.cacheKey == key then .current r else .stale key (some r)

/-- The steps taken when a document is looked at: a missing unit is written again, and a unit of
a name that no document generates any more is removed. -/
def lookSteps (s : Survey) (d : Document) : Verdict → List Step
  | .failing e => [.fail e]
  | .current r => [.restore r.unitName r.text, decision ("unchanged: " ++ d.path)]
  | .stale _ none => []
  | .stale _ (some r) =>
    if s.unitNames.contains r.unitName then []
    else [.discard r.unitName,
      decision ("renamed: " ++ r.unitName ++ " -> " ++ s.unitName d)]

/-- A document to generate. -/
structure Stale where
  /-- The document. -/
  document : Document
  /-- The digest of its key. -/
  key : String
  /-- What the build reports about it. -/
  status : Status
  deriving DecidableEq, Repr

/-- A document to generate, if it is one. -/
def stale? (s : Survey) (store : Store) (d : Document) : Option Stale :=
  match s.verdict store d with
  | .stale key old => some ⟨d, key, if old.isSome then .updated else .created⟩
  | _ => none

/-- The documents to generate. -/
def stale (s : Survey) (store : Store) : List Stale := s.documents.filterMap (s.stale? store)

/-- The documents that are left alone. -/
def current (s : Survey) (store : Store) : List Document :=
  s.documents.filter fun d =>
    match s.verdict store d with
    | .current _ => true
    | _ => false

/-- The warnings that a document's header gives. -/
def warnings [SetOrder] (d : Document) : List LogEntry :=
  match Metadata.extract d with
  | .error _ => []
  | .ok x => x.diagnostics.map fun g => ⟨.warning, d.path ++ ": " ++ g.message⟩

/-- The steps that keep a generated unit. -/
def keepSteps (s : Survey) (time : Option Moment) (x : Stale × GeneratedUnit) : List Step :=
  [.keep (Record.ofUnit x.1.document.path x.1.key s.mode.name x.2 time),
    decision (x.1.status.name ++ ": " ++ x.1.document.path ++ " -> " ++ x.2.name)]

/-- The steps that keep all generated units, or the failure of the first document that has none. -/
def generateSteps [SetOrder] (s : Survey) (time : Option Moment) (todo : List Stale) : List Step :=
  match todo.mapM fun x => (s.unit x.document).map (x, ·) with
  | .error e => [.fail e]
  | .ok units => units.flatMap (s.keepSteps time)

/-- A path in the scope that no document has. -/
def isGone (s : Survey) (path : String) : Bool :=
  !(s.documents.map Document.path).contains path && Path.isWithin (Path.slashed path) s.scope

/-- The records of documents that are gone, by unit name. -/
def gone (s : Survey) (store : Store) : List Record :=
  match s.sweeps with
  | .ok true => store.all.filter fun r => s.isGone r.path
  | _ => []

/-- The steps that forget a document that is gone, with its unit unless another document generates
a unit of that name. -/
def forgetSteps (s : Survey) (r : Record) : List Step :=
  (if s.unitNames.contains r.unitName then [] else [.discard r.unitName]) ++
    [.forget r.path, decision ("removed: " ++ r.path)]

/-- The steps that forget all documents that are gone, or the failure to look for them. -/
def sweepSteps (s : Survey) (store : Store) : List Step :=
  match s.sweeps with
  | .error f => [.fail (.file f)]
  | .ok _ => (s.gone store).flatMap s.forgetSteps

/-- What a build reports if it does not fail. -/
def report (s : Survey) (store : Store) : Report :=
  let todo := s.stale store
  let gone := s.gone store
  { created := todo.countP fun x => x.status == .created
    updated := todo.countP fun x => x.status == .updated
    unchanged := (s.current store).length
    removed := gone.length
    changes := todo.map (fun x => (x.status, s.unitName x.document)) ++
      gone.map fun r => (.removed, r.unitName) }

/-- The steps of a build, and what it reports at their end. -/
def plan [SetOrder] (s : Survey) (store : Store) (time : Option Moment) : Plan :=
  let todo := s.stale store
  let report := s.report store
  { steps :=
      .tell ⟨.info, "Building " ++ toString s.documents.length ++ " document(s) with " ++
        toString s.imports.length ++ " import file(s)"⟩ ::
      (s.documents.flatMap fun d => s.lookSteps d (s.verdict store d)) ++
      (todo.flatMap fun x => (warnings x.document).map .tell) ++
      s.generateSteps time todo ++
      s.sweepSteps store ++
      [.tell ⟨.info, report.summary⟩]
    report := report }

end Survey

end Pageworks
