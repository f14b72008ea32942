import Pageworks.CacheKey
import Pageworks.GeneratedUnit
import Pageworks.Settings
import Pageworks.Sources

/-!
# Surveys

What a build finds before it changes anything: the project, its import files and the documents to
build, no two of which generate the same file.

## Main definitions

* `BuildError`: why a build fails.
* `Collision`, `collision?`: two documents that generate the same file up to case.
* `Survey`, `Survey.take`: what is found, and finding it.
* `Survey.unitName`, `Survey.key`, `Survey.unit`: the unit of a document, its name and the digest
  of its key.
-/

namespace Pageworks

open Pageworks.Text

/-- Two documents that generate the same file. -/
structure Collision where
  /-- The path of the earlier document. -/
  first : String
  /-- The path of the later document. -/
  second : String
  /-- The name that the later document generates. -/
  name : String
  deriving DecidableEq, Repr

/-- Why a build fails. -/
inductive BuildError
  /-- Two documents generate the same file. -/
  | collision (c : Collision)
  /-- A document has an unusable path. -/
  | document (path : String) (error : PathError)
  /-- A scalar in the header of a document has no value. -/
  | header (fault : HeaderFault)
  /-- The body of a document has no markup. -/
  | render (failure : RenderFailure)
  /-- There is no such dialect. -/
  | unknownPreset (name : String)
  /-- A file cannot be read or written. -/
  | file (fault : FileFault)
  /-- The name of the import files is no glob. -/
  | glob (fault : GlobFault)
  deriving DecidableEq, Repr

namespace BuildError

/-- A document that fails to generate. -/
def ofGeneration (path : String) : GenerationError → BuildError
  | .path e => document path e
  | .header f => header f
  | .render f => render f

/-- Sources that cannot be read. -/
def ofSource : SourceFault → BuildError
  | .file f => file f
  | .glob f => glob f

/-- What a build says about a failure that the user can mend. -/
def message? : BuildError → Option String
  | .collision c =>
    some ("Unit name collision: " ++ c.first ++ " and " ++ c.second ++ " both generate " ++ c.name)
  | .document path e => some ("Failed to generate " ++ path ++ ": " ++ e.message)
  | .render f => some f.message
  | _ => none

end BuildError

/-- The earlier owner of a name, up to case. -/
def ownerOf? (owners : List (List Char × String)) (name : String) : Option String :=
  owners.lookup (caseFold name.toList)

/-- The first document whose name has an owner already. -/
def collisionFrom? (nameOf : Document → String) :
    List (List Char × String) → List Document → Option Collision
  | _, [] => none
  | owners, d :: ds =>
    match ownerOf? owners (nameOf d) with
    | some first => some ⟨first, d.path, nameOf d⟩
    | none => collisionFrom? nameOf ((caseFold (nameOf d).toList, d.path) :: owners) ds

/-- The first document that generates the same file as an earlier one, up to case. -/
def collision? (projectRoot : String) (ds : List Document) : Option Collision :=
  collisionFrom? (fun d => Component.unitName d.path projectRoot) [] ds

/-- What a build finds before it changes anything. -/
structure Survey where
  /-- The configuration of the project. -/
  config : ProjectConfig
  /-- How much is generated. -/
  mode : Mode
  /-- The name of the renderer. -/
  preset : String
  /-- Turns bodies into markup. -/
  render : Renderer
  /-- The directory that is built, or that the built document lies in. -/
  scope : String
  /-- A whole directory is built. -/
  isWhole : Bool
  /-- The import files. -/
  imports : List ImportEntry
  /-- The documents. -/
  documents : List Document
  /-- A directory is at the location once the output directory is there, so documents that are gone
  from it are forgotten. -/
  sweeps : Except FileFault Bool := .ok isWhole

namespace Survey

/-- The name of a document's unit. -/
def unitName (s : Survey) (d : Document) : String := Component.unitName d.path s.config.projectRoot

/-- The names of all units. -/
def unitNames (s : Survey) : List String := s.documents.map s.unitName

/-- The digest of a document's key. -/
def key (s : Survey) (d : Document) : Except BuildError String :=
  match Import.applicable s.imports d.path with
  | .error e => .error (.document d.path e)
  | .ok imports => .ok (CacheKey.of d s.config imports s.mode s.preset).digest

/-- The unit of a document. -/
def unit [SetOrder] (s : Survey) (d : Document) : Except BuildError GeneratedUnit :=
  (GeneratedUnit.transform d s.imports s.config s.mode s.render).mapError
    (BuildError.ofGeneration d.path)

/-- The directory whose import files matter: the project, if what is built lies in it. -/
def importBase (config : ProjectConfig) (scope : String) (base : Location) : Location :=
  if Path.isWithin scope (Path.slashed config.projectRoot) then Location.parse config.projectRoot
  else base

/-- A directory is at a location once the output directory is there.  A build whose output directory
cannot be made does not get that far. -/
def sweepsAt (t : FileTree) (working : Place) (l : Location) (settings : Settings) :
    Except FileFault Bool :=
  match t.makeDirectory working (.parse settings.outputDirectory) with
  | .ok made => Sources.isDirectory made working l
  | .error _ => Sources.isDirectory t working l

/-- Finds what there is to build at a location. -/
def take (t : FileTree) (working : Place) (l : Location) (settings : Settings) :
    Except BuildError Survey := do
  let isWhole ← (Sources.isDirectory t working l).mapError .file
  let base := if isWhole then l else l.parent
  let config ← (settings.projectConfig working (some base)).mapError .file
  let some render := Renderer.ofPreset? settings.preset | throw (.unknownPreset settings.preset)
  let scope := Path.slashed (base.place working).text
  let imports ← (Sources.imports t working (importBase config scope base)
    settings.importsFile).mapError .ofSource
  let documents ← (Sources.documents t working l).mapError .file
  match collision? config.projectRoot documents with
  | some c => throw (.collision c)
  | none => return ⟨config, settings.mode, settings.preset, render, scope, isWhole, imports, documents,
    sweepsAt t working l settings⟩

end Survey

end Pageworks
