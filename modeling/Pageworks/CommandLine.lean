import Pageworks.Build
import Pageworks.CommandLine.Arguments
import Pageworks.Database

/-!
# Command line

The commands, as functions of the files, the environment and the words of the command line.  A
command prints, ends with an exit code and leaves files behind.  What goes wrong in a way that the
user can mend is told on the error output; anything else ends the command as a fault.

## Main definitions

* `CommandFault`: what ends a command without a message of its own.
* `CommandOutcome`: what a command prints and leaves behind.
* `CommandLine.run`: runs the command of a command line.
* `CommandLine.source?`, `CommandLine.locations`: the places that a command works with.
-/

namespace Pageworks

/-- What ends a command without a message of its own. -/
inductive CommandFault
  | settings (e : SettingsError)
  | build (e : BuildError)
  | database (f : DatabaseFault)
  deriving DecidableEq, Repr

/-- The wording of a fault. -/
def CommandFault.message : CommandFault → String
  | .settings (.file f) | .build (.file f) => f.message
  | .settings .notMapping | .settings .notOverridable => "config.yaml holds no mapping"
  | .settings .keyNotText => "config.yaml has a key that is no text"
  | .settings (.yaml _) | .settings (.fields _) => "config.yaml holds a value that is none"
  | .build (.glob .absolute) => "the name of the import files is an absolute path"
  | .build (.glob .mixedDepth) => "two stars in the name of the import files do not stand alone"
  | .build (.unknownPreset name) => "no such dialect: " ++ name
  | .build (.header f) => f.message
  | .build (.render f) => f.message
  | .build (.collision _) | .build (.document _ _) => "the build failed"
  | .database .malformedUrl => "the location of the database cannot be read"
  | .database .unknownKind => "no such kind of database"
  | .database .unsupportedKind => "this kind of database is not supported"
  | .database .unavailable => "the database cannot be opened"
  | .database .notDatabase => "the file of the database holds something else"

/-- What a command prints and leaves behind. -/
structure CommandOutcome where
  /-- Zero, or one if the command failed, or two if it was not understood. -/
  exitCode : Nat
  /-- What is printed. -/
  output : String
  /-- What is printed as errors. -/
  errors : String
  /-- What ended the command without a message. -/
  fault : Option CommandFault
  /-- The files. -/
  files : FileTree

namespace CommandLine

/-- What a command runs on. -/
structure Setting where
  /-- The files. -/
  files : FileTree
  /-- The working directory. -/
  working : Place
  /-- The variables of the environment. -/
  environment : List (String × String)
  /-- The present moment, if it is to be recorded. -/
  time : Option Moment

/-- A part of a command that may end it. -/
abbrev Action := Except CommandOutcome

/-- A command that succeeds. -/
def success (files : FileTree) (output errors : String) : CommandOutcome :=
  ⟨0, output, errors, none, files⟩

/-- A command that fails with a message, after other errors were printed. -/
def failure (files : FileTree) (errors message : String) : CommandOutcome :=
  ⟨1, "", errors ++ "Error: " ++ message ++ "\n", none, files⟩

/-- A command that ends with a fault, after errors were printed. -/
def faulty (files : FileTree) (errors : String) (f : CommandFault) : CommandOutcome :=
  ⟨1, "", errors, some f, files⟩

/-- The text of the configuration file. -/
def configuration (c : Setting) : Except FileFault (Option String) :=
  let l := Location.parse SettingsSources.fileName
  match c.files.look c.working l with
  | .ok (some _) => (c.files.readText (l.place c.working)).map some
  | .ok none => .ok none
  | .error f => .error f

/-- The settings of a command. -/
def settingsOf (c : Setting) (overrides : List (String × Value)) : Except SettingsError Settings :=
  match configuration c with
  | .error f => .error (.file f)
  | .ok text => Settings.load ⟨text, c.environment, overrides⟩

/-- The settings of a command, which fails without them. -/
def settings (c : Setting) (overrides : List (String × Value)) : Action Settings :=
  (settingsOf c overrides).mapError fun e =>
    match e.message? with
    | some m => failure c.files "" m
    | none => faulty c.files "" (.settings e)

/-- A text that overrides a field, or null. -/
def textOverride (field : String) (s : Option String) : String × Value :=
  (field, s.elim .null .text)

/-- What the options of a build override. -/
def buildOverrides (outputDirectory rootNamespace projectRoot baseType : Option String)
    (declarations : Bool) (workers : Option Int) : List (String × Value) := [
  textOverride "output_dir" outputDirectory,
  textOverride "root_namespace" rootNamespace,
  textOverride "project_root" projectRoot,
  textOverride "default_base_type" baseType,
  ("max_workers", workers.elim .null .int),
  textOverride "mode" (if declarations then some Mode.declaration.name else none)]

/-- What the options of `generate` override. -/
def generateOverrides (rootNamespace projectRoot : Option String) : List (String × Value) :=
  [textOverride "root_namespace" rootNamespace, textOverride "project_root" projectRoot]

/-- The database of the settings and the store in it; the database is there afterwards. -/
def openStore (c : Setting) (s : Settings) : Action (Database × Store × FileTree) :=
  let opened := do
    let db ← Database.ofUrl s.databaseUrl
    let store ← db.load c.files c.working
    return (db, store, ← db.save c.files c.working store)
  opened.mapError fun f => faulty c.files "" (.database f)

/-- What is printed about a finished build. -/
def reportText (r : Report) : String :=
  String.join (r.changes.map fun (status, name) => "  " ++ status.name ++ ": " ++ name ++ "\n") ++
    r.summary ++ "\n"

/-- Builds what is at a path. -/
def build [SetOrder] (c : Setting) (path : String) (overrides : List (String × Value))
    (verbose : Bool) : Action CommandOutcome := do
  let settings ← settings c overrides
  let source := Location.parse path
  match c.files.look c.working source with
  | .error f => throw (faulty c.files "" (.build (.file f)))
  | .ok none => throw (failure c.files "" ("Path not found: " ++ path))
  | .ok (some _) =>
    let (db, store, files) ← openStore c settings
    let built := Build.run settings c.working source c.time files store
    let log := Log.consoleAll (some (Log.onConsole verbose)) built.log
    match built.result with
    | .ok report =>
      match db.save built.files c.working built.store with
      | .ok files => return success files (reportText report) log
      | .error f => throw (faulty built.files log (.database f))
    | .error e =>
      match e.message? with
      | some m => throw (failure built.files log m)
      | none => throw (faulty built.files log (.build e))

/-- A diagnostic as it is printed. -/
def diagnosticText (d : Diagnostic) : String :=
  d.severity.name ++ ": " ++ d.path ++ ": " ++ d.message ++ "\n"

/-- The document to show, what it depends on, and the renderer for it. -/
def document (c : Setting) (s : Settings) (declarations : Bool) (source : Location) :
    Except BuildError (Document × List ImportEntry × ProjectConfig × Mode × Renderer) := do
  let config ← (s.projectConfig c.working (some source.parent)).mapError .file
  let (path, text) ← (Sources.load c.files c.working source).mapError .file
  let imports ← (Sources.imports c.files c.working (Location.parse config.projectRoot)
    s.importsFile).mapError BuildError.ofSource
  let some render := Renderer.ofPreset? s.preset | throw (.unknownPreset s.preset)
  return (⟨path, text⟩, imports, config, if declarations then .declaration else s.mode, render)

/-- Shows the unit of one document. -/
def generate [SetOrder] (c : Setting) (path : String) (overrides : List (String × Value))
    (declarations : Bool) : Action CommandOutcome := do
  let settings ← settings c overrides
  let source := Location.parse path
  let fault := fun errors e => faulty c.files errors (.build e)
  if !(← (Sources.isFile c.files c.working source).mapError fun f => fault "" (.file f)) then
    throw (failure c.files "" ("File not found: " ++ path))
  let (d, imports, config, mode, render) ←
    (document c settings declarations source).mapError (fault "")
  let warnings := Log.consoleAll none (Survey.warnings d)
  match GeneratedUnit.transform d imports config mode render with
  | .ok unit =>
    return success c.files unit.text (warnings ++ String.join (unit.diagnostics.map diagnosticText))
  | .error (.path e) =>
    throw (failure c.files warnings ("Cannot generate " ++ path ++ "\n  " ++ e.message))
  | .error e => throw (fault warnings (BuildError.ofGeneration d.path e))

/-- A record as it is listed. -/
def recordText (r : Record) : String := r.unitName ++ "  (" ++ r.mode ++ ")  " ++ r.path ++ "\n"

/-- Lists the records. -/
def list (c : Setting) : Action CommandOutcome := do
  let settings ← settings c []
  let (_, store, files) ← openStore c settings
  if store.records.isEmpty then
    return { success files "No generated units found in database.\n" "" with exitCode := 1 }
  else return success files (String.join (store.all.map recordText)) ""

/-- Makes the store ready, or empties it. -/
def init (c : Setting) (reset : Bool) : Action CommandOutcome := do
  let settings ← settings c []
  let (db, _, files) ← openStore c settings
  let ready := "Database initialized at: " ++ settings.databaseUrl ++ "\n"
  if !reset then return success files ready ""
  match db.save files c.working .empty with
  | .ok files => return success files ("Existing cache cleared.\n" ++ ready) ""
  | .error f => throw (faulty files "" (.database f))

/-- How commands are written. -/
def usage : String :=
  "Usage: mdgen COMMAND [OPTIONS] [PATH]\n\n" ++
    "  build PATH     Generate component sources for changed documents.\n" ++
    "                 --out-dir DIR --namespace NAME --project-root DIR --base-type NAME\n" ++
    "                 --declarations --workers N --verbose\n" ++
    "  generate PATH  Print the generated source for one document.\n" ++
    "                 --namespace NAME --project-root DIR --declarations\n" ++
    "  list           List the generated units.\n" ++
    "  init           Make the database ready.\n" ++
    "                 --reset\n"

/-- Runs a command. -/
def runCommand [SetOrder] (c : Setting) : Command → Action CommandOutcome
  | .build path out ns root base declarations workers verbose =>
    build c path (buildOverrides out ns root base declarations workers) verbose
  | .generate path ns root declarations =>
    generate c path (generateOverrides ns root) declarations
  | .list => list c
  | .init reset => init c reset
  | .help => .ok (success c.files usage "")

/-- Runs the command of a command line. -/
def run [SetOrder] (c : Setting) (words : List String) : CommandOutcome :=
  match Command.read words with
  | .error e => ⟨2, "", usage ++ "\nError: " ++ e.message ++ "\n", none, c.files⟩
  | .ok command =>
    match runCommand c command with
    | .ok o => o
    | .error o => o

/-- The location of the documents that a command reads. -/
def source? : Command → Option Location
  | .build path _ _ _ _ _ _ _ | .generate path _ _ _ => some (Location.parse path)
  | .list | .init _ | .help => none

/-- What the options of a command override. -/
def overridesOf : Command → List (String × Value)
  | .build _ out ns root base declarations workers _ =>
    buildOverrides out ns root base declarations workers
  | .generate _ ns root _ => generateOverrides ns root
  | .list | .init _ | .help => []

/-- The locations that settings name: the output directory, the root of the project and the file
of the database. -/
def settingsLocations (s : Settings) : List Location :=
  let root := if s.projectRoot.isEmpty then [] else [Location.parse s.projectRoot]
  let database :=
    match Database.ofUrl s.databaseUrl with
    | .ok (.file l) => [l]
    | _ => []
  Location.parse s.outputDirectory :: root ++ database

/-- The locations that a command works with besides the documents. -/
def locations (c : Setting) (command : Command) : List Location :=
  Location.parse SettingsSources.fileName ::
    match settingsOf c (overridesOf command) with
    | .ok s => settingsLocations s
    | .error _ => []

end CommandLine

-- The programs that run commands list the members of sets in the standard order.
attribute [instance] SetOrder.standard

end Pageworks
