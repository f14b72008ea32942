import Pageworks.Decimal.Numeral
import Pageworks.FileTree
import Pageworks.Markdown.Preset
import Pageworks.Project
import Pageworks.Yaml.Document

/-!
# Settings

What a run is told from outside.  Every field has a default; the configuration file, the
environment and the command line may set it, and of these the later one counts.  A value that does
not count is never looked at.

## Main definitions

* `Settings`: the fields, with their defaults.
* `Settings.ofValues`: the settings from one value, or none, for every field.
* `SettingsSources`, `SettingsSources.effective?`: where values come from, and the one that counts.
* `Settings.load`: the settings from their sources.
* `Settings.projectConfig`: the configuration of the project that the settings describe.
-/

namespace Pageworks

open Pageworks.Text

/-- What a run is told from outside. -/
structure Settings where
  /-- The name of the application. -/
  appName : String := "mdgen"
  /-- Where the records are kept. -/
  databaseUrl : String := "sqlite:///mdgen.db"
  /-- What every namespace starts with. -/
  rootNamespace : String := ""
  /-- The root of the project; the build path unless set. -/
  projectRoot : String := ""
  /-- The base class of components that name none. -/
  defaultBaseType : String := ""
  /-- The name of import files, as a glob. -/
  importsFile : String := "_Imports.razor"
  /-- The directory that units are written to. -/
  outputDirectory : String := "generated"
  /-- The name of the dialect that bodies are rendered in. -/
  preset : String := Markdown.Preset.standardName
  /-- How much is generated. -/
  mode : Mode := .full
  /-- How many documents are generated at a time. -/
  workers : Int := 4
  deriving DecidableEq, Repr

namespace Settings

/-- The names of the fields, in order. -/
def fieldNames : List String := [
  "app_name", "db_url", "root_namespace", "project_root", "default_base_type", "imports_file",
  "output_dir", "parser_config", "mode", "max_workers"]

/-- A text field. -/
def textOr (fallback : String) : Option Value → Except SettingFault String
  | none => .ok fallback
  | some v => textField v

/-- The field of the mode. -/
def modeOr (fallback : Mode) : Option Value → Except SettingFault Mode
  | none => .ok fallback
  | some v => (textField v).bind fun s =>
    match Mode.ofName? s with
    | some m => .ok m
    | none => .error .noPattern

/-- The blanks around a numeral: white space other than the four information separators. -/
def isPadding (c : Char) : Bool := isBlank c && !(28 ≤ c.toNat && c.toNat ≤ 31)

/-- The digits of a whole number, where single low lines may stand between them and a point with
zeros behind it may follow.  Among leading zeros low lines may stand anywhere. -/
def wholeDigits? (cs : List Char) : Option (List Char) :=
  let significant :=
    match cs with
    | '0' :: _ =>
      let zeros := cs.takeWhile fun c => c == '0' || c == '_'
      let rest := cs.drop zeros.length
      if rest.head?.any fun c => c != '.' then some rest
      else if zeros.getLast? == some '0' then some ('0' :: rest)
      else none
    | _ => some cs
  significant.bind fun cs =>
    let whole := cs.takeWhile (· != '.')
    let proper := match cs.drop whole.length with
      | [] => true
      | _ :: fraction => !fraction.isEmpty && fraction.all (· == '0')
    if proper && whole.all fun c => isAsciiDigit c || c == '_' then some whole else none

/-- The whole number that a text writes. -/
def wholeOfText (s : String) : Except SettingFault Int :=
  let (negative, cs) :=
    Numeral.splitSign (dropTrailing isPadding (s.toList.dropWhile isPadding))
  match (wholeDigits? cs).bind (Numeral.digitsOf? 10) with
  | none => .error .integerParsing
  | some ds =>
    if Value.digitLimit < ds.length then .error .integerSize
    else
      let n : Int := Numeral.ofDigits 10 ds
      .ok (if negative then -n else n)

/-- The whole number that a value stands for. -/
def wholeOf : Value → Except SettingFault Int
  | .bool b => .ok (if b then 1 else 0)
  | .int n => .ok n
  | .float x =>
    if x.isNaN || x.isInf then .error .notFinite
    else if x.floor != x then .error .fraction
    else if x.abs ≥ 9223372036854775808.0 then .error .integerSize
    else .ok x.toInt64.toInt
  | .text s => wholeOfText s
  | .bytes bs =>
    match String.fromUTF8? ⟨bs.toArray⟩ with
    | some s => wholeOfText s
    | none => .error .integerParsing
  | _ => .error .notInteger

/-- The field of the workers, of which there must be one at least. -/
def workersOr (fallback : Int) : Option Value → Except SettingFault Int
  | none => .ok fallback
  | some v => (wholeOf v).bind fun n => if n < 1 then .error .tooSmall else .ok n

/-- The fault of a field, if it has one. -/
def faultOf {α : Type} (field : String) : Except SettingFault α → List FieldFault
  | .ok _ => []
  | .error f => [⟨field, f⟩]

/-- The settings from a value, or none, for every field; or all fields that do not fit, in their
order. -/
def ofValues (given : String → Option Value) : Except (List FieldFault) Settings :=
  let standard : Settings := {}
  let appName := textOr standard.appName (given "app_name")
  let databaseUrl := textOr standard.databaseUrl (given "db_url")
  let rootNamespace := textOr standard.rootNamespace (given "root_namespace")
  let projectRoot := textOr standard.projectRoot (given "project_root")
  let defaultBaseType := textOr standard.defaultBaseType (given "default_base_type")
  let importsFile := textOr standard.importsFile (given "imports_file")
  let outputDirectory := textOr standard.outputDirectory (given "output_dir")
  let preset := textOr standard.preset (given "parser_config")
  let mode := modeOr standard.mode (given "mode")
  let workers := workersOr standard.workers (given "max_workers")
  match appName, databaseUrl, rootNamespace, projectRoot, defaultBaseType, importsFile,
      outputDirectory, preset, mode, workers with
  | .ok a, .ok d, .ok n, .ok r, .ok b, .ok i, .ok o, .ok p, .ok m, .ok w =>
    .ok ⟨a, d, n, r, b, i, o, p, m, w⟩
  | _, _, _, _, _, _, _, _, _, _ =>
    .error (faultOf "app_name" appName ++ faultOf "db_url" databaseUrl ++
      faultOf "root_namespace" rootNamespace ++ faultOf "project_root" projectRoot ++
      faultOf "default_base_type" defaultBaseType ++ faultOf "imports_file" importsFile ++
      faultOf "output_dir" outputDirectory ++ faultOf "parser_config" preset ++
      faultOf "mode" mode ++ faultOf "max_workers" workers)

end Settings

/-- Where settings come from. -/
structure SettingsSources where
  /-- The text of the configuration file, if there is one. -/
  file : Option String
  /-- The variables of the environment. -/
  environment : List (String × String)
  /-- What the command line says; null says nothing. -/
  overrides : List (String × Value)

/-- Why there are no settings. -/
inductive SettingsError
  /-- The configuration file cannot be read. -/
  | file (fault : FileFault)
  /-- The configuration file has no value. -/
  | yaml (fault : Yaml.Fault)
  /-- The configuration file holds something that is no mapping. -/
  | notMapping
  /-- The configuration file holds something that cannot be overridden. -/
  | notOverridable
  /-- The configuration file has a key that is no text. -/
  | keyNotText
  /-- Some values do not fit their fields. -/
  | fields (faults : List FieldFault)
  deriving DecidableEq, Repr

namespace SettingsError

/-- The number of faults, and each with its field. -/
def fieldsMessage (fs : List FieldFault) : String :=
  toString fs.length ++ " validation error" ++ (if fs.length == 1 then "" else "s") ++
    " for Settings" ++ String.join (fs.map fun f => "\n" ++ f.field ++ "\n  " ++ f.fault.name)

/-- The wording of an error, if it lies in a single value or in the text of the configuration
file. -/
def message? : SettingsError → Option String
  | .yaml .malformed => some ("Invalid config.yaml: " ++ Yaml.syntaxText)
  | .yaml f => f.message?
  | .file .notText => some "config.yaml is no text"
  | .fields fs => some (fieldsMessage fs)
  | .file _ | .notMapping | .notOverridable | .keyNotText => none

end SettingsError

namespace SettingsSources

/-- The name of the configuration file. -/
def fileName : String := "config.yaml"

/-- The variable of the environment that sets a field. -/
def variableOf (field : String) : String := "MDGEN_" ++ field.toUpper

/-- What the command line says about a field. -/
def override? (s : SettingsSources) (field : String) : Option Value :=
  match s.overrides.lookup field with
  | some .null | none => none
  | some v => some v

/-- What the environment says about a field; an empty variable says nothing. -/
def inEnvironment? (s : SettingsSources) (field : String) : Option Value :=
  match s.environment.lookup (variableOf field) with
  | some v => if v.isEmpty then none else some (.text v)
  | none => none

/-- The value of a field that counts, given what the configuration file holds. -/
def effective? (s : SettingsSources) (entries : List (Value × Value)) (field : String) :
    Option Value :=
  match s.override? field with
  | some v => some v
  | none =>
    match s.inEnvironment? field with
    | some v => some v
    | none => Value.lookup? field entries

/-- What goes wrong with a configuration file that holds something other than a mapping. -/
def misfit (s : SettingsSources) (v : Value) : SettingsError :=
  let isSet := match v with
    | .set _ => true
    | _ => false
  if Settings.fieldNames.any fun f => (s.inEnvironment? f).isSome then .notMapping
  else if s.overrides.isEmpty || isSet then .notMapping
  else .notOverridable

/-- The entries of the configuration file.  Nothing and everything that stands for nothing has
none. -/
def entries (s : SettingsSources) : Except SettingsError (List (Value × Value)) :=
  match s.file with
  | none => .ok []
  | some text =>
    match Yaml.load text with
    | .error f => .error (.yaml f)
    | .ok v =>
      if v.isFalse then .ok []
      else match v with
        | .mapping es =>
          if es.all fun e => e.1.isTextual then .ok es else .error .keyNotText
        | v => .error (s.misfit v)

end SettingsSources

namespace Settings

/-- The settings from their sources. -/
def load (s : SettingsSources) : Except SettingsError Settings :=
  match s.entries with
  | .error e => .error e
  | .ok es => (ofValues (s.effective? es)).mapError .fields

/-- The configuration of the project: its root is the one of the settings or else the given
location, seen from the working directory. -/
def projectConfig (s : Settings) (working : Place) (root : Option Location) :
    Except FileFault ProjectConfig :=
  let location := if s.projectRoot.isEmpty then root else some (Location.parse s.projectRoot)
  match location with
  | none => .ok (ProjectConfig.make s.rootNamespace "" s.defaultBaseType)
  | some l =>
    if l.holdsZero then .error .zeroCharacter
    else .ok (ProjectConfig.make s.rootNamespace (l.place working).text s.defaultBaseType)

end Settings

end Pageworks
