import Pageworks.Digest.Fingerprint
import Pageworks.Text.Blank
import Pageworks.Value

/-!
# Projects

What all documents of a build have in common, and how much is generated for each.

## Main definitions

* `Mode`: whole components or declarations only.
* `ProjectConfig`: the namespace, root and base class of a project.
* `SettingFault`: why a value does not fit a field.
* `ProjectConfig.ofValues`: the configuration from given values.
-/

namespace Pageworks

open Pageworks.Text

/-- How much is generated for a document. -/
inductive Mode
  /-- The whole component. -/
  | full
  /-- The class without a body. -/
  | declaration
  deriving DecidableEq, Repr, Inhabited

/-- The name of a mode. -/
def Mode.name : Mode → String
  | .full => "full"
  | .declaration => "declaration"

/-- The mode of a name. -/
def Mode.ofName? : String → Option Mode
  | "full" => some .full
  | "declaration" => some .declaration
  | _ => none

/-- The base class of a component that names none. -/
def defaultBaseType : String := "Microsoft.AspNetCore.Components.ComponentBase"

/-- What all documents of a build have in common. -/
structure ProjectConfig where
  /-- What every namespace starts with. -/
  rootNamespace : String := ""
  /-- The directory that namespaces and unit names are relative to. -/
  projectRoot : String := ""
  /-- The base class of components that name none. -/
  baseType : String := defaultBaseType
  deriving DecidableEq, Repr, Inhabited

/-- Why a value does not fit a field. -/
inductive SettingFault
  | notText
  | notUnicode
  | noPattern
  | notInteger
  | integerParsing
  | integerSize
  | fraction
  | notFinite
  | tooSmall
  deriving DecidableEq, Repr

/-- The name of a fault. -/
def SettingFault.name : SettingFault → String
  | .notText => "string_type"
  | .notUnicode => "string_unicode"
  | .noPattern => "string_pattern_mismatch"
  | .notInteger => "int_type"
  | .integerParsing => "int_parsing"
  | .integerSize => "int_parsing_size"
  | .fraction => "int_from_float"
  | .notFinite => "finite_number"
  | .tooSmall => "greater_than_equal"

/-- A field with a value that does not fit. -/
structure FieldFault where
  /-- The name of the field. -/
  field : String
  /-- Why the value does not fit. -/
  fault : SettingFault
  deriving DecidableEq, Repr

/-- The text of a value in a text field: a text, or bytes that are one. -/
def textField : Value → Except SettingFault String
  | .text s => .ok s
  | .bytes bs =>
    match String.fromUTF8? ⟨bs.toArray⟩ with
    | some s => .ok s
    | none => .error .notUnicode
  | _ => .error .notText

namespace ProjectConfig

/-- The parts that the fingerprint of a configuration is made of. -/
def parts (c : ProjectConfig) : List String := [c.rootNamespace, c.projectRoot, c.baseType]

/-- The fingerprint of a configuration. -/
def fingerprint (c : ProjectConfig) : String := Fingerprint.ofParts c.parts

/-- A base class as given; a blank one is the default. -/
def baseTypeOr (given : String) : String := if isBlankText given then defaultBaseType else given

/-- The configuration of three texts. -/
def make (rootNamespace projectRoot baseType : String) : ProjectConfig :=
  ⟨rootNamespace, projectRoot, baseTypeOr baseType⟩

/-- A value in a field for which null and no value are the given default. -/
def fieldOr (fallback : String) : Option Value → Except SettingFault String
  | none | some .null => .ok fallback
  | some v => textField v

/-- A value in the field of the base class, where a blank text is the default. -/
def baseTypeField : Option Value → Except SettingFault String
  | some (.text s) => .ok (baseTypeOr s)
  | v => fieldOr defaultBaseType v

/-- The configuration from given values, or every field that does not fit. -/
def ofValues (rootNamespace projectRoot baseType : Option Value) :
    Except (List FieldFault) ProjectConfig :=
  match fieldOr "" rootNamespace, fieldOr "" projectRoot, baseTypeField baseType with
  | .ok ns, .ok root, .ok base => .ok ⟨ns, root, base⟩
  | ns, root, base =>
    let fault := fun (field : String) (r : Except SettingFault String) =>
      match r with
      | .error f => [FieldFault.mk field f]
      | .ok _ => []
    .error (fault "root_namespace" ns ++ fault "project_root" root ++
      fault "default_base_type" base)

end ProjectConfig

end Pageworks
