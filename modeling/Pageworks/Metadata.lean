import Pageworks.Document
import Pageworks.Header
import Pageworks.Yaml.Document

/-!
# Document metadata

The header of a document is a mapping; ten of its keys say what the component needs.  Every field
is read as a list, and a field for one value keeps the first.

## Main definitions

* `Metadata`: the fields.
* `HeaderFault`: why a header is no metadata.
* `Metadata.listOf`, `Metadata.ofMapping`: a key's values, and all fields of a mapping.
* `Metadata.ofHeader`: the metadata of a header.
* `Metadata.extract`: the metadata of a document, with the defaults for a malformed header.
-/

namespace Pageworks

/-- What a document's header says about its component. -/
structure Metadata where
  /-- The routes that lead to the component, in order. -/
  routes : List String := []
  /-- The title of the page. -/
  title : Option String := none
  /-- Names that the component uses, as they are written. -/
  imports : List String := []
  /-- The namespace in place of the one from the document's place. -/
  namespaceName : Option String := none
  /-- Further attributes of the class. -/
  attributes : List String := []
  /-- The layout of the page. -/
  layout : Option String := none
  /-- The class that the component extends. -/
  baseType : Option String := none
  deriving DecidableEq, Repr, Inhabited

/-- Why a header is no metadata. -/
inductive HeaderFault
  /-- The header has no value. -/
  | yaml (fault : Yaml.Fault)
  /-- The header is of another kind than a mapping. -/
  | notMapping (kind : String)
  /-- A key holds a mapping. -/
  | mappingValue (key : String)
  /-- A key holds a list with a collection in it. -/
  | nestedItem (key : String)
  /-- A number is too long to be written. -/
  | tooManyDigits
  deriving DecidableEq, Repr

namespace HeaderFault

/-- The wording of a fault. -/
def message : HeaderFault → String
  | .yaml f => f.message?.getD ""
  | .notMapping kind => "expected a mapping, got " ++ kind
  | .mappingValue key => "'" ++ key ++ "' must be a scalar or a list, got a mapping"
  | .nestedItem key => "'" ++ key ++ "' entries must be scalars"
  | .tooManyDigits => "a number has more digits than are ever written"

/-- A header with the fault is malformed as a header; the other faults lie in a scalar. -/
def isMalformed : HeaderFault → Bool
  | .yaml .malformed | .notMapping _ | .mappingValue _ | .nestedItem _ => true
  | .yaml _ | .tooManyDigits => false

end HeaderFault

namespace Metadata

variable [SetOrder]

/-- The text of an item of the list under a key; null items are left out. -/
def itemText (key : String) : Value → Except HeaderFault (List String)
  | .null => .ok []
  | .list _ | .mapping _ => .error (.nestedItem key)
  | v =>
    match v.scalarText with
    | .ok s => .ok [s]
    | .error _ => .error .tooManyDigits

/-- The values under a key as a list of texts; a scalar is a list of one. -/
def listOf (key : String) : Option Value → Except HeaderFault (List String)
  | none | some .null => .ok []
  | some (.mapping _) => .error (.mappingValue key)
  | some (.list items) => (items.mapM (itemText key)).map List.flatten
  | some v => itemText key v

/-- The values under some keys of a mapping, key after key. -/
def valuesOf (entries : List (Value × Value)) (keys : List String) :
    Except HeaderFault (List String) :=
  (keys.mapM fun k => listOf k (Value.lookup? k entries)).map List.flatten

/-- The metadata of a mapping.  The first malformed key counts, in the order of the fields. -/
def ofMapping (entries : List (Value × Value)) : Except HeaderFault Metadata := do
  let routes ← valuesOf entries ["route", "routes"]
  let title ← valuesOf entries ["title"]
  let imports ← valuesOf entries ["using", "usings"]
  let namespaceName ← valuesOf entries ["namespace"]
  let attributes ← valuesOf entries ["attribute", "attributes"]
  let layout ← valuesOf entries ["layout"]
  let baseType ← valuesOf entries ["inherits"]
  return {
    routes := routes, title := title.head?, imports := imports
    namespaceName := namespaceName.head?, attributes := attributes
    layout := layout.head?, baseType := baseType.head? }

/-- The metadata of a header; no header and an empty one say nothing. -/
def ofHeader (header : Option String) : Except HeaderFault Metadata :=
  match header with
  | none => .ok {}
  | some text =>
    match Yaml.load text with
    | .error f => .error (.yaml f)
    | .ok .null => .ok {}
    | .ok (.mapping entries) => ofMapping entries
    | .ok v => .error (.notMapping v.kind)

/-- What a document's header and body come to. -/
structure Extraction where
  /-- The metadata. -/
  metadata : Metadata
  /-- The text behind the header. -/
  body : String
  /-- What is to be told about the header. -/
  diagnostics : List Diagnostic
  deriving DecidableEq, Repr

/-- The warning about a malformed header. -/
def malformedWarning (path : String) (fault : HeaderFault) : Diagnostic :=
  ⟨.warning, path, "Invalid YAML front matter, using defaults: " ++ fault.message⟩

/-- The metadata and the body of a document.  A malformed header gives the defaults and a
warning. -/
def extract (d : Document) : Except HeaderFault Extraction :=
  let (header, body) := Header.split d.text
  match ofHeader header with
  | .ok m => .ok ⟨m, body, []⟩
  | .error f =>
    if f.isMalformed then .ok ⟨{}, body, [malformedWarning d.path f]⟩ else .error f

end Metadata

end Pageworks
