import Pageworks.Component
import Pageworks.Link
import Pageworks.Namespace
import Pageworks.Project
import Pageworks.Renderer

/-!
# Generated units

A document with its metadata, the imports that govern it and the configuration of its project
becomes one source file.  Nothing else enters the file.

## Main definitions

* `GeneratedUnit`: a generated file with what is told about its document.
* `GenerationError`: why a document generates nothing.
* `GeneratedUnit.usings`: the names that a unit uses.
* `GeneratedUnit.generate`, `GeneratedUnit.transform`: the unit of a document.
-/

namespace Pageworks

open Pageworks.Text

/-- A generated file. -/
structure GeneratedUnit where
  /-- The name of the file. -/
  name : String
  /-- What the file says. -/
  text : String
  /-- What is told about the document. -/
  diagnostics : List Diagnostic
  deriving DecidableEq, Repr

/-- Why a document generates nothing. -/
inductive GenerationError
  /-- The path of the document is unusable. -/
  | path (error : PathError)
  /-- A scalar in the header has no value. -/
  | header (fault : HeaderFault)
  /-- The body has no markup. -/
  | render (failure : RenderFailure)
  deriving DecidableEq, Repr

namespace GeneratedUnit

/-- The names that every unit uses. -/
def defaultUsings : List String := [
  "System",
  "System.Collections.Generic",
  "System.Linq",
  "System.Threading.Tasks",
  "Microsoft.AspNetCore.Components"]

/-- A name as a header writes it, without blanks around it and semicolons at its end. -/
def cleaned (name : String) : String :=
  String.ofList (trimEnd (dropTrailing (· == ';') (trim name.toList)))

/-- The names that a header declares, cleaned; empty ones declare nothing. -/
def headerNames (m : Metadata) : List String :=
  (m.imports.map cleaned).filter fun n => !n.isEmpty

/-- The names that a unit uses. -/
def usings (m : Metadata) (imports : List ImportEntry) : List String :=
  Import.names imports (defaultUsings ++ headerNames m)

/-- A name with the words around it that bring it into scope. -/
def usingEntry (name : String) : String := "using " ++ name ++ ";"

/-- The class that a component extends: the one in its header or the default. -/
def baseType (m : Metadata) (config : ProjectConfig) : String :=
  match m.baseType with
  | some b => if b.isEmpty then config.baseType else b
  | none => config.baseType

/-- The entries of a unit before and after its content. -/
def opening : List String := ["// <auto-generated/>", "#pragma warning disable 1591"]

/-- The last entry of a unit. -/
def closing : String := "#pragma warning restore 1591"

/-- The entries of a unit; without a namespace its content stands at the margin. -/
def entries (namespaceName : String) (usings declaration : List String) : List String :=
  opening ++
    (if namespaceName.isEmpty then usings ++ [""] ++ declaration
    else
      ["namespace " ++ namespaceName, "\x7b"] ++ Component.indented usings ++ [""] ++
        Component.indented declaration ++ ["\x7d"]) ++
    [closing]

/-- Every entry on lines of its own. -/
def textOf (entries : List String) : String := "\n".intercalate entries ++ "\n"

/-- The markup of a document's body, its external links marked. -/
def markup (render : Renderer) (d : Document) : Except RenderFailure String :=
  (render (Header.split d.text).2).map fun m => String.ofList (Link.openExternal m.toList)

/-- The members of a component; a declaration has none, and nothing is rendered for it. -/
def members (mode : Mode) (render : Renderer) (d : Document) (m : Metadata) :
    Except RenderFailure (List String) :=
  match mode with
  | .declaration => .ok []
  | .full => (markup render d).map fun text => Component.renderMethod text m.title

/-- The unit of a document with its metadata and the imports that govern it. -/
def generate (d : Document) (m : Metadata) (imports : List ImportEntry) (config : ProjectConfig)
    (mode : Mode) (render : Renderer) (diagnostics : List Diagnostic) :
    Except GenerationError GeneratedUnit :=
  match Component.typeName d.path with
  | .error e => .error (.path e)
  | .ok typeName =>
    match members mode render d m with
    | .error f => .error (.render f)
    | .ok members =>
      let declaration :=
        Component.classEntries typeName (baseType m config) (Component.attributes m) members
      let place := Namespace.resolve d.path config.projectRoot config.rootNamespace m.namespaceName
      .ok {
        name := Component.unitName d.path config.projectRoot
        text := textOf (entries place ((usings m imports).map usingEntry) declaration)
        diagnostics := diagnostics }

/-- The unit of a document among all import files. -/
def transform [SetOrder] (d : Document) (entries : List ImportEntry) (config : ProjectConfig)
    (mode : Mode) (render : Renderer) : Except GenerationError GeneratedUnit :=
  match Metadata.extract d with
  | .error f => .error (.header f)
  | .ok x =>
    match Import.applicable entries d.path with
    | .error e => .error (.path e)
    | .ok imports => generate d x.metadata imports config mode render x.diagnostics

end GeneratedUnit

end Pageworks
