import Pageworks.Identifier
import Pageworks.Import
import Pageworks.Metadata
import Pageworks.Path

/-!
# Component sources

The pieces of a generated component: its names, its attributes, the method that renders its markup
and the class around them.  A piece is a list of entries; an entry may span several lines of text
when it holds a string literal, and indentation goes in front of an entry and never into it.

## Main definitions

* `Component.verbatim`: a text as a string literal.
* `Component.unitName`, `Component.typeName`: the names of a document's file and class.
* `Component.attributes`, `Component.renderMethod`, `Component.classEntries`: the pieces.
-/

namespace Pageworks.Component

open Pageworks.Text

/-- A text with every quote doubled. -/
def doubleQuotes : List Char → List Char
  | [] => []
  | c :: cs => if c == '"' then '"' :: '"' :: doubleQuotes cs else c :: doubleQuotes cs

/-- A text as a verbatim string literal. -/
def verbatim (text : String) : String :=
  "@\"" ++ String.ofList (doubleQuotes text.toList) ++ "\""

/-- What the name of every generated file ends in. -/
def unitSuffix : String := ".g.cs"

/-- The name of a document's generated file: the path from the project root with low lines
between its segments. -/
def unitName (document root : String) : String :=
  replaceChar '/' '_' (Path.relativeTo (Path.slashed document) (Path.slashed root)) ++ unitSuffix

/-- The name of a document's class. -/
def typeName (document : String) : Except PathError String :=
  let name := Identifier.sanitize (Path.stem document)
  if name.isEmpty then .error ⟨.noTypeName, document⟩ else .ok name

/-- One step of indentation. -/
def indent : String := "    "

/-- Every entry that is not empty, one step further in. -/
def indented (entries : List String) : List String :=
  entries.map fun e => if e.isEmpty then e else indent ++ e

/-- Where the classes of components live. -/
def components : String := "global::Microsoft.AspNetCore.Components"

/-- An attribute in its brackets, which may already be there. -/
def bracketed (written : String) : String :=
  let a := trimmed written
  if a.toList.head? == some '[' then a else "[" ++ a ++ "]"

/-- The attributes of a component: its routes, its layout, then the further ones. -/
def attributes (m : Metadata) : List String :=
  (m.routes.map fun r => "[" ++ components ++ ".RouteAttribute(" ++ verbatim r ++ ")]") ++
    (match m.layout with
      | some l => if l.isEmpty then [] else
        ["[" ++ components ++ ".LayoutAttribute(typeof(" ++ l ++ "))]"]
      | none => []) ++
    m.attributes.map bracketed

/-- The entries that set the title of the page. -/
def titleEntries (title : String) : List String := [
  indent ++ "__builder.OpenComponent<" ++ components ++ ".Web.PageTitle>(0);",
  indent ++ "__builder.AddAttribute(1, \"ChildContent\", (" ++ components ++
    ".RenderFragment)((__builder2) => \x7b",
  indent ++ indent ++ "__builder2.AddContent(2, " ++ verbatim title ++ ");",
  indent ++ "\x7d));",
  indent ++ "__builder.CloseComponent();"]

/-- The method that renders the markup, after the title if there is one. -/
def renderMethod (markup : String) (title : Option String) : List String :=
  ["protected override void BuildRenderTree(" ++ components ++
      ".Rendering.RenderTreeBuilder __builder)", "\x7b"] ++
    (title.map titleEntries).getD [] ++
    [indent ++ "__builder.AddMarkupContent(3, " ++ verbatim markup ++ ");", "\x7d"]

/-- A class with its attributes and members. -/
def classEntries (name baseType : String) (attributes members : List String) : List String :=
  attributes ++ ["public partial class " ++ name ++ " : " ++ baseType, "\x7b"] ++
    indented members ++ ["\x7d"]

end Pageworks.Component
