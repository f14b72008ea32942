import Pageworks.Identifier
import Pageworks.Path

/-!
# Namespaces

A document's namespace follows its place in the project: the root namespace, then the directories
between the project root and the document.

## Main definitions

* `Namespace.suffix`: the part that comes from the directories.
* `Namespace.resolve`: the namespace of a document, empty for none.
-/

namespace Pageworks.Namespace

open Pageworks.Text

/-- The directories from the root to the document as identifiers, with points between. -/
def suffix (document root : String) : String :=
  let relative := Path.relativeTo (Path.directory document) (Path.slashed root)
  let segments := (fields Path.isSlash relative.toList).filter fun s => !s.isEmpty
  ".".intercalate (segments.map fun s => Identifier.sanitize (String.ofList s))

/-- The namespace of a document; an override wins as it is, even the empty one. -/
def resolve (document root rootNamespace : String) (override : Option String) : String :=
  match override with
  | some ns => ns
  | none =>
    ".".intercalate ([rootNamespace, suffix document root].filter fun s => !s.isEmpty)

end Pageworks.Namespace
