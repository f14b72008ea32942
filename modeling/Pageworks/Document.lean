import Pageworks.Digest.Fingerprint

/-!
# Documents and diagnostics

A document is a markdown text at a path.  What is worth telling about it without failing is a
diagnostic.

## Main definitions

* `Document`, `Document.contentHash`: a document and the fingerprint of its text.
* `Severity`, `Diagnostic`: what is told about a document.
-/

namespace Pageworks

/-- A markdown text at a path. -/
structure Document where
  /-- Where the document lies. -/
  path : String
  /-- What the document says, its header included. -/
  text : String
  deriving DecidableEq, Repr

/-- The fingerprint of a document's text. -/
def Document.contentHash (d : Document) : String := Fingerprint.ofText d.text

/-- How much a diagnostic matters. -/
inductive Severity
  | info
  | warning
  deriving DecidableEq, Repr, Inhabited

/-- The name of a severity. -/
def Severity.name : Severity → String
  | .info => "info"
  | .warning => "warning"

/-- The severity of a name. -/
def Severity.ofName? : String → Option Severity
  | "info" => some .info
  | "warning" => some .warning
  | _ => none

/-- A message about a document that does not fail it. -/
structure Diagnostic where
  /-- How much it matters. -/
  severity : Severity
  /-- The document that it is about. -/
  path : String
  /-- What it says. -/
  message : String
  deriving DecidableEq, Repr, Inhabited

end Pageworks
