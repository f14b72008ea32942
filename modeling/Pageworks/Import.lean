import Pageworks.Path
import Pageworks.Digest.Fingerprint

/-!
# Ambient imports

An import file names namespaces for the documents in its directory and below.  The entries of all
directories above a document apply to it together.

## Main definitions

* `Import.directive?`: the name that a line declares.
* `Import.scan`: the names of a text, each once, in order.
* `ImportEntry`: an import file with its directory, names and fingerprint.
* `Import.applicable`: the entries that govern a document.
* `Import.names`: the sorted union of declared and further names.
-/

namespace Pageworks

open Pageworks.Text

/-- What is wrong with a path given to the library. -/
inductive PathFault
  /-- The document has no containing directory. -/
  | noDirectory
  /-- The document has no file name to derive a type name from. -/
  | noTypeName
  deriving DecidableEq, Repr

/-- A path that the library cannot work with. -/
structure PathError where
  /-- What is wrong with the path. -/
  fault : PathFault
  /-- The path as it was given. -/
  path : String
  deriving DecidableEq, Repr

/-- The wording of a fault. -/
def PathFault.text : PathFault → String
  | .noDirectory => "Document path has no containing directory"
  | .noTypeName => "Cannot derive a type name from document path"

/-- The message of a path error: the fault, then the path in quotes. -/
def PathError.message (e : PathError) : String := e.fault.text ++ ": " ++ quoted e.path

namespace Import

/-- The characters of names: neither blanks nor the semicolon. -/
def isNameChar (c : Char) : Bool := !isBlank c && c != ';'

/-- The maximal name that a text starts with, if it is not empty. -/
def nameAt? (cs : List Char) : Option (List Char) :=
  match cs.takeWhile isNameChar with
  | [] => none
  | name => some name

/-- The text after one or more blanks. -/
def afterBlanks? : List Char → Option (List Char)
  | [] => none
  | c :: cs => if isBlank c then some (trimStart cs) else none

/-- The name of a directive whose keyword has been read.  A `static` before a name belongs to
it; a `static` without one is the name. -/
def declared? (rest : List Char) : Option (List Char) :=
  match ((startsWith? "static".toList rest).bind afterBlanks?).bind nameAt? with
  | some name => some ("static ".toList ++ name)
  | none => nameAt? rest

/-- The name that a line declares: blanks, `@using`, blanks, the name. -/
def directive? (line : List Char) : Option (List Char) :=
  ((startsWith? "@using".toList (trimStart line)).bind afterBlanks?).bind declared?

/-- A list with the later copies of each element left out, after those already seen. -/
def dedupFrom {α : Type} [BEq α] (seen : List α) : List α → List α
  | [] => []
  | a :: as => if seen.contains a then dedupFrom seen as else a :: dedupFrom (a :: seen) as

/-- The names that the lines of a text declare, each once, in order of first appearance. -/
def scan (text : String) : List String :=
  dedupFrom [] ((lines text.toList).filterMap fun l => (directive? l).map String.ofList)

end Import

/-- An import file. -/
structure ImportEntry where
  /-- Where the file lies. -/
  path : String
  /-- What the file says. -/
  text : String
  deriving DecidableEq, Repr

namespace ImportEntry

/-- The names that the file declares. -/
def names (e : ImportEntry) : List String := Import.scan e.text

/-- The directory that the file governs. -/
def directory (e : ImportEntry) : String := Path.directory e.path

/-- The fingerprint of the path, whatever its separators, and of the text. -/
def fingerprint (e : ImportEntry) : String := Fingerprint.ofParts [Path.slashed e.path, e.text]

end ImportEntry

namespace Import

/-- The entries whose directory holds the document's directory, in their order. -/
def applicable (entries : List ImportEntry) (document : String) :
    Except PathError (List ImportEntry) :=
  match Path.parent? document with
  | none => .error ⟨.noDirectory, document⟩
  | some d => .ok (entries.filter fun e => Path.isWithin d e.directory)

/-- A list of texts in code-point order, each once. -/
def sortedSet (names : List String) : List String :=
  dedupFrom [] (names.mergeSort fun a b => decide (a ≤ b))

/-- The names that the entries declare and the further names, trimmed and not blank: sorted, each
once. -/
def names (entries : List ImportEntry) (extra : List String) : List String :=
  sortedSet (entries.flatMap ImportEntry.names ++
    (extra.map trimmed).filter fun n => !n.isEmpty)

end Import

end Pageworks
