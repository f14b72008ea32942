import Pageworks.Document
import Pageworks.Glob

/-!
# Sources

The documents and the import files of a directory, found by their names and read as texts.

## Main definitions

* `Sources.documentFiles`, `Sources.importFiles`: the files, ordered name by name.
* `Sources.documents`, `Sources.imports`: the files with their texts, at absolute paths.
-/

namespace Pageworks

/-- Why sources cannot be read. -/
inductive SourceFault
  /-- A file cannot be read. -/
  | file (fault : FileFault)
  /-- The name of the import files is no glob. -/
  | glob (fault : GlobFault)
  deriving DecidableEq, Repr

namespace Sources

/-- The extension of documents. -/
def extension : String := ".md"

/-- The location has the extension of documents. -/
def isDocument (l : Location) : Bool := l.suffix == extension

/-- A directory is at the location. -/
def isDirectory (t : FileTree) (working : Place) (l : Location) : Except FileFault Bool :=
  (t.look working l).map fun e => e == some .directory

/-- A file is at the location. -/
def isFile (t : FileTree) (working : Place) (l : Location) : Except FileFault Bool :=
  (t.look working l).map fun e =>
    match e with
    | some (.file _) => true
    | _ => false

/-- The location if it is a directory, or else the directory that it lies in. -/
def baseOf (t : FileTree) (working : Place) (l : Location) : Except FileFault Location :=
  (isDirectory t working l).map fun d => if d then l else l.parent

/-- Every file below a directory. -/
def everything : Glob := ⟨[.wild (.star (.one fun _ => true))], false⟩

/-- The documents at a location: the file itself, or all below a directory. -/
def documentFiles (t : FileTree) (working : Place) (l : Location) :
    Except FileFault (List Location) := do
  if ← isFile t working l then return if isDocument l then [l] else []
  else return (← everything.filesBelow t working l).filter isDocument

/-- The import files at a location: those that the glob leads to from the directory of the
location. -/
def importFiles (t : FileTree) (working : Place) (l : Location) (name : String) :
    Except SourceFault (List Location) := do
  let base ← (baseOf t working l).mapError .file
  let glob ← (Glob.parse name).mapError fun fault => .glob fault
  (glob.filesBelow t working base).mapError .file

/-- The path and the text of a file. -/
def load (t : FileTree) (working : Place) (l : Location) : Except FileFault (String × String) :=
  let p := l.place working
  (t.readText p).map fun text => (p.text, text)

/-- The documents at a location. -/
def documents (t : FileTree) (working : Place) (l : Location) :
    Except FileFault (List Document) := do
  let loaded ← (← documentFiles t working l).mapM (load t working)
  return loaded.map fun x => ⟨x.1, x.2⟩

/-- The import entries at a location. -/
def imports (t : FileTree) (working : Place) (l : Location) (name : String) :
    Except SourceFault (List ImportEntry) := do
  let loaded ← (← importFiles t working l name).mapM fun l => (load t working l).mapError .file
  return loaded.map fun x => ⟨x.1, x.2⟩

end Sources

end Pageworks
