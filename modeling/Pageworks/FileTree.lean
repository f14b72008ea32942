import Pageworks.Location

/-!
# File trees

A file tree holds files and directories at places.  Reading and writing follow a location name by
name, and every name on the way must be a directory.

## Main definitions

* `FileTree`, `FileTree.entry?`: what is at a place.
* `FileFault`: why a file cannot be read or written.
* `FileTree.locate`: the place of a location.
* `FileTree.read`, `FileTree.readText`, `FileTree.write`, `FileTree.unlink`,
  `FileTree.makeDirectory`: working with files.
* `FileTree.put`, `FileTree.erase`: the tree with something at a place, and without it.
-/

namespace Pageworks

open Pageworks.Text

/-- What is at a place. -/
inductive Entry
  | directory
  | file (bytes : List UInt8)
  deriving DecidableEq, Repr

/-- Why a file cannot be read or written. -/
inductive FileFault
  /-- Nothing is there. -/
  | missing
  /-- A directory is there. -/
  | isDirectory
  /-- A file stands where a directory should be. -/
  | notDirectory
  /-- Something is there already. -/
  | exists
  /-- A name is longer than names can be. -/
  | nameTooLong
  /-- A name holds a zero character. -/
  | zeroCharacter
  /-- The bytes of the file are no text. -/
  | notText
  deriving DecidableEq, Repr

/-- The wording of a fault. -/
def FileFault.message : FileFault → String
  | .missing => "no such file or directory"
  | .isDirectory => "is a directory"
  | .notDirectory => "not a directory"
  | .exists => "file exists"
  | .nameTooLong => "file name too long"
  | .zeroCharacter => "a zero character in a file name"
  | .notText => "a file is no text"

/-- Files and directories at places.  The root is always a directory. -/
structure FileTree where
  /-- What is at each place but the root. -/
  entries : List (Place × Entry)
  deriving DecidableEq, Repr

namespace FileTree

/-- The tree with nothing but its root. -/
def empty : FileTree := ⟨[]⟩

/-- What is at a place. -/
def entry? (t : FileTree) (p : Place) : Option Entry :=
  if p.isEmpty then some .directory else t.entries.lookup p

/-- A directory is at the place. -/
def isDirectory (t : FileTree) (p : Place) : Bool := t.entry? p == some .directory

/-- A file is at the place. -/
def isFile (t : FileTree) (p : Place) : Bool :=
  match t.entry? p with
  | some (.file _) => true
  | _ => false

/-- The tree with an entry at a place. -/
def put (t : FileTree) (p : Place) (e : Entry) : FileTree :=
  ⟨(p, e) :: t.entries.filter fun x => x.1 != p⟩

/-- The tree without what is at a place and below it. -/
def erase (t : FileTree) (p : Place) : FileTree :=
  ⟨t.entries.filter fun x => !p.isPrefixOf x.1⟩

/-- The tree with an entry at a place and directories on the way there. -/
def plant (t : FileTree) (p : Place) (e : Entry) : FileTree :=
  let t := ((List.range p.length).drop 1).foldl
    (fun t n => if (t.entry? (p.take n)).isSome then t else t.put (p.take n) .directory) t
  t.put p e

/-- The places of all directories at a place and below it. -/
def directoriesFrom (t : FileTree) (p : Place) : List Place :=
  p :: (t.entries.filter fun x =>
    x.2 == .directory && p.isPrefixOf x.1 && x.1 != p).map (·.1)

/-- The names in a directory. -/
def namesIn (t : FileTree) (p : Place) : List String :=
  t.entries.filterMap fun x =>
    if x.1.length == p.length + 1 && p.isPrefixOf x.1 then x.1.getLast? else none

/-- The most bytes that a name may have. -/
def maxNameBytes : Nat := 255

/-- Follows one name from a place, which must be a directory. -/
def step (t : FileTree) (p : Place) (name : String) : Except FileFault Place :=
  match t.entry? p with
  | none => .error .missing
  | some (.file _) => .error .notDirectory
  | some .directory =>
    if maxNameBytes < name.utf8ByteSize then .error .nameTooLong else .ok (p.follow name)

/-- The place of a location.  Nothing need be there, but the way must lead there. -/
def locate (t : FileTree) (working : Place) (l : Location) : Except FileFault Place :=
  if l.holdsZero then .error .zeroCharacter
  else l.names.foldlM t.step (if l.isAbsolute then [] else working)

/-- What is at a location.  Where the way does not lead there nothing is, but a name that is too
long fails. -/
def look (t : FileTree) (working : Place) (l : Location) : Except FileFault (Option Entry) :=
  match t.locate working l with
  | .ok p => .ok (t.entry? p)
  | .error .nameTooLong => .error .nameTooLong
  | .error _ => .ok none

/-- The bytes of a file. -/
def read (t : FileTree) (p : Place) : Except FileFault (List UInt8) :=
  match t.entry? p with
  | none => .error .missing
  | some .directory => .error .isDirectory
  | some (.file bytes) => .ok bytes

/-- The text of bytes, every line ending as a line feed. -/
def textOf (bytes : List UInt8) : Except FileFault String :=
  match String.fromUTF8? ⟨bytes.toArray⟩ with
  | some s => .ok (String.ofList (unifyNewlines s.toList))
  | none => .error .notText

/-- The text of a file. -/
def readText (t : FileTree) (p : Place) : Except FileFault String := (t.read p).bind textOf

/-- Writes a file. -/
def write (t : FileTree) (working : Place) (l : Location) (text : String) :
    Except FileFault FileTree :=
  match t.locate working l with
  | .error f => .error f
  | .ok p =>
    if t.isDirectory p then .error .isDirectory
    else .ok (t.put p (.file text.toUTF8.toList))

/-- Removes a file if it is there. -/
def unlink (t : FileTree) (working : Place) (l : Location) : Except FileFault FileTree :=
  match t.locate working l with
  | .error .missing => .ok t
  | .error f => .error f
  | .ok p => if t.isDirectory p then .error .isDirectory else .ok (t.erase p)

/-- Makes a directory at a place with those on the way, where none is yet. -/
def makePlace (t : FileTree) (p : Place) (fault : FileFault) : Except FileFault FileTree :=
  match t.entry? p with
  | some .directory => .ok t
  | some (.file _) => .error fault
  | none => .ok (t.put p .directory)

/-- Makes a directory with those on the way, where none is yet. -/
def makeDirectory (t : FileTree) (working : Place) (l : Location) : Except FileFault FileTree :=
  if l.holdsZero then .error .zeroCharacter
  else
    let start := if l.isAbsolute then [] else working
    ((List.range l.names.length).foldlM (fun (t : FileTree) n =>
      let p := (l.names.take (n + 1)).foldl Place.follow start
      let isLast := n + 1 == l.names.length
      if maxNameBytes < ((l.names[n]?).getD "").utf8ByteSize then .error .nameTooLong
      else t.makePlace p (if isLast then .exists else .notDirectory)) t)

end FileTree

end Pageworks
