import Pageworks.FileTree
import Pageworks.Store.Archive

/-!
# Databases

Where the record store is kept between two runs: in a file, or in memory, where it lasts for one
run only.

## Main definitions

* `DatabaseFault`: why a database cannot be used.
* `Database`, `Database.ofUrl`: the places for a store, and how they are written.
* `Database.load`, `Database.save`: reading the store and keeping it.
-/

namespace Pageworks

open Pageworks.Text

/-- Why a database cannot be used. -/
inductive DatabaseFault
  /-- The text is no location of a database. -/
  | malformedUrl
  /-- There is no such kind of database. -/
  | unknownKind
  /-- There is such a kind of database, but it cannot be used here. -/
  | unsupportedKind
  /-- The file cannot be opened. -/
  | unavailable
  /-- The file holds no store. -/
  | notDatabase
  deriving DecidableEq, Repr

/-- Where a store is kept. -/
inductive Database
  /-- Nowhere. -/
  | memory
  /-- In a file. -/
  | file (l : Location)
  deriving DecidableEq, Repr

namespace Database

/-- The kinds of databases that are known, but not supported. -/
def otherKinds : List String := ["mssql", "mysql", "mariadb", "oracle", "postgresql"]

/-- The text before `://` and the text after it. -/
def splitUrl? (url : String) : Option (String × List Char) :=
  let cs := url.toList
  let isKindChar := fun c => isWord c || c == '+'
  let kind := cs.takeWhile isKindChar
  if kind.isEmpty then none
  else (startsWith? "://".toList (cs.drop kind.length)).map (String.ofList kind, ·)

/-- The database of a path behind its kind: a slash and the name of the file. -/
def ofPath : List Char → Except DatabaseFault Database
  | [] => .ok .memory
  | '/' :: cs =>
    let name := String.ofList (cs.takeWhile (· != '?'))
    if name.isEmpty || name == ":memory:" then .ok .memory else .ok (.file (Location.parse name))
  | '?' :: _ => .ok .memory
  | _ => .error .malformedUrl

/-- The database of a URL. -/
def ofUrl (url : String) : Except DatabaseFault Database :=
  match splitUrl? url with
  | none => .error .malformedUrl
  | some (kind, path) =>
    if kind == "sqlite" || kind == "sqlite+pysqlite" then ofPath path
    else if otherKinds.contains kind then .error .unsupportedKind
    else .error .unknownKind

/-- The place of a database's file, if its directory is there and it is no directory itself. -/
def placeOf (t : FileTree) (working : Place) (l : Location) : Except DatabaseFault Place :=
  let p := l.place working
  if t.isDirectory p || !t.isDirectory p.dropLast ||
      decide (FileTree.maxNameBytes < (p.getLast?.getD "").utf8ByteSize) then .error .unavailable
  else .ok p

/-- The files with a store in place of what the database held. -/
def save (t : FileTree) (working : Place) (s : Store) : Database → Except DatabaseFault FileTree
  | .memory => .ok t
  | .file l => (placeOf t working l).map fun p => t.put p (.file (Archive.write s))

/-- The store that a database holds.  A new database holds the empty store. -/
def load (t : FileTree) (working : Place) : Database → Except DatabaseFault Store
  | .memory => .ok .empty
  | .file l =>
    match placeOf t working l with
    | .error f => .error f
    | .ok p =>
      match t.entry? p with
      | some (.file bytes) =>
        match Archive.read? bytes with
        | some s => .ok s
        | none => .error .notDatabase
      | _ => .ok .empty

end Database

end Pageworks
