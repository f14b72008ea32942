import Pageworks.Text.Split

/-!
# Locations of files

A location is written as names between slashes.  Without a slash in front it is meant from the
working directory.  A place is a location that has been followed from the root of the file tree:
a list of names without dots.

## Main definitions

* `Place`: the names from the root down to a file or directory, with `Place.text`.
* `Location`: a location as it is written, with `Location.parse` and `Location.text`.
* `Location.parent`, `Location.suffix`: the containing directory and the last extension.
* `Location.place`: the place that a location leads to, by its names alone.
-/

namespace Pageworks

open Pageworks.Text

/-- The names from the root of the file tree down to a file or directory. -/
abbrev Place := List String

/-- A place as an absolute path. -/
def Place.text (p : Place) : String := "/" ++ "/".intercalate p

/-- A place one name further; two dots lead back. -/
def Place.follow (p : Place) (name : String) : Place :=
  if name == ".." then p.dropLast else p ++ [name]

/-- A location as it is written. -/
structure Location where
  /-- The slashes in front: none, one or exactly two. -/
  root : String
  /-- The names, two dots among them; empty names and single dots are left out. -/
  names : List String
  deriving DecidableEq, Repr

namespace Location

/-- The names of a path, without empty ones and single dots. -/
def namesOf (path : String) : List String :=
  ((fields (· == '/') path.toList).map String.ofList).filter fun n => !n.isEmpty && n != "."

/-- The location that a path writes. -/
def parse (path : String) : Location :=
  let slashes := (path.toList.takeWhile (· == '/')).length
  ⟨if slashes == 0 then "" else if slashes == 2 then "//" else "/", namesOf path⟩

/-- A location from the root of the file tree. -/
def ofPlace (p : Place) : Location := ⟨"/", p⟩

/-- The location as a path. -/
def text (l : Location) : String :=
  if l.root.isEmpty && l.names.isEmpty then "." else l.root ++ "/".intercalate l.names

/-- A location is absolute if it does not depend on the working directory. -/
def isAbsolute (l : Location) : Bool := !l.root.isEmpty

/-- The location that names lead to from another one. -/
def join (l : Location) (names : List String) : Location := { l with names := l.names ++ names }

/-- A path as seen from a location; an absolute path is seen the same from everywhere. -/
def resolve (l : Location) (path : String) : Location :=
  let m := parse path
  if m.isAbsolute then m else l.join m.names

/-- The location without its last name. -/
def parent (l : Location) : Location := { l with names := l.names.dropLast }

/-- The last extension of the last name, with its point.  A name that starts or ends with its only
point has none. -/
def suffix (l : Location) : String :=
  let name := (l.names.getLast?.getD "").toList
  let tail := (name.reverse.takeWhile (· != '.')).reverse
  if tail.isEmpty || name.length ≤ tail.length + 1 then "" else String.ofList ('.' :: tail)

/-- Some name holds a zero character, which no name can. -/
def holdsZero (l : Location) : Bool := l.names.any fun n => n.toList.any fun c => c.toNat == 0

/-- The place that the location leads to from a working directory, whatever is there. -/
def place (working : Place) (l : Location) : Place :=
  l.names.foldl Place.follow (if l.isAbsolute then [] else working)

/-- Locations are ordered name by name. -/
def le (a b : Location) : Bool :=
  !List.lex (b.root :: b.names) (a.root :: a.names) fun x y => decide (x < y)

end Location

end Pageworks
