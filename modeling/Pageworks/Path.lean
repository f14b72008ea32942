import Pageworks.Text.Blank
import Pageworks.Text.Split
import Pageworks.Text.Folding

/-!
# Paths

A path is a text of segments between separators.  The slash, the backslash and the colon all
separate, so that paths written on different systems compare and compose alike.  Empty segments
and the segments `.` and `..` stand for themselves: nothing here looks at a file.

## Main definitions

* `Path.normalize`: the segments joined on one separator.
* `Path.parent?`: the containing directory.
* `Path.matched?`: how many segments of a path a directory accounts for, up to case.
* `Path.isWithin`, `Path.relativeTo`, `Path.stem`: prefix test, remainder and file stem.
-/

namespace Pageworks.Path

open Pageworks.Text

/-- The characters that separate segments. -/
def isSeparator (c : Char) : Bool := c == '/' || c == '\\' || c == ':'

/-- The slash alone. -/
def isSlash (c : Char) : Bool := c == '/'

/-- The text without one given ending; an empty ending stands for the whole text. -/
def stripEnding (e cs : List Char) : List Char :=
  if e.isEmpty then []
  else match startsWith? e.reverse cs.reverse with
    | some r => r.reverse
    | none => cs

/-- The segments of a path joined on a separator, less one separator at the end. -/
def normalize (separator path : String) : String :=
  let sep := separator.toList
  String.ofList (stripEnding sep (sep.intercalate (fields isSeparator path.toList)))

/-- The path with slashes between its segments. -/
def slashed (path : String) : String := normalize "/" path

/-- The text before the last character of the class and the text after it. -/
def splitLast? (p : Char → Bool) (cs : List Char) : Option (List Char × List Char) :=
  match cs.reverse.span (fun c => !p c) with
  | (_, []) => none
  | (tail, _ :: head) => some (head.reverse, tail.reverse)

/-- The containing directory of a path, with slashes.  A bare file name lies in the empty
directory; an empty path and a path of separators only lie in none. -/
def parent? (path : String) : Option String :=
  let cs := (slashed path).toList
  if cs.all isSlash then none
  else match splitLast? isSlash cs with
    | some (head, _) => some (String.ofList head)
    | none => some ""

/-- The containing directory, the empty one where there is none. -/
def directory (path : String) : String := (parent? path).getD ""

/-- The segments of a path with slashes, those after the last character other than a slash
left out. -/
def segments (path : List Char) : List (List Char) := fields isSlash (dropTrailing isSlash path)

/-- Each segment of the second list is, up to case, the segment of the first at its place. -/
def leads : List (List Char) → List (List Char) → Bool
  | _, [] => true
  | [], _ :: _ => false
  | p :: ps, d :: ds => caseFold p == caseFold d && leads ps ds

/-- How many leading segments of the path the directory matches, if it matches whole. -/
def matched? (path directory : List Char) : Option Nat :=
  let ds := segments directory
  if leads (segments path) ds then some ds.length else none

/-- The path lies in the directory or below it.  Everything lies in the empty directory. -/
def isWithin (path directory : String) : Bool :=
  directory.isEmpty || (matched? path.toList directory.toList).isSome

/-- The path without the segments of the root, or the whole path if it lies elsewhere; leading
slashes are dropped. -/
def relativeTo (path root : String) : String :=
  let cs := path.toList
  let kept :=
    if root.isEmpty then cs
    else match matched? cs root.toList with
      | some n => ['/'].intercalate ((fields isSlash cs).drop n)
      | none => cs
  String.ofList (kept.dropWhile isSlash)

/-- The last segment of a path. -/
def fileName (path : String) : List Char :=
  let cs := (slashed path).toList
  match splitLast? isSlash cs with
  | some (_, name) => name
  | none => cs

/-- The last segment of a path without its last extension. -/
def stem (path : String) : String :=
  let name := fileName path
  match splitLast? (· == '.') name with
  | some (s, _) => String.ofList s
  | none => String.ofList name

end Pageworks.Path
