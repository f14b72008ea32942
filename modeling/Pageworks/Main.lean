import Pageworks.CommandLine

/-!
# The program

Reads the files that a command works with, runs the command and writes the files that it changed.

## Main definitions

* `Pageworks.Program.scan`, `Pageworks.Program.apply`: from the disk to a tree and back.
* `main`: the program.
-/

namespace Pageworks.Program

/-- The tree with what is at a place of the disk and everything below. -/
partial def scan (t : FileTree) (p : Place) : IO FileTree := do
  let path := (← IO.currentDir) / p.text
  if ← path.isDir then
    let mut t := if p.isEmpty then t else t.put p .directory
    for e in ← path.readDir do
      t ← scan t (p ++ [e.fileName])
    return t
  else if ← path.pathExists then
    return t.put p (.file (← IO.FS.readBinFile path).toList)
  else return t

/-- The tree with what is at a place of the disk, but not what is below. -/
def touch (t : FileTree) (p : Place) : IO FileTree := do
  let path := (← IO.currentDir) / p.text
  if p.isEmpty then return t
  else if ← path.isDir then return t.put p .directory
  else scan t p

/-- The tree with the directories above a place, and what is at the place and below it. -/
def scanFrom (t : FileTree) (p : Place) : IO FileTree := do
  let mut t := t
  for n in List.range p.length do
    t ← touch t (p.take n)
  scan t p

/-- The tree with the documents at a location: those of a directory, or of the one that a file lies
in. -/
def scanSource (t : FileTree) (working : Place) (l : Location) : IO FileTree := do
  let p := l.place working
  let path := (← IO.currentDir) / p.text
  if ← path.isDir then scanFrom t p
  else if ← path.pathExists then scanFrom t p.dropLast
  else return t

/-- Writes what is at a place of a tree to the disk. -/
def put (p : Place) (e : Entry) : IO Unit := do
  let path := (← IO.currentDir) / p.text
  match e with
  | .directory => IO.FS.createDirAll path
  | .file bytes => IO.FS.writeBinFile path ⟨bytes.toArray⟩

/-- Changes the disk as a tree was changed. -/
def apply (before after : FileTree) : IO Unit := do
  for (p, _) in before.entries do
    if (after.entry? p).isNone then
      IO.FS.removeFile ((← IO.currentDir) / p.text)
  let changed := after.entries.filter fun (p, e) => before.entry? p != some e
  for (p, e) in changed.mergeSort fun a b => decide (a.1.length ≤ b.1.length) do
    put p e

/-- The variables of the environment that set fields. -/
def environment : IO (List (String × String)) := do
  let found ← Settings.fieldNames.mapM fun f => do
    let name := SettingsSources.variableOf f
    return (← IO.getEnv name).map (name, ·)
  return found.filterMap id

/-- Runs the command of a command line, and gives its exit code. -/
def run (words : List String) : IO UInt32 := do
  let working := (Location.parse (← IO.currentDir).toString).names
  let config ← scanFrom FileTree.empty (working ++ [SettingsSources.fileName])
  let setting : CommandLine.Setting := ⟨config, working, ← environment, none⟩
  let mut files := config
  if let .ok command := Command.read words then
    for l in CommandLine.locations setting command do
      files ← scanFrom files (l.place working)
    if let some l := CommandLine.source? command then
      files ← scanSource files working l
  let outcome := CommandLine.run { setting with files := files } words
  apply files outcome.files
  IO.print outcome.output
  IO.eprint outcome.errors
  if let some fault := outcome.fault then
    IO.eprintln ("Error: " ++ fault.message)
  return outcome.exitCode.toUInt32

end Pageworks.Program

/-- The program. -/
def main (words : List String) : IO UInt32 := Pageworks.Program.run words
