import Pageworks.FileTree

/-!
# Log

What a build tells while it works.  An entry has a level, and a log shows the entries from its
threshold up, on the console and in a file if it has one.  Before a log is set up, warnings and
worse are shown bare.

## Main definitions

* `Level`: how much an entry matters.
* `LogEntry`: a line to tell.
* `Log.nameOf`: the full name of a logger.
* `Log.console`: what an entry shows on the console.
* `Log.opened`, `Log.record`: a log with its file, and an entry in that file.
-/

namespace Pageworks

/-- How much a log entry matters. -/
structure Level where
  /-- Entries of higher rank matter more. -/
  rank : Int
  deriving DecidableEq, Repr

namespace Level

/-- What a build decides about each document. -/
def debug : Level := ⟨10⟩

/-- How a build proceeds. -/
def info : Level := ⟨20⟩

/-- What may be wrong. -/
def warning : Level := ⟨30⟩

/-- What is wrong. -/
def error : Level := ⟨40⟩

/-- What ends everything. -/
def critical : Level := ⟨50⟩

/-- The name of a level; a rank between the named ones is shown as it is. -/
def name (l : Level) : String :=
  if l == debug then "DEBUG" else if l == info then "INFO" else if l == warning then "WARNING"
  else if l == error then "ERROR" else if l == critical then "CRITICAL"
  else "Level " ++ toString l.rank

end Level

/-- A line to tell. -/
structure LogEntry where
  /-- How much it matters. -/
  level : Level
  /-- What it says. -/
  message : String
  deriving DecidableEq, Repr

/-- A log that has been set up. -/
structure Log where
  /-- Entries below it are not shown. -/
  threshold : Level
  /-- The file that entries go to besides the console. -/
  file : Option Location
  deriving DecidableEq, Repr

namespace Log

/-- The name of the main logger. -/
def mainName : String := "mdgen"

/-- The full name of a component's logger; an unnamed one is the main logger. -/
def nameOf (component : String) : String :=
  if component.isEmpty then mainName else mainName ++ "." ++ component

/-- A log on the console, which shows decisions about documents only if it is verbose. -/
def onConsole (verbose : Bool) : Log := ⟨if verbose then .debug else .info, none⟩

/-- An entry of a level is shown: from the threshold up, or from the warnings up before a log has
been set up. -/
def shows (log : Option Log) (level : Level) : Bool :=
  decide ((log.elim Level.warning Log.threshold).rank ≤ level.rank)

/-- What an entry shows on the console. -/
def console (log : Option Log) (e : LogEntry) : String :=
  if !shows log e.level then ""
  else match log with
    | none => e.message ++ "\n"
    | some _ => "[mdgen] " ++ e.level.name ++ " " ++ e.message ++ "\n"

/-- What entries show on the console. -/
def consoleAll (log : Option Log) (es : List LogEntry) : String := String.join (es.map (console log))

/-- An entry as a line of a log file, after the time at which it was made. -/
def fileLine (time logger : String) (e : LogEntry) : String :=
  time ++ " " ++ e.level.name ++ " " ++ logger ++ ": " ++ e.message ++ "\n"

/-- A file with a text at its end, and nothing else if it was not there. -/
def append (t : FileTree) (working : Place) (l : Location) (text : String) :
    Except FileFault FileTree :=
  match t.locate working l with
  | .error f => .error f
  | .ok p =>
    match t.entry? p with
    | some .directory => .error .isDirectory
    | some (.file bytes) => .ok (t.put p (.file (bytes ++ text.toUTF8.toList)))
    | none => .ok (t.put p (.file text.toUTF8.toList))

/-- The files after a log has been set up: its own file is there. -/
def opened (log : Log) (t : FileTree) (working : Place) : Except FileFault FileTree :=
  match log.file with
  | none => .ok t
  | some l => append t working l ""

/-- The files after an entry, which goes to the end of the log's file. -/
def record (log : Option Log) (t : FileTree) (working : Place) (time logger : String)
    (e : LogEntry) : Except FileFault FileTree :=
  match log.bind Log.file with
  | none => .ok t
  | some l => if shows log e.level then append t working l (fileLine time logger e) else .ok t

end Log

end Pageworks
