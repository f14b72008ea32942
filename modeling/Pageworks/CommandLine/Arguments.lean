import Pageworks.Decimal.Numeral

/-!
# Arguments

The words of a command line.  Options start with a hyphen and may stand anywhere; a word after an
option that takes a value is that value, whatever it looks like; two hyphens alone end the options.

## Main definitions

* `OptionTable`: the options that a command knows.
* `Arguments`, `Arguments.read`: the options and words that were given.
* `Command`, `Command.read`: a command with its options.
-/

namespace Pageworks

/-- The options that a command knows. -/
structure OptionTable where
  /-- The options that take a value. -/
  valued : List String := []
  /-- The options that take none. -/
  flags : List String := []
  /-- Options of one letter, and what they stand for. -/
  letters : List (Char × String) := []

/-- A command line that cannot be understood. -/
inductive UsageError
  | unknownCommand (name : String)
  | unknownOption (name : String)
  | valueMissing (option : String)
  | valueUnwanted (option : String)
  | notInteger (option value : String)
  | wordMissing (name : String)
  | wordUnwanted (word : String)
  | commandMissing
  deriving DecidableEq, Repr

/-- The wording of a usage error. -/
def UsageError.message : UsageError → String
  | unknownCommand name => "No such command '" ++ name ++ "'."
  | unknownOption name => "No such option: " ++ name
  | valueMissing option => "Option '" ++ option ++ "' requires an argument."
  | valueUnwanted option => "Option '" ++ option ++ "' does not take a value."
  | notInteger option value =>
    "Invalid value for '" ++ option ++ "': '" ++ value ++ "' is not a valid integer."
  | wordMissing name => "Missing argument '" ++ name ++ "'."
  | wordUnwanted word => "Got unexpected extra argument (" ++ word ++ ")"
  | commandMissing => "Missing command."

/-- The options and words of a command line. -/
structure Arguments where
  /-- The options that were given, each with its value if it takes one. -/
  options : List (String × Option String)
  /-- The other words, in order. -/
  words : List String
  deriving DecidableEq, Repr

namespace Arguments

/-- No words. -/
def none : Arguments := ⟨[], []⟩

/-- The arguments with an option in front. -/
def option (name : String) (value : Option String) (a : Arguments) : Arguments :=
  { a with options := (name, value) :: a.options }

/-- The arguments with a word in front. -/
def word (w : String) (a : Arguments) : Arguments := { a with words := w :: a.words }

/-- The option that asks for help. -/
def help : String := "--help"

/-- A word that is read as an option: a hyphen and something behind it. -/
def isOption (w : String) : Bool := w.startsWith "-" && w != "-"

/-- A word cut at its first equals sign. -/
def cutValue (w : String) : String × Option String :=
  let cs := w.toList
  match cs.dropWhile (· != '=') with
  | _ :: value => (String.ofList (cs.takeWhile (· != '=')), some (String.ofList value))
  | [] => (w, Option.none)

/-- The options that the letters behind a hyphen stand for. -/
def lettersOf (table : OptionTable) (w : String) : Except UsageError (List String) :=
  (w.toList.drop 1).mapM fun c =>
    match table.letters.lookup c with
    | some name => .ok name
    | Option.none => .error (.unknownOption (String.ofList ['-', c]))

/-- Reads the words of a command line. -/
def read (table : OptionTable) : List String → Except UsageError Arguments
  | [] => .ok none
  | w :: ws =>
    if w == "--" then .ok ⟨[], ws⟩
    else if !isOption w then (read table ws).map (word w)
    else
      let (name, value) := cutValue w
      if table.valued.contains name then
        match value, ws with
        | some v, ws => (read table ws).map (option name (some v))
        | Option.none, v :: ws => (read table ws).map (option name (some v))
        | Option.none, [] => .error (.valueMissing name)
      else if table.flags.contains name || name == help then
        match value with
        | some _ => .error (.valueUnwanted name)
        | Option.none => (read table ws).map (option name Option.none)
      else if w.startsWith "--" then .error (.unknownOption name)
      else
        match lettersOf table w with
        | .error e => .error e
        | .ok names => (read table ws).map fun a => names.foldr (fun n a => option n Option.none a) a

/-- The last value that an option was given. -/
def value? (a : Arguments) (name : String) : Option String :=
  (a.options.reverse.lookup name).join

/-- An option was given. -/
def has (a : Arguments) (name : String) : Bool := (a.options.lookup name).isSome

/-- The integer that an option was given. -/
def integer? (a : Arguments) (name : String) : Except UsageError (Option Int) :=
  match a.value? name with
  | Option.none => .ok Option.none
  | some v =>
    match Numeral.int? 10 v.toList with
    | some (n, _) => .ok (some n)
    | Option.none => .error (.notInteger name v)

/-- The only word. -/
def single (a : Arguments) (name : String) : Except UsageError String :=
  match a.words with
  | [w] => .ok w
  | [] => .error (.wordMissing name)
  | _ :: w :: _ => .error (.wordUnwanted w)

/-- No words are left. -/
def nothing (a : Arguments) : Except UsageError Unit :=
  match a.words with
  | [] => .ok ()
  | w :: _ => .error (.wordUnwanted w)

end Arguments

/-- A command with its options. -/
inductive Command
  /-- Builds what is at a path. -/
  | build (path : String) (outputDirectory rootNamespace projectRoot baseType : Option String)
      (declarations : Bool) (workers : Option Int) (verbose : Bool)
  /-- Shows the unit of one document. -/
  | generate (path : String) (rootNamespace projectRoot : Option String) (declarations : Bool)
  /-- Lists the records. -/
  | list
  /-- Makes the store ready, or empties it. -/
  | init (reset : Bool)
  /-- Tells how commands are written. -/
  | help
  deriving DecidableEq, Repr

namespace Command

/-- The options of a build. -/
def buildOptions : OptionTable where
  valued := ["--out-dir", "--namespace", "--project-root", "--base-type", "--workers"]
  flags := ["--declarations", "--verbose"]
  letters := [('v', "--verbose")]

/-- Reads the words behind `build`. -/
def readBuild (ws : List String) : Except UsageError Command := do
  let a ← Arguments.read buildOptions ws
  if a.has Arguments.help then return .help
  let workers ← a.integer? "--workers"
  let path ← a.single "PATH"
  return .build path (a.value? "--out-dir") (a.value? "--namespace") (a.value? "--project-root")
    (a.value? "--base-type") (a.has "--declarations") workers (a.has "--verbose")

/-- The options that show a unit. -/
def generateOptions : OptionTable where
  valued := ["--namespace", "--project-root"]
  flags := ["--declarations"]

/-- Reads the words behind `generate`. -/
def readGenerate (ws : List String) : Except UsageError Command := do
  let a ← Arguments.read generateOptions ws
  if a.has Arguments.help then return .help
  let path ← a.single "PATH"
  return .generate path (a.value? "--namespace") (a.value? "--project-root")
    (a.has "--declarations")

/-- Reads the words behind `list`. -/
def readList (ws : List String) : Except UsageError Command := do
  let a ← Arguments.read {} ws
  if a.has Arguments.help then return .help
  a.nothing
  return .list

/-- Reads the words behind `init`. -/
def readInit (ws : List String) : Except UsageError Command := do
  let a ← Arguments.read { flags := ["--reset"] } ws
  if a.has Arguments.help then return .help
  a.nothing
  return .init (a.has "--reset")

/-- Reads a command and the words behind it. -/
def readNamed : List String → Except UsageError Command
  | [] => .error .commandMissing
  | "build" :: ws => readBuild ws
  | "generate" :: ws => readGenerate ws
  | "list" :: ws => readList ws
  | "init" :: ws => readInit ws
  | w :: _ => .error (.unknownCommand w)

/-- Reads a command line. -/
def read : List String → Except UsageError Command
  | "--" :: ws => readNamed ws
  | w :: ws =>
    if w == Arguments.help then .ok .help
    else if Arguments.isOption w then .error (.unknownOption w)
    else readNamed (w :: ws)
  | [] => .error .commandMissing

end Command

end Pageworks
