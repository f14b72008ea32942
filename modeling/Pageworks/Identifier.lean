import Pageworks.Text.Category

/-!
# Identifiers

The names of generated types and namespaces.  A valid identifier starts with a letter or the low
line, goes on with letters, marks, decimal digits and connectors, and is not a word that the
generated language keeps for itself.

## Main definitions

* `Identifier.isStart`, `Identifier.isPart`: the characters of identifiers.
* `Identifier.reserved`: the words that are no identifiers.
* `Identifier.Valid`: the texts that are.
* `Identifier.sanitize`: a text turned into an identifier.
-/

namespace Pageworks.Identifier

open Pageworks.Text

/-- A character that an identifier may start with. -/
def isStart (c : Char) : Bool := c == '_' || isLetter c

/-- A character that an identifier may go on with. -/
def isPart (c : Char) : Bool := isStart c || isMark c || isDecimal c || isConnector c

/-- Keywords, and words that are keywords in some context. -/
def reserved : List String := [
  "abstract", "as", "base", "bool", "break", "byte", "case", "catch", "char", "checked", "class",
  "const", "continue", "decimal", "default", "delegate", "do", "double", "else", "enum", "event",
  "explicit", "extern", "false", "finally", "fixed", "float", "for", "foreach", "goto", "if",
  "implicit", "in", "int", "interface", "internal", "is", "lock", "long", "namespace", "new",
  "null", "object", "operator", "out", "override", "params", "private", "protected", "public",
  "readonly", "ref", "return", "sbyte", "sealed", "short", "sizeof", "stackalloc", "static",
  "string", "struct", "switch", "this", "throw", "true", "try", "typeof", "uint", "ulong",
  "unchecked", "unsafe", "ushort", "using", "virtual", "void", "volatile", "while",
  "add", "alias", "and", "ascending", "args", "async", "await", "by", "descending", "dynamic",
  "equals", "file", "from", "get", "global", "group", "init", "into", "join", "let", "managed",
  "nameof", "nint", "not", "notnull", "nuint", "on", "or", "orderby", "partial", "record",
  "remove", "required", "scoped", "select", "set", "unmanaged", "value", "var", "when", "where",
  "with", "yield"]

/-- The texts that are identifiers. -/
def Valid (s : List Char) : Prop :=
  (∃ c cs, s = c :: cs ∧ isStart c = true ∧ cs.all isPart = true) ∧ String.ofList s ∉ reserved

/-- The text with a first character that an identifier may start with: a low line goes before a
decimal digit and replaces any other wrong character. -/
def mendStart : List Char → List Char
  | [] => []
  | c :: cs => if isDecimal c then '_' :: c :: cs else if isStart c then c :: cs else '_' :: cs

/-- Every character that no identifier holds, as a low line. -/
def mendParts (cs : List Char) : List Char := cs.map fun c => if isPart c then c else '_'

/-- The identifier for a text.  The empty text stays; a reserved word gets a low line at its
end. -/
def sanitize (name : String) : String :=
  let s := String.ofList (mendParts (mendStart name.toList))
  if reserved.contains s then s ++ "_" else s

end Pageworks.Identifier
