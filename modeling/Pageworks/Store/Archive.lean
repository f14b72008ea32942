import Pageworks.Store

/-!
# Archives of stores

The bytes that keep a store between two runs.  A signature is followed by a list of fields, one
for each record; the field of a record is again a list of fields.  Every field says first how many
characters it has, so fields may hold any text.

## Main definitions

* `Archive.writeFields`, `Archive.readFields?`: lists of fields.
* `Archive.recordText`, `Archive.record?`: the fields of a record.
* `Archive.write`, `Archive.read?`: the bytes of a store.
-/

namespace Pageworks.Archive

open Pageworks.Text

/-- A field: the number of its characters, a colon and the characters. -/
def writeField (s : List Char) : List Char := Nat.toDigits 10 s.length ++ ':' :: s

/-- Fields, one after the other. -/
def writeFields (fs : List (List Char)) : List Char := fs.flatMap writeField

/-- The first field, and what follows it, which is shorter. -/
def readField? (cs : List Char) : Option (List Char × { rest : List Char // rest.length < cs.length }) :=
  match h : cs.dropWhile isAsciiDigit with
  | ':' :: rest =>
    let n := Moment.numberOf (cs.takeWhile isAsciiDigit)
    if rest.length < n then none
    else some (rest.take n, ⟨rest.drop n, by
      have shorter := (List.dropWhile_sublist (l := cs) isAsciiDigit).length_le
      rw [h] at shorter
      simp only [List.length_cons, List.length_drop] at shorter ⊢
      omega⟩)
  | _ => none

/-- The fields that a text consists of. -/
def readFields? (cs : List Char) : Option (List (List Char)) :=
  if cs.isEmpty then some []
  else match readField? cs with
    | none => none
    | some (f, ⟨rest, _⟩) => (readFields? rest).map (f :: ·)
termination_by cs.length

/-- The fields of a diagnostic. -/
def diagnosticFields (d : Diagnostic) : List String := [d.severity.name, d.path, d.message]

/-- Diagnostics from their fields, three for each. -/
def diagnostics? : List String → Option (List Diagnostic)
  | [] => some []
  | severity :: path :: message :: rest => do
    let s ← Severity.ofName? severity
    let ds ← diagnostics? rest
    return ⟨s, path, message⟩ :: ds
  | _ => none

/-- The moment of a record as a field, which is empty if there is none. -/
def momentField (t : Option Moment) : String := t.elim "" (Moment.text "T")

/-- The moment of a field. -/
def moment? (s : String) : Option (Option Moment) :=
  if s.isEmpty then some none else (Moment.ofIso? s).map some

/-- The fields of a record as a text. -/
def recordText (r : Record) : List Char :=
  writeFields (([r.path, r.unitName, r.cacheKey, r.mode, r.text, momentField r.committedAt] ++
    r.diagnostics.flatMap diagnosticFields).map String.toList)

/-- The record of a text. -/
def record? (cs : List Char) : Option Record := do
  match (← readFields? cs).map String.ofList with
  | path :: unitName :: cacheKey :: mode :: text :: time :: rest =>
    return ⟨path, unitName, cacheKey, mode, text, ← diagnostics? rest, ← moment? time⟩
  | _ => none

/-- The store of some records, if no path has two of them. -/
def store? (rs : List Record) : Option Store :=
  if h : (rs.map Record.path).Nodup then some ⟨rs, h⟩ else none

/-- What an archive starts with.  Its first byte is in no text, so an archive is not read as one. -/
def signature : List UInt8 := 255 :: "store 1\n".toUTF8.toList

/-- The bytes of a store. -/
def write (s : Store) : List UInt8 :=
  signature ++ (String.ofList (writeFields (s.records.map recordText))).toUTF8.toList

/-- The store of some bytes.  No bytes at all are the empty store. -/
def read? (bytes : List UInt8) : Option Store :=
  if bytes.isEmpty then some .empty
  else if signature.isPrefixOf bytes then do
    let text ← String.fromUTF8? ⟨(bytes.drop signature.length).toArray⟩
    let records ← (← readFields? text.toList).mapM record?
    store? records
  else none

end Pageworks.Archive
