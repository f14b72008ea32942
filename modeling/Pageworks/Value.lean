import Pageworks.Calendar
import Pageworks.Decimal.Shortest
import Pageworks.Text.Quoted

/-!
# Values

What a header, a configuration file or a setting holds: scalars of several kinds, lists and
mappings.  Every scalar has a text.  The text of a set lists its members, in an order that is up to
the process that writes it.

## Main definitions

* `Value`: the values.
* `SetOrder`: how a process lists the members of a set.
* `SetOrder.byHash`: the order of the slots in a table.
* `Value.kind`: the name of a value's kind.
* `Value.scalarText`: the text of a scalar.
* `Value.isFalse`: the values that stand for nothing.
* `Value.find?`: what a mapping holds under a key.
-/

namespace Pageworks

open Pageworks.Text

/-- The values of documents and settings. -/
inductive Value
  | null
  | bool (b : Bool)
  | int (n : Int)
  | float (x : Float)
  | text (s : String)
  | bytes (bs : List UInt8)
  | date (d : Date)
  | moment (t : Moment)
  | set (members : List Value)
  | list (items : List Value)
  | mapping (entries : List (Value × Value))
  deriving Inhabited

/-- A number has more decimal digits than are ever written. -/
structure TooManyDigits where
  deriving DecidableEq, Repr

/-- How a process lists the members of a set.  The order follows their hashes, and every process
draws those of texts anew, so it is no property of the set. -/
class SetOrder where
  /-- The members of a set in the order in which they are listed. -/
  arrange : List Value → List Value
  /-- Every member is listed, as often as it is one. -/
  perm (members : List Value) : (arrange members).Perm members

namespace SetOrder

/-! ### Tables

A set keeps its members in the slots of a table.  A member goes where its hash says, or to a free
slot from there on. -/

/-- The hashes of numbers are remainders by this. -/
def modulus : Nat := Nat.pow 2 61 - 1

/-- The hash of a number with a remainder, as 64 bits; minus one is the hash of none. -/
def hashOfRemainder (negative : Bool) (r : Nat) : Nat :=
  if negative && r != 0 then Nat.pow 2 64 - (if r == 1 then 2 else r) else r

/-- The hash of a floating-point number, which is that of the integer if it is one. -/
def hashOfFloat (x : Float) : Nat :=
  if x.isInf then hashOfRemainder (x < 0.0) 314159
  else
    -- modulo the modulus, powers of two repeat after 61
    let b := Binary64.ofFloat x
    hashOfRemainder (x < 0.0) (b.mantissa * Nat.pow 2 (b.exponent % 61).toNat % modulus)

/-- The hash of a value, given what the process has drawn for everything but numbers. -/
def hash (drawn : Value → Nat) : Value → Nat
  | .bool b => b.toNat
  | .int n => hashOfRemainder (n < 0) (n.natAbs % modulus)
  | .float x => if x.isNaN then drawn (.float x) else hashOfFloat x
  | v => drawn v

/-- The slots of a table for some members: eight for a few, else a power of two above their
double. -/
def tableSize (members : Nat) : Nat :=
  if members < 5 then 8 else Nat.pow 2 (Nat.log2 (2 * members) + 1)

/-- The slots that are looked at in a row, ten of them if there are ten. -/
def row (size slot : Nat) : List Nat :=
  if slot + 9 < size then (List.range 10).map (slot + ·) else [slot]

/-- The first free slot of the rows that start at a slot, each start mixed with what is left of the
hash. -/
def freeSlot (size : Nat) (taken : List Nat) : Nat → Nat → Nat → Nat
  | 0, slot, _ => slot
  | fuel + 1, slot, rest =>
    match (row size slot).find? fun s => !taken.contains s with
    | some free => free
    | none => freeSlot size taken fuel ((5 * slot + 1 + rest / 32) % size) (rest / 32)

/-- Puts a member into its slot. -/
def put (slot : Nat) (v : Value) : List (Nat × Value) → List (Nat × Value)
  | [] => [(slot, v)]
  | e :: table => if slot < e.1 then (slot, v) :: e :: table else e :: put slot v table

/-- Adds a member.  A hash of 64 bits is used up after 13 rows, and from then on every slot has its
turn. -/
def add (drawn : Value → Nat) (size : Nat) (table : List (Nat × Value)) (v : Value) :
    List (Nat × Value) :=
  let h := hash drawn v
  put (freeSlot size (table.map (·.1)) (size + 13) (h % size) h) v table

/-- The members of a set from the first slot of its table to the last. -/
def listed (drawn : Value → Nat) (members : List Value) : List Value :=
  (members.foldl (add drawn (tableSize members.length)) []).map (·.2)

theorem put_perm (slot : Nat) (v : Value) (table : List (Nat × Value)) :
    ((put slot v table).map (·.2)).Perm (v :: table.map (·.2)) := by
  induction table with
  | nil => exact .refl _
  | cons e table ih =>
    rw [put]
    split
    · exact .refl _
    · exact (ih.cons e.2).trans (.swap _ _ _)

theorem foldl_add_perm (drawn : Value → Nat) (size : Nat) (members : List Value)
    (table : List (Nat × Value)) :
    ((members.foldl (add drawn size) table).map (·.2)).Perm (members ++ table.map (·.2)) := by
  induction members generalizing table with
  | nil => exact .refl _
  | cons v members ih =>
    have hput : ((add drawn size table v).map (·.2)).Perm (v :: table.map (·.2)) :=
      put_perm _ v table
    exact (ih _).trans ((hput.append_left members).trans List.perm_middle)

/-- The order of a process that has drawn hashes for everything but numbers. -/
@[reducible] def byHash (drawn : Value → Nat) : SetOrder where
  arrange := listed drawn
  perm members := by
    have h := foldl_add_perm drawn (tableSize members.length) members []
    rwa [List.map_nil, List.append_nil] at h

/-- The order of a process that has drawn zero for everything but numbers. -/
@[reducible] def standard : SetOrder := byHash fun _ => 0

end SetOrder

namespace Value

/-- The name of a value's kind. -/
def kind : Value → String
  | .null => "NoneType"
  | .bool _ => "bool"
  | .int _ => "int"
  | .float _ => "float"
  | .text _ => "str"
  | .bytes _ => "bytes"
  | .date _ => "date"
  | .moment _ => "datetime"
  | .set _ => "set"
  | .list _ => "list"
  | .mapping _ => "dict"

/-- Floating-point numbers have an exponent from `1e+16` up and below `1e-04`, and whole ones
end in `.0`. -/
def floatStyle : DecimalStyle := ⟨16, -4, ".0", 2⟩

/-- The text of a floating-point number. -/
def floatText (x : Float) : String :=
  if x.isNaN then "nan"
  else
    let sign := if x.toBits.toNat ≥ Nat.pow 2 63 then "-" else ""
    if x.isInf then sign ++ "inf"
    else if x == 0.0 then sign ++ "0.0"
    else sign ++ floatStyle.write (Binary64.ofFloat x).shortest

/-- The most decimal digits that an integer is written with. -/
def digitLimit : Nat := 4300

/-- The decimal text of an integer within the limit. -/
def intText (n : Int) : Except TooManyDigits String :=
  if Nat.pow 10 digitLimit ≤ n.natAbs then .error ⟨⟩ else .ok (toString n)

/-- A member of a set as the text of the set shows it. -/
def memberText : Value → Except TooManyDigits String
  | .null => .ok "None"
  | .bool b => .ok (if b then "True" else "False")
  | .int n => intText n
  | .float x => .ok (floatText x)
  | .text s => .ok (quoted s)
  | .bytes bs => .ok (quotedBytes bs)
  | .date d => .ok s!"datetime.date({d.year}, {d.month}, {d.day})"
  | .moment t => .ok (momentText t)
  | .set _ | .list _ | .mapping _ => .ok ""
where
  /-- A moment with its parts listed; zero seconds and fractions are left out. -/
  momentText (t : Moment) : String :=
    let parts := [t.date.year, t.date.month, t.date.day, t.hour, t.minute] ++
      (if t.micro != 0 then [t.second, t.micro] else if t.second != 0 then [t.second] else [])
    let zone := match t.offset with
      | none => ""
      | some 0 => ", tzinfo=datetime.timezone.utc"
      | some z =>
        let days := if z < 0 then "days=-1, " else ""
        let seconds := (z % 1440) * 60
        s!", tzinfo=datetime.timezone(datetime.timedelta({days}seconds={seconds}))"
    "datetime.datetime(" ++ ", ".intercalate (parts.map toString) ++ zone ++ ")"

/-- The text of a scalar.  Lists and mappings are no scalars and have none. -/
def scalarText [SetOrder] : Value → Except TooManyDigits String
  | .text s => .ok s
  | .date d => .ok d.iso
  | .moment t => .ok (t.text " ")
  | .set members =>
    if members.isEmpty then .ok "set()"
    else ((SetOrder.arrange members).mapM memberText).map fun ms =>
      "\x7b" ++ ", ".intercalate ms ++ "\x7d"
  | v => memberText v

/-- The values that stand for nothing: null, no, zero and everything empty. -/
def isFalse : Value → Bool
  | .null => true
  | .bool b => !b
  | .int n => n == 0
  | .float x => x == 0.0
  | .text s => s.isEmpty
  | .bytes bs => bs.isEmpty
  | .date _ | .moment _ => false
  | .set ms => ms.isEmpty
  | .list xs => xs.isEmpty
  | .mapping es => es.isEmpty

/-- Whether a value is a given text. -/
def isText (s : String) : Value → Bool
  | .text t => t == s
  | _ => false

/-- Whether a value is a text. -/
def isTextual : Value → Bool
  | .text _ => true
  | _ => false

/-- The number that a value compares as. -/
def number? : Value → Option Float
  | .bool b => some (if b then 1.0 else 0.0)
  | .int n => some (Float.ofInt n)
  | .float x => some x
  | _ => none

/-- Two keys are the same key: equal scalars of one kind, or equal numbers. -/
def sameKey : Value → Value → Bool
  | .null, .null => true
  | .text a, .text b => a == b
  | .bytes a, .bytes b => a == b
  | .date a, .date b => a == b
  | .moment a, .moment b => a == b
  | .int a, .int b => a == b
  | a, b =>
    match a.number?, b.number? with
    | some x, some y => x == y
    | _, _ => false

/-- What the entries of a mapping hold under a text key; the last entry counts. -/
def lookup? (key : String) (entries : List (Value × Value)) : Option Value :=
  (entries.reverse.find? fun e => e.1.isText key).map (·.2)

end Value

end Pageworks
