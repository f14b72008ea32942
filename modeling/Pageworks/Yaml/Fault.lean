import Pageworks.Calendar
import Pageworks.Text.Quoted

/-!
# Faults of a YAML text

Why a text yields no value.  Most faults lie in the text's syntax or structure; the others come
from a scalar whose text its tag cannot make a value of.

## Main definitions

* `Yaml.Fault`: the causes.
* `Yaml.Fault.message?`: their wording.
-/

namespace Pageworks.Yaml

open Pageworks.Text

/-- The most digits of an integer that is read. -/
def digitLimit : Nat := 4300

/-- Why a text yields no value. -/
inductive Fault
  /-- The text is no YAML document, or its nodes do not fit their tags. -/
  | malformed
  /-- A text is no integer in the base. -/
  | notInteger (base : Nat) (text : String)
  /-- An integer has more digits than are read or written. -/
  | tooManyDigits (count : Nat)
  /-- A text is no floating-point number. -/
  | notFloat (text : String)
  /-- A date or a time is out of range. -/
  | outOfCalendar (fault : DateFault)
  /-- An escape names no character. -/
  | noCharacter
  /-- An escape names a number beyond 32 bits with sign. -/
  | characterOverflow
  /-- A text is no word of truth. -/
  | notTruth
  /-- A number has no digits at all. -/
  | emptyNumber
  /-- A text is no moment. -/
  | notMoment
  /-- A moment is made of a collection. -/
  | momentOfCollection
  deriving DecidableEq, Repr

/-- What stands for the place and the cause of a fault in the syntax of a text. -/
def syntaxText : String := "<YAMLError>"

/-- The wording of a fault.  Scalars whose tag does not suit them at all leave none. -/
def Fault.message? : Fault → Option String
  | .malformed => some syntaxText
  | .notInteger base text =>
    some ("invalid literal for int() with base " ++ toString base ++ ": " ++ quoted text)
  | .tooManyDigits count =>
    some ("Exceeds the limit (4300 digits) for integer string conversion: value has " ++
      toString count ++ " digits; use sys.set_int_max_str_digits() to increase the limit")
  | .notFloat text => some ("could not convert string to float: " ++ quoted text)
  | .outOfCalendar fault => some fault.message
  | .noCharacter => some "chr() arg not in range(0x110000)"
  | .characterOverflow | .notTruth | .emptyNumber | .notMoment | .momentOfCollection => none

end Pageworks.Yaml
