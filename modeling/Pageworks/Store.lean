import Pageworks.Calendar
import Pageworks.Document
import Pageworks.GeneratedUnit

/-!
# The record store

The store remembers, for every document that was generated, the last unit and the digest of the
key that it was generated from.  It holds at most one record for a path.  A session is a store
whose changes count only once they are saved.

## Main definitions

* `Record`: what is remembered about a document.
* `Store`, `Store.get?`: the records, and the one of a path.
* `Store.isCurrent`: the record of a path was made from a given key.
* `Store.commit`, `Store.remove`, `Store.all`: changing the store and listing it.
* `Session.commit`, `Session.remove`: changing the store of a session.
* `Session.save`, `Session.rollback`: making changes last, and taking them back.
-/

namespace Pageworks

/-- What is remembered about a generated document. -/
structure Record where
  /-- The path of the document. -/
  path : String
  /-- The name of its unit. -/
  unitName : String
  /-- The digest of the key that the unit was generated from. -/
  cacheKey : String
  /-- How much was generated. -/
  mode : String
  /-- What the unit says. -/
  text : String
  /-- What was told about the document. -/
  diagnostics : List Diagnostic
  /-- When the record was made, if that is known. -/
  committedAt : Option Moment
  deriving DecidableEq, Repr

/-- The record of a unit. -/
def Record.ofUnit (path cacheKey mode : String) (u : GeneratedUnit) (time : Option Moment) :
    Record :=
  ⟨path, u.name, cacheKey, mode, u.text, u.diagnostics, time⟩

/-- What happened to a document. -/
inductive Status
  | created
  | updated
  | unchanged
  | removed
  deriving DecidableEq, Repr

/-- The name of a status. -/
def Status.name : Status → String
  | .created => "created"
  | .updated => "updated"
  | .unchanged => "unchanged"
  | .removed => "removed"

/-- Records, at most one for a path, in the order in which their paths were first stored. -/
structure Store where
  /-- The records. -/
  records : List Record
  /-- No path has two records. -/
  distinct : (records.map Record.path).Nodup
  deriving DecidableEq, Repr

namespace Store

/-- The store without records. -/
def empty : Store := ⟨[], by simp⟩

/-- The record of a path. -/
def get? (s : Store) (path : String) : Option Record := s.records.find? fun r => r.path == path

/-- The path has a record that was made from the given key. -/
def isCurrent (s : Store) (path cacheKey : String) : Bool :=
  (s.get? path).any fun r => r.cacheKey == cacheKey

/-- The records with the one of the same path replaced. -/
def replaced (r : Record) (rs : List Record) : List Record :=
  rs.map fun x => if x.path == r.path then r else x

/-- A record takes the place of the one with its path, so the paths stay. -/
theorem map_path_replaced (r : Record) (rs : List Record) :
    (replaced r rs).map Record.path = rs.map Record.path := by
  induction rs with
  | nil => rfl
  | cons x xs ih =>
    have head : (if x.path == r.path then r else x).path = x.path := by
      split
      · next h => exact (beq_iff_eq.mp h).symm
      · rfl
    simp only [replaced, List.map_cons] at ih ⊢
    rw [head, ih]

/-- The store with a record, in place of the one with its path or after all others. -/
def put (s : Store) (r : Record) : Store :=
  if h : r.path ∈ s.records.map Record.path then
    ⟨replaced r s.records, by rw [map_path_replaced]; exact s.distinct⟩
  else
    ⟨s.records ++ [r], by
      rw [List.map_append, List.nodup_append]
      refine ⟨s.distinct, by simp, ?_⟩
      intro a ha b hb hab
      simp only [List.map_cons, List.map_nil, List.mem_singleton] at hb
      exact h (hb ▸ hab ▸ ha)⟩

/-- The store without the record of a path. -/
def remove (s : Store) (path : String) : Store :=
  ⟨s.records.filter fun r => r.path != path, by
    exact s.distinct.sublist (List.Sublist.map _ List.filter_sublist)⟩

/-- The store after a record is committed, the record that it then holds for the path, and what
happened.  A record made from the key that is stored already changes nothing. -/
def commit (s : Store) (r : Record) : Store × Record × Status :=
  match s.get? r.path with
  | none => (s.put r, r, .created)
  | some old => if old.cacheKey == r.cacheKey then (s, old, .unchanged) else (s.put r, r, .updated)

/-- All records by unit name, those of one name in the order of the store. -/
def all (s : Store) : List Record := s.records.mergeSort fun a b => decide (a.unitName ≤ b.unitName)

end Store

/-- A store with changes that are not saved yet. -/
structure Session where
  /-- The store with all changes. -/
  live : Store
  /-- The store as it was saved last. -/
  saved : Store
  deriving DecidableEq, Repr

namespace Session

/-- A session on a store. -/
def on (s : Store) : Session := ⟨s, s⟩

/-- A session on an empty store. -/
def empty : Session := on .empty

/-- A record is committed. -/
def commit (s : Session) (r : Record) : Session × Record × Status :=
  let (live, kept, status) := s.live.commit r
  ({ s with live := live }, kept, status)

/-- The record of a path is removed, if there is one; whether there was one. -/
def remove (s : Session) (path : String) : Session × Bool :=
  ({ s with live := s.live.remove path }, (s.live.get? path).isSome)

/-- All changes are kept. -/
def save (s : Session) : Session := ⟨s.live, s.live⟩

/-- The changes since the last save are taken back. -/
def rollback (s : Session) : Session := ⟨s.saved, s.saved⟩

end Session

end Pageworks
