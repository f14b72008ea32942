import Pageworks.Metadata
import Pageworks.Proofs.Sources

/-!
# Malformed headers

A document whose header is malformed is not lost: it gets the default metadata, and one warning tells
what is wrong.  Only a scalar that has no value, or no text, fails the document.

The faults of a header are told here without reading it: all of them, in the order of the fields.
Reading stops at the first one.  They are the same in every process, whichever way it lists the
members of a set.

## Main definitions

* `StopsAtFirst x es` — the result is the first of the errors, or a success if there are none.
* `Value.hasText` — whether a value has a text, which no order of members decides.
* `Metadata.faults` — everything that is wrong with a header.
* `Metadata.WellShaped` — a header that holds no more than scalars and lists of scalars, if it says
  anything at all.

## Main results

* `Metadata.ofHeader_stopsAtFirst` — reading a header finds its first fault.
* `Metadata.extract_cases` — **a header is read, or it is malformed and gives the defaults and one
  warning, or a scalar in it fails the document.**
-/

namespace Pageworks

/-! ### Stopping at the first error -/

/-- The result is the first of the errors, or a success if there are none. -/
inductive StopsAtFirst {ε α : Type} : Except ε α → List ε → Prop
  | ok (a : α) : StopsAtFirst (.ok a) []
  | error (e : ε) (es : List ε) : StopsAtFirst (.error e) (e :: es)

namespace StopsAtFirst

variable {ε α β : Type} {x : Except ε α} {es fs : List ε}

theorem bind {f : α → Except ε β} (h : StopsAtFirst x es) (hf : ∀ a, StopsAtFirst (f a) fs) :
    StopsAtFirst (x >>= f) (es ++ fs) := by
  cases h with
  | ok a => exact hf a
  | error e es => exact .error e (es ++ fs)

theorem map (h : StopsAtFirst x es) (f : α → β) : StopsAtFirst (x.map f) es := by
  cases h with
  | ok a => exact .ok (f a)
  | error e es => exact .error e es

theorem bind_pure (h : StopsAtFirst x es) (f : α → β) :
    StopsAtFirst (x >>= fun a => pure (f a)) es := by
  cases h with
  | ok a => exact .ok (f a)
  | error e es => exact .error e es

theorem mapM {f : α → Except ε β} {errors : α → List ε} {as : List α}
    (h : ∀ a, StopsAtFirst (f a) (errors a)) : StopsAtFirst (as.mapM f) (as.flatMap errors) := by
  induction as with
  | nil => exact .ok []
  | cons a as ih =>
    rw [List.mapM_cons, List.flatMap_cons]
    exact (h a).bind fun b => ih.bind_pure fun bs => b :: bs

end StopsAtFirst

/-- All results are there if and only if each of them is. -/
theorem isOk_mapM {ε α β : Type} (f : α → Except ε β) (as : List α) :
    (as.mapM f).isOk = as.all fun a => (f a).isOk := by
  induction as with
  | nil => rfl
  | cons a as ih =>
    rw [List.mapM_cons, List.all_cons, ← ih]
    cases f a with
    | error e => rfl
    | ok b => cases as.mapM f <;> rfl

/-! ### Shapes of values -/

/-- The value has a text, in whatever order the members of a set are listed. -/
def Value.hasText : Value → Bool
  | .set members => members.all fun m => m.memberText.isOk
  | v => v.memberText.isOk

theorem Value.isOk_scalarText [SetOrder] (v : Value) : v.scalarText.isOk = v.hasText := by
  cases v with
  | set members =>
    rw [scalarText, hasText]
    split
    · next hempty => rw [List.isEmpty_iff.mp hempty]; rfl
    · have hmap : ∀ (x : Except TooManyDigits (List String)) (f : List String → String),
          (x.map f).isOk = x.isOk := by
        intro x f
        cases x <;> rfl
      rw [hmap, isOk_mapM]
      exact (SetOrder.perm members).all_eq
  | text s => simp only [scalarText, hasText, memberText, Except.isOk, Except.toBool]
  | date d => simp only [scalarText, hasText, memberText, Except.isOk, Except.toBool]
  | moment t => simp only [scalarText, hasText, memberText, Except.isOk, Except.toBool]
  | _ => simp only [scalarText, hasText]

/-- The value is neither a list nor a mapping. -/
def Value.IsScalar : Value → Prop
  | .list _ | .mapping _ => False
  | _ => True

/-- The value is a scalar or a list of scalars. -/
def Value.IsFlat : Value → Prop
  | .mapping _ => False
  | .list items => ∀ x ∈ items, x.IsScalar
  | _ => True

namespace Value

instance decidableIsScalar : DecidablePred IsScalar
  | .list _ | .mapping _ => .isFalse id
  | .null | .bool _ | .int _ | .float _ | .text _ | .bytes _ | .date _ | .moment _ | .set _ =>
    .isTrue trivial

instance decidableIsFlat : DecidablePred IsFlat
  | .mapping _ => .isFalse id
  | .list items => inferInstanceAs (Decidable (∀ x ∈ items, x.IsScalar))
  | .null | .bool _ | .int _ | .float _ | .text _ | .bytes _ | .date _ | .moment _ | .set _ =>
    .isTrue trivial

end Value

namespace Metadata

/-! ### The faults of a header -/

/-- The keys of a header, in the order of their fields. -/
def keys : List String := ["route", "routes", "title", "using", "usings", "namespace", "attribute",
  "attributes", "layout", "inherits"]

/-- What is wrong with an item of the list under a key. -/
def itemFaults (key : String) : Value → List HeaderFault
  | .null => []
  | .list _ | .mapping _ => [.nestedItem key]
  | v => if v.hasText then [] else [.tooManyDigits]

/-- What is wrong with the value under a key. -/
def fieldFaults (key : String) : Option Value → List HeaderFault
  | none => []
  | some (.mapping _) => [.mappingValue key]
  | some (.list items) => items.flatMap (itemFaults key)
  | some v => itemFaults key v

/-- What is wrong with a header. -/
def faults : Option String → List HeaderFault
  | none => []
  | some text =>
    match Yaml.load text with
    | .error f => [.yaml f]
    | .ok .null => []
    | .ok (.mapping entries) => keys.flatMap fun key => fieldFaults key (Value.lookup? key entries)
    | .ok v => [.notMapping v.kind]

/-- If there is a header, it says nothing or holds scalars and lists of scalars under its keys. -/
def WellShaped (header : Option String) : Prop :=
  ∀ text, header = some text → Yaml.load text = .ok .null ∨
    ∃ entries, Yaml.load text = .ok (.mapping entries) ∧
      ∀ key ∈ keys, ∀ v, Value.lookup? key entries = some v → v.IsFlat

variable {key : String} {header : Option String} {f : HeaderFault}

/-! ### Shapes -/

theorem isScalar_of_itemFaults {v : Value} (h : itemFaults key v = []) : v.IsScalar := by
  cases v with
  | list items => cases h
  | mapping entries => cases h
  | _ => exact trivial

theorem isFlat_of_fieldFaults {v : Value} (h : fieldFaults key (some v) = []) : v.IsFlat := by
  cases v with
  | mapping entries => cases h
  | list items =>
    exact fun x hx => isScalar_of_itemFaults (List.flatMap_eq_nil_iff.mp h x hx)
  | _ => exact trivial

/-- A scalar can only be too long. -/
theorem eq_of_mem_itemFaults {v : Value} (hv : v.IsScalar) (h : f ∈ itemFaults key v) :
    f = .tooManyDigits := by
  have hif : ∀ b : Bool, f ∈ (if b then [] else [HeaderFault.tooManyDigits]) →
      f = .tooManyDigits := by
    intro b hmem
    cases b with
    | true => exact absurd hmem List.not_mem_nil
    | false => exact List.mem_singleton.mp hmem
  cases v with
  | null => exact absurd h List.not_mem_nil
  | list items => exact hv.elim
  | mapping entries => exact hv.elim
  | _ =>
    simp only [itemFaults] at h
    exact hif _ h

theorem eq_of_mem_fieldFaults {v : Value} (hv : v.IsFlat) (h : f ∈ fieldFaults key (some v)) :
    f = .tooManyDigits := by
  cases v with
  | mapping entries => exact hv.elim
  | list items =>
    obtain ⟨x, hx, hmem⟩ := List.mem_flatMap.mp h
    exact eq_of_mem_itemFaults (hv x hx) hmem
  | _ =>
    simp only [fieldFaults] at h
    refine eq_of_mem_itemFaults ?_ h
    exact hv

/-- A header without faults is well-shaped. -/
theorem wellShaped_of_faults (h : faults header = []) : WellShaped header := by
  rintro text rfl
  rw [faults] at h
  split at h
  · cases h
  · next hload => exact .inl hload
  · next entries hload =>
    refine .inr ⟨entries, hload, fun key hkey v hv => ?_⟩
    have hfield : fieldFaults key (Value.lookup? key entries) = [] :=
      List.flatMap_eq_nil_iff.mp h key hkey
    rw [hv] at hfield
    exact isFlat_of_fieldFaults hfield
  · cases h

/-- A well-shaped header can only hold a number that is too long. -/
theorem eq_of_mem_faults (hshape : WellShaped header) (h : f ∈ faults header) :
    f = .tooManyDigits := by
  cases header with
  | none => exact absurd h List.not_mem_nil
  | some text =>
    rw [faults] at h
    rcases hshape text rfl with hload | ⟨entries, hload, hflat⟩
    · rw [hload] at h
      exact absurd h List.not_mem_nil
    · rw [hload] at h
      obtain ⟨key, hkey, hmem⟩ := List.mem_flatMap.mp h
      cases hv : Value.lookup? key entries with
      | none =>
        rw [hv] at hmem
        exact absurd hmem List.not_mem_nil
      | some v =>
        rw [hv] at hmem
        exact eq_of_mem_fieldFaults (hflat key hkey v hv) hmem

/-! ### Reading -/

variable [SetOrder]

theorem itemText_stopsAtFirst (key : String) (v : Value) :
    StopsAtFirst (itemText key v) (itemFaults key v) := by
  cases v with
  | null => exact .ok []
  | list items => exact .error _ []
  | mapping entries => exact .error _ []
  | _ =>
    simp only [itemText, itemFaults, ← Value.isOk_scalarText]
    split
    · next s htext =>
      rw [htext]
      exact .ok [s]
    · next htext =>
      rw [htext]
      exact .error _ []

theorem listOf_stopsAtFirst (key : String) (v : Option Value) :
    StopsAtFirst (listOf key v) (fieldFaults key v) := by
  cases v with
  | none => exact .ok []
  | some v =>
    cases v with
    | null => exact .ok []
    | mapping entries => exact .error _ []
    | list items => exact (StopsAtFirst.mapM (itemText_stopsAtFirst key)).map _
    | _ =>
      simp only [listOf, fieldFaults]
      exact itemText_stopsAtFirst key _

theorem valuesOf_stopsAtFirst (entries : List (Value × Value)) (ks : List String) :
    StopsAtFirst (valuesOf entries ks)
      (ks.flatMap fun key => fieldFaults key (Value.lookup? key entries)) :=
  (StopsAtFirst.mapM fun key => listOf_stopsAtFirst key (Value.lookup? key entries)).map _

theorem ofMapping_stopsAtFirst (entries : List (Value × Value)) :
    StopsAtFirst (ofMapping entries)
      (keys.flatMap fun key => fieldFaults key (Value.lookup? key entries)) := by
  have hkeys : keys = ["route", "routes"] ++ (["title"] ++ (["using", "usings"] ++ (["namespace"] ++
      (["attribute", "attributes"] ++ (["layout"] ++ ["inherits"]))))) := rfl
  rw [hkeys]
  simp only [List.flatMap_append]
  rw [ofMapping]
  refine (valuesOf_stopsAtFirst entries _).bind fun routes => ?_
  refine (valuesOf_stopsAtFirst entries _).bind fun title => ?_
  refine (valuesOf_stopsAtFirst entries _).bind fun imports => ?_
  refine (valuesOf_stopsAtFirst entries _).bind fun namespaceName => ?_
  refine (valuesOf_stopsAtFirst entries _).bind fun attributes => ?_
  refine (valuesOf_stopsAtFirst entries _).bind fun layout => ?_
  exact (valuesOf_stopsAtFirst entries _).bind_pure _

/-- Reading a header finds its first fault. -/
theorem ofHeader_stopsAtFirst (header : Option String) :
    StopsAtFirst (ofHeader header) (faults header) := by
  cases header with
  | none => exact .ok ({} : Metadata)
  | some text =>
    rw [ofHeader, faults]
    cases Yaml.load text with
    | error f => exact .error _ []
    | ok v =>
      cases v with
      | null => exact .ok ({} : Metadata)
      | mapping entries => exact ofMapping_stopsAtFirst entries
      | _ => exact .error _ []

/-- **A header is read, or it is malformed and gives the defaults and one warning, or a scalar in it
fails the document**, whichever fault comes first.  The body is in every case what stands behind the
header. -/
theorem extract_cases (d : Document) :
    (WellShaped (Header.split d.text).1 ∧ ∃ m, extract d = .ok ⟨m, (Header.split d.text).2, []⟩) ∨
      (¬ WellShaped (Header.split d.text).1 ∧
        ∃ f rest, faults (Header.split d.text).1 = f :: rest ∧ f.isMalformed = true ∧
          extract d = .ok ⟨{}, (Header.split d.text).2, [malformedWarning d.path f]⟩) ∨
      ∃ f rest, faults (Header.split d.text).1 = f :: rest ∧ f.isMalformed = false ∧
        extract d = .error f := by
  have hread := ofHeader_stopsAtFirst (Header.split d.text).1
  rw [extract]
  dsimp only
  generalize hfaults : faults (Header.split d.text).1 = fs at hread
  cases hm : ofHeader (Header.split d.text).1 with
  | ok m =>
    rw [hm] at hread
    cases hread
    exact .inl ⟨wellShaped_of_faults hfaults, m, rfl⟩
  | error f =>
    rw [hm] at hread
    cases hread with
    | error _ rest =>
      cases hf : f.isMalformed with
      | false => exact .inr (.inr ⟨f, rest, rfl, hf, if_neg (by rw [hf]; exact Bool.false_ne_true)⟩)
      | true =>
        refine .inr (.inl ⟨fun hshape => ?_, f, rest, rfl, hf, if_pos hf⟩)
        have heq := eq_of_mem_faults hshape (hfaults ▸ List.mem_cons_self)
        rw [heq] at hf
        cases hf

end Metadata

end Pageworks
