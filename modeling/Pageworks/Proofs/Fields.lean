import Mathlib.Data.List.Basic
import Mathlib.Data.List.Pairwise
import Mathlib.Data.List.Perm.Basic
import Pageworks.Proofs.Metadata

/-!
# The fields of a header

A field of the metadata is read off one key or two.  What such a key holds comes to a list of items:
a list is the list of its items, any other value is the only item, and null is no item at all.  The
field is the texts of the items, or the first of them.  A key with a collection among its items
makes the header malformed, and the first such key, in the order of the fields, is the one that is
named.

So a header is known by what it holds under ten keys.  Its other entries, and the order in which the
entries stand, cannot be seen.

## Main definitions

* `Value.IsShort` — no integer in the value has more digits than are ever written.
* `Metadata.items`, `Metadata.texts`, `Metadata.reference` — the items under a key, their texts, and
  the metadata that is read off them.
* `Metadata.IsNested` — a key that makes the header malformed.

## Main results

* `Metadata.listOf_of_isFlat`, `Metadata.fieldFaults_of_not_isFlat` — one key, well-formed or not.
* `Metadata.ofMapping_congr` — only what stands under the ten keys counts.
* `Metadata.ofMapping_reads` — **the metadata is read off the items**, or the first malformed key is
  named, whatever the order of the entries and whatever stands under other keys.
-/

namespace Pageworks

/-! ### Texts of scalars -/

namespace Value

/-- No integer in the value has more digits than are ever written. -/
def IsShort : Value → Prop
  | .int n => n.natAbs < Nat.pow 10 digitLimit
  | .set members => ∀ n, .int n ∈ members → n.natAbs < Nat.pow 10 digitLimit
  | _ => True

/-- The text of a scalar that has one. -/
def shown [SetOrder] (v : Value) : String := v.scalarText.toOption.getD ""

/-- The value is null. -/
def isNull : Value → Bool
  | .null => true
  | _ => false

variable {v : Value}

theorem intText_of_short {n : Int} (h : n.natAbs < Nat.pow 10 digitLimit) :
    intText n = .ok (toString n) := by
  unfold intText
  generalize Nat.pow 10 digitLimit = bound at h ⊢
  rw [if_neg (Nat.not_le_of_lt h)]

theorem isOk_memberText (h : ∀ n, v = .int n → n.natAbs < Nat.pow 10 digitLimit) :
    v.memberText.isOk = true := by
  cases v with
  | int n =>
    rw [memberText, intText_of_short (h n rfl)]
    rfl
  | _ => rfl

theorem IsShort.hasText (h : v.IsShort) : v.hasText = true := by
  cases v with
  | int n =>
    simp only [Value.hasText]
    refine isOk_memberText ?_
    rintro m ⟨⟩
    exact h
  | set members =>
    rw [Value.hasText, List.all_eq_true]
    intro m hm
    refine isOk_memberText ?_
    rintro n rfl
    exact h n hm
  | _ => rfl

/-- **A scalar has a text**, unless an integer in it is too long. -/
theorem IsShort.scalarText_eq [SetOrder] (h : v.IsShort) : v.scalarText = .ok v.shown := by
  obtain ⟨s, hs⟩ := exists_of_isOk (v.isOk_scalarText.trans h.hasText)
  rw [shown, hs]
  rfl

end Value

namespace Metadata

variable {key : String} {v : Value} {entries entries' : List (Value × Value)}

/-! ### The items under a key -/

/-- The items that are not null: those of a list, or the value itself. -/
def items : Option Value → List Value
  | none | some .null => []
  | some (.list xs) => xs.filter fun x => !x.isNull
  | some v => [v]

/-- The texts of the items under a key. -/
def texts [SetOrder] (entries : List (Value × Value)) (key : String) : List String :=
  (items (Value.lookup? key entries)).map Value.shown

/-- The metadata that is read off the items: both keys of a field of many values, the singular one
first, and the first item of a field of one value. -/
def reference [SetOrder] (entries : List (Value × Value)) : Metadata where
  routes := texts entries "route" ++ texts entries "routes"
  title := (texts entries "title").head?
  imports := texts entries "using" ++ texts entries "usings"
  namespaceName := (texts entries "namespace").head?
  attributes := texts entries "attribute" ++ texts entries "attributes"
  layout := (texts entries "layout").head?
  baseType := (texts entries "inherits").head?

/-- Under the key stands a mapping, or a list with a collection in it. -/
def IsNested (entries : List (Value × Value)) (key : String) : Prop :=
  ∃ v, Value.lookup? key entries = some v ∧ ¬ v.IsFlat

instance decidableIsNested (entries : List (Value × Value)) (key : String) :
    Decidable (IsNested entries key) :=
  decidable_of_iff (∃ v ∈ Value.lookup? key entries, ¬ v.IsFlat) (by
    simp only [IsNested, Option.mem_def])

/-- What is wrong with a value that is no scalar and no list of scalars. -/
def nestedFault (key : String) : Value → HeaderFault
  | .mapping _ => .mappingValue key
  | _ => .nestedItem key

/-- What holds of null and of every item of a list holds of all that the list holds. -/
theorem of_mem_list {P : Value → Prop} (hnull : P .null) {xs : List Value}
    (h : ∀ x ∈ items (some (.list xs)), P x) {x : Value} (hx : x ∈ xs) : P x := by
  cases hisnull : x.isNull with
  | false => exact h x (List.mem_filter.mpr ⟨hx, by rw [hisnull]; rfl⟩)
  | true =>
    cases x with
    | null => exact hnull
    | _ => cases hisnull

theorem itemText_of_isScalar [SetOrder] (hscalar : v.IsScalar) (hshort : v.IsShort) :
    itemText key v = .ok (([v].filter fun x => !x.isNull).map Value.shown) := by
  cases v with
  | list xs => exact hscalar.elim
  | mapping es => exact hscalar.elim
  | null => rfl
  | _ =>
    simp only [itemText, hshort.scalarText_eq]
    rfl

theorem mapM_itemText [SetOrder] {xs : List Value} (hscalar : ∀ x ∈ xs, x.IsScalar)
    (hshort : ∀ x ∈ xs, x.IsShort) :
    (xs.mapM (itemText key)).map List.flatten =
      .ok ((xs.filter fun x => !x.isNull).map Value.shown) := by
  rw [mapM_congr fun x hx => itemText_of_isScalar (hscalar x hx) (hshort x hx)]
  change (xs.mapM (fun x => pure (([x].filter fun x => !x.isNull).map Value.shown)) :
    Except HeaderFault (List (List String))).map List.flatten = _
  rw [List.mapM_pure]
  change Except.ok _ = Except.ok _
  congr 1
  induction xs with
  | nil => rfl
  | cons x xs ih =>
    rw [List.map_cons, List.flatten_cons, ih (fun y hy => hscalar y (List.mem_cons_of_mem _ hy))
      (fun y hy => hshort y (List.mem_cons_of_mem _ hy)), ← List.map_append, ← List.filter_append]
    rfl

/-- **What a key holds is the texts of its items**, if it holds a scalar or a list of scalars. -/
theorem listOf_of_isFlat [SetOrder] {v : Option Value} (hflat : ∀ x, v = some x → x.IsFlat)
    (hshort : ∀ x ∈ items v, x.IsShort) : listOf key v = .ok ((items v).map Value.shown) := by
  cases v with
  | none => rfl
  | some v =>
    have hv := hflat v rfl
    cases v with
    | null => rfl
    | mapping es => exact hv.elim
    | list xs =>
      exact mapM_itemText hv fun x hx => of_mem_list trivial hshort hx
    | _ =>
      simp only [listOf]
      exact itemText_of_isScalar trivial (hshort _ List.mem_cons_self)

theorem itemFaults_of_isScalar (hscalar : v.IsScalar) (hshort : v.IsShort) :
    itemFaults key v = [] := by
  have htext := hshort.hasText
  cases v with
  | list xs => exact hscalar.elim
  | mapping es => exact hscalar.elim
  | null => rfl
  | _ => simp only [itemFaults, htext, if_true]

theorem itemFaults_of_not_isScalar (h : ¬ v.IsScalar) : itemFaults key v = [.nestedItem key] := by
  cases v with
  | list xs => rfl
  | mapping es => rfl
  | _ => exact absurd trivial h

theorem fieldFaults_of_isFlat {v : Option Value} (hflat : ∀ x, v = some x → x.IsFlat)
    (hshort : ∀ x ∈ items v, x.IsShort) : fieldFaults key v = [] := by
  cases v with
  | none => rfl
  | some v =>
    have hv := hflat v rfl
    cases v with
    | null => rfl
    | mapping es => exact hv.elim
    | list xs =>
      refine List.flatMap_eq_nil_iff.mpr fun x hx => ?_
      exact itemFaults_of_isScalar (hv x hx) (of_mem_list trivial hshort hx)
    | _ =>
      simp only [fieldFaults]
      exact itemFaults_of_isScalar trivial (hshort _ List.mem_cons_self)

/-- **A key that holds a collection among its items** has a fault that says so, and it comes
first. -/
theorem fieldFaults_of_not_isFlat (hflat : ¬ v.IsFlat) (hshort : ∀ x ∈ items (some v), x.IsShort) :
    ∃ rest, fieldFaults key (some v) = nestedFault key v :: rest := by
  cases v with
  | mapping es => exact ⟨[], rfl⟩
  | list xs =>
    have hmem : ∀ f ∈ xs.flatMap (itemFaults key), f = .nestedItem key := by
      intro f hf
      obtain ⟨x, hx, hf⟩ := List.mem_flatMap.mp hf
      by_cases hscalar : x.IsScalar
      · rw [itemFaults_of_isScalar hscalar (of_mem_list trivial hshort hx)] at hf
        exact absurd hf List.not_mem_nil
      · rw [itemFaults_of_not_isScalar hscalar] at hf
        exact List.mem_singleton.mp hf
    have hne : xs.flatMap (itemFaults key) ≠ [] :=
      fun hnil => hflat fun x hx => isScalar_of_itemFaults (List.flatMap_eq_nil_iff.mp hnil x hx)
    obtain ⟨f, rest, hcons⟩ := List.exists_cons_of_ne_nil hne
    refine ⟨rest, ?_⟩
    rw [fieldFaults, hcons, hmem f (by rw [hcons]; exact List.mem_cons_self)]
    rfl
  | _ => exact absurd trivial hflat

/-! ### All fields -/

/-- The items under a key are short. -/
def IsShortAt (entries : List (Value × Value)) (key : String) : Prop :=
  ∀ x ∈ items (Value.lookup? key entries), x.IsShort

theorem isShortAt_of_mem (h : ∀ e ∈ entries, ∀ x ∈ items (some e.2), x.IsShort) :
    IsShortAt entries key := by
  rw [IsShortAt, Value.lookup?]
  cases hfound : entries.reverse.find? fun e => e.1.isText key with
  | none => exact fun x hx => absurd hx List.not_mem_nil
  | some e => exact h e (List.mem_reverse.mp (List.mem_of_find?_eq_some hfound))

theorem isFlat_of_not_isNested (h : ¬ IsNested entries key) (x : Value)
    (hx : Value.lookup? key entries = some x) : x.IsFlat := by
  by_contra hflat
  exact h ⟨x, hx, hflat⟩

theorem valuesOf_of_flat [SetOrder] {ks : List String} (hflat : ∀ key ∈ ks, ¬ IsNested entries key)
    (hshort : ∀ key ∈ ks, IsShortAt entries key) :
    valuesOf entries ks = .ok (ks.flatMap (texts entries)) := by
  have hkeys : ∀ key ∈ ks, listOf key (Value.lookup? key entries) = .ok (texts entries key) :=
    fun key hkey => listOf_of_isFlat (isFlat_of_not_isNested (hflat key hkey)) (hshort key hkey)
  rw [valuesOf, mapM_congr hkeys]
  change (ks.mapM (fun key => pure (texts entries key)) :
    Except HeaderFault (List (List String))).map List.flatten = _
  rw [List.mapM_pure, List.flatMap_def]
  rfl

/-- **The metadata of a header without collections among its items** is read off the items. -/
theorem ofMapping_of_flat [SetOrder] (hflat : ∀ key ∈ keys, ¬ IsNested entries key)
    (hshort : ∀ key ∈ keys, IsShortAt entries key) :
    ofMapping entries = .ok (reference entries) := by
  have hvalues : ∀ ks ⊆ keys, valuesOf entries ks = .ok (ks.flatMap (texts entries)) :=
    fun ks hks => valuesOf_of_flat (fun key hkey => hflat key (hks hkey))
      fun key hkey => hshort key (hks hkey)
  have hpair : ∀ a b, [a, b].flatMap (texts entries) = texts entries a ++ texts entries b := by
    simp
  have hsingle : ∀ a, [a].flatMap (texts entries) = texts entries a := by
    simp
  rw [ofMapping, hvalues _ (by decide), hvalues _ (by decide), hvalues _ (by decide),
    hvalues _ (by decide), hvalues _ (by decide), hvalues _ (by decide), hvalues _ (by decide)]
  simp only [hpair, hsingle]
  rfl

/-- A key with a collection among its items, behind keys without one. -/
structure IsFirstNested (entries : List (Value × Value)) (key : String) : Prop where
  isNested : IsNested entries key
  first : ∃ before after, keys = before ++ key :: after ∧ ∀ k ∈ before, ¬ IsNested entries k

/-- The first key with a collection among its items is found by a search. -/
theorem isFirstNested_iff : IsFirstNested entries key ↔
    keys.find? (fun k => decide (IsNested entries k)) = some key := by
  rw [List.find?_eq_some_iff_append]
  constructor
  · rintro ⟨hnested, before, after, hkeys, hbefore⟩
    exact ⟨decide_eq_true hnested, before, after, hkeys, fun k hk => by simpa using hbefore k hk⟩
  · rintro ⟨hnested, before, after, hkeys, hbefore⟩
    exact ⟨of_decide_eq_true hnested, before, after, hkeys, fun k hk => by simpa using hbefore k hk⟩

/-- Of the keys with a collection among their items, one is the first. -/
theorem exists_isFirstNested (h : ∃ key ∈ keys, IsNested entries key) :
    ∃ key, IsFirstNested entries key := by
  obtain ⟨key, hkey, hnested⟩ := h
  have hfound : (keys.find? fun k => decide (IsNested entries k)).isSome = true :=
    List.find?_isSome.mpr ⟨key, hkey, decide_eq_true hnested⟩
  obtain ⟨key, hfirst⟩ := Option.isSome_iff_exists.mp hfound
  exact ⟨key, isFirstNested_iff.mpr hfirst⟩

/-- No other key is the first. -/
theorem IsFirstNested.unique {key' : String} (h : IsFirstNested entries key)
    (h' : IsFirstNested entries key') : key = key' :=
  Option.some.inj ((isFirstNested_iff.mp h).symm.trans (isFirstNested_iff.mp h'))

/-- **The first key with a collection among its items** is the one that is named. -/
theorem ofMapping_of_isFirstNested [SetOrder] (h : IsFirstNested entries key)
    (hshort : ∀ key ∈ keys, IsShortAt entries key) :
    ∃ v, Value.lookup? key entries = some v ∧
      ofMapping entries = .error (nestedFault key v) := by
  obtain ⟨⟨v, hv, hnested⟩, before, after, hkeys, hbefore⟩ := h
  refine ⟨v, hv, ?_⟩
  have hread := ofMapping_stopsAtFirst entries
  rw [hkeys] at hshort
  have hnil : before.flatMap (fun k => fieldFaults k (Value.lookup? k entries)) = [] :=
    List.flatMap_eq_nil_iff.mpr fun k hk => fieldFaults_of_isFlat
      (isFlat_of_not_isNested (hbefore k hk)) (hshort k (List.mem_append_left _ hk))
  have hitems := hshort key (List.mem_append_right _ List.mem_cons_self)
  rw [IsShortAt, hv] at hitems
  obtain ⟨rest, hrest⟩ := fieldFaults_of_not_isFlat hnested hitems
  rw [hkeys, List.flatMap_append, hnil, List.nil_append, List.flatMap_cons, hv, hrest] at hread
  generalize ofMapping entries = x at hread ⊢
  cases hread
  rfl

/-- The fault of a malformed key names the key. -/
theorem exists_message_nestedFault (key : String) (v : Value) :
    ∃ rest, (nestedFault key v).message = "'" ++ key ++ "'" ++ rest := by
  have hmapping : "' must be a scalar or a list, got a mapping" =
      "'" ++ " must be a scalar or a list, got a mapping" := by decide
  have hitem : "' entries must be scalars" = "'" ++ " entries must be scalars" := by decide
  have happend : ∀ rest, "'" ++ key ++ ("'" ++ rest) = "'" ++ key ++ "'" ++ rest :=
    fun _ => String.append_assoc.symm
  unfold nestedFault
  split
  · refine ⟨" must be a scalar or a list, got a mapping", ?_⟩
    rw [← happend, ← hmapping]
    rfl
  · refine ⟨" entries must be scalars", ?_⟩
    rw [← happend, ← hitem]
    rfl

theorem isMalformed_nestedFault (key : String) (v : Value) :
    (nestedFault key v).isMalformed = true := by
  unfold nestedFault
  split <;> rfl

/-! ### Order and other entries -/

/-- Only what stands under the keys of the fields is read. -/
theorem ofMapping_congr [SetOrder]
    (h : ∀ key ∈ keys, Value.lookup? key entries' = Value.lookup? key entries) :
    ofMapping entries' = ofMapping entries := by
  have hvalues : ∀ ks ⊆ keys, valuesOf entries' ks = valuesOf entries ks := by
    intro ks hks
    rw [valuesOf, valuesOf, mapM_congr fun key hkey => by rw [h key (hks hkey)]]
  rw [ofMapping, ofMapping, hvalues _ (by decide), hvalues _ (by decide), hvalues _ (by decide),
    hvalues _ (by decide), hvalues _ (by decide), hvalues _ (by decide), hvalues _ (by decide)]

/-- The entries stand under the keys of the fields. -/
def readEntries (entries : List (Value × Value)) : List (Value × Value) :=
  entries.filter fun e => keys.any (e.1.isText ·)

/-- In a mapping no key stands twice. -/
def DistinctKeys (entries : List (Value × Value)) : Prop :=
  entries.Pairwise fun e f => e.1.sameKey f.1 = false

theorem eq_of_isText {key : String} (h : v.isText key = true) : v = .text key := by
  cases v with
  | text s => rw [beq_iff_eq.mp h]
  | _ => cases h

/-- The only entry under a text. -/
theorem DistinctKeys.eq_of_isText (h : DistinctKeys entries) {e f : Value × Value}
    (he : e ∈ entries) (hf : f ∈ entries) (hekey : e.1.isText key = true)
    (hfkey : f.1.isText key = true) : e = f := by
  have hsame : (Value.text key).sameKey (.text key) = true := beq_self_eq_true key
  by_contra hne
  have hapart : entries.Pairwise fun e f => ¬ (e.1.isText key = true ∧ f.1.isText key = true) := by
    refine h.imp ?_
    rintro e f hef ⟨hekey, hfkey⟩
    rw [Metadata.eq_of_isText hekey, Metadata.eq_of_isText hfkey, hsame] at hef
    cases hef
  have : Std.Symm fun e f : Value × Value => ¬ (e.1.isText key = true ∧ f.1.isText key = true) :=
    ⟨fun _ _ h h' => h h'.symm⟩
  exact hapart.forall he hf hne ⟨hekey, hfkey⟩

/-- Only the entries under the keys of the fields are looked up. -/
theorem lookup?_readEntries (hkey : key ∈ keys) :
    Value.lookup? key (readEntries entries) = Value.lookup? key entries := by
  rw [Value.lookup?, Value.lookup?, readEntries, ← List.filter_reverse, List.find?_filter]
  congr 2
  funext e
  cases hread : e.1.isText key with
  | false => simp
  | true => simpa using ⟨key, hkey, hread⟩

/-- **The order of a mapping's entries does not count.** -/
theorem lookup?_perm (h : entries'.Perm entries) (hdistinct : DistinctKeys entries) :
    Value.lookup? key entries' = Value.lookup? key entries := by
  have hperm : ∀ e, e ∈ entries'.reverse ↔ e ∈ entries.reverse := by
    intro e
    rw [List.mem_reverse, List.mem_reverse, h.mem_iff]
  rw [Value.lookup?, Value.lookup?]
  congr 1
  cases hfound : entries.reverse.find? fun e => e.1.isText key with
  | none =>
    rw [List.find?_eq_none] at hfound ⊢
    exact fun e he => hfound e ((hperm e).mp he)
  | some e =>
    have hkey := List.find?_some hfound
    have he := List.mem_of_find?_eq_some hfound
    have hsome : (entries'.reverse.find? fun e => e.1.isText key).isSome = true :=
      List.find?_isSome.mpr ⟨e, (hperm e).mpr he, hkey⟩
    obtain ⟨f, hf⟩ := Option.isSome_iff_exists.mp hsome
    have hfkey := List.find?_some hf
    have hmem := (hperm f).mp (List.mem_of_find?_eq_some hf)
    rw [hf, hdistinct.eq_of_isText (List.mem_reverse.mp hmem) (List.mem_reverse.mp he) hfkey hkey]

/-- **The metadata is read off the items under the keys of the fields.**  A mapping whose integers
are short is malformed if and only if one of these keys holds a mapping or a list with a collection
in it, and the message names the first such key.  Any other mapping gives the texts of the items,
in order and with copies, the singular key of a field in front of the plural one; a field of one
value is the first text.  Neither the order of the entries nor any other entry makes a
difference. -/
theorem ofMapping_reads [SetOrder] (entries : List (Value × Value)) :
    ((∀ key ∈ keys, IsShortAt entries key) →
      ((∃ f, ofMapping entries = .error f) ↔ ∃ key ∈ keys, IsNested entries key) ∧
      (∀ f, ofMapping entries = .error f → f.isMalformed = true ∧
        ∃ key rest, IsFirstNested entries key ∧ f.message = "'" ++ key ++ "'" ++ rest) ∧
      ((∀ key ∈ keys, ¬ IsNested entries key) → ofMapping entries = .ok (reference entries)) ∧
      ∀ key ∈ keys, ∀ x ∈ items (Value.lookup? key entries), x.scalarText = .ok x.shown) ∧
    ∀ entries', (readEntries entries').Perm (readEntries entries) → DistinctKeys entries →
      ofMapping entries' = ofMapping entries := by
  constructor
  · intro hshort
    have hnested : (∃ key ∈ keys, IsNested entries key) → ∃ key v, IsFirstNested entries key ∧
        ofMapping entries = .error (nestedFault key v) := by
      intro h
      obtain ⟨key, hfirst⟩ := exists_isFirstNested h
      obtain ⟨v, -, herror⟩ := ofMapping_of_isFirstNested hfirst hshort
      exact ⟨key, v, hfirst, herror⟩
    have hflat : (¬ ∃ key ∈ keys, IsNested entries key) →
        ofMapping entries = .ok (reference entries) :=
      fun h => ofMapping_of_flat (fun key hkey hnested => h ⟨key, hkey, hnested⟩) hshort
    have hiff : (∃ f, ofMapping entries = .error f) ↔ ∃ key ∈ keys, IsNested entries key := by
      constructor
      · rintro ⟨f, hf⟩
        by_contra h
        rw [hflat h] at hf
        cases hf
      · intro h
        obtain ⟨key, v, -, herror⟩ := hnested h
        exact ⟨_, herror⟩
    refine ⟨hiff, fun f hf => ?_, fun h => hflat fun ⟨key, hkey, hnested⟩ => h key hkey hnested,
      fun key hkey x hx => (hshort key hkey x hx).scalarText_eq⟩
    obtain ⟨key, v, hfirst, herror⟩ := hnested (hiff.mp ⟨f, hf⟩)
    obtain rfl := Except.error.inj (hf.symm.trans herror)
    obtain ⟨rest, hmessage⟩ := exists_message_nestedFault key v
    exact ⟨isMalformed_nestedFault key v, key, rest, hfirst, hmessage⟩
  · intro entries' hperm hdistinct
    refine ofMapping_congr fun key hkey => ?_
    have hread : ∀ es, Value.lookup? key (readEntries es) = Value.lookup? key es :=
      fun _ => lookup?_readEntries hkey
    rw [← hread entries', ← hread entries]
    exact lookup?_perm hperm (hdistinct.filter _)

/-- A header with both keys of a field, nulls among its items, and other entries. -/
def mixedEntries : List (Value × Value) := [
  (.text "routes", .text "/b"),
  (.text "draft", .mapping []),
  (.text "layout", .null),
  (.text "route", .list [.null, .int 42, .text "/a", .text "/a"]),
  (.int 7, .list [.list []]),
  (.text "title", .list [.null, .bool true])]

/-- A header with two malformed keys. -/
def nestedEntries : List (Value × Value) := [
  (.text "layout", .mapping []),
  (.text "usings", .list [.text "A", .list []])]

theorem isShortAt_mixedEntries (key : String) : IsShortAt mixedEntries key := by
  refine isShortAt_of_mem ?_
  have hint : (42 : Int).natAbs < Nat.pow 10 Value.digitLimit := by decide +kernel
  simpa [mixedEntries, items, Value.isNull, Value.IsShort] using hint

theorem isShortAt_nestedEntries (key : String) : IsShortAt nestedEntries key := by
  refine isShortAt_of_mem ?_
  simp [nestedEntries, items, Value.isNull, Value.IsShort]

/-- What is nested in the first header stands under keys that are not read. -/
theorem not_isNested_mixedEntries : ∀ key ∈ keys, ¬ IsNested mixedEntries key := by
  decide +kernel

theorem distinctKeys_mixedEntries : DistinctKeys mixedEntries := by
  simp [DistinctKeys, mixedEntries, Value.sameKey, Value.number?]

/-- Among the fields, "usings" comes before "layout". -/
theorem isFirstNested_nestedEntries : IsFirstNested nestedEntries "usings" :=
  isFirstNested_iff.mpr (by decide +kernel)

attribute [local instance] SetOrder.standard

/-- The first header is read, also the other way round, and of the keys of the second one the key
that comes first among the fields is named. -/
theorem ofMapping_reads_mixed :
    ofMapping mixedEntries =
      .ok { routes := ["42", "/a", "/a", "/b"], title := some "True" } ∧
    ofMapping mixedEntries.reverse = ofMapping mixedEntries ∧
    ∃ f rest, ofMapping nestedEntries = .error f ∧ f.message = "'usings'" ++ rest := by
  obtain ⟨hread, horder⟩ := ofMapping_reads mixedEntries
  obtain ⟨-, -, hreference, -⟩ := hread fun key _ => isShortAt_mixedEntries key
  have htexts : reference mixedEntries =
      { routes := ["42", "/a", "/a", "/b"], title := some "True" } := by decide +kernel
  have hreversed : (readEntries mixedEntries.reverse).Perm (readEntries mixedEntries) :=
    mixedEntries.reverse_perm.filter _
  refine ⟨?_, horder _ hreversed distinctKeys_mixedEntries, ?_⟩
  · rw [hreference not_isNested_mixedEntries, htexts]
  · obtain ⟨herror, hmessage, -⟩ :=
      (ofMapping_reads nestedEntries).1 fun key _ => isShortAt_nestedEntries key
    obtain ⟨f, hf⟩ := herror.mpr ⟨"usings", by decide, isFirstNested_nestedEntries.isNested⟩
    obtain ⟨-, key, rest, hfirst, htext⟩ := hmessage f hf
    rw [hfirst.unique isFirstNested_nestedEntries] at htext
    exact ⟨f, rest, hf, htext⟩

end Metadata

end Pageworks
