import Mathlib.Data.List.Chain
import Mathlib.Data.List.TakeWhile
import Pageworks.Component
import Pageworks.Namespace
import Pageworks.Proofs.Path

/-!
# Identifiers made from names

A name becomes an identifier in three steps: its first character is mended, then all the others, and
a reserved word gets a low line behind it.  No step undoes what another one has mended.  A low line
may stand anywhere in an identifier, a digit that gets a low line in front of it may go on one, and
no reserved word starts or ends with a low line.

## Main definitions

* `Text.Ranges.Ascending`, `Text.Ranges.apart` — ranges in ascending order, and two such classes of
  which no range of the one meets a range of the other.
* `Identifier.Shaped s` — the text has the characters of an identifier, reserved or not.

## Main results

* `Text.isDecimal_of_isLetter` — no letter is a decimal digit.
* `Identifier.shaped_mended`, `Identifier.Shaped.mended_eq` — mending the characters gives the shape
  of an identifier and leaves a text of that shape alone.
* `Identifier.sanitize_eq_self_iff`, `Identifier.length_sanitize_le` — which names stay as they are,
  and how much longer the others become.
* `Component.typeName_cases`, `Namespace.valid_of_mem_fields` — the names of classes and namespaces.
* `Identifier.sanitize_retracts` — **names are retracted onto the valid identifiers.**
-/

namespace Pageworks

open Pageworks.Text

/-! ### Letters and digits -/

namespace Text

/-- No range of the one class meets a range of the other, both in ascending order: whatever ends
before a range starts is left behind. -/
def Ranges.apart : Ranges → Ranges → Bool
  | [], _ => true
  | r :: rs, qs =>
    let later := qs.dropWhile fun q => q.2 < r.1
    later.head?.all (fun q => r.2 < q.1) && Ranges.apart rs later

/-- The ranges stand in ascending order. -/
def Ranges.Ascending (rs : Ranges) : Prop := rs.IsChain fun r q => r.1 ≤ q.1

instance (rs : Ranges) : Decidable rs.Ascending := inferInstanceAs (Decidable (List.IsChain _ _))

theorem Ranges.Ascending.pairwise {rs : Ranges} (h : rs.Ascending) :
    rs.Pairwise fun r q => r.1 ≤ q.1 := by
  have : IsTrans (Nat × Nat) fun r q => r.1 ≤ q.1 := ⟨fun _ _ _ => Nat.le_trans⟩
  exact List.isChain_iff_pairwise.mp h

theorem Ranges.lt_of_apart {rs qs : Ranges} (hrs : rs.Pairwise fun r q => r.1 ≤ q.1)
    (hqs : qs.Pairwise fun r q => r.1 ≤ q.1) (h : apart rs qs = true) {r q : Nat × Nat}
    (hr : r ∈ rs) (hq : q ∈ qs) : r.2 < q.1 ∨ q.2 < r.1 := by
  induction rs generalizing qs with
  | nil => exact absurd hr List.not_mem_nil
  | cons x rs ih =>
    rw [apart, Bool.and_eq_true] at h
    obtain ⟨hx, hrest⟩ := h
    have hle : x.1 ≤ r.1 := by
      rcases List.mem_cons.mp hr with rfl | hr
      · exact Nat.le_refl _
      · exact List.rel_of_pairwise_cons hrs hr
    rw [← List.takeWhile_append_dropWhile (p := fun q => decide (q.2 < x.1)) (l := qs)] at hq hqs
    rcases List.mem_append.mp hq with hq | hq
    · -- the range has been left behind
      have hlt := List.mem_takeWhile_imp hq
      rw [decide_eq_true_iff] at hlt
      exact .inr (by omega)
    · have hlater := (List.pairwise_append.mp hqs).2.1
      rcases List.mem_cons.mp hr with rfl | hr
      · generalize qs.dropWhile _ = later at hx hq hlater
        cases later with
        | nil => exact absurd hq List.not_mem_nil
        | cons y ys =>
          have hy : r.2 < y.1 := of_decide_eq_true hx
          rcases List.mem_cons.mp hq with rfl | hq
          · exact .inl hy
          · have := List.rel_of_pairwise_cons hlater hq
            exact .inl (by omega)
      · exact ih (List.pairwise_cons.mp hrs).2 hlater hrest hr hq

/-- No character lies in both classes. -/
theorem Ranges.Ascending.has_of_apart {rs qs : Ranges} (hrs : rs.Ascending) (hqs : qs.Ascending)
    (h : rs.apart qs = true) {c : Char} (hc : rs.has c = true) : qs.has c = false := by
  obtain ⟨r, hr, hrange⟩ := List.any_eq_true.mp hc
  refine List.any_eq_false.mpr fun q hq hmeet => ?_
  have hapart := lt_of_apart hrs.pairwise hqs.pairwise h hr hq
  simp only [Bool.and_eq_true, decide_eq_true_eq] at hrange hmeet
  omega

theorem isAsciiLetter_iff {c : Char} : isAsciiLetter c = true ↔
    97 ≤ c.toNat ∧ c.toNat ≤ 122 ∨ 65 ≤ c.toNat ∧ c.toNat ≤ 90 := by
  simp [isAsciiLetter, Char.le_def, UInt32.le_iff_toNat_le]

theorem isAsciiDigit_iff {c : Char} : isAsciiDigit c = true ↔ 48 ≤ c.toNat ∧ c.toNat ≤ 57 := by
  simp [isAsciiDigit, Char.le_def, UInt32.le_iff_toNat_le]

theorem ascending_letter : Table.letter.Ascending := by decide +kernel

theorem ascending_decimal : Table.decimal.Ascending := by decide +kernel

/-- No letter is a decimal digit. -/
theorem isDecimal_of_isLetter {c : Char} (h : isLetter c = true) : isDecimal c = false := by
  unfold isLetter at h
  unfold isDecimal
  by_cases hascii : c.toNat < 128
  · rw [if_pos hascii] at h ⊢
    rw [isAsciiLetter_iff] at h
    rw [← Bool.not_eq_true, isAsciiDigit_iff]
    omega
  · rw [if_neg hascii] at h ⊢
    exact ascending_letter.has_of_apart ascending_decimal (by decide +kernel) h

end Text

namespace Identifier

variable {c : Char} {s : List Char}

/-! ### Characters of identifiers -/

theorem isPart_of_isStart (h : isStart c = true) : isPart c = true := by
  simp [isPart, h]

theorem isDecimal_of_isStart (h : isStart c = true) : isDecimal c = false := by
  rcases Bool.or_eq_true_iff.mp h with h | h
  · rw [beq_iff_eq.mp h]
    decide
  · exact isDecimal_of_isLetter h

theorem isPart_lowLine : isPart '_' = true := isPart_of_isStart rfl

/-- The text has the characters of an identifier, reserved or not. -/
def Shaped (s : List Char) : Prop :=
  ∃ c cs, s = c :: cs ∧ isStart c = true ∧ cs.all isPart = true

theorem Shaped.isPart_of_mem (h : Shaped s) (hc : c ∈ s) : isPart c = true := by
  obtain ⟨x, xs, rfl, hx, hxs⟩ := h
  rcases List.mem_cons.mp hc with rfl | hc
  · exact isPart_of_isStart hx
  · exact List.all_eq_true.mp hxs c hc

theorem Shaped.ne_nil (h : Shaped s) : s ≠ [] := by
  obtain ⟨x, xs, rfl, -⟩ := h
  exact List.cons_ne_nil x xs

theorem Valid.shaped (h : Valid s) : Shaped s := h.1

/-- No identifier holds a point. -/
theorem Shaped.ne_point (h : Shaped s) (hc : c ∈ s) : (c == '.') = false := by
  have hpoint : isPart '.' = false := by decide +kernel
  rw [beq_eq_false_iff_ne]
  rintro rfl
  rw [h.isPart_of_mem hc] at hpoint
  exact Bool.false_ne_true hpoint.symm

/-- A low line may go behind any identifier. -/
theorem Shaped.append_lowLine (h : Shaped s) : Shaped (s ++ ['_']) := by
  obtain ⟨x, xs, rfl, hx, hxs⟩ := h
  refine ⟨x, xs ++ ['_'], rfl, hx, ?_⟩
  simp [hxs, isPart_lowLine]

/-! ### Mended texts -/

/-- Mending the first character leaves one that an identifier may start with. -/
theorem exists_mendStart (hs : s ≠ []) :
    ∃ c cs, mendStart s = c :: cs ∧ isStart c = true := by
  obtain ⟨c, cs, rfl⟩ := List.exists_cons_of_ne_nil hs
  rw [mendStart]
  split
  · exact ⟨'_', c :: cs, rfl, rfl⟩
  · split
    · next hc => exact ⟨c, cs, rfl, hc⟩
    · exact ⟨'_', cs, rfl, rfl⟩

theorem all_isPart_mendParts (s : List Char) : (mendParts s).all isPart = true := by
  rw [mendParts, List.all_map, List.all_eq_true]
  intro c _
  rw [Function.comp_apply]
  split
  · next hc => exact hc
  · exact isPart_lowLine

theorem mendParts_eq_self (h : ∀ c ∈ s, isPart c = true) : mendParts s = s := by
  refine (List.map_congr_left fun c hc => ?_).trans (List.map_id' s)
  rw [if_pos (h c hc)]

/-- **A mended text has the shape of an identifier.** -/
theorem shaped_mended (hs : s ≠ []) : Shaped (mendParts (mendStart s)) := by
  obtain ⟨c, cs, hstart, hc⟩ := exists_mendStart hs
  refine ⟨c, mendParts cs, ?_, hc, all_isPart_mendParts cs⟩
  rw [hstart, mendParts, List.map_cons, if_pos (isPart_of_isStart hc), mendParts]

/-- **A text with the shape of an identifier needs no mending.** -/
theorem Shaped.mended_eq (h : Shaped s) : mendParts (mendStart s) = s := by
  have hstart : mendStart s = s := by
    obtain ⟨c, cs, rfl, hc, -⟩ := h
    rw [mendStart, isDecimal_of_isStart hc, if_neg Bool.false_ne_true, if_pos hc]
  rw [hstart]
  exact mendParts_eq_self fun c => h.isPart_of_mem

/-- Mending adds no more than a low line in front. -/
theorem length_mended (s : List Char) : (mendParts (mendStart s)).length = s.length ∨
    (mendParts (mendStart s)).length = s.length + 1 ∧
      (mendParts (mendStart s)).head? = some '_' := by
  cases s with
  | nil => exact .inl rfl
  | cons c cs =>
    rw [mendStart, mendParts, List.length_map]
    split
    · refine .inr ⟨rfl, ?_⟩
      rw [List.map_cons, if_pos isPart_lowLine, List.head?_cons]
    · split <;> exact .inl rfl

/-! ### Reserved words -/

/-- No reserved word starts or ends with a low line. -/
theorem lowLine_of_mem_reserved : ∀ w ∈ reserved,
    w.toList.head? ≠ some '_' ∧ w.toList.getLast? ≠ some '_' := by
  decide +kernel

/-! ### Sanitized names -/

variable {name : String}

theorem sanitize_of_mem (h : String.ofList (mendParts (mendStart name.toList)) ∈ reserved) :
    sanitize name = String.ofList (mendParts (mendStart name.toList) ++ ['_']) := by
  rw [sanitize, if_pos (List.contains_iff_mem.mpr h), String.ofList_append]

theorem sanitize_of_notMem (h : String.ofList (mendParts (mendStart name.toList)) ∉ reserved) :
    sanitize name = String.ofList (mendParts (mendStart name.toList)) := by
  rw [sanitize, if_neg (mt List.contains_iff_mem.mp h)]

@[simp] theorem sanitize_empty : sanitize "" = "" := by decide

/-- **A sanitized name is a valid identifier.** -/
theorem valid_sanitize (hname : name ≠ "") : Valid (sanitize name).toList := by
  have hshaped : Shaped (mendParts (mendStart name.toList)) :=
    shaped_mended fun h => hname (String.toList_eq_nil_iff.mp h)
  by_cases hmem : String.ofList (mendParts (mendStart name.toList)) ∈ reserved
  · rw [sanitize_of_mem hmem, String.toList_ofList]
    refine ⟨hshaped.append_lowLine, fun hres => (lowLine_of_mem_reserved _ hres).2 ?_⟩
    rw [String.toList_ofList, List.getLast?_concat]
  · rw [sanitize_of_notMem hmem, String.toList_ofList]
    exact ⟨hshaped, hmem⟩

/-- A valid identifier stays as it is. -/
theorem sanitize_of_valid (h : Valid name.toList) : sanitize name = name := by
  have hmended : String.ofList (mendParts (mendStart name.toList)) = name := by
    rw [h.shaped.mended_eq, String.ofList_toList]
  rw [sanitize_of_notMem, hmended]
  rw [hmended, ← String.ofList_toList (s := name)]
  exact h.2

theorem sanitize_eq_empty_iff : sanitize name = "" ↔ name = "" := by
  constructor
  · intro h
    by_contra hne
    have hvalid := valid_sanitize hne
    rw [h] at hvalid
    exact hvalid.shaped.ne_nil rfl
  · rintro rfl
    exact sanitize_empty

/-- **The names that stay as they are** are the valid identifiers, and the empty name. -/
theorem sanitize_eq_self_iff : sanitize name = name ↔ name = "" ∨ Valid name.toList := by
  constructor
  · intro h
    by_cases hname : name = ""
    · exact .inl hname
    · have hvalid := valid_sanitize hname
      rw [h] at hvalid
      exact .inr hvalid
  · rintro (rfl | hvalid)
    · exact sanitize_empty
    · exact sanitize_of_valid hvalid

theorem sanitize_sanitize (name : String) : sanitize (sanitize name) = sanitize name := by
  rw [sanitize_eq_self_iff, sanitize_eq_empty_iff]
  by_cases hname : name = ""
  · exact .inl hname
  · exact .inr (valid_sanitize hname)

/-- A name gets a low line in front or behind, but not both: no reserved word starts with one. -/
theorem length_sanitize_le (name : String) : (sanitize name).length ≤ name.length + 1 := by
  have hlength := length_mended name.toList
  rw [String.length_toList] at hlength
  by_cases hmem : String.ofList (mendParts (mendStart name.toList)) ∈ reserved
  · rw [sanitize_of_mem hmem, String.length_ofList, List.length_append, List.length_singleton]
    rcases hlength with hlength | ⟨-, hhead⟩
    · omega
    · refine absurd ?_ (lowLine_of_mem_reserved _ hmem).1
      rw [String.toList_ofList, hhead]
  · rw [sanitize_of_notMem hmem, String.length_ofList]
    omega

end Identifier

/-! ### Names of classes and namespaces -/

/-- A document has a valid class name, unless its file has no stem. -/
theorem Component.typeName_cases (document : String) :
    (Path.stem document ≠ "" ∧ ∃ n, typeName document = .ok n ∧ Identifier.Valid n.toList) ∨
      Path.stem document = "" ∧ typeName document = .error ⟨.noTypeName, document⟩ := by
  unfold typeName
  by_cases hstem : Path.stem document = ""
  · refine .inr ⟨hstem, ?_⟩
    simp [hstem]
  · refine .inl ⟨hstem, Identifier.sanitize (Path.stem document), ?_,
      Identifier.valid_sanitize hstem⟩
    have hempty : (Identifier.sanitize (Path.stem document)).isEmpty = false := by
      simpa [Identifier.sanitize_eq_empty_iff] using hstem
    simp [hempty]

/-- The namespace that comes from the directories is made from their names. -/
theorem Namespace.suffix_eq (document root : String) : suffix document root =
    ".".intercalate ((Path.names (Path.relativeTo (Path.directory document)
      (Path.slashed root)).toList).map fun s => Identifier.sanitize (String.ofList s)) := rfl

/-- The parts between the points of a namespace are valid identifiers. -/
theorem Namespace.valid_of_mem_fields {document root : String} (hne : suffix document root ≠ "")
    {part : List Char} (hpart : part ∈ fields (· == '.') (suffix document root).toList) :
    Identifier.Valid part := by
  rw [suffix_eq] at hne hpart
  generalize hparts : (Path.names _).map _ = parts at hne hpart
  have hvalid : ∀ n ∈ parts, Identifier.Valid n.toList := by
    intro n hn
    rw [← hparts] at hn
    obtain ⟨s, hs, rfl⟩ := List.mem_map.mp hn
    exact Identifier.valid_sanitize (by simpa using (List.mem_filter.mp hs).2)
  have hempty : parts.map String.toList ≠ [] := by
    intro h
    rw [List.map_eq_nil_iff.mp h] at hne
    exact hne String.intercalate_nil
  rw [String.toList_intercalate, show ".".toList = ['.'] from rfl,
    fields_intercalate rfl hempty] at hpart
  · obtain ⟨n, hn, rfl⟩ := List.mem_map.mp hpart
    exact hvalid n hn
  · intro n hn c hc
    obtain ⟨m, hm, rfl⟩ := List.mem_map.mp hn
    exact (hvalid m hm).shaped.ne_point hc

namespace Identifier

/-- **Names are retracted onto the valid identifiers.**  Only the empty name gives the empty text, and
every other one a valid identifier, longer by no more than one character; the names that stay as they
are are these identifiers.  So a document has a valid identifier for its class unless its file has
no stem, and what stands between the points of its namespace are valid identifiers. -/
theorem sanitize_retracts :
    (∀ name : String, (sanitize name = "" ↔ name = "") ∧
      (name ≠ "" → Valid (sanitize name).toList) ∧
      (sanitize name = name ↔ name = "" ∨ Valid name.toList) ∧
      sanitize (sanitize name) = sanitize name ∧
      (sanitize name).length ≤ name.length + 1) ∧
    (∀ document : String,
      (Path.stem document ≠ "" →
        ∃ n, Component.typeName document = .ok n ∧ Valid n.toList) ∧
      ∀ e, Component.typeName document = .error e ↔
        Path.stem document = "" ∧ e = ⟨.noTypeName, document⟩) ∧
    ∀ document root : String, Namespace.suffix document root ≠ "" →
      ∀ part ∈ fields (· == '.') (Namespace.suffix document root).toList, Valid part := by
  refine ⟨fun name => ?_, fun document => ?_, fun document root hne part => ?_⟩
  · exact ⟨sanitize_eq_empty_iff, valid_sanitize, sanitize_eq_self_iff, sanitize_sanitize name,
      length_sanitize_le name⟩
  · rcases Component.typeName_cases document with ⟨hstem, n, hn, hvalid⟩ | ⟨hstem, herror⟩
    · refine ⟨fun _ => ⟨n, hn, hvalid⟩, fun e => ?_⟩
      rw [hn]
      exact ⟨fun h => (by cases h), fun h => absurd h.1 hstem⟩
    · refine ⟨fun h => absurd hstem h, fun e => ?_⟩
      rw [herror]
      exact ⟨fun h => ⟨hstem, (Except.error.inj h).symm⟩, fun h => by rw [h.2]⟩
  · exact Namespace.valid_of_mem_fields hne

/-- A reserved word, a digit in front and a point in front, each in a path. -/
theorem sanitize_retracts_reserved :
    Component.typeName "/p/class/2x/.net/ref.md" = .ok "ref_" ∧ Valid "ref_".toList ∧
      Namespace.suffix "/p/class/2x/.net/ref.md" "/p" = "class_._2x._net" ∧
      ∀ part ∈ fields (· == '.') "class_._2x._net".toList, Valid part := by
  have hsuffix : Namespace.suffix "/p/class/2x/.net/ref.md" "/p" = "class_._2x._net" := by
    decide +kernel
  have htype : Component.typeName "/p/class/2x/.net/ref.md" = .ok "ref_" := by decide +kernel
  obtain ⟨-, hnames, hparts⟩ := sanitize_retracts
  obtain ⟨n, hn, hvalid⟩ := (hnames "/p/class/2x/.net/ref.md").1 (by decide)
  have hname : n = "ref_" := Except.ok.inj (hn.symm.trans htype)
  refine ⟨htype, hname ▸ hvalid, hsuffix, ?_⟩
  have hvalid := hparts "/p/class/2x/.net/ref.md" "/p"
  rw [hsuffix] at hvalid
  exact hvalid (by decide)

end Identifier

end Pageworks
