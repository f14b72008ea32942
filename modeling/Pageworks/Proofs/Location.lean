import Pageworks.Location
import Pageworks.Proofs.Path

/-!
# Names, places and the texts that write them

A plain name stands for itself in a location.  The places of a file tree are lists of such names, so
a place can be read off its text, and what is below a place is written below it.

## Main definitions

* `PlainName n` — the name stands for itself wherever a location is written.
* `ProperName n` — a file or directory can have the name: it is plain and without a zero character.

## Main results

* `Location.resolve_plainName` — a plain name, seen from a location, leads one step further.
* `Place.text_inj` — **places of proper names are known by their texts.**
* `Location.le_trans`, `Location.le_total`, `Location.le_antisymm` — the order of locations is linear.
* `Place.isWithin_text` — what is below a place lies in its directory, as paths go.
* `Component.plainName_unitName` — **a unit name is a plain name**, for every document and root.
-/

namespace Pageworks

open Pageworks.Text

/-- The name stands for itself wherever a location is written. -/
structure PlainName (n : String) : Prop where
  ne_empty : n ≠ ""
  ne_dot : n ≠ "."
  ne_dots : n ≠ ".."
  slash_notMem : '/' ∉ n.toList

/-- A file or directory can have the name. -/
structure ProperName (n : String) : Prop extends PlainName n where
  zeroFree : ZeroFree n

instance (n : String) : Decidable (ProperName n) :=
  decidable_of_iff (n ≠ "" ∧ n ≠ "." ∧ n ≠ ".." ∧ '/' ∉ n.toList ∧ ZeroFree n)
    ⟨fun ⟨h₁, h₂, h₃, h₄, h₅⟩ => ⟨⟨h₁, h₂, h₃, h₄⟩, h₅⟩,
      fun h => ⟨h.ne_empty, h.ne_dot, h.ne_dots, h.slash_notMem, h.zeroFree⟩⟩

/-! ### Plain names in locations -/

namespace Location

private theorem notSlash_of_plainName {n : String} (hn : PlainName n) :
    ∀ c ∈ n.toList, (c == '/') = false := by
  intro c hc
  rw [beq_eq_false_iff_ne]
  rintro rfl
  exact hn.slash_notMem hc

theorem namesOf_plainName {n : String} (hn : PlainName n) : namesOf n = [n] := by
  rw [namesOf, fields_eq_singleton (notSlash_of_plainName hn), List.map_singleton,
    String.ofList_toList, List.filter_singleton]
  have hempty : n.isEmpty = false := by
    rw [← Bool.not_eq_true, String.isEmpty_iff]
    exact hn.ne_empty
  have hdot : (n != ".") = true := bne_iff_ne.mpr hn.ne_dot
  rw [hempty, hdot]
  rfl

/-- Every name of a location but the two dots is plain. -/
theorem plainName_of_mem_namesOf {path n : String} (h : n ∈ namesOf path) (hdots : n ≠ "..") :
    PlainName n := by
  rw [namesOf, List.mem_filter, Bool.and_eq_true, bne_iff_ne] at h
  obtain ⟨hfield, hempty, hdot⟩ := h
  refine ⟨?_, hdot, hdots, ?_⟩
  · rintro rfl
    exact absurd hempty (by decide)
  · obtain ⟨f, hf, rfl⟩ := List.mem_map.mp hfield
    intro hslash
    rw [String.toList_ofList] at hslash
    exact absurd (of_mem_fields hf hslash).2 (by decide)

/-- A plain name, seen from a location, leads one step further. -/
theorem resolve_plainName {n : String} (hn : PlainName n) (l : Location) :
    l.resolve n = l.join [n] := by
  have hnone : n.toList.takeWhile (· == '/') = [] := by
    cases h : n.toList with
    | nil => rfl
    | cons c cs =>
      have hc := notSlash_of_plainName hn c (by rw [h]; exact List.mem_cons_self)
      rw [List.takeWhile_cons, hc]
      rfl
  have hparse : parse n = ⟨"", [n]⟩ := by
    rw [parse, hnone, namesOf_plainName hn]
    rfl
  rw [resolve, hparse]
  rfl

/-- A location without zero characters has none in any of its names. -/
theorem zeroFree_of_holdsZero {l : Location} (h : l.holdsZero = false) {n : String}
    (hn : n ∈ l.names) : ZeroFree n := by
  rw [holdsZero, List.any_eq_false] at h
  intro c hc hzero
  exact h n hn (List.any_eq_true.mpr ⟨c, hc, beq_iff_eq.mpr hzero⟩)

/-- One more name brings a zero character only if it has one. -/
theorem holdsZero_join {l : Location} {n : String} :
    (l.join [n]).holdsZero = false ↔ l.holdsZero = false ∧ ZeroFree n := by
  have hn : ([n].any fun m => m.toList.any fun c => c.toNat == 0) = false ↔ ZeroFree n := by
    rw [List.any_cons, List.any_nil, Bool.or_false, List.any_eq_false, ZeroFree]
    exact forall₂_congr fun c _ => not_congr beq_iff_eq
  rw [holdsZero, holdsZero, join, List.any_append, Bool.or_eq_false_iff, hn]

/-! ### The order of locations -/

section

variable {a b c : Location}

/-- Locations are ordered as the lists of their slashes and names are. -/
private theorem le_iff : le a b = true ↔ ¬ (b.root :: b.names) < (a.root :: a.names) := by
  rw [le, Bool.not_eq_true', List.lex_eq_false_iff_ge]
  exact Iff.rfl

theorem le_trans (hab : le a b = true) (hbc : le b c = true) : le a c = true :=
  le_iff.mpr (List.le_trans (le_iff.mp hab) (le_iff.mp hbc))

theorem le_total (a b : Location) : (le a b || le b a) = true := by
  rw [Bool.or_eq_true, le_iff, le_iff]
  exact List.le_total _ _

theorem le_antisymm (hab : le a b = true) (hba : le b a = true) : a = b := by
  obtain ⟨hroot, hnames⟩ := List.cons.inj (List.le_antisymm (le_iff.mp hab) (le_iff.mp hba))
  cases a
  cases b
  exact congrArg₂ Location.mk hroot hnames

end

theorem place_join (working : Place) (l : Location) (ns : List String) :
    (l.join ns).place working = ns.foldl Place.follow (l.place working) := by
  rw [place, place, join, List.foldl_append]
  rfl

end Location

namespace Place

theorem follow_of_ne {n : String} (hn : n ≠ "..") (p : Place) : p.follow n = p ++ [n] := by
  rw [follow, if_neg (by simpa using hn)]

/-- What is directly below a place is known by its name. -/
theorem child_inj {p : Place} {m n : String} (h : p ++ [m] = p ++ [n]) : m = n :=
  (List.cons.inj (List.append_cancel_left h)).1

/-- Names that do not lead back lead down. -/
theorem foldl_follow {ns : List String} (h : ∀ n ∈ ns, n ≠ "..") (p : Place) :
    ns.foldl follow p = p ++ ns := by
  induction ns generalizing p with
  | nil => exact (List.append_nil p).symm
  | cons n ns ih =>
    rw [List.foldl_cons, follow_of_ne (h n List.mem_cons_self),
      ih fun m hm => h m (List.mem_cons_of_mem _ hm), List.append_assoc, List.singleton_append]

/-! ### Places as texts -/

theorem toList_text (p : Place) :
    p.text.toList = '/' :: ['/'].intercalate (p.map String.toList) := by
  rw [text, String.toList_append, String.toList_intercalate]
  rfl

/-- A place of proper names is recovered from its text. -/
private theorem fields_text {p : Place} (hne : p ≠ []) (hp : ∀ n ∈ p, ProperName n) :
    fields Path.isSlash p.text.toList = [] :: p.map String.toList := by
  rw [toList_text, fields_cons_of_pos (by decide),
    fields_intercalate (by decide) (by simpa using hne)]
  intro cs hcs c hc
  obtain ⟨n, hn, rfl⟩ := List.mem_map.mp hcs
  rw [Path.isSlash, beq_eq_false_iff_ne]
  rintro rfl
  exact (hp n hn).slash_notMem hc

/-- The text of the root ends where any other goes on with a name. -/
private theorem text_ne_text_nil {p : Place} (hne : p ≠ []) (hp : ∀ n ∈ p, ProperName n) :
    p.text ≠ text [] := by
  intro h
  have hfields := fields_text hne hp
  rw [h] at hfields
  have hroot : p.map String.toList = [[]] := (List.cons.inj hfields).2.symm
  obtain ⟨n, ns, rfl⟩ := List.exists_cons_of_ne_nil hne
  have hn : n.toList = [] := (List.cons.inj hroot).1
  exact (hp n List.mem_cons_self).ne_empty (String.toList_eq_nil_iff.mp hn)

/-- **Places of proper names are known by their texts.** -/
theorem text_inj {p q : Place} (hp : ∀ n ∈ p, ProperName n) (hq : ∀ n ∈ q, ProperName n)
    (h : p.text = q.text) : p = q := by
  by_cases hpe : p = []
  · by_cases hqe : q = []
    · rw [hpe, hqe]
    · rw [hpe] at h
      exact absurd h.symm (text_ne_text_nil hqe hq)
  · by_cases hqe : q = []
    · rw [hqe] at h
      exact absurd h (text_ne_text_nil hpe hp)
    · have hfields := fields_text hpe hp
      rw [h, fields_text hqe hq] at hfields
      exact (List.map_injective_iff.mpr fun _ _ => String.toList_injective)
        (List.cons.inj hfields).2.symm

/-- The text of a place other than the root, with more names behind it. -/
theorem text_append {p q : Place} (hp : p ≠ []) (hq : q ≠ []) :
    text (p ++ q) = p.text ++ "/" ++ "/".intercalate q := by
  rw [text, text, String.intercalate_append_of_ne_nil hp hq, String.append_assoc,
    String.append_assoc, String.append_assoc]

/-- The text of a place below another one starts with the segments of the other. -/
theorem segments_text (p q : Place) : Path.segments (Path.slashed p.text).toList <+:
    Path.segments (Path.slashed (text (p ++ q))).toList := by
  by_cases hq : q = []
  · rw [hq, List.append_nil]
  · by_cases hp : p = []
    · -- the root has the same segments as the empty directory
      have hroot : Path.slashed (text []) = Path.slashed "" := by decide
      rw [hp, hroot]
      exact Path.segments_append "" ("/".intercalate q)
    · rw [text_append hp hq]
      exact Path.segments_append _ _

/-- What is below a place lies in its directory, as paths go. -/
theorem isWithin_text {p q : Place} (hq : q ≠ []) :
    Path.isWithin (Path.slashed (text (p ++ q))) (Path.slashed p.text) = true := by
  by_cases hp : p = []
  · rw [hp, show Path.slashed (text []) = "" by decide]
    rfl
  · rw [text_append hp hq]
    exact Path.isWithin_append _ _

/-- A place of names without zero characters has none in its text. -/
theorem zeroFree_text {p : Place} (hp : ∀ n ∈ p, ZeroFree n) : ZeroFree p.text := by
  intro c hc
  rw [toList_text] at hc
  rcases List.mem_cons.mp hc with rfl | hc
  · decide
  · rcases Text.of_mem_intercalate hc with hsep | ⟨n, hn, hc⟩
    · rw [List.mem_singleton.mp hsep]
      decide
    · obtain ⟨m, hm, rfl⟩ := List.mem_map.mp hn
      exact hp m hm c hc

end Place

namespace Component

private theorem slash_notMem_replaceChar (s : String) : '/' ∉ (replaceChar '/' '_' s).toList := by
  rw [replaceChar, String.toList_ofList]
  intro h
  obtain ⟨c, -, hc⟩ := List.mem_map.mp h
  by_cases hslash : c = '/'
  · rw [if_pos (beq_iff_eq.mpr hslash)] at hc
    exact absurd hc (by decide)
  · rw [if_neg (by simpa using hslash)] at hc
    exact hslash hc

/-- **A unit name is a plain name**, so a unit always lies in the output directory itself. -/
theorem plainName_unitName (document root : String) : PlainName (unitName document root) := by
  have hlong : 5 < (unitName document root).toList.length + 1 := by
    rw [unitName, String.toList_append, List.length_append]
    have : unitSuffix.toList.length = 5 := by decide
    omega
  refine ⟨?_, ?_, ?_, ?_⟩
  · intro h
    rw [h] at hlong
    exact absurd hlong (by decide)
  · intro h
    rw [h] at hlong
    exact absurd hlong (by decide)
  · intro h
    rw [h] at hlong
    exact absurd hlong (by decide)
  · rw [unitName, String.toList_append]
    intro h
    rcases List.mem_append.mp h with h | h
    · exact slash_notMem_replaceChar _ h
    · exact absurd h (by decide)

end Component

end Pageworks
