import Mathlib.Data.List.DropRight
import Mathlib.Data.List.Infix
import Mathlib.Data.List.TakeWhile
import Pageworks.Component
import Pageworks.Proofs.Digest

/-!
# Paths as lists of segments

A path with slashes is the path with every separator written as a slash, less one slash at the end;
its segments are what lies between the slashes.  What is derived from a document's path (directory,
class name, unit name, namespace) looks at the path with slashes only.

## Main definitions

* `Path.slashOf` — the slash in place of any separator.
* `Path.names` — the segments that are not empty.

## Main results

* `Path.segments_slashed` — the segments of a path, without the detour over the slash at its end.
* `Path.segments_prefix_append`, `Path.segments_append`, `Path.isWithin_append` — **what is written
  below a directory** starts with its segments and lies in it.
* `Path.isWithin_iff` — lying in a directory is starting with its segments, up to case.
* `Path.isWithin_of_prefix` — what lies below a path lies wherever the path lies.
-/

namespace Pageworks

open Pageworks.Text

/-! ### Fields -/

namespace Text

theorem fields_cons_of_pos {p : Char → Bool} {c : Char} (hc : p c = true) (cs : List Char) :
    fields p (c :: cs) = [] :: fields p cs := by
  rw [fields, if_pos hc]

theorem fields_cons_of_neg {p : Char → Bool} {c : Char} (hc : p c = false) {cs f : List Char}
    {fs : List (List Char)} (h : fields p cs = f :: fs) :
    fields p (c :: cs) = (c :: f) :: fs := by
  rw [fields, if_neg (by rw [hc]; exact Bool.false_ne_true), h]

/-- **Only separators are lost** where a text is cut into fields. -/
theorem flatten_fields (p : Char → Bool) (cs : List Char) :
    (fields p cs).flatten = cs.filter fun c => !p c := by
  induction cs with
  | nil => rfl
  | cons x cs ih =>
    cases hx : p x with
    | true =>
      rw [fields_cons_of_pos hx, List.flatten_cons, List.nil_append, ih,
        List.filter_cons_of_neg (by simp [hx])]
    | false =>
      obtain ⟨g, gs, hg⟩ := List.exists_cons_of_ne_nil (fields_ne_nil p cs)
      rw [hg] at ih
      rw [fields_cons_of_neg hx hg, List.filter_cons_of_pos (by simp [hx]), ← ih]
      rfl

/-- A field holds characters of the text, and no separator. -/
theorem of_mem_fields {p : Char → Bool} {cs f : List Char} (hf : f ∈ fields p cs) {c : Char}
    (hc : c ∈ f) : c ∈ cs ∧ p c = false := by
  have hmem := List.mem_flatten_of_mem hf hc
  rwa [flatten_fields, List.mem_filter, Bool.not_eq_true'] at hmem

/-- A text without separators is its only field. -/
theorem fields_eq_singleton {p : Char → Bool} {cs : List Char} (h : ∀ c ∈ cs, p c = false) :
    fields p cs = [cs] := by
  induction cs with
  | nil => rfl
  | cons c cs ih =>
    exact fields_cons_of_neg (h c List.mem_cons_self)
      (ih fun x hx => h x (List.mem_cons_of_mem _ hx))

/-- **A separator splits the fields** into those before it and those behind it. -/
theorem fields_append_cons {p : Char → Bool} {c : Char} (hc : p c = true) (a b : List Char) :
    fields p (a ++ c :: b) = fields p a ++ fields p b := by
  induction a with
  | nil => rw [List.nil_append, fields_cons_of_pos hc, fields_nil, List.singleton_append]
  | cons x a ih =>
    rw [List.cons_append]
    cases hx : p x with
    | true => rw [fields_cons_of_pos hx, fields_cons_of_pos hx, ih, List.cons_append]
    | false =>
      obtain ⟨f, fs, hf⟩ := List.exists_cons_of_ne_nil (fields_ne_nil p a)
      rw [fields_cons_of_neg hx hf,
        fields_cons_of_neg hx (by rw [ih, hf, List.cons_append]), List.cons_append]

/-- Parts without separators are recovered from their joined text. -/
theorem fields_intercalate {p : Char → Bool} {sep : Char} (hsep : p sep = true)
    {ns : List (List Char)} (hne : ns ≠ []) (h : ∀ n ∈ ns, ∀ c ∈ n, p c = false) :
    fields p ([sep].intercalate ns) = ns := by
  induction ns with
  | nil => exact absurd rfl hne
  | cons n ns ih =>
    cases ns with
    | nil =>
      rw [List.intercalate_singleton]
      exact fields_eq_singleton (h n List.mem_cons_self)
    | cons m ms =>
      rw [List.intercalate_cons_cons, List.append_assoc, List.singleton_append,
        fields_append_cons hsep, fields_eq_singleton (h n List.mem_cons_self),
        ih (List.cons_ne_nil _ _) fun x hx => h x (List.mem_cons_of_mem _ hx),
        List.singleton_append]

/-- What stands in a joined text stands in the separator or in one of the parts. -/
theorem of_mem_intercalate {sep : List Char} {parts : List (List Char)} {c : Char}
    (h : c ∈ sep.intercalate parts) : c ∈ sep ∨ ∃ p ∈ parts, c ∈ p := by
  induction parts with
  | nil => exact absurd h List.not_mem_nil
  | cons p ps ih =>
    cases ps with
    | nil =>
      rw [List.intercalate_singleton] at h
      exact .inr ⟨p, List.mem_cons_self, h⟩
    | cons q qs =>
      rw [List.intercalate_cons_cons, List.mem_append, List.mem_append] at h
      rcases h with (h | h) | h
      · exact .inr ⟨p, List.mem_cons_self, h⟩
      · exact .inl h
      · obtain hsep | ⟨x, hx, hc⟩ := ih h
        · exact .inl hsep
        · exact .inr ⟨x, List.mem_cons_of_mem _ hx, hc⟩

/-! ### Cut ends -/

/-- The trailing characters of a class, cut off from two texts in a row. -/
theorem dropTrailing_append (p : Char → Bool) (a b : List Char) :
    dropTrailing p (a ++ b) =
      if (dropTrailing p b).isEmpty then dropTrailing p a else a ++ dropTrailing p b := by
  rw [dropTrailing, dropTrailing, dropTrailing, List.reverse_append, List.dropWhile_append,
    List.isEmpty_reverse]
  split
  · rfl
  · rw [List.reverse_append, List.reverse_reverse]

/-- Nothing is cut off from a text whose last character is not of the class. -/
theorem dropTrailing_eq_self_iff {p : Char → Bool} {cs : List Char} :
    dropTrailing p cs = cs ↔ ∀ c, cs.getLast? = some c → p c = false := by
  rw [dropTrailing, ← List.rdropWhile, List.rdropWhile_eq_self_iff]
  constructor
  · intro h c hc
    have hne : cs ≠ [] := List.getLast?_isSome.mp (by rw [hc]; rfl)
    obtain rfl := Option.some.inj ((List.getLast?_eq_some_getLast hne).symm.trans hc)
    exact Bool.eq_false_iff.mpr (h hne)
  · intro h hne
    exact Bool.eq_false_iff.mp (h _ (List.getLast?_eq_some_getLast hne))

/-- A tail of characters of the class is cut off whole. -/
theorem dropTrailing_append_of_forall {p : Char → Bool} {a b : List Char}
    (h : ∀ c ∈ b, p c = true) : dropTrailing p (a ++ b) = dropTrailing p a := by
  have hnil : dropTrailing p b = [] := List.rdropWhile_eq_nil_iff.mpr h
  rw [dropTrailing_append, hnil, List.isEmpty_nil, if_pos rfl]

/-- Nothing is cut off in front of a tail that ends in another character. -/
theorem dropTrailing_append_of_eq_self {p : Char → Bool} {a b : List Char} (hne : b ≠ [])
    (h : dropTrailing p b = b) : dropTrailing p (a ++ b) = a ++ b := by
  rw [dropTrailing_append, h, if_neg (by rwa [List.isEmpty_iff])]

/-- The leading blanks of a text end at any other character. -/
theorem trimStart_append_cons {c : Char} (hc : isBlank c = false) (xs ys : List Char) :
    trimStart (xs ++ c :: ys) = trimStart xs ++ c :: ys := by
  rw [trimStart, List.dropWhile_append, List.dropWhile_cons_of_neg (by simp [hc])]
  split
  · rename_i hnil
    rw [trimStart, List.isEmpty_iff.mp hnil, List.nil_append]
  · rfl

/-- A text is what is left of it with trailing characters of the class behind it. -/
theorem exists_dropTrailing_append (p : Char → Bool) (cs : List Char) :
    ∃ t, cs = dropTrailing p cs ++ t ∧ ∀ c ∈ t, p c = true := by
  refine ⟨(cs.reverse.takeWhile p).reverse, ?_, ?_⟩
  · rw [dropTrailing, ← List.reverse_append, List.takeWhile_append_dropWhile, List.reverse_reverse]
  · intro c hc
    exact List.mem_takeWhile_imp (List.mem_reverse.mp hc)

end Text

namespace Path

/-! ### The path with slashes -/

/-- The slash in place of any separator. -/
def slashOf (c : Char) : Char := if isSeparator c then '/' else c

/-- Joining the segments with slashes writes every separator as a slash. -/
theorem intercalate_fields (cs : List Char) :
    ['/'].intercalate (fields isSeparator cs) = cs.map slashOf := by
  induction cs with
  | nil => rfl
  | cons c cs ih =>
    obtain ⟨f, fs, hf⟩ := List.exists_cons_of_ne_nil (fields_ne_nil isSeparator cs)
    rw [List.map_cons, ← ih]
    cases hc : isSeparator c with
    | true =>
      rw [fields_cons_of_pos hc, hf, List.intercalate_cons_cons, slashOf, if_pos hc]
      rfl
    | false =>
      rw [fields_cons_of_neg hc hf, hf, slashOf, if_neg (by rw [hc]; exact Bool.false_ne_true),
        List.intercalate_cons_cons_left]

private theorem startsWith_slash (cs : List Char) :
    startsWith? ['/'] cs = if cs.head? = some '/' then some cs.tail else none := by
  cases cs with
  | nil => rfl
  | cons c cs =>
    rw [startsWith?, startsWith?]
    by_cases h : c = '/'
    · rw [h, if_pos (by decide), List.head?_cons, if_pos rfl, List.tail_cons]
    · rw [if_neg (by simpa using Ne.symm h), List.head?_cons, if_neg (by simpa using h)]

/-- One slash at the end is cut off. -/
theorem stripEnding_slash (cs : List Char) :
    stripEnding ['/'] cs = if cs.getLast? = some '/' then cs.dropLast else cs := by
  have hrev : cs.reverse.head? = cs.getLast? := List.head?_reverse
  rw [stripEnding, if_neg (by decide), List.reverse_singleton, startsWith_slash, hrev]
  by_cases h : cs.getLast? = some '/'
  · rw [if_pos h, if_pos h, List.tail_reverse]
    exact List.reverse_reverse _
  · rw [if_neg h, if_neg h]

theorem slashed_toList (path : String) :
    (slashed path).toList = stripEnding ['/'] (path.toList.map slashOf) := by
  rw [slashed, normalize, String.toList_ofList, ← intercalate_fields]
  rfl

/-- Cutting off one slash first makes no difference to cutting off all of them. -/
theorem dropTrailing_stripEnding (cs : List Char) :
    dropTrailing isSlash (stripEnding ['/'] cs) = dropTrailing isSlash cs := by
  rw [stripEnding_slash]
  by_cases h : cs.getLast? = some '/'
  · obtain ⟨ys, hys⟩ := List.getLast?_eq_some_iff.mp h
    rw [if_pos h, hys, List.dropLast_concat]
    exact (List.rdropWhile_concat_pos _ _ _ (by decide)).symm
  · rw [if_neg h]

/-- **The segments of a path**: what lies between its separators, those at its end left out. -/
theorem segments_slashed (path : String) :
    segments (slashed path).toList =
      fields isSlash (dropTrailing isSlash (path.toList.map slashOf)) := by
  rw [segments, slashed_toList, dropTrailing_stripEnding]

/-- A path without a zero character has none with slashes either. -/
theorem zeroFree_slashed {path : String} (h : ZeroFree path) : ZeroFree (slashed path) := by
  have hmap : ∀ c ∈ path.toList.map slashOf, c.toNat ≠ 0 := by
    intro c hc
    obtain ⟨x, hx, rfl⟩ := List.mem_map.mp hc
    rw [slashOf]
    split
    · decide
    · exact h x hx
  intro c hc
  rw [slashed_toList, stripEnding_slash] at hc
  split at hc
  · exact hmap c (List.mem_of_mem_dropLast hc)
  · exact hmap c hc

/-! ### Names -/

/-- The segments of a path with slashes that are not empty. -/
def names (cs : List Char) : List (List Char) := (fields isSlash cs).filter fun s => !s.isEmpty

theorem names_append_slash (a b : List Char) : names (a ++ '/' :: b) = names a ++ names b := by
  rw [names, fields_append_cons (by decide), List.filter_append, names, names]

/-- A slash in front names nothing. -/
theorem names_slash (b : List Char) : names ('/' :: b) = names b := names_append_slash [] b

/-- The names of a path and of what goes on behind it. -/
theorem names_append (a : List Char) {b : List Char} (hb : b = [] ∨ ∃ u, b = '/' :: u) :
    names (a ++ b) = names a ++ names b := by
  rcases hb with rfl | ⟨b, rfl⟩
  · rw [List.append_nil]
    exact (List.append_nil _).symm
  · rw [names_append_slash, names_slash]

theorem names_singleton {a : List Char} (hne : a ≠ []) (ha : ∀ c ∈ a, isSlash c = false) :
    names a = [a] := by
  rw [names, fields_eq_singleton ha]
  simp [hne]

theorem names_dropWhile (cs : List Char) : names (cs.dropWhile isSlash) = names cs := by
  induction cs with
  | nil => rfl
  | cons c cs ih =>
    rw [List.dropWhile_cons]
    split
    · next hc => rw [ih, beq_iff_eq.mp hc, names_slash]
    · rfl

/-- Slashes name nothing. -/
theorem names_of_all_isSlash {cs : List Char} (h : ∀ c ∈ cs, isSlash c = true) : names cs = [] := by
  rw [← names_dropWhile, List.dropWhile_eq_nil_iff.mpr h]
  rfl

/-! ### Lying in a directory -/

/-- The segments that lead a path are its first ones, up to case. -/
theorem leads_iff {ps ds : List (List Char)} :
    leads ps ds = true ↔ ds.map caseFold <+: ps.map caseFold := by
  induction ds generalizing ps with
  | nil =>
    rw [leads]
    exact ⟨fun _ => List.nil_prefix, fun _ => rfl⟩
  | cons d ds ih =>
    cases ps with
    | nil =>
      rw [leads, List.map_nil, List.prefix_nil, List.map_cons]
      exact ⟨fun h => (by cases h), fun h => (by cases h)⟩
    | cons p ps =>
      rw [leads, Bool.and_eq_true, beq_iff_eq, ih, List.map_cons, List.map_cons,
        List.cons_prefix_cons]
      exact and_congr_left fun _ => eq_comm

/-- **A path lies in a directory if it starts with the segments of the directory**, up to case. -/
theorem isWithin_iff {path directory : String} : isWithin path directory = true ↔
    directory.isEmpty = true ∨ (segments directory.toList).map caseFold <+:
      (segments path.toList).map caseFold := by
  rw [isWithin, matched?, Bool.or_eq_true, ← leads_iff]
  refine or_congr_right ?_
  split
  · next h => exact ⟨fun _ => h, fun _ => rfl⟩
  · next h => exact ⟨fun hsome => (by cases hsome), fun hleads => absurd hleads h⟩

/-- **What lies below a path lies wherever the path lies.** -/
theorem isWithin_of_prefix {path above directory : String}
    (h : segments above.toList <+: segments path.toList) (hw : isWithin above directory = true) :
    isWithin path directory = true := by
  rw [isWithin_iff] at hw ⊢
  exact hw.imp_right fun hleads => hleads.trans (h.map caseFold)

theorem isWithin_self (path : String) : isWithin path path = true :=
  isWithin_iff.mpr (.inr List.prefix_rfl)

/-- **What goes on behind a path with a slash** starts with the segments of the path. -/
theorem segments_prefix_append (a : List Char) {b : List Char} (hb : b = [] ∨ ∃ u, b = '/' :: u) :
    segments a <+: segments (a ++ b) := by
  rcases hb with rfl | ⟨b, rfl⟩
  · rw [List.append_nil]
  · obtain ⟨t, ht, hslash⟩ := exists_dropTrailing_append isSlash a
    -- behind the path comes a slash, whether or not the path is written with one
    obtain ⟨u, hu⟩ : ∃ u, t ++ '/' :: b = '/' :: u := by
      cases t with
      | nil => exact ⟨b, rfl⟩
      | cons c t =>
        have hc : c = '/' := beq_iff_eq.mp (hslash c List.mem_cons_self)
        exact ⟨t ++ '/' :: b, by rw [hc, List.cons_append]⟩
    have hwhole : a ++ '/' :: b = dropTrailing isSlash a ++ '/' :: u := by
      rw [← hu, ← List.append_assoc, ← ht]
    by_cases hempty : dropTrailing isSlash ('/' :: u) = []
    · refine ⟨[], Eq.symm ?_⟩
      rw [segments, segments, hwhole, dropTrailing_append, hempty, List.isEmpty_nil, if_pos rfl,
        List.append_nil]
      exact congrArg _ (List.rdropWhile_idempotent _ _)
    · obtain ⟨c, v, hv⟩ := List.exists_cons_of_ne_nil hempty
      have hc : c = '/' := by
        have hprefix := List.rdropWhile_prefix isSlash (l := '/' :: u)
        rw [show List.rdropWhile isSlash ('/' :: u) = c :: v from hv] at hprefix
        exact (List.cons_prefix_cons.mp hprefix).1
      refine ⟨fields isSlash v, Eq.symm ?_⟩
      rw [segments, segments, hwhole, dropTrailing_append, hv, hc, List.isEmpty_cons,
        if_neg Bool.false_ne_true, fields_append_cons (by decide)]

/-- **What is written below a directory starts with its segments**, with any separators in both. -/
theorem segments_append (a b : String) :
    segments (slashed a).toList <+: segments (slashed (a ++ "/" ++ b)).toList := by
  have hwhole : (a ++ "/" ++ b).toList.map slashOf =
      a.toList.map slashOf ++ '/' :: b.toList.map slashOf := by
    rw [String.toList_append, String.toList_append, List.map_append, List.map_append,
      List.append_assoc]
    rfl
  rw [segments_slashed, segments_slashed, hwhole]
  exact segments_prefix_append _ (.inr ⟨_, rfl⟩)

/-- **What is written below a directory lies in it.** -/
theorem isWithin_append (a b : String) : isWithin (slashed (a ++ "/" ++ b)) (slashed a) = true :=
  isWithin_of_prefix (segments_append a b) (isWithin_self _)

end Path

end Pageworks
