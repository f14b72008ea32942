import Pageworks.Proofs.Import
import Pageworks.Proofs.Path

/-!
# The cascade of import files

An import file governs the documents in its directory and below.  What is below is read off the
texts of two paths: each is rewritten with slashes, cut at its last slash and split at the others.
For paths that name a file step by step from the root, that is a comparison of the steps: those to
the import file's directory are, up to case, the first ones to the document.

## Main definitions

* `Path.Step` — a separator and the segment behind it.
* `Path.absolute` — the path of a list of steps.
* `Path.Leads g d` — the steps of `g` are, up to case, the first steps of `d`.

## Main results

* `Path.parent?_eq_none_iff` — only separators name nothing that lies in a directory.
* `Path.parent?_absolute`, `Path.segments_written` — the containing directory of a path, and its
  segments.
* `Import.applicable_eq_error_iff` — nothing but a path of separators is refused.
* `Import.applicable_sublist` — a document in or below the directory of another one is governed by
  whatever governs the other.
* `Import.applicable_cascade` — **the law of the cascade**.
-/

namespace Pageworks

open Pageworks.Text

namespace Path

/-! ### Containing directories -/

theorem isSlash_eq_false {c : Char} (hc : isSeparator c = false) : isSlash c = false := by
  rw [isSeparator, Bool.or_eq_false_iff, Bool.or_eq_false_iff] at hc
  exact hc.1.1

theorem isSlash_slashOf (c : Char) : isSlash (slashOf c) = isSeparator c := by
  rw [slashOf]
  cases hc : isSeparator c with
  | true => rfl
  | false => rw [if_neg Bool.false_ne_true, isSlash_eq_false hc]

/-- Only separators name nothing that lies in a directory. -/
theorem parent?_eq_none_iff {path : String} :
    parent? path = none ↔ ∀ c ∈ path.toList, isSeparator c = true := by
  have hmap : (∀ c ∈ path.toList.map slashOf, isSlash c = true) ↔
      ∀ c ∈ path.toList, isSeparator c = true := by
    simp only [List.forall_mem_map, isSlash_slashOf]
  -- the slash that may be cut off at the end is one of them
  have hall : (slashed path).toList.all isSlash = true ↔
      ∀ c ∈ path.toList, isSeparator c = true := by
    rw [← hmap, List.all_eq_true, slashed_toList, stripEnding_slash]
    split
    · next h =>
      obtain ⟨cs, hcs⟩ := List.getLast?_eq_some_iff.mp h
      have hslash : ∀ c ∈ ['/'], isSlash c = true := List.forall_mem_singleton.mpr rfl
      rw [hcs, List.dropLast_concat, List.forall_mem_append]
      exact ⟨fun hcs => ⟨hcs, hslash⟩, And.left⟩
    · exact Iff.rfl
  rw [← hall, parent?]
  split
  · next h => exact ⟨fun _ => h, fun _ => rfl⟩
  · next h => split <;> exact ⟨fun hnone => (by cases hnone), fun hsep => absurd hsep h⟩

/-- The last character of a class divides a text. -/
theorem splitLast?_append_cons {p : Char → Bool} {c : Char} (hc : p c = true) {b : List Char}
    (hb : ∀ x ∈ b, p x = false) (a : List Char) : splitLast? p (a ++ c :: b) = some (a, b) := by
  have hrev : (a ++ c :: b).reverse = b.reverse ++ c :: a.reverse := by
    rw [List.reverse_append, List.reverse_cons, List.append_assoc, List.singleton_append]
  have htail : ∀ x ∈ b.reverse, (!p x) = true := by
    intro x hx
    rw [hb x (List.mem_reverse.mp hx), Bool.not_false]
  have hstop : (!p c) = false := by rw [hc, Bool.not_true]
  rw [splitLast?, hrev, List.span_eq_takeWhile_dropWhile,
    List.takeWhile_append_of_pos htail, List.dropWhile_append_of_pos htail,
    List.takeWhile_cons, List.dropWhile_cons, hstop, if_neg Bool.false_ne_true,
    if_neg Bool.false_ne_true, List.append_nil]
  dsimp only
  rw [List.reverse_reverse, List.reverse_reverse]

/-- **A path that ends in a name lies in what is before the last slash.** -/
theorem parent?_of_map {path : String} {head name : List Char} (hne : name ≠ [])
    (hname : ∀ c ∈ name, isSlash c = false)
    (hpath : path.toList.map slashOf = head ++ '/' :: name) :
    parent? path = some (String.ofList head) := by
  have hlast : (head ++ '/' :: name).getLast? ≠ some '/' := by
    obtain ⟨c, cs, rfl⟩ := List.exists_cons_of_ne_nil hne
    rw [List.getLast?_append_cons, List.getLast?_cons_cons]
    intro h
    exact absurd (hname _ (List.mem_of_getLast? h)) (by decide)
  have hslashed : (slashed path).toList = head ++ '/' :: name := by
    rw [slashed_toList, hpath, stripEnding_slash, if_neg hlast]
  have hall : ¬ (head ++ '/' :: name).all isSlash = true := by
    obtain ⟨c, cs, rfl⟩ := List.exists_cons_of_ne_nil hne
    intro h
    have hslash := List.all_eq_true.mp h c (by simp)
    rw [hname c List.mem_cons_self] at hslash
    exact Bool.false_ne_true hslash
  rw [parent?, hslashed, if_neg hall, splitLast?_append_cons (by decide) hname]

/-! ### Paths step by step -/

/-- A separator and the segment behind it. -/
structure Step where
  /-- The separator, in any spelling. -/
  separator : Char
  /-- The segment. -/
  name : String
  isSeparator_separator : isSeparator separator = true
  name_ne_empty : name ≠ ""
  any_isSeparator_name : name.toList.any isSeparator = false

/-- The path of a list of steps from the root. -/
def absolute (steps : List Step) : String :=
  String.ofList (steps.flatMap fun s => s.separator :: s.name.toList)

/-- The steps of `g` are, up to case, the first steps of `d`. -/
def Leads (g d : List Step) : Prop :=
  ∃ _ : g.length ≤ d.length,
    ∀ i, ∀ _ : i < g.length, caseFold g[i].name.toList = caseFold d[i].name.toList

/-- A list of steps with slashes between its segments. -/
def written (steps : List Step) : List Char := steps.flatMap fun s => '/' :: s.name.toList

theorem written_append_singleton (ds : List Step) (s : Step) :
    written (ds ++ [s]) = written ds ++ '/' :: s.name.toList := by
  rw [written, written, List.flatMap_append, List.flatMap_singleton]

theorem Step.name_toList_ne_nil (s : Step) : s.name.toList ≠ [] :=
  fun h => s.name_ne_empty (String.toList_eq_nil_iff.mp h)

theorem Step.isSeparator_name (s : Step) : ∀ c ∈ s.name.toList, isSeparator c = false := by
  intro c hc
  rw [← Bool.not_eq_true]
  exact List.any_eq_false.mp s.any_isSeparator_name c hc

theorem Step.isSlash_name (s : Step) : ∀ c ∈ s.name.toList, isSlash c = false :=
  fun c hc => isSlash_eq_false (s.isSeparator_name c hc)

/-- A segment has no separators to be written as slashes. -/
theorem Step.map_slashOf_name (s : Step) : s.name.toList.map slashOf = s.name.toList := by
  refine (List.map_congr_left fun c hc => ?_).trans (List.map_id' _)
  rw [slashOf, s.isSeparator_name c hc, if_neg Bool.false_ne_true]

/-- Whatever its separators, a path is written with slashes. -/
theorem map_slashOf_absolute (steps : List Step) :
    (absolute steps).toList.map slashOf = written steps := by
  rw [absolute, String.toList_ofList, List.map_flatMap, written]
  refine List.flatMap_congr fun s _ => ?_
  rw [List.map_cons, slashOf, if_pos s.isSeparator_separator, s.map_slashOf_name]

/-- The last character of a path is the last one of its last segment. -/
theorem getLast?_written (ds : List Step) (s : Step) :
    (written (ds ++ [s])).getLast? = s.name.toList.getLast? := by
  obtain ⟨c, cs, hname⟩ := List.exists_cons_of_ne_nil s.name_toList_ne_nil
  rw [written_append_singleton, hname, List.getLast?_append_cons, List.getLast?_cons_cons]

/-- **The containing directory of a path** is the path of all its steps but the last one. -/
theorem parent?_absolute (ds : List Step) (s : Step) :
    parent? (absolute (ds ++ [s])) = some (String.ofList (written ds)) := by
  refine parent?_of_map s.name_toList_ne_nil s.isSlash_name ?_
  rw [map_slashOf_absolute, written_append_singleton]

/-- A text without a slash, with steps behind it, splits into the text and their segments. -/
theorem fields_append_written (ds : List Step) :
    ∀ {a : List Char}, (∀ c ∈ a, isSlash c = false) →
      fields isSlash (a ++ written ds) = a :: ds.map fun s => s.name.toList := by
  induction ds with
  | nil =>
    intro a ha
    rw [written, List.flatMap_nil, List.append_nil, fields_eq_singleton ha, List.map_nil]
  | cons s ds ih =>
    intro a ha
    have hwritten : written (s :: ds) = '/' :: (s.name.toList ++ written ds) := by
      rw [written, List.flatMap_cons, List.cons_append, written]
    rw [hwritten, fields_append_cons (by decide), fields_eq_singleton ha, ih s.isSlash_name,
      List.map_cons, List.singleton_append]

/-- **The segments of a directory**: nothing before the first separator, then those of its steps. -/
theorem segments_written (ds : List Step) :
    segments (written ds) = [] :: ds.map fun s => s.name.toList := by
  have hdrop : dropTrailing isSlash (written ds) = written ds := by
    rcases List.eq_nil_or_concat' ds with rfl | ⟨ds, s, rfl⟩
    · rfl
    · refine List.rdropWhile_eq_self_iff.mpr fun hne hlast => ?_
      have hmem : (written (ds ++ [s])).getLast hne ∈ s.name.toList := by
        refine List.mem_of_getLast? ?_
        rw [← getLast?_written ds, List.getLast?_eq_some_getLast hne]
      rw [s.isSlash_name _ hmem] at hlast
      exact Bool.false_ne_true hlast
  rw [segments, hdrop]
  exact fields_append_written ds (a := []) fun c hc => absurd hc List.not_mem_nil

/-- The steps that lead a path are its first ones, up to case. -/
theorem leads_iff_prefix {g d : List Step} : Leads g d ↔
    (g.map fun s => caseFold s.name.toList) <+: d.map fun s => caseFold s.name.toList := by
  rw [List.prefix_iff_getElem, Leads]
  simp only [List.length_map, List.getElem_map]

/-- The segments of a directory are the first ones of another if its steps lead the other. -/
theorem segments_written_prefix_iff {g d : List Step} :
    (segments (written g)).map caseFold <+: (segments (written d)).map caseFold ↔ Leads g d := by
  rw [segments_written, segments_written, List.map_cons, List.map_cons, List.cons_prefix_cons,
    List.map_map, List.map_map, leads_iff_prefix]
  exact and_iff_right rfl

/-- **A directory lies in another one if the steps of the other lead it.** -/
theorem isWithin_written {g d : List Step} :
    isWithin (String.ofList (written d)) (String.ofList (written g)) = true ↔ Leads g d := by
  rw [isWithin_iff, String.toList_ofList, String.toList_ofList, segments_written_prefix_iff]
  refine or_iff_right_of_imp fun hempty => ?_
  -- only the root is written as the empty directory
  cases g with
  | nil => exact leads_iff_prefix.mpr List.nil_prefix
  | cons s g =>
    rw [String.isEmpty_iff, ← String.toList_eq_nil_iff, String.toList_ofList, written,
      List.flatMap_cons] at hempty
    cases hempty

end Path

namespace Import

open Pageworks.Path

/-! ### Governing import files -/

/-- Nothing but a path of separators is refused. -/
theorem applicable_eq_error_iff {es : List ImportEntry} {path : String} {e : PathError} :
    applicable es path = .error e ↔
      e = ⟨.noDirectory, path⟩ ∧ ∀ c ∈ path.toList, isSeparator c = true := by
  rw [← parent?_eq_none_iff]
  cases hdir : parent? path with
  | none =>
    rw [applicable_of_parent?_eq_none hdir]
    exact ⟨fun h => ⟨(Except.error.inj h).symm, rfl⟩, fun h => by rw [h.1]⟩
  | some dir =>
    rw [applicable_of_parent? hdir]
    exact ⟨fun h => (by cases h), fun h => (by cases h.2)⟩

/-- **A document in or below the directory of another one is governed by whatever governs the
other.** -/
theorem applicable_sublist {path path' dir dir' : String} (hdir : parent? path = some dir)
    (hdir' : parent? path' = some dir')
    (hlead : (segments dir.toList).map caseFold <+: (segments dir'.toList).map caseFold)
    (es : List ImportEntry) : ∃ as bs, applicable es path = .ok as ∧ applicable es path' = .ok bs ∧
      as.Sublist bs := by
  refine ⟨_, _, applicable_of_parent? hdir es, applicable_of_parent? hdir' es, ?_⟩
  refine List.monotone_filter_right es fun e he => ?_
  rw [isWithin_iff] at he ⊢
  exact he.imp_right fun h => h.trans hlead

/-- **The law of the cascade.**  From an absolute document path import files are selected one by
one, and a file with an absolute path is selected if the steps to its directory lead the document's.
From any path they are selected in their order, and a document whose directory goes on from
another's, segment by segment, receives every import file that the other receives.  The paths of
separators only, and the empty one, are the paths that are refused. -/
theorem applicable_cascade :
    (∀ (d : List Step) (document : Step), ∃ governs : ImportEntry → Bool,
      (∀ es, applicable es (absolute (d ++ [document])) = .ok (es.filter governs)) ∧
      ∀ (g : List Step) (file : Step) (text : String),
        governs ⟨absolute (g ++ [file]), text⟩ = true ↔ Leads g d) ∧
    (∀ (d d' : List Step) (document document' : Step), Leads d d' → ∀ es, ∃ as bs,
      applicable es (absolute (d ++ [document])) = .ok as ∧
        applicable es (absolute (d' ++ [document'])) = .ok bs ∧ as.Sublist bs) ∧
    (∀ path path' dir dir', parent? path = some dir → parent? path' = some dir' →
      (segments dir.toList).map caseFold <+: (segments dir'.toList).map caseFold → ∀ es, ∃ as bs,
      applicable es path = .ok as ∧ applicable es path' = .ok bs ∧ as.Sublist bs) ∧
    ∀ path : String,
      (∃ governs : ImportEntry → Bool, ∀ es as, applicable es path = .ok as →
        as = es.filter governs) ∧
      ∀ es e, applicable es path = .error e ↔
        e = ⟨.noDirectory, path⟩ ∧ ∀ c ∈ path.toList, isSeparator c = true := by
  refine ⟨fun d document => ?_, fun d d' document document' hlead => ?_,
    fun path path' dir dir' => applicable_sublist, fun path => ⟨?_, ?_⟩⟩
  · refine ⟨_, applicable_of_parent? (parent?_absolute d document), fun g file text => ?_⟩
    rw [ImportEntry.directory, Path.directory, parent?_absolute, Option.getD_some]
    exact isWithin_written
  · refine applicable_sublist (parent?_absolute d document) (parent?_absolute d' document') ?_
    rw [String.toList_ofList, String.toList_ofList]
    exact segments_written_prefix_iff.mpr hlead
  · refine ⟨fun e => isWithin (directory path) e.directory, fun es as h => ?_⟩
    obtain ⟨dir, hdir, rfl⟩ := applicable_eq_ok_iff.mp h
    rw [Path.directory, hdir, Option.getD_some]
  · exact fun es e => applicable_eq_error_iff

/-- Steps to a directory, with separators of two kinds. -/
def foldedSteps : List Step := [
  ⟨'\\', "STRASSE", by decide, by decide, by decide⟩,
  ⟨':', "b", by decide, by decide, by decide⟩]

/-- Steps to a directory above it, whose name is shorter. -/
def sharpSteps : List Step := [⟨'/', "straße", by decide, by decide, by decide⟩]

/-- A document in the directory. -/
def pageStep : Step := ⟨'/', "c.md", by decide, by decide, by decide⟩

/-- An import file in the directory above. -/
def importStep : Step := ⟨'/', "_i.razor", by decide, by decide, by decide⟩

/-- Names of different lengths may be equal up to case. -/
theorem applicable_cascade_folded :
    applicable [⟨"/straße/_i.razor", ""⟩] "\\STRASSE:b/c.md" = .ok [⟨"/straße/_i.razor", ""⟩] := by
  have hdocument : absolute (foldedSteps ++ [pageStep]) = "\\STRASSE:b/c.md" := by decide
  have hfile : absolute (sharpSteps ++ [importStep]) = "/straße/_i.razor" := by decide
  have hleads : Leads sharpSteps foldedSteps := ⟨by decide, by decide +kernel⟩
  obtain ⟨governs, hok, hgoverns⟩ := applicable_cascade.1 foldedSteps pageStep
  have hselected := (hgoverns sharpSteps importStep "").mpr hleads
  rw [hfile] at hselected
  rw [← hdocument, hok, List.filter_cons_of_pos hselected, List.filter_nil]

end Import

end Pageworks
