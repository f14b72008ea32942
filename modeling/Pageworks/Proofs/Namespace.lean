import Pageworks.Proofs.Cascade
import Pageworks.Proofs.Identifier

/-!
# The law of namespaces

The namespace of a document is the root namespace with the directories between the project root and
the document.  The root is taken off segment by segment: whatever its segments are spelled like and
however long they are, what is left are the names that go on behind it.

## Main definitions

* `Path.SameSegments p q` — the paths have the same segments, up to case.
* `Path.Stride` — a step with any number of further separators in front of it.
* `Path.below path ss` — what a path and strides behind it write.

## Main results

* `Text.caseFold_eq_nil_iff` — only the empty text is empty up to case.
* `Path.fields_append` — the segments of a path are the first fields of whatever goes on behind it.
* `Path.names_relativeTo_append` — **the names behind the root** are what is left without it.
* `Namespace.resolve_below` — **the law of namespaces**.
-/

namespace Pageworks

open Pageworks.Text

namespace Text

/-- Only the empty text is empty up to case. -/
theorem caseFold_eq_nil_iff {cs : List Char} : caseFold cs = [] ↔ cs = [] := by
  have htable : ∀ e ∈ Table.caseFoldExpansions, e.2 ≠ [] := by decide +kernel
  have hchar : ∀ c, mapCase Table.caseFoldRuns Table.caseFoldExpansions c ≠ [] := by
    intro c
    unfold mapCase
    split
    · exact List.cons_ne_nil _ _
    · split
      · next ns hns =>
        obtain ⟨before, after, htable', -⟩ := List.lookup_eq_some_iff.mp hns
        have hmem : (c.toNat, ns) ∈ Table.caseFoldExpansions := by simp [htable']
        simpa using htable _ hmem
      · exact List.cons_ne_nil _ _
  rw [caseFold, List.flatMap_eq_nil_iff]
  constructor
  · intro h
    exact List.eq_nil_iff_forall_not_mem.mpr fun c hc => hchar c (h c hc)
  · rintro rfl c hc
    exact absurd hc List.not_mem_nil

end Text

namespace Path

/-! ### Segments and fields -/

/-- The paths have the same segments, up to case. -/
def SameSegments (p q : String) : Prop :=
  (segments (slashed p).toList).map caseFold = (segments (slashed q).toList).map caseFold

instance (p q : String) : Decidable (SameSegments p q) := inferInstanceAs (Decidable (_ = _))

/-- **The segments of a path are the first fields** of whatever goes on behind it, and the further
fields name what goes on. -/
theorem fields_append (a : List Char) {b : List Char} (hb : b = [] ∨ ∃ u, b = '/' :: u) :
    ∃ rest, fields isSlash (a ++ b) = segments a ++ rest ∧
      rest.filter (fun s => !s.isEmpty) = names b := by
  obtain ⟨t, ht, hslash⟩ := exists_dropTrailing_append isSlash a
  have hnames : names (t ++ b) = names b := by
    rw [names_append t hb, names_of_all_isSlash hslash, List.nil_append]
  have hwhole : a ++ b = dropTrailing isSlash a ++ (t ++ b) := by
    rw [← List.append_assoc, ← ht]
  rw [hwhole, ← hnames, segments]
  cases htb : t ++ b with
  | nil => exact ⟨[], by rw [List.append_nil, List.append_nil], rfl⟩
  | cons c u =>
    -- the slashes at the end of the path come first, and else what goes on does
    have hc : c = '/' := by
      cases t with
      | nil =>
        rw [List.nil_append] at htb
        rcases hb with hb | ⟨v, hb⟩
        · rw [hb] at htb
          cases htb
        · rw [hb] at htb
          exact (List.cons.inj htb).1.symm
      | cons x t =>
        rw [← (List.cons.inj htb).1]
        exact beq_iff_eq.mp (hslash x List.mem_cons_self)
    rw [hc, names_slash]
    exact ⟨fields isSlash u, fields_append_cons (by decide) _ _, rfl⟩

/-- The names of a path are its segments that are not empty. -/
theorem names_eq_filter_segments (cs : List Char) :
    names cs = (segments cs).filter fun s => !s.isEmpty := by
  obtain ⟨rest, hrest, hnames⟩ := fields_append cs (.inl rfl)
  rw [List.append_nil] at hrest
  rw [names, hrest, List.filter_append, hnames]
  exact List.append_nil _

/-- Joining segments and naming what is written drops the empty ones. -/
theorem names_intercalate {fs : List (List Char)} (h : ∀ f ∈ fs, ∀ c ∈ f, isSlash c = false) :
    names (['/'].intercalate fs) = fs.filter fun s => !s.isEmpty := by
  cases fs with
  | nil => rfl
  | cons f fs => rw [names, fields_intercalate (by decide) (List.cons_ne_nil f fs) h]

/-! ### Paths relative to a root -/

variable {path root : String}

theorem toList_relativeTo_of_matched {n : Nat} (hroot : root ≠ "")
    (h : matched? path.toList root.toList = some n) : (relativeTo path root).toList =
      (['/'].intercalate ((fields isSlash path.toList).drop n)).dropWhile isSlash := by
  have hempty : root.isEmpty = false := by simpa using hroot
  rw [relativeTo, h, hempty]
  exact String.toList_ofList

/-- From an empty root, and from one that the path does not lie in, a path is seen whole. -/
theorem toList_relativeTo_of_unmatched
    (h : root = "" ∨ matched? path.toList root.toList = none) :
    (relativeTo path root).toList = path.toList.dropWhile isSlash := by
  rcases h with rfl | h
  · exact String.toList_ofList
  · rw [relativeTo, h]
    simp

/-- A path is seen whole, or without as many segments as the root matches. -/
theorem toList_relativeTo_cases (path root : String) :
    (relativeTo path root).toList = path.toList.dropWhile isSlash ∨
      ∃ n, matched? path.toList root.toList = some n ∧ (relativeTo path root).toList =
        (['/'].intercalate ((fields isSlash path.toList).drop n)).dropWhile isSlash := by
  by_cases hroot : root = ""
  · exact .inl (toList_relativeTo_of_unmatched (.inl hroot))
  · cases hmatched : matched? path.toList root.toList with
    | none => exact .inl (toList_relativeTo_of_unmatched (.inr hmatched))
    | some n => exact .inr ⟨n, rfl, toList_relativeTo_of_matched hroot hmatched⟩

/-- **The names behind the root are what is left without it.** -/
theorem names_relativeTo_append {a b : List Char} (hb : b = [] ∨ ∃ u, b = '/' :: u)
    (hroot : (segments a).map caseFold = (segments root.toList).map caseFold) :
    names (relativeTo (String.ofList (a ++ b)) root).toList = names b := by
  by_cases hempty : root = ""
  · -- the empty root has one segment, which is empty, and so has the path
    have hnone : names a = [] := by
      rw [hempty] at hroot
      obtain ⟨x, hsegments, hx⟩ := List.map_eq_singleton_iff.mp
        (hroot.trans (by decide : _ = [[]]))
      rw [names_eq_filter_segments, hsegments, caseFold_eq_nil_iff.mp hx]
      rfl
    rw [toList_relativeTo_of_unmatched (.inl hempty), String.toList_ofList, names_dropWhile,
      names_append a hb, hnone, List.nil_append]
  · have hlength : (segments root.toList).length = (segments a).length := by
      simpa using congrArg List.length hroot.symm
    have hmatched : matched? (String.ofList (a ++ b)).toList root.toList =
        some (segments a).length := by
      have hleads : leads (segments (a ++ b)) (segments root.toList) = true := by
        rw [leads_iff, ← hroot]
        exact (segments_prefix_append a hb).map caseFold
      rw [matched?, String.toList_ofList, if_pos hleads, hlength]
    obtain ⟨rest, hrest, hnames⟩ := fields_append a hb
    rw [toList_relativeTo_of_matched hempty hmatched, String.toList_ofList, names_dropWhile,
      hrest, List.drop_left, names_intercalate, hnames]
    intro f hf c hc
    have hfield : f ∈ fields isSlash (a ++ b) := by
      rw [hrest]
      exact List.mem_append_right _ hf
    exact (of_mem_fields hfield hc).2

/-! ### Strides -/

/-- A step with any number of further separators in front of it. -/
structure Stride extends Step where
  /-- The further separators, in any spelling. -/
  further : List Char
  all_isSeparator_further : further.all isSeparator = true

/-- What a path and strides behind it write. -/
def below (path : String) (ss : List Stride) : String :=
  path ++ String.ofList (ss.flatMap fun s => s.further ++ s.separator :: s.name.toList)

/-- Strides with slashes for separators. -/
def strideSlashes (ss : List Stride) : List Char :=
  ss.flatMap fun s => s.further.map slashOf ++ '/' :: s.name.toList

theorem Stride.isSlash_further (s : Stride) : ∀ c ∈ s.further.map slashOf, isSlash c = true := by
  intro c hc
  obtain ⟨x, hx, rfl⟩ := List.mem_map.mp hc
  rw [isSlash_slashOf]
  exact List.all_eq_true.mp s.all_isSeparator_further x hx

theorem map_slashOf_below (path : String) (ss : List Stride) :
    (below path ss).toList.map slashOf = path.toList.map slashOf ++ strideSlashes ss := by
  rw [below, String.toList_append, String.toList_ofList, List.map_append, List.map_flatMap,
    strideSlashes]
  congr 1
  refine List.flatMap_congr fun s _ => ?_
  rw [List.map_append, List.map_cons, s.map_slashOf_name, slashOf, if_pos s.isSeparator_separator]

theorem strideSlashes_append (ss ts : List Stride) :
    strideSlashes (ss ++ ts) = strideSlashes ss ++ strideSlashes ts := List.flatMap_append

/-- Separators, if there are any, and then strides start with a slash. -/
theorem eq_nil_or_slash_append_further (ss : List Stride) {t : List Char}
    (ht : ∀ c ∈ t, isSlash c = true) :
    strideSlashes ss ++ t = [] ∨ ∃ u, strideSlashes ss ++ t = '/' :: u := by
  cases ss with
  | nil =>
    cases t with
    | nil => exact .inl rfl
    | cons c t => exact .inr ⟨t, by rw [beq_iff_eq.mp (ht c List.mem_cons_self)]; rfl⟩
  | cons s ss =>
    refine .inr ?_
    have hfurther := s.isSlash_further
    rw [strideSlashes, List.flatMap_cons]
    generalize s.further.map slashOf = f at hfurther
    cases f with
    | nil => exact ⟨_, rfl⟩
    | cons c cs =>
      rw [beq_iff_eq.mp (hfurther c List.mem_cons_self)]
      exact ⟨_, rfl⟩

/-- **What strides name** are their names, however many separators they have. -/
theorem names_strideSlashes (ss : List Stride) {t : List Char} (ht : ∀ c ∈ t, isSlash c = true) :
    names (strideSlashes ss ++ t) = ss.map fun s => s.name.toList := by
  induction ss with
  | nil => exact names_of_all_isSlash ht
  | cons s ss ih =>
    have hshape : strideSlashes (s :: ss) ++ t =
        s.further.map slashOf ++ '/' :: (s.name.toList ++ (strideSlashes ss ++ t)) := by
      simp [strideSlashes]
    rw [hshape, names_append_slash, names_of_all_isSlash s.isSlash_further, List.nil_append,
      names_append _ (eq_nil_or_slash_append_further ss ht), ih,
      names_singleton s.name_toList_ne_nil s.isSlash_name, List.map_cons, List.singleton_append]

/-- A path with strides behind it lies in what is before the last slash. -/
theorem parent?_below (path : String) (ss : List Stride) (s : Stride) :
    parent? (below path (ss ++ [s])) = some (String.ofList (path.toList.map slashOf ++
      (strideSlashes ss ++ s.further.map slashOf))) := by
  refine parent?_of_map s.name_toList_ne_nil s.isSlash_name ?_
  rw [map_slashOf_below, strideSlashes_append]
  simp [strideSlashes]

end Path

namespace Namespace

open Pageworks.Path

/-- The namespace of what is written below the root, from the directories alone. -/
theorem suffix_below {root root' : String} (hroot : SameSegments root' root) (ds : List Stride)
    (file : Stride) : suffix (below root' (ds ++ [file])) root =
      ".".intercalate (ds.map fun d => Identifier.sanitize d.name) := by
  have hsegments : (segments (root'.toList.map slashOf)).map caseFold =
      (segments (slashed root).toList).map caseFold := by
    rw [← hroot, segments_slashed]
    rfl
  have hslashes := file.isSlash_further
  rw [suffix_eq, Path.directory, parent?_below, Option.getD_some,
    names_relativeTo_append (eq_nil_or_slash_append_further ds hslashes) hsegments,
    names_strideSlashes ds hslashes, List.map_map]
  have hmap : ds.map ((fun s => Identifier.sanitize (String.ofList s)) ∘ fun d => d.name.toList) =
      ds.map fun d => Identifier.sanitize d.name := by
    simp only [Function.comp_def, String.ofList_toList]
  rw [hmap]

theorem intercalate_ne_empty {parts : List String} (hne : parts ≠ []) (h : ∀ p ∈ parts, p ≠ "") :
    ".".intercalate parts ≠ "" := by
  obtain ⟨p, ps, rfl⟩ := List.exists_cons_of_ne_nil hne
  have hp := h p List.mem_cons_self
  cases ps with
  | nil => rwa [String.intercalate_singleton]
  | cons q ps =>
    rw [String.intercalate_cons_cons]
    simp [hp]

/-- A name and joined parts are joined as the name and the parts are. -/
theorem intercalate_filter_pair (name : String) {parts : List String} (h : ∀ p ∈ parts, p ≠ "") :
    ".".intercalate ([name, ".".intercalate parts].filter fun s => !s.isEmpty) =
      ".".intercalate ((name :: parts).filter fun s => !s.isEmpty) := by
  have hparts : parts.filter (fun s => !s.isEmpty) = parts :=
    List.filter_eq_self.mpr fun p hp => by simpa using h p hp
  by_cases hnil : parts = []
  · rw [hnil, String.intercalate_nil]
    by_cases hname : name = "" <;> simp [hname]
  · have hjoined := intercalate_ne_empty hnil h
    by_cases hname : name = ""
    · simp [hname, hjoined, hparts]
    · simp [hname, hjoined, hparts, String.intercalate_cons_of_ne_nil hnil]

/-- **The law of namespaces.**  A document that is written below a path with the segments of the root
has for its namespace the root namespace and the identifiers of the directories between, with points
between those that are not empty; how the segments of the root are spelled, and how many separators
stand in front of a directory or of the file, makes no difference.  An override is the namespace of
any document, even the empty one. -/
theorem resolve_below (root rootNamespace : String) :
    (∀ (root' : String) (ds : List Stride) (file : Stride), SameSegments root' root →
      resolve (below root' (ds ++ [file])) root rootNamespace none =
        ".".intercalate ((rootNamespace :: ds.map fun d => Identifier.sanitize d.name).filter
          fun s => !s.isEmpty)) ∧
    ∀ document override : String,
      resolve document root rootNamespace (some override) = override := by
  refine ⟨fun root' ds file hroot => ?_, fun document override => rfl⟩
  have hparts : ∀ p ∈ ds.map fun d => Identifier.sanitize d.name, p ≠ "" := by
    intro p hp
    obtain ⟨d, -, rfl⟩ := List.mem_map.mp hp
    rw [Ne, Identifier.sanitize_eq_empty_iff]
    exact d.name_ne_empty
  rw [resolve, suffix_below hroot]
  exact intercalate_filter_pair rootNamespace hparts

/-- Strides to a directory, the second one with a separator more than it needs. -/
def wideStrides : List Stride := [
  ⟨⟨'\\', "class", .refl true, by decide, by decide⟩, [], by decide⟩,
  ⟨⟨':', "2x", .refl true, by decide, by decide⟩, ['/'], by decide⟩]

/-- The stride to a document. -/
def pageStride : Stride := ⟨⟨'/', "a.md", .refl true, by decide, by decide⟩, [], by decide⟩

/-- The root is spelled with other separators, more of them, and a name of another length. -/
theorem resolve_below_folded :
    resolve "C:\\PROJ/STRASSE//\\class/:2x/a.md" "c:/proj\\straße" "App" none =
      "App.class_._2x" := by
  have hdocument : below "C:\\PROJ/STRASSE//" (wideStrides ++ [pageStride]) =
      "C:\\PROJ/STRASSE//\\class/:2x/a.md" := by decide
  have hroot : SameSegments "C:\\PROJ/STRASSE//" "c:/proj\\straße" := by decide +kernel
  have hlaw := (resolve_below "c:/proj\\straße" "App").1 _ wideStrides pageStride hroot
  rw [hdocument] at hlaw
  rw [hlaw]
  decide +kernel

end Namespace

end Pageworks
