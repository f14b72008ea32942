import Pageworks.Proofs.FileTree
import Pageworks.Proofs.Namespace

/-!
# Unit names

A unit is named after the whole path of its document, and its namespace comes from the containing
directory alone.  Both leave out the root, each from a text of its own: the path ends in the name of
the document, while the directory may end in slashes that are no segments of it.  What carries the
proof is that the segments of a root never end with an empty one, so they do not reach into those
slashes.

## Main results

* `Path.splitLast?_cases` — what dividing a text at the last character of a class finds.
* `Path.matched?_parent` — **a root matches a path if and only if it matches the directory that
  contains it**, unless it matches the path whole.
* `Path.toList_relativeTo_parent` — a path without its root is its directory without the root, and
  the name.
* `Component.isSeparator_of_mem_unitName` — no unit name holds a separator.
* `Component.unitName_relativeTo` — **a unit is named after the directory that its namespace comes
  from**, and after the name of the document.
-/

namespace Pageworks

open Pageworks.Text

namespace Text

/-- A last part is joined with a separator in front, unless it is the only one. -/
theorem intercalate_concat (sep : Char) (fs : List (List Char)) (f : List Char) :
    [sep].intercalate (fs ++ [f]) = if fs = [] then f else [sep].intercalate fs ++ sep :: f := by
  induction fs with
  | nil => exact List.intercalate_singleton
  | cons g fs ih =>
    cases fs with
    | nil => simp
    | cons h fs =>
      rw [List.cons_append, List.cons_append, List.intercalate_cons_cons, ← List.cons_append, ih,
        List.intercalate_cons_cons]
      simp

@[simp] theorem toList_replaceChar (a b : Char) (s : String) :
    (replaceChar a b s).toList = s.toList.map fun c => if c == a then b else c :=
  String.toList_ofList

theorem replaceChar_append (a b : Char) (s t : String) :
    replaceChar a b (s ++ t) = replaceChar a b s ++ replaceChar a b t := by
  apply String.toList_inj.mp
  simp

theorem replaceChar_of_notMem {a : Char} {s : String} (h : a ∉ s.toList) (b : Char) :
    replaceChar a b s = s := by
  apply String.toList_inj.mp
  rw [toList_replaceChar]
  refine (List.map_congr_left fun c hc => ?_).trans (List.map_id' s.toList)
  have hne : c ≠ a := fun heq => h (heq ▸ hc)
  simp [hne]

end Text

namespace Path

variable {cs head name : List Char} {path root : String}

/-! ### The last segment -/

/-- A text has no character of a class, or a last one. -/
theorem exists_last (p : Char → Bool) (cs : List Char) : (∀ c ∈ cs, p c = false) ∨
    ∃ a c b, cs = a ++ c :: b ∧ p c = true ∧ ∀ x ∈ b, p x = false := by
  induction cs with
  | nil => exact .inl fun c hc => absurd hc List.not_mem_nil
  | cons x cs ih =>
    rcases ih with hfree | ⟨a, c, b, rfl, hc, hb⟩
    · cases hx : p x with
      | true => exact .inr ⟨[], x, cs, rfl, hx, hfree⟩
      | false => exact .inl (List.forall_mem_cons.mpr ⟨hx, hfree⟩)
    · exact .inr ⟨x :: a, c, b, rfl, hc, hb⟩

/-- What dividing a text at the last character of a class finds. -/
theorem splitLast?_cases (p : Char → Bool) (cs : List Char) :
    (splitLast? p cs = none ∧ ∀ c ∈ cs, p c = false) ∨
      ∃ a c b, splitLast? p cs = some (a, b) ∧ cs = a ++ c :: b ∧ p c = true ∧
        ∀ x ∈ b, p x = false := by
  rcases exists_last p cs with hfree | ⟨a, c, b, rfl, hc, hb⟩
  · have hwhole : cs.reverse.dropWhile (fun c => !p c) = [] := by
      simpa [List.dropWhile_eq_nil_iff] using hfree
    rw [splitLast?, List.span_eq_takeWhile_dropWhile, hwhole]
    exact .inl ⟨rfl, hfree⟩
  · exact .inr ⟨a, c, b, splitLast?_append_cons hc hb a, rfl, hc, hb⟩

/-- A path with a containing directory is the directory and the last segment, or it has no other
segment. -/
theorem slashed_of_parent? {document dir : String} (h : parent? document = some dir) :
    ((slashed document).toList = dir.toList ++ '/' :: fileName document ∨
        dir = "" ∧ (slashed document).toList = fileName document) ∧
      (∀ c ∈ fileName document, isSlash c = false) ∧
      ¬ ∀ c ∈ (slashed document).toList, isSlash c = true := by
  unfold parent? at h
  dsimp only at h
  split at h
  · cases h
  · next hall =>
    rw [List.all_eq_true] at hall
    rcases splitLast?_cases isSlash (slashed document).toList with
      ⟨hnone, hfree⟩ | ⟨a, c, b, hsome, hcs, hc, hb⟩
    · rw [hnone] at h
      have hname : fileName document = (slashed document).toList := by rw [fileName, hnone]
      rw [hname]
      exact ⟨.inr ⟨(Option.some.inj h).symm, rfl⟩, hfree, hall⟩
    · rw [hsome] at h
      have hname : fileName document = b := by rw [fileName, hsome]
      have hdir : dir.toList = a := by rw [← Option.some.inj h, String.toList_ofList]
      rw [hname, hdir]
      exact ⟨.inl (by rw [hcs, beq_iff_eq.mp hc]), hb, hall⟩

/-! ### Segments at the end -/

/-- Every path has a segment, if only an empty one. -/
theorem segments_length_pos (cs : List Char) : 0 < (segments cs).length :=
  List.length_pos_iff.mpr (fields_ne_nil isSlash (dropTrailing isSlash cs))

/-- The fields of a path are its segments, and empty ones behind them. -/
theorem fields_eq_segments_append (cs : List Char) :
    ∃ k, fields isSlash cs = segments cs ++ List.replicate k [] := by
  obtain ⟨rest, hrest, hnames⟩ := fields_append cs (.inl rfl)
  rw [List.append_nil] at hrest
  have hempty : ∀ f ∈ rest, f = [] := by
    intro f hf
    have hnone := List.filter_eq_nil_iff.mp hnames f hf
    simpa using hnone
  exact ⟨rest.length, by rw [hrest, ← List.eq_replicate_of_mem hempty]⟩

/-- The last segment of a path is not empty, unless it is the only one. -/
theorem segments_eq_of_getLast? (h : (segments cs).getLast? = some []) : segments cs = [[]] := by
  have hend : ∀ hne, ¬ isSlash ((dropTrailing isSlash cs).getLast hne) = true :=
    List.rdropWhile_last_not isSlash cs
  unfold segments at h ⊢
  generalize dropTrailing isSlash cs = xs at h hend ⊢
  rcases splitLast?_cases isSlash xs with ⟨-, hfree⟩ | ⟨a, c, b, -, rfl, hc, hb⟩
  · rw [fields_eq_singleton hfree] at h ⊢
    exact congrArg (fun f => [f]) (Option.some.inj h)
  · -- a slash in front of an empty last field would end the text
    rw [fields_append_cons hc, fields_eq_singleton hb, List.getLast?_concat] at h
    rw [Option.some.inj h] at hend
    exact absurd (by simpa using hc) (hend (by simp))

/-- A list that does not end with an empty entry does not reach into empty entries at the end. -/
theorem prefix_of_prefix_append_replicate {α : Type} {q s : List (List α)} {k : Nat}
    (h : q <+: s ++ List.replicate k []) (hq : q.length ≤ s.length ∨ q.getLast? ≠ some []) :
    q <+: s := by
  induction k with
  | zero => rwa [List.replicate_zero, List.append_nil] at h
  | succ k ih =>
    rw [List.replicate_succ', ← List.append_assoc, List.prefix_concat_iff] at h
    rcases h with rfl | h
    · rcases hq with hq | hq
      · rw [List.length_append, List.length_append, List.length_singleton] at hq
        omega
      · exact absurd List.getLast?_concat hq
    · exact ih h

/-! ### Texts without slashes -/

theorem dropWhile_of_isSlash_eq_false (hname : ∀ c ∈ name, isSlash c = false) :
    name.dropWhile isSlash = name := by
  cases name with
  | nil => rfl
  | cons c cs => exact List.dropWhile_cons_of_neg (by simp [hname])

/-- A text that ends in a name has no slashes at its end. -/
theorem dropTrailing_append_name (head : List Char) (hne : name ≠ [])
    (hname : ∀ c ∈ name, isSlash c = false) :
    dropTrailing isSlash (head ++ name) = head ++ name := by
  refine List.rdropWhile_eq_self_iff.mpr fun hcs => ?_
  rw [List.getLast_append_of_right_ne_nil _ _ hne, hname _ (List.getLast_mem hne)]
  exact Bool.false_ne_true

/-- A text without slashes is its only segment. -/
theorem segments_eq_singleton (hname : ∀ c ∈ name, isSlash c = false) : segments name = [name] := by
  by_cases hne : name = []
  · rw [hne]
    rfl
  · rw [segments, ← List.nil_append name, dropTrailing_append_name [] hne hname, List.nil_append,
      fields_eq_singleton hname]

/-! ### Directories and their documents -/

/-- A slash at the end makes no segment. -/
theorem segments_concat_slash (head : List Char) : segments (head ++ ['/']) = segments head := by
  rw [segments, dropTrailing, ← List.rdropWhile, List.rdropWhile_concat_pos _ _ _ (by decide)]
  rfl

/-- A name at the end is the last segment, and the slashes in front of it count as segments. -/
theorem segments_append_name (head : List Char) (hne : name ≠ [])
    (hname : ∀ c ∈ name, isSlash c = false) :
    segments (head ++ '/' :: name) = fields isSlash head ++ [name] := by
  have hlast := dropTrailing_append_name (head ++ ['/']) hne hname
  rw [List.append_assoc, List.singleton_append] at hlast
  rw [segments, hlast, fields_append_cons (by decide), fields_eq_singleton hname]

/-- **A root matches a path if and only if it matches the directory that contains it**, unless it
matches the path whole. -/
theorem matched?_parent (head rs : List Char) (hname : ∀ c ∈ name, isSlash c = false)
    (hwhole : (segments (head ++ '/' :: name)).map caseFold ≠ (segments rs).map caseFold) :
    matched? (head ++ '/' :: name) rs = matched? head rs := by
  by_cases hne : name = []
  · rw [hne, matched?, matched?, segments_concat_slash]
  · rw [segments_append_name head hne hname, List.map_append, List.map_singleton] at hwhole
    obtain ⟨k, hk⟩ := fields_eq_segments_append head
    have hleads : leads (segments (head ++ '/' :: name)) (segments rs) =
        leads (segments head) (segments rs) := by
      rw [Bool.eq_iff_iff, leads_iff, leads_iff, segments_append_name head hne hname,
        List.map_append, List.map_singleton, hk, List.map_append, List.map_replicate, caseFold_nil]
      constructor
      · intro h
        rw [List.prefix_concat_iff] at h
        rcases h with h | h
        · rw [hk, List.map_append, List.map_replicate, caseFold_nil] at hwhole
          exact absurd h.symm hwhole
        · -- the directory's last slashes are no segments, and the root does not reach into them
          refine prefix_of_prefix_append_replicate h ?_
          by_cases hlast : (segments rs).getLast? = some []
          · refine .inl ?_
            rw [segments_eq_of_getLast? hlast, List.length_map, List.length_map]
            exact segments_length_pos head
          · refine .inr fun hfold => hlast ?_
            rw [List.getLast?_map, Option.map_eq_some_iff] at hfold
            obtain ⟨f, hf, hnil⟩ := hfold
            rw [hf, caseFold_eq_nil_iff.mp hnil]
      · intro h
        exact (h.trans (List.prefix_append _ _)).trans (List.prefix_append _ _)
    rw [matched?, matched?, hleads]

/-- A root that matches leads the path, and all its segments are counted. -/
theorem matched?_eq_some_iff {cs rs : List Char} {n : Nat} : matched? cs rs = some n ↔
    (segments rs).map caseFold <+: (segments cs).map caseFold ∧ n = (segments rs).length := by
  rw [← leads_iff, matched?]
  split
  · next hleads => simp [hleads, eq_comm]
  · next hleads => simp [hleads]

theorem length_le_of_matched? {cs rs : List Char} {n : Nat} (h : matched? cs rs = some n) :
    n ≤ (fields isSlash cs).length := by
  obtain ⟨hlead, rfl⟩ := matched?_eq_some_iff.mp h
  obtain ⟨k, hk⟩ := fields_eq_segments_append cs
  have hlength := hlead.length_le
  rw [List.length_map, List.length_map] at hlength
  rw [hk, List.length_append]
  omega

theorem dropWhile_append_name (head : List Char) (hname : ∀ c ∈ name, isSlash c = false) :
    (head ++ '/' :: name).dropWhile isSlash =
      if head.dropWhile isSlash = [] then name else head.dropWhile isSlash ++ '/' :: name := by
  have hself : ('/' :: name).dropWhile isSlash = name := by
    rw [List.dropWhile_cons_of_pos (by decide), dropWhile_of_isSlash_eq_false hname]
  rw [List.dropWhile_append, hself]
  simp only [List.isEmpty_iff]

/-- **A path without its root is its directory without the root, and the name.** -/
theorem toList_relativeTo_parent {dir : String} (hpath : path.toList = dir.toList ++ '/' :: name)
    (hname : ∀ c ∈ name, isSlash c = false)
    (hwhole : (segments path.toList).map caseFold ≠ (segments root.toList).map caseFold) :
    (relativeTo path root).toList = if (relativeTo dir root).toList = [] then name
      else (relativeTo dir root).toList ++ '/' :: name := by
  rw [hpath] at hwhole
  have hmatched := matched?_parent dir.toList root.toList hname hwhole
  rw [← hpath] at hmatched
  by_cases hroot : root = ""
  · rw [toList_relativeTo_of_unmatched (.inl hroot), toList_relativeTo_of_unmatched (.inl hroot),
      hpath, dropWhile_append_name _ hname]
  · cases hdir : matched? dir.toList root.toList with
    | none =>
      rw [hdir] at hmatched
      rw [toList_relativeTo_of_unmatched (.inr hmatched), toList_relativeTo_of_unmatched (.inr hdir),
        hpath, dropWhile_append_name _ hname]
    | some n =>
      rw [hdir] at hmatched
      rw [toList_relativeTo_of_matched hroot hmatched, toList_relativeTo_of_matched hroot hdir,
        hpath, fields_append_cons (by decide), fields_eq_singleton hname,
        List.drop_append_of_le_length (length_le_of_matched? hdir), intercalate_concat]
      by_cases hrest : (fields isSlash dir.toList).drop n = []
      · rw [if_pos hrest, hrest]
        simp [dropWhile_of_isSlash_eq_false hname]
      · rw [if_neg hrest, dropWhile_append_name _ hname]

/-! ### Characters -/

/-- In a path with slashes every other character is no separator. -/
theorem of_mem_slashed {c : Char} (hc : c ∈ (slashed path).toList) :
    c = '/' ∨ isSeparator c = false := by
  have hmap : c ∈ path.toList.map slashOf := by
    rw [slashed_toList, stripEnding_slash] at hc
    split at hc
    · exact List.mem_of_mem_dropLast hc
    · exact hc
  obtain ⟨x, -, rfl⟩ := List.mem_map.mp hmap
  unfold slashOf
  split
  · exact .inl rfl
  · next hx => exact .inr (Bool.not_eq_true _ |>.mp hx)

/-- A path seen from a root has characters of the path, and slashes. -/
theorem of_mem_relativeTo {c : Char} (hc : c ∈ (relativeTo path root).toList) :
    c = '/' ∨ c ∈ path.toList := by
  rcases toList_relativeTo_cases path root with hrest | ⟨n, -, hrest⟩
  · rw [hrest] at hc
    exact .inr ((List.dropWhile_sublist _).subset hc)
  · rw [hrest] at hc
    rcases of_mem_intercalate ((List.dropWhile_sublist _).subset hc) with hc | ⟨f, hf, hc⟩
    · exact .inl (List.mem_singleton.mp hc)
    · exact .inr (of_mem_fields (List.mem_of_mem_drop hf) hc).1

/-! ### Documents without a directory -/

/-- Nothing is left of the empty directory, whatever the root. -/
theorem relativeTo_empty (root : String) : relativeTo "" root = "" := by
  apply String.toList_inj.mp
  rcases toList_relativeTo_cases "" root with hrest | ⟨n, hmatched, hrest⟩
  · rw [hrest]
    rfl
  · -- the root has a segment, and the empty directory no other
    have hpos : 0 < n := by
      rw [(matched?_eq_some_iff.mp hmatched).2]
      exact segments_length_pos root.toList
    have hnone : (fields isSlash "".toList).drop n = [] := List.drop_eq_nil_of_le hpos
    rw [hrest, hnone]
    rfl

/-- A path of one segment is seen whole from a root, unless the root matches it whole. -/
theorem toList_relativeTo_of_single (hname : ∀ c ∈ path.toList, isSlash c = false)
    (hwhole : (segments path.toList).map caseFold ≠ (segments root.toList).map caseFold) :
    (relativeTo path root).toList = path.toList := by
  have hunmatched : matched? path.toList root.toList = none := by
    rw [Option.eq_none_iff_forall_ne_some]
    intro n hn
    have hlead := (matched?_eq_some_iff.mp hn).1
    refine hwhole (hlead.eq_of_length_le ?_).symm
    rw [segments_eq_singleton hname, List.length_map, List.length_map]
    exact segments_length_pos root.toList
  rw [toList_relativeTo_of_unmatched (.inr hunmatched), dropWhile_of_isSlash_eq_false hname]

/-- **What a document's path is without the root**: what its directory is without the root, and the
name of the document. -/
theorem relativeTo_parent {document dir root : String} (hdir : parent? document = some dir)
    (hwhole : ¬ SameSegments document root) :
    relativeTo (slashed document) (slashed root) =
      relativeTo dir (slashed root) ++ (if relativeTo dir (slashed root) = "" then "" else "/") ++
        String.ofList (fileName document) := by
  obtain ⟨hshape, hname, hall⟩ := slashed_of_parent? hdir
  apply String.toList_inj.mp
  rcases hshape with hpath | ⟨rfl, hpath⟩
  · rw [toList_relativeTo_parent hpath hname hwhole]
    by_cases hempty : relativeTo dir (slashed root) = ""
    · simp [hempty]
    · simp [hempty]
  · have hfree : ∀ c ∈ (slashed document).toList, isSlash c = false := by rwa [hpath]
    rw [relativeTo_empty, toList_relativeTo_of_single hfree hwhole, hpath]
    simp

end Path

namespace Component

open Pageworks.Path

/-- No unit name holds a separator. -/
theorem isSeparator_of_mem_unitName {document root : String} {c : Char}
    (hc : c ∈ (unitName document root).toList) : isSeparator c = false := by
  rw [unitName, String.toList_append, toList_replaceChar] at hc
  rcases List.mem_append.mp hc with hc | hc
  · obtain ⟨x, hx, rfl⟩ := List.mem_map.mp hc
    split
    · rfl
    · next hslash =>
      have hne : x ≠ '/' := by simpa using hslash
      exact (of_mem_slashed ((of_mem_relativeTo hx).resolve_left hne)).resolve_left hne
  · have hsuffix : unitSuffix.toList.all (fun x => !isSeparator x) = true := by decide
    simpa using List.all_eq_true.mp hsuffix c hc

/-- What is written under a unit name is a file in the output directory itself. -/
theorem write_unitName {files files' : FileTree} {working : Place} {output : Location}
    {document root text : String}
    (h : files.write working (output.resolve (unitName document root)) text = .ok files') :
    files' = files.put (output.place working ++ [unitName document root])
      (.file text.toUTF8.toList) := by
  have hplain := plainName_unitName document root
  have hplace : (output.resolve (unitName document root)).place working =
      output.place working ++ [unitName document root] := by
    rw [Location.resolve_plainName hplain, Location.place_join, List.foldl_cons, List.foldl_nil,
      Place.follow_of_ne hplain.ne_dots]
  unfold FileTree.write at h
  split at h
  · cases h
  · next p hlocate =>
    have hp := (FileTree.locate_eq_ok_iff.mp hlocate).2.2
    rw [hplace] at hp
    split at h
    · cases h
    · rw [← hp]
      exact (Except.ok.inj h).symm

/-- **A unit is named after the directory that its namespace comes from**, and after the name of the
document, unless the root is the path of the document.  No unit name holds a separator, so a unit is
always written into the output directory itself. -/
theorem unitName_relativeTo (document root : String) :
    (∀ c ∈ (unitName document root).toList, isSeparator c = false) ∧
    (∃ front, unitName document root = front ++ ".g.cs") ∧
    (∀ (files files' : FileTree) (working : Place) (output : Location) (text : String),
      files.write working (output.resolve (unitName document root)) text = .ok files' →
        files' = files.put (output.place working ++ [unitName document root])
          (.file text.toUTF8.toList)) ∧
    ∀ dir, parent? document = some dir → ¬ SameSegments document root →
      let rd := relativeTo dir (slashed root)
      unitName document root = replaceChar '/' '_' rd ++ (if rd = "" then "" else "_") ++
          String.ofList (fileName document) ++ ".g.cs" ∧
        Namespace.suffix document root = ".".intercalate
          ((names rd.toList).map fun s => Identifier.sanitize (String.ofList s)) := by
  refine ⟨fun c => isSeparator_of_mem_unitName, ⟨_, rfl⟩,
    fun files files' working output text => write_unitName, fun dir hdir hwhole => ?_⟩
  dsimp only
  have hname : '/' ∉ (String.ofList (fileName document)).toList := by
    rw [String.toList_ofList]
    intro hslash
    exact absurd ((slashed_of_parent? hdir).2.1 _ hslash) (by decide)
  refine ⟨?_, ?_⟩
  · rw [unitName, relativeTo_parent hdir hwhole, replaceChar_append, replaceChar_append,
      replaceChar_of_notMem hname]
    split <;> rfl
  · rw [Namespace.suffix_eq, Path.directory, hdir, Option.getD_some]

/-- A root in another case and with a slash at its end, and an empty directory in front of the
document: the empty directory leaves a low line in the unit name, and nothing in the namespace. -/
theorem unitName_relativeTo_folded :
    unitName "C:\\Proj\\A b\\\\x.md" "c:/PROJ/" = "A b__x.md.g.cs" ∧
      Namespace.suffix "C:\\Proj\\A b\\\\x.md" "c:/PROJ/" = "A_b" ∧
      ∃ files, FileTree.empty.write [] ((Location.ofPlace []).resolve
          (unitName "C:\\Proj\\A b\\\\x.md" "c:/PROJ/")) "" = .ok files ∧
        files = FileTree.empty.put ["A b__x.md.g.cs"] (.file []) := by
  have hdir : parent? "C:\\Proj\\A b\\\\x.md" = some "C//Proj/A b/" := by decide +kernel
  have hwhole : ¬ SameSegments "C:\\Proj\\A b\\\\x.md" "c:/PROJ/" := by decide +kernel
  obtain ⟨-, -, hwritten, hagree⟩ := unitName_relativeTo "C:\\Proj\\A b\\\\x.md" "c:/PROJ/"
  obtain ⟨hunit, hsuffix⟩ := hagree _ hdir hwhole
  refine ⟨hunit.trans (by decide +kernel), hsuffix.trans (by decide +kernel), ?_⟩
  have hfiles : FileTree.empty.write [] ((Location.ofPlace []).resolve
      (unitName "C:\\Proj\\A b\\\\x.md" "c:/PROJ/")) "" =
      .ok (FileTree.empty.put ["A b__x.md.g.cs"] (.file [])) := by decide +kernel
  exact ⟨_, hfiles, (hwritten _ _ _ _ _ hfiles).trans (by decide +kernel)⟩

end Component

end Pageworks
