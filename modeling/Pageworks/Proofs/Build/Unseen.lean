import Pageworks.Proofs.Build.Survey

/-!
# What a build does not see

The output directory may lie anywhere, also among the sources.  Still a build does not see the files
that builds write there: no generated file is a document, and none is an import file unless the glob
for import files describes its name.  So whatever has been generated, a build finds the same.

Trees that differ in generated files only need not list their entries in the same order, so what a glob
leads to is compared as a set.  The order is restored when the files are sorted.

## Main definitions

* `FileTree.Matches out t t'` — the trees differ in files of generated names in the directory `out`
  only.
* `Glob.Part.describes`, `Glob.Spares` — the glob leads to no file of a generated name.

## Main results

* `FileTree.matches_put`, `FileTree.matches_erase` — writing and removing a generated file.
* `Glob.select_of_matches` — **parts of a glob lead to the same in both trees**, such files apart.
* `Sources.documents_of_matches`, `Sources.imports_of_matches` — the documents and the import files are
  the same.
* `Survey.take_of_matches` — **a build finds the same in both trees.**
-/

namespace Pageworks

open Pageworks.Text

/-- The name ends like the name of a generated file. -/
def IsGenerated (n : String) : Prop := ∃ m, n = m ++ Component.unitSuffix

theorem Survey.isGenerated_unitName (s : Survey) (d : Document) : IsGenerated (s.unitName d) :=
  ⟨_, rfl⟩

/-- No generated file is a document. -/
theorem IsGenerated.not_isMarkdown {n : String} (h : IsGenerated n) (p : Place) :
    Place.isMarkdown (p ++ [n]) = false := by
  obtain ⟨m, rfl⟩ := h
  have hname : (m ++ Component.unitSuffix).toList.reverse =
      's' :: 'c' :: '.' :: 'g' :: '.' :: m.toList.reverse := by
    rw [String.toList_append, List.reverse_append]
    rfl
  have hlength : (m ++ Component.unitSuffix).toList.length = m.toList.length + 5 := by
    rw [String.toList_append, List.length_append]
    rfl
  have hsuffix : (Location.ofPlace (p ++ [m ++ Component.unitSuffix])).suffix = ".cs" := by
    rw [Location.suffix, Location.ofPlace, List.getLast?_concat, Option.getD_some]
    rw [hname, hlength]
    simp
  rw [Place.isMarkdown, Sources.isDocument, hsuffix]
  decide

/-! ### Trees that differ in generated files -/

namespace FileTree

variable {t t' t'' : FileTree} {out p q : Place} {n : String} {bytes : List UInt8}

theorem adds_put (hp : t.entry? p = none) : Adds t (t.put p (.file bytes)) p bytes :=
  ⟨hp, alters_put (by rw [hp]; intro h; cases h)⟩

/-- Generated files come and go at the place: it has such a name, and is not listed as a directory. -/
structure Hidden (t : FileTree) (out q : Place) : Prop where
  generated : ∃ n, IsGenerated n ∧ q = out ++ [n]
  unlisted : (q, Entry.directory) ∉ t.entries

theorem Hidden.ne_directory (h : Hidden t out q) : t.entry? q ≠ some .directory := by
  intro hdir
  obtain ⟨n, -, rfl⟩ := h.generated
  exact h.unlisted (mem_entries_of_eq_some (by simp) hdir)

/-- The trees differ in files of generated names in the directory `out` only. -/
structure Matches (out : Place) (t t' : FileTree) : Prop where
  entry? : ∀ q, t'.entry? q = t.entry? q ∨ Hidden t out q
  listed : ∀ q, (q, Entry.directory) ∈ t'.entries ↔ (q, Entry.directory) ∈ t.entries

theorem Matches.refl (out : Place) (t : FileTree) : Matches out t t where
  entry? := fun _ => .inl rfl
  listed := fun _ => Iff.rfl

theorem Matches.hidden_iff (h : Matches out t t') : Hidden t' out q ↔ Hidden t out q := by
  constructor
  · exact fun hq => ⟨hq.generated, mt (h.listed q).mpr hq.unlisted⟩
  · exact fun hq => ⟨hq.generated, mt (h.listed q).mp hq.unlisted⟩

theorem Matches.symm (h : Matches out t t') : Matches out t' t where
  entry? := fun q => (h.entry? q).imp Eq.symm h.hidden_iff.mpr
  listed := fun q => (h.listed q).symm

theorem Matches.trans (h : Matches out t t') (h' : Matches out t' t'') : Matches out t t'' where
  entry? := fun q => by
    rcases h'.entry? q with heq' | hhidden
    · rw [heq']
      exact h.entry? q
    · exact .inr (h.hidden_iff.mp hhidden)
  listed := fun q => (h'.listed q).trans (h.listed q)

theorem Matches.directory_iff (h : Matches out t t') :
    t'.entry? q = some .directory ↔ t.entry? q = some .directory := by
  rcases h.entry? q with heq | hhidden
  · rw [heq]
  · exact iff_of_false (h.hidden_iff.mpr hhidden).ne_directory hhidden.ne_directory

/-- Directories are no generated files. -/
theorem Matches.entry?_of_directory (h : Matches out t t') (hq : t.entry? q = some .directory) :
    t'.entry? q = t.entry? q := by
  rw [hq]
  exact h.directory_iff.mpr hq

/-- What is looked up is the same, unless it is at the place of a generated file. -/
theorem Matches.look (h : Matches out t t') (working : Place) (l : Location) :
    t'.look working l = t.look working l ∨ Hidden t out (l.place working) ∧
      t.look working l = .ok (t.entry? (l.place working)) ∧
        t'.look working l = .ok (t'.entry? (l.place working)) := by
  rcases look_congr (fun q => h.directory_iff (q := q)) working l with
    ⟨f, hf, hf'⟩ | ⟨he, he'⟩ | ⟨he, he'⟩
  · exact .inl (hf'.trans hf.symm)
  · exact .inl (he'.trans he.symm)
  · rcases h.entry? (l.place working) with heq | hhidden
    · exact .inl (by rw [he, he', heq])
    · exact .inr ⟨hhidden, he, he'⟩

theorem mem_directoriesFrom : q ∈ t.directoriesFrom p ↔
    q = p ∨ (q, Entry.directory) ∈ t.entries ∧ p <+: q ∧ q ≠ p := by
  rw [directoriesFrom, List.mem_cons, List.mem_map]
  refine or_congr_right ⟨?_, ?_⟩
  · rintro ⟨⟨r, e⟩, hx, rfl⟩
    rw [List.mem_filter, Bool.and_eq_true, Bool.and_eq_true, beq_iff_eq, bne_iff_ne,
      List.isPrefixOf_iff_prefix] at hx
    obtain ⟨hmem, ⟨hdir, hpre⟩, hne⟩ := hx
    exact ⟨hdir ▸ hmem, hpre, hne⟩
  · rintro ⟨hmem, hpre, hne⟩
    refine ⟨(q, .directory), List.mem_filter.mpr ⟨hmem, ?_⟩, rfl⟩
    rw [Bool.and_eq_true, Bool.and_eq_true, beq_iff_eq, bne_iff_ne, List.isPrefixOf_iff_prefix]
    exact ⟨⟨rfl, hpre⟩, hne⟩

/-- Writing a generated file. -/
theorem matches_put (hn : IsGenerated n) (hlisted : (out ++ [n], Entry.directory) ∉ t.entries) :
    Matches out t (t.put (out ++ [n]) (.file bytes)) where
  entry? := fun q => by
    rw [entry?_put (by simp)]
    by_cases hq : q = out ++ [n]
    · exact .inr ⟨⟨n, hn, hq⟩, hq ▸ hlisted⟩
    · exact .inl (if_neg hq)
  listed := fun q => by
    rw [put, List.mem_cons, List.mem_filter, bne_iff_ne]
    constructor
    · rintro (h | ⟨h, -⟩)
      · cases (Prod.mk.inj h).2
      · exact h
    · intro h
      refine .inr ⟨h, ?_⟩
      rintro rfl
      exact hlisted h

/-- Removing a generated file, below which nothing is. -/
theorem matches_erase (ht : t.WellFormed) (hn : IsGenerated n)
    (hlisted : (out ++ [n], Entry.directory) ∉ t.entries) :
    Matches out t (t.erase (out ++ [n])) where
  entry? := fun q => by
    have hhidden : Hidden t out (out ++ [n]) := ⟨⟨n, hn, rfl⟩, hlisted⟩
    rw [Alters.entry? (alters_erase ht hhidden.ne_directory)]
    by_cases hq : q = out ++ [n]
    · exact .inr (hq ▸ hhidden)
    · exact .inl (if_neg hq)
  listed := fun q => by
    rw [erase, List.mem_filter]
    refine and_iff_left_of_imp fun h => ?_
    rw [Bool.not_eq_true', ← Bool.not_eq_true, List.isPrefixOf_iff_prefix]
    rintro ⟨r, rfl⟩
    by_cases hr : r = []
    · rw [hr, List.append_nil] at h
      exact hlisted h
    · have hdir := ht.directory_of_append hr (isSome_entry?_of_mem h)
      exact hlisted (mem_entries_of_eq_some (by simp) hdir)

end FileTree

/-! ### Globs -/

namespace Glob

/-- The part describes a name. -/
def Part.describes (n : String) : Part → Bool
  | .anyDepth => false
  | .exact m => m == n
  | .wild pattern => pattern.matchesAll n.toList

/-- The glob leads to no file of a generated name. -/
def Spares (g : Glob) : Prop :=
  ∀ part, g.parts.getLast? = some part → ∀ n, IsGenerated n → part.describes n = false

/-- The standard name of import files is not the name of a generated file. -/
theorem spares_standard {g : Glob} (h : Glob.parse "_Imports.razor" = .ok g) : g.Spares := by
  have hparse : Glob.parse "_Imports.razor" = .ok ⟨[.exact "_Imports.razor"], false⟩ := rfl
  obtain rfl := Except.ok.inj (hparse.symm.trans h)
  intro part hpart n hn
  obtain rfl := Option.some.inj hpart
  obtain ⟨m, rfl⟩ := hn
  -- the one ends in an `r`, the other in an `s`
  refine beq_eq_false_iff_ne.mpr fun hname => ?_
  have hlast := congrArg (fun s => s.toList.getLast?) hname
  simp [Component.unitSuffix] at hlast

section

variable {t t' : FileTree} {out working : Place} {s x : Spot} {next found : List Spot} {part : Part}
  {parts : List Part}

private theorem select_singleton (t : FileTree) (s : Spot) (part : Part) :
    select t s [part] = stepsFrom t s part := by
  rw [select]
  cases stepsFrom t s part with
  | error f => rfl
  | ok next =>
    change (next.mapM (fun y => .ok [y]) >>= fun xs => pure xs.flatten :
      Except FileFault (List Spot)) = .ok next
    rw [mapM_ok]
    change Except.ok (next.map fun y => [y]).flatten = _
    rw [← List.flatMap_def, List.flatMap_singleton']

section

variable {q : Part} {qs : List Part}

/-- On the way are only directories, and the other parts lead on from each of them. -/
private theorem of_select_cons (h : select t s (part :: q :: qs) = .ok found) :
    ∃ next, stepsFrom t s part = .ok next ∧
      (∀ y ∈ next, t.isDirectory y.2 = true → ∃ list, select t y (q :: qs) = .ok list) ∧
      ∀ x, x ∈ found ↔ ∃ y, (y ∈ next ∧ t.isDirectory y.2 = true) ∧
        ∃ list, select t y (q :: qs) = .ok list ∧ x ∈ list := by
  rw [select] at h
  obtain ⟨next, hnext, h⟩ := bind_eq_ok_iff.mp h
  obtain ⟨lists, hlists, h⟩ := bind_eq_ok_iff.mp h
  obtain ⟨hall, hmem⟩ := mapM_spec hlists
  refine ⟨next, hnext, fun y hy hdir => hall y (List.mem_filter.mpr ⟨hy, hdir⟩), fun x => ?_⟩
  rw [← Except.ok.inj h, List.mem_flatten]
  constructor
  · rintro ⟨list, hlist, hx⟩
    obtain ⟨y, hy, hselect⟩ := (hmem list).mp hlist
    exact ⟨y, List.mem_filter.mp hy, list, hselect, hx⟩
  · rintro ⟨y, hy, list, hselect, hx⟩
    exact ⟨list, (hmem list).mpr ⟨y, List.mem_filter.mpr hy, hselect⟩, hx⟩

private theorem exists_select_cons (hnext : stepsFrom t s part = .ok next)
    (hall : ∀ y, y ∈ next ∧ t.isDirectory y.2 = true → ∃ list, select t y (q :: qs) = .ok list) :
    ∃ found, select t s (part :: q :: qs) = .ok found := by
  obtain ⟨lists, hlists⟩ := exists_mapM_eq_ok fun y hy => hall y (List.mem_filter.mp hy)
  refine ⟨lists.flatten, ?_⟩
  rw [select]
  exact bind_eq_ok_iff.mpr ⟨next, hnext, bind_eq_ok_iff.mpr ⟨lists, hlists, rfl⟩⟩

end

/-- A part that describes names leads one name further. -/
private theorem mem_stepsFrom_wild (ht : t.WellFormed) {pattern : Pattern}
    (h : stepsFrom t s (.wild pattern) = .ok next) : x ∈ next ↔
      ∃ m, pattern.matchesAll m.toList = true ∧ m ≠ ".." ∧ x = further s m ∧
        (t.entry? x.2).isSome := by
  rw [stepsFrom] at h
  rw [← Except.ok.inj h, List.mem_map]
  constructor
  · rintro ⟨m, hm, rfl⟩
    obtain ⟨hm, hmatch⟩ := List.mem_filter.mp hm
    have hsome := FileTree.mem_namesIn.mp hm
    have hdots := (ht.names _ hsome m (by simp)).ne_dots
    refine ⟨m, hmatch, hdots, rfl, ?_⟩
    rwa [further, Place.follow_of_ne hdots]
  · rintro ⟨m, hmatch, hdots, rfl, hsome⟩
    rw [further, Place.follow_of_ne hdots] at hsome
    exact ⟨m, List.mem_filter.mpr ⟨FileTree.mem_namesIn.mpr hsome, hmatch⟩, rfl⟩

/-- A given name leads one name further. -/
private theorem mem_stepsFrom_exact {m : String} (h : stepsFrom t s (.exact m) = .ok next) :
    x ∈ next ↔ x = further s m ∧ (t.entry? x.2).isSome := by
  rw [stepsFrom] at h
  split at h
  · cases h
  · rw [← Except.ok.inj h]
    split
    · next hsome =>
      rw [List.mem_singleton]
      exact ⟨fun hx => ⟨hx, hx ▸ hsome⟩, fun hx => hx.1⟩
    · next hnone =>
      refine ⟨fun hx => absurd hx List.not_mem_nil, ?_⟩
      rintro ⟨rfl, hsome⟩
      exact absurd hsome hnone

private theorem mem_stepsFrom_anyDepth (h : stepsFrom t s .anyDepth = .ok next) :
    x ∈ next ↔ ∃ p ∈ t.directoriesFrom s.2, x = (s.1.join (p.drop s.2.length), p) := by
  rw [stepsFrom] at h
  rw [← Except.ok.inj h, directoriesBelow, List.mem_map]
  exact exists_congr fun p => and_congr_right fun _ => eq_comm

/-- A part leads to the place of its location. -/
private theorem place_of_mem_stepsFrom (ht : t.WellFormed) (hs : s.1.place working = s.2)
    (h : stepsFrom t s part = .ok next) (hx : x ∈ next) : x.1.place working = x.2 := by
  have hfurther : ∀ m, (further s m).1.place working = (further s m).2 := by
    intro m
    rw [further, Location.place_join, hs]
    rfl
  cases part with
  | anyDepth =>
    obtain ⟨p, hp, rfl⟩ := (mem_stepsFrom_anyDepth h).mp hx
    rw [Location.place_join, hs]
    rcases FileTree.mem_directoriesFrom.mp hp with rfl | ⟨hmem, ⟨r, rfl⟩, -⟩
    · rw [List.drop_length]
      rfl
    · rw [List.drop_left]
      refine Place.foldl_follow (fun n hn => ?_) _
      exact (ht.names _ (FileTree.isSome_entry?_of_mem hmem) n (List.mem_append_right _ hn)).ne_dots
  | exact m =>
    rw [((mem_stepsFrom_exact h).mp hx).1]
    exact hfurther m
  | wild pattern =>
    obtain ⟨m, -, -, rfl, -⟩ := (mem_stepsFrom_wild ht h).mp hx
    exact hfurther m

/-- Parts lead to the places of their locations. -/
private theorem place_of_mem_select (ht : t.WellFormed) (hs : s.1.place working = s.2)
    (h : select t s parts = .ok found) (hx : x ∈ found) : x.1.place working = x.2 := by
  induction parts generalizing s found with
  | nil =>
    rw [select] at h
    rw [← Except.ok.inj h] at hx
    rw [List.mem_singleton.mp hx]
    exact hs
  | cons part parts ih =>
    cases parts with
    | nil =>
      rw [select_singleton] at h
      exact place_of_mem_stepsFrom ht hs h hx
    | cons q qs =>
      obtain ⟨next, hnext, -, hmem⟩ := of_select_cons h
      obtain ⟨y, ⟨hy, -⟩, list, hselect, hx⟩ := (hmem x).mp hx
      exact ih (place_of_mem_stepsFrom ht hs hnext hy) hselect hx

variable (ht : t.WellFormed) (ht' : t'.WellFormed) (h : FileTree.Matches out t t')

include ht h

/-- A part that describes no generated name leads to no generated file. -/
private theorem entry?_of_mem_stepsFrom (hspares : ∀ n, IsGenerated n → part.describes n = false)
    (hs : t.entry? s.2 = some .directory) (hnext : stepsFrom t s part = .ok next) (hx : x ∈ next) :
    t'.entry? x.2 = t.entry? x.2 := by
  have hfurther : ∀ m, (∀ n, IsGenerated n → n ≠ m) →
      t'.entry? (further s m).2 = t.entry? (further s m).2 := by
    intro m hm
    refine (h.entry? _).resolve_right fun hhidden => ?_
    obtain ⟨n, hn, hplace⟩ := hhidden.generated
    rw [further] at hplace
    by_cases hdots : m = ".."
    · -- one step back from a directory there is another one
      refine hhidden.ne_directory ?_
      rw [further, hdots, show s.2.follow ".." = s.2.dropLast from rfl]
      exact ht.directory_dropLast hs
    · rw [Place.follow_of_ne hdots] at hplace
      exact hm n hn (List.cons.inj (List.append_inj' hplace rfl).2).1.symm
  cases part with
  | anyDepth =>
    obtain ⟨p, hp, rfl⟩ := (mem_stepsFrom_anyDepth hnext).mp hx
    rcases FileTree.mem_directoriesFrom.mp hp with rfl | ⟨hmem, -, -⟩
    · exact h.entry?_of_directory hs
    · exact (h.entry? p).resolve_right fun hhidden => hhidden.unlisted hmem
  | exact m =>
    rw [((mem_stepsFrom_exact hnext).mp hx).1]
    refine hfurther m fun n hn hnm => ?_
    exact absurd (beq_iff_eq.mpr hnm.symm) (Bool.eq_false_iff.mp (hspares n hn))
  | wild pattern =>
    obtain ⟨m, hmatch, -, rfl, -⟩ := (mem_stepsFrom_wild ht hnext).mp hx
    refine hfurther m ?_
    rintro n hn rfl
    exact absurd hmatch (Bool.eq_false_iff.mp (hspares n hn))

/-- Parts of which the last one describes no generated name lead to no generated file. -/
private theorem entry?_of_mem_select (hlast : ∀ part, parts.getLast? = some part →
    ∀ n, IsGenerated n → part.describes n = false) (hs : t.entry? s.2 = some .directory)
    (hfound : select t s parts = .ok found) (hx : x ∈ found) : t'.entry? x.2 = t.entry? x.2 := by
  induction parts generalizing s found with
  | nil =>
    rw [select] at hfound
    rw [← Except.ok.inj hfound] at hx
    rw [List.mem_singleton.mp hx]
    exact h.entry?_of_directory hs
  | cons part parts ih =>
    cases parts with
    | nil =>
      rw [select_singleton] at hfound
      exact entry?_of_mem_stepsFrom ht h (hlast part rfl) hs hfound hx
    | cons q qs =>
      obtain ⟨next, -, -, hmem⟩ := of_select_cons hfound
      obtain ⟨y, ⟨-, hdir⟩, list, hselect, hx⟩ := (hmem x).mp hx
      refine ih (fun part hpart => hlast part ?_) (beq_iff_eq.mp hdir) hselect hx
      rwa [List.getLast?_cons_cons]

include ht'

/-- A part leads to the same in both trees, generated files apart. -/
private theorem stepsFrom_of_matches (hnext : stepsFrom t s part = .ok next) :
    ∃ next', stepsFrom t' s part = .ok next' ∧
      ∀ x : Spot, t'.entry? x.2 = t.entry? x.2 → (x ∈ next' ↔ x ∈ next) := by
  cases part with
  | anyDepth =>
    refine ⟨_, rfl, fun x _ => ?_⟩
    rw [mem_stepsFrom_anyDepth hnext, mem_stepsFrom_anyDepth rfl]
    refine exists_congr fun p => and_congr_left fun _ => ?_
    rw [FileTree.mem_directoriesFrom, FileTree.mem_directoriesFrom, h.listed]
  | exact m =>
    have hshort : ¬ FileTree.maxNameBytes < m.utf8ByteSize := by
      intro hlong
      rw [stepsFrom, if_pos hlong] at hnext
      cases hnext
    have hnext' : ∃ next', stepsFrom t' s (.exact m) = .ok next' := by
      rw [stepsFrom, if_neg hshort]
      exact ⟨_, rfl⟩
    obtain ⟨next', hnext'⟩ := hnext'
    refine ⟨next', hnext', fun x hx => ?_⟩
    rw [mem_stepsFrom_exact hnext, mem_stepsFrom_exact hnext', hx]
  | wild pattern =>
    refine ⟨_, rfl, fun x hx => ?_⟩
    rw [mem_stepsFrom_wild ht hnext, mem_stepsFrom_wild ht' rfl, hx]

/-- **Parts lead to the same in both trees**, generated files apart. -/
theorem select_of_matches (hfound : select t s parts = .ok found) :
    ∃ found', select t' s parts = .ok found' ∧
      ∀ x : Spot, t'.entry? x.2 = t.entry? x.2 → (x ∈ found' ↔ x ∈ found) := by
  induction parts generalizing s found with
  | nil =>
    rw [select] at hfound
    refine ⟨[s], by rw [select], fun x _ => ?_⟩
    rw [← Except.ok.inj hfound]
  | cons part parts ih =>
    cases parts with
    | nil =>
      rw [select_singleton] at hfound ⊢
      exact stepsFrom_of_matches ht ht' h hfound
    | cons q qs =>
      obtain ⟨next, hnext, hall, hmem⟩ := of_select_cons hfound
      obtain ⟨next', hnext', hsame⟩ := stepsFrom_of_matches ht ht' h hnext
      -- both trees have the same directories, and only they are gone on from
      have hahead : ∀ y, y ∈ next' ∧ t'.isDirectory y.2 = true ↔
          y ∈ next ∧ t.isDirectory y.2 = true := by
        intro y
        rw [FileTree.isDirectory, FileTree.isDirectory, beq_iff_eq, beq_iff_eq, h.directory_iff]
        exact and_congr_left fun hdir => hsame y (h.entry?_of_directory hdir)
      have hrest : ∀ y, y ∈ next ∧ t.isDirectory y.2 = true → ∃ list list',
          select t y (q :: qs) = .ok list ∧ select t' y (q :: qs) = .ok list' ∧
            ∀ x : Spot, t'.entry? x.2 = t.entry? x.2 → (x ∈ list' ↔ x ∈ list) := by
        rintro y ⟨hy, hdir⟩
        obtain ⟨list, hselect⟩ := hall y hy hdir
        obtain ⟨list', hselect', hiff⟩ := ih hselect
        exact ⟨list, list', hselect, hselect', hiff⟩
      obtain ⟨found', hfound'⟩ : ∃ found', select t' s (part :: q :: qs) = .ok found' := by
        refine exists_select_cons hnext' fun y hy => ?_
        obtain ⟨-, list', -, hselect', -⟩ := hrest y ((hahead y).mp hy)
        exact ⟨list', hselect'⟩
      refine ⟨found', hfound', fun x hx => ?_⟩
      obtain ⟨next'', hnext'', -, hmem'⟩ := of_select_cons hfound'
      obtain rfl := Except.ok.inj (hnext'.symm.trans hnext'')
      rw [hmem, hmem']
      refine exists_congr fun y => ?_
      rw [hahead]
      refine and_congr_right fun hy => ?_
      obtain ⟨list, list', hselect, hselect', hiff⟩ := hrest y hy
      rw [hselect, hselect']
      simp only [Except.ok.injEq, exists_eq_left', hiff x hx]

omit ht ht' h in
private theorem filesBelow_eq {g : Glob} {root : Location}
    (h : t.look working root = .ok (some .directory)) : g.filesBelow t working root =
      (select t (root, root.place working) (.anyDepth :: g.parts)).map fun found =>
        if g.directoriesOnly then [] else Import.dedupFrom []
          (((found.filter fun x => t.isFile x.2).map (·.1)).mergeSort Location.le) := by
  rw [filesBelow, h]
  rfl

omit ht ht' h in
/-- Locations in order are known by their members. -/
theorem eq_of_mem_iff {ls ms : List Location} (hl : ls.Nodup) (hm : ms.Nodup)
    (hl' : ls.Pairwise fun a b => Location.le a b = true)
    (hm' : ms.Pairwise fun a b => Location.le a b = true) (h : ∀ m, m ∈ ls ↔ m ∈ ms) : ls = ms :=
  ((List.perm_ext_iff_of_nodup hl hm).mpr h).eq_of_pairwise (fun _ _ _ _ => Location.le_antisymm)
    hl' hm'

omit ht ht' h in
/-- Sorted, and each once, locations are known by their members. -/
private theorem dedupFrom_mergeSort_congr {ls ms : List Location} (h : ∀ m, m ∈ ls ↔ m ∈ ms) :
    Import.dedupFrom [] (ls.mergeSort Location.le) = Import.dedupFrom [] (ms.mergeSort Location.le) := by
  refine eq_of_mem_iff (Import.nodup_dedupFrom _ _) (Import.nodup_dedupFrom _ _)
    (pairwise_dedupFrom_mergeSort ls) (pairwise_dedupFrom_mergeSort ms) fun m => ?_
  rw [Import.mem_dedupFrom, Import.mem_dedupFrom, List.mem_mergeSort, List.mem_mergeSort, h]

/-- From a directory a glob that describes no generated name leads to the same files. -/
private theorem filesBelow_of_matches_directory {g : Glob} (hg : g.Spares) {root : Location}
    {ls : List Location} (hlook : t.look working root = .ok (some .directory))
    (hlook' : t'.look working root = .ok (some .directory))
    (hls : g.filesBelow t working root = .ok ls) : g.filesBelow t' working root = .ok ls ∧
      ∀ m ∈ ls, t'.entry? (m.place working) = t.entry? (m.place working) := by
  have hlast : ∀ part, (Part.anyDepth :: g.parts).getLast? = some part →
      ∀ n, IsGenerated n → part.describes n = false := by
    intro part hpart n hn
    cases hparts : g.parts with
    | nil =>
      rw [hparts] at hpart
      rw [← Option.some.inj hpart]
      rfl
    | cons q qs =>
      rw [hparts, List.getLast?_cons_cons, ← hparts] at hpart
      exact hg part hpart n hn
  obtain ⟨-, hdir⟩ := FileTree.entry?_of_look hlook
  obtain ⟨-, hdir'⟩ := FileTree.entry?_of_look hlook'
  rw [filesBelow_eq hlook] at hls
  obtain ⟨found, hfound, hls⟩ := map_eq_ok_iff.mp hls
  obtain ⟨found', hfound', hsame⟩ := select_of_matches ht ht' h hfound
  have hseen : ∀ x ∈ found, t'.entry? x.2 = t.entry? x.2 :=
    fun x hx => entry?_of_mem_select ht h hlast hdir hfound hx
  have hseen' : ∀ x ∈ found', t'.entry? x.2 = t.entry? x.2 :=
    fun x hx => (entry?_of_mem_select ht' h.symm hlast hdir' hfound' hx).symm
  have hfiles : ∀ m, m ∈ (found'.filter fun x => t'.isFile x.2).map (·.1) ↔
      m ∈ (found.filter fun x => t.isFile x.2).map (·.1) := by
    intro m
    rw [List.mem_map, List.mem_map]
    refine exists_congr fun x => and_congr_left fun _ => ?_
    rw [List.mem_filter, List.mem_filter, FileTree.isFile, FileTree.isFile]
    constructor
    · rintro ⟨hx, hfile⟩
      rw [hseen' x hx] at hfile
      exact ⟨(hsame x (hseen' x hx)).mp hx, hfile⟩
    · rintro ⟨hx, hfile⟩
      rw [← hseen x hx] at hfile
      exact ⟨(hsame x (hseen x hx)).mpr hx, hfile⟩
  rw [filesBelow_eq hlook', hfound', Except.map, dedupFrom_mergeSort_congr hfiles, hls]
  refine ⟨rfl, fun m hm => ?_⟩
  rw [← hls] at hm
  split at hm
  · exact absurd hm List.not_mem_nil
  · obtain ⟨hm, -⟩ := Import.mem_dedupFrom.mp hm
    obtain ⟨x, hx, rfl⟩ := List.mem_map.mp (List.mem_mergeSort.mp hm)
    obtain ⟨hx, -⟩ := List.mem_filter.mp hx
    rw [place_of_mem_select ht rfl hfound hx]
    exact hseen x hx

/-- **A glob that describes no generated name leads to the same files**, which are the same in both
trees. -/
theorem filesBelow_of_matches {g : Glob} (hg : g.Spares) {root : Location} {ls : List Location}
    (hls : g.filesBelow t working root = .ok ls) : g.filesBelow t' working root = .ok ls ∧
      ∀ m ∈ ls, t'.entry? (m.place working) = t.entry? (m.place working) := by
  -- from anything but a directory there are no files
  have hnone : ∀ {e e' : Option Entry}, t.look working root = .ok e → t'.look working root = .ok e' →
      e ≠ some .directory → e' ≠ some .directory → g.filesBelow t' working root = .ok ls ∧
        ∀ m ∈ ls, t'.entry? (m.place working) = t.entry? (m.place working) := by
    intro e e' he he' hne hne'
    rw [filesBelow_of_ne he hne] at hls
    rw [filesBelow_of_ne he' hne', ← Except.ok.inj hls]
    exact ⟨rfl, fun m hm => absurd hm List.not_mem_nil⟩
  rcases h.look working root with hlook' | ⟨hhidden, he, he'⟩
  · cases hlook : t.look working root with
    | error f =>
      rw [filesBelow, hlook] at hls
      cases hls
    | ok e =>
      rw [hlook] at hlook'
      by_cases hdir : e = some .directory
      · subst hdir
        exact filesBelow_of_matches_directory ht ht' h hg hlook hlook' hls
      · exact hnone hlook hlook' hdir hdir
  · exact hnone he he' hhidden.ne_directory (h.hidden_iff.mpr hhidden).ne_directory

end

end Glob

/-! ### Sources -/

namespace Sources

variable {t t' : FileTree} {out working : Place} {l : Location} {name : String}

/-- What is the same at the place is loaded the same. -/
private theorem load_congr (h : t'.entry? (l.place working) = t.entry? (l.place working)) :
    load t' working l = load t working l := by
  rw [load, load, FileTree.readText, FileTree.readText, FileTree.read, FileTree.read, h]

private theorem isDirectory_of_matches (h : FileTree.Matches out t t') :
    isDirectory t' working l = isDirectory t working l := by
  rw [isDirectory, isDirectory]
  rcases h.look working l with hlook | ⟨hhidden, he, he'⟩
  · rw [hlook]
  · have hne := beq_eq_false_iff_ne.mpr hhidden.ne_directory
    have hne' := beq_eq_false_iff_ne.mpr (h.hidden_iff.mpr hhidden).ne_directory
    rw [he, he', Except.map, Except.map, hne, hne']

/-- What is a file of a generated name is no document. -/
private theorem isDocument_of_look (ht : t.WellFormed) (hworking : t.entry? working = some .directory)
    {bytes : List UInt8} (hlook : t.look working l = .ok (some (.file bytes))) {n : String}
    (hn : IsGenerated n) (hplace : l.place working = out ++ [n]) : isDocument l = false := by
  obtain ⟨hpass, hentry⟩ := FileTree.entry?_of_look hlook
  obtain ⟨m, hparent, hname⟩ :=
    Survey.place_parent ht hworking hpass (FileTree.isFile_iff.mpr ⟨bytes, hentry⟩)
  rw [hplace] at hparent
  obtain rfl := (List.cons.inj (List.append_inj' hparent rfl).2).1
  rw [← hn.not_isMarkdown out, Place.isMarkdown, isDocument, isDocument, Location.suffix,
    Location.suffix, hname, Location.ofPlace, List.getLast?_concat]

private theorem documentFiles_of_none (h : t.look working l = .ok none) :
    documentFiles t working l = .ok [] := by
  rw [documentFiles, isFile, h]
  exact map_eq_ok_iff.mpr ⟨[], Glob.filesBelow_of_ne h (fun h => by cases h), rfl⟩

private theorem documentFiles_of_file {bytes : List UInt8}
    (h : t.look working l = .ok (some (.file bytes))) :
    documentFiles t working l = .ok (if isDocument l then [l] else []) := by
  rw [documentFiles, isFile, h]
  rfl

/-- There are no documents where a generated file comes and goes. -/
private theorem documentFiles_of_hidden (ht : t.WellFormed)
    (hworking : t.entry? working = some .directory) (hhidden : t.Hidden out (l.place working))
    (hlook : t.look working l = .ok (t.entry? (l.place working))) :
    documentFiles t working l = .ok [] := by
  cases hentry : t.entry? (l.place working) with
  | none => exact documentFiles_of_none (hlook.trans (congrArg _ hentry))
  | some e =>
    cases e with
    | directory => exact absurd hentry hhidden.ne_directory
    | file bytes =>
      obtain ⟨n, hn, hplace⟩ := hhidden.generated
      have hbytes := hlook.trans (congrArg _ hentry)
      rw [documentFiles_of_file hbytes, isDocument_of_look ht hworking hbytes hn hplace]
      rfl

variable (ht : t.WellFormed) (ht' : t'.WellFormed) (h : FileTree.Matches out t t')

include ht ht' h

/-- **The import files are the same.** -/
theorem imports_of_matches (hname : ∀ g, Glob.parse name = .ok g → g.Spares) {es : List ImportEntry}
    (hes : imports t working l name = .ok es) : imports t' working l name = .ok es := by
  obtain ⟨ls, hls, hes⟩ := bind_eq_ok_iff.mp hes
  obtain ⟨base, hbase, hls⟩ := bind_eq_ok_iff.mp hls
  obtain ⟨g, hg, hls⟩ := bind_eq_ok_iff.mp hls
  obtain ⟨hfiles, hseen⟩ := Glob.filesBelow_of_matches ht ht' h (hname g (mapError_eq_ok_iff.mp hg))
    (mapError_eq_ok_iff.mp hls)
  have himports : importFiles t' working l name = .ok ls := by
    refine bind_eq_ok_iff.mpr ⟨base, ?_, bind_eq_ok_iff.mpr ⟨g, hg, mapError_eq_ok_iff.mpr hfiles⟩⟩
    rw [baseOf, isDirectory_of_matches h]
    exact hbase
  refine bind_eq_ok_iff.mpr ⟨ls, himports, ?_⟩
  rw [mapM_congr fun m hm => congrArg (Except.mapError SourceFault.file) (load_congr (hseen m hm))]
  exact hes

omit ht ht' in
/-- At the place of a document is the same. -/
private theorem entry?_of_isDocument {q r : Place} (hq : q ≠ [])
    (hdoc : isDocument (l.join q) = true) : t'.entry? (r ++ q) = t.entry? (r ++ q) := by
  refine (h.entry? _).resolve_right fun hhidden => ?_
  obtain ⟨n, hn, hplace⟩ := hhidden.generated
  rw [isDocument_join hq l r, hplace, hn.not_isMarkdown] at hdoc
  cases hdoc

/-- The files below a directory are the same but for generated ones, and in order in both trees. -/
private theorem filter_filesOf_of_matches {r : Place} (hr : t.entry? r = some .directory) :
    (Glob.filesOf t' (l, r)).filter isDocument = (Glob.filesOf t (l, r)).filter isDocument := by
  refine Glob.eq_of_mem_iff ((Glob.nodup_filesOf _ _).filter _) ((Glob.nodup_filesOf _ _).filter _)
    ((Glob.pairwise_filesOf _ _).filter _) ((Glob.pairwise_filesOf _ _).filter _) fun m => ?_
  rw [List.mem_filter, List.mem_filter, Glob.mem_filesOf ht' (h.directory_iff.mpr hr),
    Glob.mem_filesOf ht hr]
  refine and_congr_left fun hdoc => exists_congr fun q => and_congr_right fun hq =>
    and_congr_right ?_
  rintro rfl
  rw [FileTree.isFile, FileTree.isFile, entry?_of_isDocument h hq hdoc]

/-- Below a directory the files of the documents are the same, and so is what is in them. -/
private theorem documentFiles_of_matches_directory {ls : List Location}
    (hlook : t.look working l = .ok (some .directory))
    (hlook' : t'.look working l = .ok (some .directory))
    (hls : documentFiles t working l = .ok ls) : documentFiles t' working l = .ok ls ∧
      ∀ m ∈ ls, t'.entry? (m.place working) = t.entry? (m.place working) := by
  have hdir : isDirectory t working l = .ok true := by
    rw [isDirectory, hlook]
    rfl
  have hdir' : isDirectory t' working l = .ok true := by
    rw [isDirectory, hlook']
    rfl
  obtain ⟨-, hentry⟩ := FileTree.entry?_of_look hlook
  rw [documentFiles_of_directory hdir] at hls
  rw [documentFiles_of_directory hdir', filter_filesOf_of_matches ht ht' h hentry]
  refine ⟨hls, fun m hm => ?_⟩
  rw [← Except.ok.inj hls] at hm
  obtain ⟨hm, hdoc⟩ := List.mem_filter.mp hm
  obtain ⟨q, hq, rfl, hqfile⟩ := (Glob.mem_filesOf ht hentry).mp hm
  rw [place_join ht hqfile]
  exact entry?_of_isDocument h hq hdoc

variable (hworking : t.entry? working = some .directory)

include hworking

/-- The files of the documents are the same, and so is what is in them. -/
private theorem documentFiles_of_matches {ls : List Location}
    (hls : documentFiles t working l = .ok ls) : documentFiles t' working l = .ok ls ∧
      ∀ m ∈ ls, t'.entry? (m.place working) = t.entry? (m.place working) := by
  rcases h.look working l with hlook' | ⟨hhidden, he, he'⟩
  · cases hlook : t.look working l with
    | error f =>
      rw [documentFiles, isFile, hlook] at hls
      cases hls
    | ok e =>
      rw [hlook] at hlook'
      cases e with
      | none =>
        rw [documentFiles_of_none hlook] at hls
        rw [documentFiles_of_none hlook', ← Except.ok.inj hls]
        exact ⟨rfl, fun m hm => absurd hm List.not_mem_nil⟩
      | some e =>
        obtain ⟨-, hentry⟩ := FileTree.entry?_of_look hlook
        obtain ⟨-, hentry'⟩ := FileTree.entry?_of_look hlook'
        cases e with
        | file bytes =>
          rw [documentFiles_of_file hlook] at hls
          rw [documentFiles_of_file hlook']
          refine ⟨hls, fun m hm => ?_⟩
          rw [← Except.ok.inj hls] at hm
          split at hm
          · rw [List.mem_singleton.mp hm, hentry, hentry']
          · exact absurd hm List.not_mem_nil
        | directory =>
          exact documentFiles_of_matches_directory ht ht' h hlook hlook' hls
  · rw [documentFiles_of_hidden ht hworking hhidden he] at hls
    rw [documentFiles_of_hidden ht' (h.directory_iff.mpr hworking) (h.hidden_iff.mpr hhidden) he',
      ← Except.ok.inj hls]
    exact ⟨rfl, fun m hm => absurd hm List.not_mem_nil⟩

/-- **The documents are the same.** -/
theorem documents_of_matches {ds : List Document} (hds : documents t working l = .ok ds) :
    documents t' working l = .ok ds := by
  obtain ⟨ls, hls, hds⟩ := bind_eq_ok_iff.mp hds
  obtain ⟨hfiles, hseen⟩ := documentFiles_of_matches ht ht' h hworking hls
  refine bind_eq_ok_iff.mpr ⟨ls, hfiles, ?_⟩
  rw [mapM_congr fun m hm => load_congr (hseen m hm)]
  exact hds

end Sources

/-! ### Surveys -/

/-- **A build finds the same in both trees** once the output directory is there. -/
theorem Survey.take_of_matches {t t' : FileTree} {working : Place} {l : Location}
    {settings : Settings} {s : Survey}
    (hready : t.Ready working (.parse settings.outputDirectory))
    (hready' : t'.Ready working (.parse settings.outputDirectory))
    (h : FileTree.Matches ((Location.parse settings.outputDirectory).place working) t t')
    (hworking : t.entry? working = some .directory)
    (hname : ∀ g, Glob.parse settings.importsFile = .ok g → g.Spares)
    (hs : take t working l settings = .ok s) : take t' working l settings = .ok s := by
  obtain ⟨hdir, hconfig, hrender, hscope, himports, hdocuments, hcollision, hmode, hpreset,
    hsweeps⟩ := take_eq_ok_iff.mp hs
  refine take_eq_ok_iff.mpr
    ⟨?_, hconfig, hrender, hscope, ?_, ?_, hcollision, hmode, hpreset, ?_⟩
  · exact (Sources.isDirectory_of_matches h).trans hdir
  · exact Sources.imports_of_matches hready.wellFormed hready'.wellFormed h hname himports
  · exact Sources.documents_of_matches hready.wellFormed hready'.wellFormed h hworking hdocuments
  · rw [hsweeps, sweepsAt, sweepsAt, hready.makeDirectory_eq, hready'.makeDirectory_eq]
    exact (Sources.isDirectory_of_matches h).symm

end Pageworks
