import Pageworks.Proofs.FileTree
import Pageworks.Proofs.Import
import Pageworks.Sources

/-!
# What is found below a directory

A build finds its documents by walking through directories.  What it finds is just what is there:
every document lies below the directory, and every file below it with the extension of documents
is found.  In a well-formed tree the path of what is found leads back to its place.

## Main definitions

* `Place.isMarkdown` — the place has the extension of documents.

## Main results

* `Glob.mem_filesOf` — **every file below a directory is found**, and nothing else.
* `Sources.mem_documents_iff` — the documents of a directory are its markdown files.
* `Sources.documents_of_file` — the only document at a file is the file.
-/

namespace Pageworks

open Pageworks.Text

/-! ### Results in a row -/

section

variable {ε α β : Type}

theorem bind_eq_ok_iff {x : Except ε α} {f : α → Except ε β} {b : β} :
    (x >>= f) = .ok b ↔ ∃ a, x = .ok a ∧ f a = .ok b := by
  constructor
  · intro h
    cases x with
    | error e => cases h
    | ok a => exact ⟨a, rfl, h⟩
  · rintro ⟨a, rfl, hb⟩
    exact hb

theorem map_eq_ok_iff {x : Except ε α} {f : α → β} {b : β} :
    x.map f = .ok b ↔ ∃ a, x = .ok a ∧ f a = b := by
  constructor
  · intro h
    cases x with
    | error e => cases h
    | ok a => exact ⟨a, rfl, Except.ok.inj h⟩
  · rintro ⟨a, rfl, rfl⟩
    rfl

theorem mapError_eq_ok_iff {ε' : Type} {x : Except ε α} {f : ε → ε'} {a : α} :
    x.mapError f = .ok a ↔ x = .ok a := by
  constructor
  · intro h
    cases x with
    | error e => cases h
    | ok b => rw [Except.ok.inj h]
  · rintro rfl
    rfl

theorem map_eq_error_iff {x : Except ε α} {f : α → β} {e : ε} : x.map f = .error e ↔ x = .error e := by
  cases x with
  | error e' => exact ⟨fun h => congrArg Except.error (Except.error.inj h), fun h => congrArg _ h⟩
  | ok a => exact ⟨nofun, nofun⟩

theorem mapError_eq_error_iff {ε' : Type} {x : Except ε α} {f : ε → ε'} {e : ε'} :
    x.mapError f = .error e ↔ ∃ e', x = .error e' ∧ f e' = e := by
  cases x with
  | error e' =>
    constructor
    · intro h
      exact ⟨e', rfl, Except.error.inj h⟩
    · rintro ⟨e'', h, rfl⟩
      rw [Except.error.inj h]
      rfl
  | ok a => exact ⟨nofun, nofun⟩

theorem exists_of_isOk {x : Except ε α} (h : x.isOk = true) : ∃ a, x = .ok a := by
  cases x with
  | error e => cases h
  | ok a => exact ⟨a, rfl⟩

/-- If all results are there, every element has one, and there are no others. -/
theorem mapM_spec {f : α → Except ε β} {as : List α} {bs : List β} (h : as.mapM f = .ok bs) :
    (∀ a ∈ as, ∃ b, f a = .ok b) ∧ ∀ b, b ∈ bs ↔ ∃ a ∈ as, f a = .ok b := by
  induction as generalizing bs with
  | nil =>
    rw [List.mapM_nil] at h
    rw [← Except.ok.inj h]
    simp
  | cons a as ih =>
    rw [List.mapM_cons, bind_eq_ok_iff] at h
    obtain ⟨b, hb, h⟩ := h
    obtain ⟨cs, hcs, h⟩ := bind_eq_ok_iff.mp h
    obtain ⟨hall, hmem⟩ := ih hcs
    rw [← Except.ok.inj h]
    refine ⟨?_, fun x => ?_⟩
    · intro x hx
      rcases List.mem_cons.mp hx with rfl | hx
      · exact ⟨b, hb⟩
      · exact hall x hx
    · rw [List.mem_cons, hmem]
      constructor
      · rintro (rfl | ⟨y, hy, hyx⟩)
        · exact ⟨a, List.mem_cons_self, hb⟩
        · exact ⟨y, List.mem_cons_of_mem _ hy, hyx⟩
      · rintro ⟨y, hy, hyx⟩
        rcases List.mem_cons.mp hy with rfl | hy
        · exact .inl (Except.ok.inj (hyx.symm.trans hb))
        · exact .inr ⟨y, hy, hyx⟩

theorem mapM_congr {f g : α → Except ε β} {as : List α} (h : ∀ a ∈ as, f a = g a) :
    as.mapM f = as.mapM g := by
  induction as with
  | nil => rfl
  | cons a as ih =>
    rw [List.mapM_cons, List.mapM_cons, h a List.mem_cons_self,
      ih fun x hx => h x (List.mem_cons_of_mem _ hx)]

/-- If a row of results fails, one of them does, and with the same error. -/
theorem exists_of_mapM_eq_error {f : α → Except ε β} {as : List α} {e : ε}
    (h : as.mapM f = .error e) : ∃ a ∈ as, f a = .error e := by
  induction as with
  | nil => cases h
  | cons a as ih =>
    rw [List.mapM_cons] at h
    cases hb : f a with
    | error e' =>
      rw [hb] at h
      exact ⟨a, List.mem_cons_self, hb.trans (congrArg _ (Except.error.inj h))⟩
    | ok b =>
      rw [hb] at h
      cases hbs : as.mapM f with
      | error e' =>
        rw [hbs] at h
        obtain ⟨x, hx, hfx⟩ := ih (hbs.trans (congrArg _ (Except.error.inj h)))
        exact ⟨x, List.mem_cons_of_mem _ hx, hfx⟩
      | ok bs => rw [hbs] at h; cases h

/-- If every element has a result, so has the row. -/
theorem exists_mapM_eq_ok {f : α → Except ε β} {as : List α} (h : ∀ a ∈ as, ∃ b, f a = .ok b) :
    ∃ bs, as.mapM f = .ok bs := by
  induction as with
  | nil => exact ⟨[], List.mapM_nil⟩
  | cons a as ih =>
    obtain ⟨b, hb⟩ := h a List.mem_cons_self
    obtain ⟨bs, hbs⟩ := ih fun x hx => h x (List.mem_cons_of_mem _ hx)
    refine ⟨b :: bs, ?_⟩
    rw [List.mapM_cons]
    exact bind_eq_ok_iff.mpr ⟨b, hb, bind_eq_ok_iff.mpr ⟨bs, hbs, rfl⟩⟩

end

/-! ### Every file below a directory -/

/-- A star of any characters describes every text. -/
private theorem matchesAll_star (cs : List Char) :
    Pattern.matchesAll (.star (.one fun _ => true)) cs = true := by
  rw [Pattern.matchesAll]
  induction cs with
  | nil =>
    rw [Pattern.run, Pattern.run]
    rfl
  | cons c cs ih =>
    obtain ⟨u, hu⟩ := Option.isSome_iff_exists.mp ih
    rw [Pattern.run, Pattern.run, if_pos rfl, dif_pos (by simp), hu]
    rfl

namespace FileTree

variable {t : FileTree} {p r : Place} {n : String}

theorem mem_entries_of_eq_some {e : Entry} (hp : p ≠ []) (h : t.entry? p = some e) :
    (p, e) ∈ t.entries := by
  rw [entry?_of_ne_nil hp, List.lookup_eq_some_iff] at h
  obtain ⟨as, bs, hes, -⟩ := h
  rw [hes]
  simp

theorem isSome_entry?_of_mem {x : Place × Entry} (h : x ∈ t.entries) :
    (t.entry? x.1).isSome := by
  by_cases hp : x.1 = []
  · rw [hp]
    rfl
  · rw [entry?_of_ne_nil hp, List.lookup_isSome_iff]
    exact ⟨x, h, beq_self_eq_true _⟩

theorem mem_namesIn : n ∈ t.namesIn p ↔ (t.entry? (p ++ [n])).isSome := by
  rw [namesIn, List.mem_filterMap]
  constructor
  · rintro ⟨x, hx, hlast⟩
    split at hlast
    · next h =>
      rw [Bool.and_eq_true, beq_iff_eq, List.isPrefixOf_iff_prefix] at h
      obtain ⟨hlen, q, hq⟩ := h
      rw [← hq, List.length_append, Nat.add_left_cancel_iff, List.length_eq_one_iff] at hlen
      obtain ⟨m, rfl⟩ := hlen
      rw [← hq, List.getLast?_concat, Option.some.injEq] at hlast
      rw [← hlast, hq]
      exact isSome_entry?_of_mem hx
    · cases hlast
  · intro h
    obtain ⟨e, he⟩ := Option.isSome_iff_exists.mp h
    refine ⟨(p ++ [n], e), mem_entries_of_eq_some (by simp) he, ?_⟩
    rw [if_pos (by simp), List.getLast?_concat]

/-- The directories at a place and below it. -/
theorem mem_filter_directoriesFrom (hr : t.entry? r = some .directory) :
    p ∈ (t.directoriesFrom r).filter t.isDirectory ↔ r <+: p ∧ t.entry? p = some .directory := by
  rw [List.mem_filter, isDirectory, beq_iff_eq, directoriesFrom, List.mem_cons, List.mem_map]
  constructor
  · rintro ⟨rfl | ⟨x, hx, rfl⟩, hdir⟩
    · exact ⟨List.prefix_refl p, hdir⟩
    · rw [List.mem_filter, Bool.and_eq_true, Bool.and_eq_true, List.isPrefixOf_iff_prefix] at hx
      exact ⟨hx.2.1.2, hdir⟩
  · rintro ⟨hpre, hdir⟩
    refine ⟨?_, hdir⟩
    by_cases hp : p = r
    · exact .inl hp
    · refine .inr ⟨(p, .directory), List.mem_filter.mpr ⟨mem_entries_of_eq_some ?_ hdir, ?_⟩, rfl⟩
      · rintro rfl
        exact hp (List.prefix_nil.mp hpre).symm
      · simpa using ⟨hpre, hp⟩

end FileTree

namespace Glob

variable {t : FileTree} {working : Place} {root l : Location}

theorem mapM_ok {α β : Type} (f : α → β) (as : List α) :
    as.mapM (fun a => (.ok (f a) : Except FileFault β)) = .ok (as.map f) :=
  List.mapM_pure

/-- From a directory, the pattern of any name leads to what is in it. -/
private theorem select_anyName (s : Spot) :
    select t s Sources.everything.parts = .ok ((t.namesIn s.2).map (further s)) := by
  have hall : (t.namesIn s.2).filter
      (fun n => Pattern.matchesAll (.star (.one fun _ => true)) n.toList) = t.namesIn s.2 :=
    List.filter_eq_self.mpr fun n _ => matchesAll_star _
  rw [Sources.everything, select, stepsFrom, hall]
  change (((t.namesIn s.2).map (further s)).mapM (fun x => .ok [x]) >>= fun xs =>
    pure xs.flatten : Except FileFault (List Spot)) = _
  rw [mapM_ok]
  change Except.ok _ = _
  rw [← List.flatMap_def, List.flatMap_singleton']

/-- From a directory, the glob of every file leads one name further than the directories at it and
below it. -/
private theorem select_everything (s : Spot) :
    select t s (.anyDepth :: Sources.everything.parts) =
      .ok (((directoriesBelow t s).filter fun x => t.isDirectory x.2).flatMap fun x =>
        (t.namesIn x.2).map (further x)) := by
  rw [select, stepsFrom]
  simp only [select_anyName]
  change (((directoriesBelow t s).filter fun x => t.isDirectory x.2).mapM
    (fun x => .ok ((t.namesIn x.2).map (further x))) >>= fun xs =>
    pure xs.flatten : Except FileFault (List Spot)) = _
  rw [mapM_ok]
  change Except.ok _ = _
  rw [← List.flatMap_def]

private theorem join_join (l : Location) (ms ns : List String) :
    (l.join ms).join ns = l.join (ms ++ ns) := by
  rw [Location.join, Location.join, Location.join, List.append_assoc]

/-- The spots that the glob of every file leads to: the names that lie on the way, and the place
that they lead to. -/
private theorem mem_found {r : Place} {x : Spot} (ht : t.WellFormed)
    (hr : t.entry? r = some .directory) :
    x ∈ (((directoriesBelow t (root, r)).filter fun y => t.isDirectory y.2).flatMap fun y =>
        (t.namesIn y.2).map (further y)) ↔
      ∃ q, q ≠ [] ∧ x = (root.join q, r ++ q) ∧ (t.entry? (r ++ q)).isSome := by
  rw [List.mem_flatMap]
  constructor
  · rintro ⟨y, hy, hx⟩
    obtain ⟨n, hn, rfl⟩ := List.mem_map.mp hx
    rw [List.mem_filter, directoriesBelow] at hy
    obtain ⟨hy, hdir⟩ := hy
    obtain ⟨d, hd, rfl⟩ := List.mem_map.mp hy
    obtain ⟨⟨q, rfl⟩, -⟩ :=
      (FileTree.mem_filter_directoriesFrom hr).mp (List.mem_filter.mpr ⟨hd, hdir⟩)
    have hsome := FileTree.mem_namesIn.mp hn
    have hproper := ht.names _ hsome n (by simp)
    refine ⟨q ++ [n], by simp, ?_, by rwa [← List.append_assoc]⟩
    rw [further, List.drop_left, join_join, Place.follow_of_ne hproper.ne_dots,
      List.append_assoc]
  · rintro ⟨q, hq, rfl, hsome⟩
    -- the spot is one name further than the directory that the last name stands in
    obtain ⟨ns, n, rfl⟩ := (List.eq_nil_or_concat' q).resolve_left hq
    rw [← List.append_assoc] at hsome
    have hproper := ht.names _ hsome n (by simp)
    have hdir := ht.parents _ _ hsome
    have hmem := (FileTree.mem_filter_directoriesFrom hr).mpr ⟨⟨ns, rfl⟩, hdir⟩
    rw [List.mem_filter] at hmem
    refine ⟨(root.join ns, r ++ ns), ?_, ?_⟩
    · rw [List.mem_filter, directoriesBelow]
      refine ⟨List.mem_map.mpr ⟨r ++ ns, hmem.1, ?_⟩, hmem.2⟩
      rw [List.drop_left]
    · refine List.mem_map.mpr ⟨n, FileTree.mem_namesIn.mpr hsome, ?_⟩
      rw [further, join_join, Place.follow_of_ne hproper.ne_dots, List.append_assoc]

/-- The files below a directory, name by name. -/
def filesOf (t : FileTree) (s : Spot) : List Location :=
  Import.dedupFrom [] ((((((directoriesBelow t s).filter fun x => t.isDirectory x.2).flatMap
    fun x => (t.namesIn x.2).map (further x)).filter fun x => t.isFile x.2).map (·.1)).mergeSort
      Location.le)

theorem nodup_filesOf (t : FileTree) (s : Spot) : (filesOf t s).Nodup :=
  Import.nodup_dedupFrom _ _

/-- Sorted locations stay in order when only the first of each is kept. -/
theorem pairwise_dedupFrom_mergeSort (ls : List Location) :
    (Import.dedupFrom [] (ls.mergeSort Location.le)).Pairwise fun a b => Location.le a b = true := by
  have hsorted : ∀ ls : List Location,
      (ls.mergeSort Location.le).Pairwise fun a b => Location.le a b = true :=
    List.pairwise_mergeSort (fun a b c => Location.le_trans) Location.le_total
  exact (hsorted ls).sublist (Import.dedupFrom_sublist _ _)

/-- The files below a directory are in order. -/
theorem pairwise_filesOf (t : FileTree) (s : Spot) :
    (filesOf t s).Pairwise fun a b => Location.le a b = true := by
  rw [filesOf]
  exact pairwise_dedupFrom_mergeSort _

/-- The files below a directory, as they are found. -/
def filesFound (t : FileTree) (s : Spot) : List Location :=
  ((((directoriesBelow t s).filter fun x => t.isDirectory x.2).flatMap
    fun x => (t.namesIn x.2).map (further x)).filter fun x => t.isFile x.2).map (·.1)

/-- Files that are found in their order need not be sorted. -/
theorem filesOf_of_pairwise {s : Spot}
    (h : (filesFound t s).Pairwise fun a b => Location.le a b = true) :
    filesOf t s = Import.dedupFrom [] (filesFound t s) := by
  rw [filesFound] at h ⊢
  rw [filesOf, List.mergeSort_of_pairwise h]

/-- The glob of every file asks nothing of a name. -/
theorem filesBelow_everything (hroot : t.look working root = .ok (some .directory)) :
    Sources.everything.filesBelow t working root = .ok (filesOf t (root, root.place working)) := by
  rw [filesBelow, hroot, select_everything]
  exact congrArg Except.ok
    (if_neg (show ¬ Sources.everything.directoriesOnly = true from Bool.false_ne_true))

/-- From anything but a directory a glob leads to no file. -/
theorem filesBelow_of_ne {g : Glob} {e : Option Entry} (h : t.look working root = .ok e)
    (he : e ≠ some .directory) : g.filesBelow t working root = .ok [] := by
  rw [filesBelow, h]
  cases e with
  | none => rfl
  | some e =>
    cases e with
    | directory => exact absurd rfl he
    | file bytes => rfl

/-- **Every file below a directory is found**, and nothing else. -/
theorem mem_filesOf (ht : t.WellFormed) {r : Place} (hr : t.entry? r = some .directory) :
    l ∈ filesOf t (root, r) ↔ ∃ q, q ≠ [] ∧ l = root.join q ∧ t.isFile (r ++ q) = true := by
  rw [filesOf, Import.mem_dedupFrom, List.mem_mergeSort, List.mem_map]
  constructor
  · rintro ⟨⟨x, hx, rfl⟩, -⟩
    obtain ⟨hx, hfile⟩ := List.mem_filter.mp hx
    obtain ⟨q, hq, rfl, -⟩ := (mem_found ht hr).mp hx
    exact ⟨q, hq, rfl, hfile⟩
  · rintro ⟨q, hq, rfl, hfile⟩
    obtain ⟨bytes, hbytes⟩ := FileTree.isFile_iff.mp hfile
    have hsome : (t.entry? (r ++ q)).isSome := by rw [hbytes]; rfl
    exact ⟨⟨_, List.mem_filter.mpr ⟨(mem_found ht hr).mpr ⟨q, hq, rfl, hsome⟩, hfile⟩, rfl⟩,
      List.not_mem_nil⟩

end Glob

/-- The place has the extension of documents. -/
def Place.isMarkdown (p : Place) : Bool := Sources.isDocument (.ofPlace p)

namespace Sources

variable {t : FileTree} {working : Place} {l : Location}

/-- Only the last name counts for the extension. -/
theorem isDocument_join {q : Place} (hq : q ≠ []) (l : Location) (r : Place) :
    isDocument (l.join q) = (r ++ q).isMarkdown := by
  have hlast : ∀ ns : List String, (ns ++ q).getLast? = q.getLast? := by
    intro ns
    rw [List.getLast?_append, Option.or_of_isSome (List.getLast?_isSome.mpr hq)]
  rw [Place.isMarkdown, isDocument, isDocument, Location.suffix, Location.suffix, Location.join,
    Location.ofPlace, hlast, hlast]

theorem look_of_isDirectory (h : isDirectory t working l = .ok true) :
    t.look working l = .ok (some .directory) := by
  obtain ⟨e, he, hdir⟩ := map_eq_ok_iff.mp h
  rw [he, beq_iff_eq.mp hdir]

theorem look_of_isFile (h : isFile t working l = .ok true) :
    ∃ bytes, t.look working l = .ok (some (.file bytes)) := by
  obtain ⟨e, he, hfile⟩ := map_eq_ok_iff.mp h
  split at hfile
  · next bytes => exact ⟨bytes, he⟩
  · cases hfile

/-- What can be read is a file, and is read under the path of its place. -/
theorem place_of_load {x : String × String} (h : load t working l = .ok x) :
    x.1 = (l.place working).text ∧ t.isFile (l.place working) = true := by
  obtain ⟨text, htext, rfl⟩ := map_eq_ok_iff.mp h
  refine ⟨rfl, ?_⟩
  rw [FileTree.readText, FileTree.read] at htext
  split at htext
  · cases htext
  · cases htext
  · next bytes hbytes => exact FileTree.isFile_iff.mpr ⟨bytes, hbytes⟩

/-- Every document is a file that was found. -/
private theorem mem_documents {ds : List Document} (h : documents t working l = .ok ds) :
    ∃ ls, documentFiles t working l = .ok ls ∧
      (∀ d ∈ ds, ∃ m ∈ ls, d.path = (m.place working).text ∧ t.isFile (m.place working) = true) ∧
      ∀ m ∈ ls, ∃ d ∈ ds, d.path = (m.place working).text := by
  rw [documents, bind_eq_ok_iff] at h
  obtain ⟨ls, hls, h⟩ := h
  obtain ⟨xs, hxs, h⟩ := bind_eq_ok_iff.mp h
  obtain ⟨hall, hmem⟩ := mapM_spec hxs
  obtain rfl := Except.ok.inj h
  refine ⟨ls, hls, fun d hd => ?_, fun m hm => ?_⟩
  · obtain ⟨x, hx, rfl⟩ := List.mem_map.mp hd
    obtain ⟨m, hm, hload⟩ := (hmem x).mp hx
    exact ⟨m, hm, place_of_load hload⟩
  · obtain ⟨x, hload⟩ := hall m hm
    exact ⟨⟨x.1, x.2⟩, List.mem_map.mpr ⟨x, (hmem x).mpr ⟨m, hm, hload⟩, rfl⟩,
      (place_of_load hload).1⟩

/-- The documents at a directory are the files below it with their extension. -/
theorem documentFiles_of_directory (hdir : isDirectory t working l = .ok true) :
    documentFiles t working l =
      .ok ((Glob.filesOf t (l, l.place working)).filter isDocument) := by
  have hlook := look_of_isDirectory hdir
  have hfile : isFile t working l = .ok false := by
    rw [isFile, hlook]
    rfl
  rw [documentFiles, hfile, Glob.filesBelow_everything hlook]
  rfl

/-- The documents of a directory, if what is found below it is in order already. -/
theorem documents_of_directory (hdir : isDirectory t working l = .ok true) {ds : List Document}
    (hsorted : (Glob.filesFound t (l, l.place working)).Pairwise
      fun a b => Location.le a b = true)
    (hloaded : ((Import.dedupFrom [] (Glob.filesFound t (l, l.place working))).filter
      isDocument).mapM (load t working) = .ok (ds.map fun d => (d.path, d.text))) :
    documents t working l = .ok ds := by
  rw [← Glob.filesOf_of_pairwise hsorted] at hloaded
  rw [documents, documentFiles_of_directory hdir]
  refine bind_eq_ok_iff.mpr ⟨_, rfl, bind_eq_ok_iff.mpr ⟨_, hloaded, congrArg Except.ok ?_⟩⟩
  rw [List.map_map]
  exact List.map_id _

/-- The location of a file below a place leads there. -/
theorem place_join (ht : t.WellFormed) {q : Place} (hq : t.isFile (l.place working ++ q) = true) :
    (l.join q).place working = l.place working ++ q := by
  rw [Location.place_join]
  refine Place.foldl_follow (fun n hn => ?_) _
  exact (ht.proper_of_isFile hq n (List.mem_append_right _ hn)).ne_dots

/-- **The documents of a directory are its markdown files**, those at every depth. -/
theorem mem_documents_iff (ht : t.WellFormed) (hdir : isDirectory t working l = .ok true)
    {ds : List Document} (h : documents t working l = .ok ds) {path : String} :
    path ∈ ds.map Document.path ↔
      ∃ q, q ≠ [] ∧ t.isFile (l.place working ++ q) = true ∧
        (l.place working ++ q).isMarkdown = true ∧ path = Place.text (l.place working ++ q) := by
  obtain ⟨-, hentry⟩ := FileTree.entry?_of_look (look_of_isDirectory hdir)
  obtain ⟨ls, hls, hdocs, hfiles⟩ := mem_documents h
  rw [documentFiles_of_directory hdir] at hls
  obtain rfl := Except.ok.inj hls
  have hmem : ∀ m, m ∈ Glob.filesOf t (l, l.place working) ↔
      ∃ q, q ≠ [] ∧ m = l.join q ∧ t.isFile (l.place working ++ q) = true :=
    fun m => Glob.mem_filesOf ht hentry
  constructor
  · intro hpath
    obtain ⟨d, hd, rfl⟩ := List.mem_map.mp hpath
    obtain ⟨m, hm, hdpath, -⟩ := hdocs d hd
    obtain ⟨hm, hdoc⟩ := List.mem_filter.mp hm
    obtain ⟨q, hq, rfl, hqfile⟩ := (hmem m).mp hm
    rw [isDocument_join hq l (l.place working)] at hdoc
    rw [place_join ht hqfile] at hdpath
    exact ⟨q, hq, hqfile, hdoc, hdpath⟩
  · rintro ⟨q, hq, hqfile, hdoc, rfl⟩
    rw [← isDocument_join hq l (l.place working)] at hdoc
    obtain ⟨d, hd, hdpath⟩ := hfiles (l.join q)
      (List.mem_filter.mpr ⟨(hmem _).mpr ⟨q, hq, rfl, hqfile⟩, hdoc⟩)
    rw [place_join ht hqfile] at hdpath
    exact List.mem_map.mpr ⟨d, hd, hdpath⟩

/-- Where no directory is, the only document is the file that the location leads to. -/
theorem documents_of_file (hdir : isDirectory t working l = .ok false) {ds : List Document}
    (h : documents t working l = .ok ds) {d : Document} (hd : d ∈ ds) :
    d.path = (l.place working).text ∧
      ∃ bytes, t.look working l = .ok (some (.file bytes)) := by
  obtain ⟨ls, hls, hdocs, -⟩ := mem_documents h
  obtain ⟨m, hm, hdpath, -⟩ := hdocs d hd
  obtain ⟨b, hb, hls⟩ := bind_eq_ok_iff.mp hls
  cases b with
  | true =>
    obtain ⟨bytes, hlook⟩ := look_of_isFile hb
    rw [if_pos rfl] at hls
    rw [← Except.ok.inj hls] at hm
    split at hm
    · rw [List.mem_singleton.mp hm] at hdpath
      exact ⟨hdpath, bytes, hlook⟩
    · exact absurd hm List.not_mem_nil
  | false =>
    obtain ⟨e, he, hne⟩ := map_eq_ok_iff.mp hdir
    rw [if_neg Bool.false_ne_true, Glob.filesBelow_of_ne he (beq_eq_false_iff_ne.mp hne)] at hls
    rw [← Except.ok.inj hls] at hm
    exact absurd hm List.not_mem_nil

/-- A document says what is read at its place. -/
theorem readText_of_mem_documents {ds : List Document} (h : documents t working l = .ok ds)
    {d : Document} (hd : d ∈ ds) :
    ∃ p : Place, d.path = p.text ∧ t.isFile p = true ∧ t.readText p = .ok d.text := by
  obtain ⟨ls, -, h⟩ := bind_eq_ok_iff.mp h
  obtain ⟨xs, hxs, h⟩ := bind_eq_ok_iff.mp h
  rw [← Except.ok.inj h] at hd
  obtain ⟨x, hx, rfl⟩ := List.mem_map.mp hd
  obtain ⟨m, -, hload⟩ := ((mapM_spec hxs).2 x).mp hx
  obtain ⟨text, htext, rfl⟩ := map_eq_ok_iff.mp hload
  exact ⟨m.place working, rfl, (place_of_load hload).2, htext⟩

/-- The document at a file with the extension of documents is the file. -/
theorem documents_of_readText {p : Place} {text : String} (hl : t.locate working l = .ok p)
    (hdoc : isDocument l = true) (h : t.readText p = .ok text) :
    isDirectory t working l = .ok false ∧ documents t working l = .ok [⟨p.text, text⟩] := by
  obtain ⟨-, -, hp⟩ := FileTree.locate_eq_ok_iff.mp hl
  have hload : load t working l = .ok (p.text, text) := by
    rw [load, ← hp, h]
    rfl
  obtain ⟨-, hfile⟩ := place_of_load hload
  rw [← hp] at hfile
  obtain ⟨bytes, hbytes⟩ := FileTree.isFile_iff.mp hfile
  have hlook : t.look working l = .ok (some (.file bytes)) := by
    rw [FileTree.look, hl]
    exact congrArg Except.ok hbytes
  have hfiles : documentFiles t working l = .ok [l] := by
    rw [documentFiles, isFile, hlook]
    change Except.ok (if isDocument l then [l] else []) = _
    rw [hdoc, if_pos rfl]
  refine ⟨by rw [isDirectory, hlook]; rfl, ?_⟩
  rw [documents, hfiles]
  refine bind_eq_ok_iff.mpr ⟨_, rfl, bind_eq_ok_iff.mpr ⟨[(p.text, text)], ?_, rfl⟩⟩
  rw [List.mapM_cons, hload]
  rfl

/-- Every import file is a file that was found. -/
theorem path_of_mem_imports {name : String} {es : List ImportEntry}
    (h : imports t working l name = .ok es) {e : ImportEntry} (he : e ∈ es) :
    ∃ p : Place, e.path = p.text ∧ t.isFile p = true := by
  obtain ⟨ls, -, h⟩ := bind_eq_ok_iff.mp h
  obtain ⟨xs, hxs, h⟩ := bind_eq_ok_iff.mp h
  rw [← Except.ok.inj h] at he
  obtain ⟨x, hx, rfl⟩ := List.mem_map.mp he
  obtain ⟨m, -, hload⟩ := ((mapM_spec hxs).2 x).mp hx
  exact ⟨m.place working, place_of_load (mapError_eq_ok_iff.mp hload)⟩

end Sources

end Pageworks
