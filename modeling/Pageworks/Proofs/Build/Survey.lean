import Mathlib.Data.List.Nodup
import Pageworks.Proofs.CacheKey
import Pageworks.Proofs.Collision
import Pageworks.Proofs.Sources

/-!
# What a survey finds

Before it changes anything a build looks at the file tree once, and everything that it does later
rests on what it has found then: documents below one directory, in the scope of the build, no two
of which generate the same file.

## Main definitions

* `Survey.Found s t root` — the survey is right about what is below a directory of a file tree.
* `Survey.generation` — what a document is generated from.
* `Survey.hashed`, `Survey.hashedFor` — the byte strings that a build hashes for its keys, and for
  the key of one document.

## Main results

* `Survey.found_of_take` — **what a build finds is right**, in every well-formed tree.
* `Survey.unit_congr` — a key that has not changed gives the unit that it gave.
-/

namespace Pageworks

open Pageworks.Text

/-! ### The project -/

/-- A location leads through its own names and those of the working directory only. -/
theorem Location.mem_place {working : Place} {l : Location} {n : String} (h : n ∈ l.place working) :
    n ∈ working ∨ n ∈ l.names := by
  have hfold : ∀ (ns : List String) (p : Place), n ∈ ns.foldl Place.follow p → n ∈ p ∨ n ∈ ns := by
    intro ns
    induction ns with
    | nil => exact fun p hp => .inl hp
    | cons m ns ih =>
      intro p hp
      rcases ih _ hp with hp | hp
      · rw [Place.follow] at hp
        split at hp
        · exact .inl (List.mem_of_mem_dropLast hp)
        · rcases List.mem_append.mp hp with hp | hp
          · exact .inl hp
          · exact .inr (List.mem_cons.mpr (.inl (List.mem_singleton.mp hp)))
      · exact .inr (List.mem_cons_of_mem _ hp)
  rcases hfold _ _ h with h | h
  · split at h
    · exact absurd h List.not_mem_nil
    · exact .inl h
  · exact .inr h

/-- The root of a project is a path without zero characters. -/
theorem Settings.zeroFree_projectRoot {settings : Settings} {working : Place} {l : Location}
    {config : ProjectConfig} (hworking : ∀ n ∈ working, ZeroFree n)
    (h : settings.projectConfig working (some l) = .ok config) : ZeroFree config.projectRoot := by
  have hsome : ∃ m, (if settings.projectRoot.isEmpty then some l else
      some (Location.parse settings.projectRoot)) = some m := by
    split <;> exact ⟨_, rfl⟩
  obtain ⟨m, hm⟩ := hsome
  rw [Settings.projectConfig, hm] at h
  dsimp only at h
  split at h
  · cases h
  · next hzero =>
    rw [← Except.ok.inj h]
    refine Place.zeroFree_text fun n hn => ?_
    rcases Location.mem_place hn with hn | hn
    · exact hworking n hn
    · exact Location.zeroFree_of_holdsZero (by simpa using hzero) hn

/-! ### Surveys -/

namespace Survey

/-- The survey is right about what is at a place and below it. -/
structure Found (s : Survey) (t : FileTree) (root : Place) : Prop where
  scope : s.scope = Path.slashed root.text
  renderer : Renderer.ofPreset? s.preset = some s.render
  projectRoot : ZeroFree s.config.projectRoot
  imports : ∀ e ∈ s.imports, ∃ p : Place, e.path = p.text ∧ t.isFile p = true
  unitNames : s.unitNames.Nodup
  documents : ∀ d ∈ s.documents, ∃ q, q ≠ [] ∧ d.path = Place.text (root ++ q) ∧
    t.isFile (root ++ q) = true
  whole : s.isWhole = true → ∀ q, q ≠ [] → t.isFile (root ++ q) = true →
    Place.isMarkdown (root ++ q) = true → Place.text (root ++ q) ∈ s.documents.map Document.path
  sweeps : s.isWhole = true → s.sweeps = .ok true
  appears : s.isWhole = false → s.sweeps = .ok true → s.documents = []

section

variable {t : FileTree} {working : Place} {l : Location} {settings : Settings} {s : Survey}

/-- A file at a location lies in the directory that the location without its last name leads
to. -/
theorem place_parent (ht : t.WellFormed) (hworking : t.entry? working = some .directory)
    (hpass : t.Passable (FileTree.start working l) l.names)
    (hfile : t.isFile (l.place working) = true) :
    ∃ n, l.place working = l.parent.place working ++ [n] ∧ l.names.getLast? = some n := by
  obtain ⟨bytes, hbytes⟩ := FileTree.isFile_iff.mp hfile
  obtain ⟨root, names⟩ := l
  rcases List.eq_nil_or_concat' names with rfl | ⟨ns, m, rfl⟩
  · have hstart : t.entry? (Location.place working ⟨root, []⟩) = some .directory := by
      rw [Location.place, List.foldl_nil]
      split
      · rfl
      · exact hworking
    rw [hstart] at hbytes
    cases hbytes
  · have hparent : Location.parent ⟨root, ns ++ [m]⟩ = ⟨root, ns⟩ := by
      rw [Location.parent, List.dropLast_concat]
    have hplace : Location.place working ⟨root, ns ++ [m]⟩ =
        (Location.place working ⟨root, ns⟩).follow m :=
      Location.place_join working ⟨root, ns⟩ [m]
    have hdir : t.entry? (Location.place working ⟨root, ns⟩) = some .directory :=
      (FileTree.passable_append.mp hpass).2.1
    refine ⟨m, ?_, List.getLast?_concat⟩
    rw [hparent, hplace]
    by_cases hm : m = ".."
    · -- one step back from a directory there is another one, and not a file
      have hup := ht.directory_dropLast hdir
      rw [hplace, hm, Place.follow, if_pos (beq_self_eq_true _), hup] at hbytes
      cases hbytes
    · exact Place.follow_of_ne hm _

/-- What is at a location is still there once the output directory is. -/
theorem sweepsAt_of_look {e : Entry} (hlook : t.look working l = .ok (some e)) :
    sweepsAt t working l settings = .ok (some e == some .directory) := by
  unfold sweepsAt
  cases hmade : t.makeDirectory working (.parse settings.outputDirectory) with
  | error f =>
    dsimp only
    rw [Sources.isDirectory, hlook]
    rfl
  | ok made =>
    dsimp only
    rw [Sources.isDirectory, (FileTree.grows_of_makeDirectory hmade).look_of_some hlook]
    rfl

/-- A survey is taken if all its parts are found and no two documents collide. -/
theorem take_eq_ok_iff : take t working l settings = .ok s ↔
    Sources.isDirectory t working l = .ok s.isWhole ∧
      settings.projectConfig working (some (if s.isWhole then l else l.parent)) = .ok s.config ∧
      Renderer.ofPreset? settings.preset = some s.render ∧
      s.scope = Path.slashed ((if s.isWhole then l else l.parent).place working).text ∧
      Sources.imports t working
        (importBase s.config s.scope (if s.isWhole then l else l.parent)) settings.importsFile =
          .ok s.imports ∧
      Sources.documents t working l = .ok s.documents ∧
      collision? s.config.projectRoot s.documents = none ∧
      s.mode = settings.mode ∧ s.preset = settings.preset ∧
      s.sweeps = sweepsAt t working l settings := by
  rw [take]
  constructor
  · intro h
    obtain ⟨isWhole, hdir, h⟩ := bind_eq_ok_iff.mp h
    obtain ⟨config, hconfig, h⟩ := bind_eq_ok_iff.mp h
    cases hrender : Renderer.ofPreset? settings.preset with
    | none => rw [hrender] at h; cases h
    | some render =>
      rw [hrender] at h
      obtain ⟨imports, himports, h⟩ := bind_eq_ok_iff.mp h
      obtain ⟨documents, hdocuments, h⟩ := bind_eq_ok_iff.mp h
      rw [mapError_eq_ok_iff] at hdir hconfig himports hdocuments
      split at h
      · cases h
      · next hcollision =>
        rw [← Except.ok.inj h]
        exact ⟨hdir, hconfig, rfl, rfl, himports, hdocuments, hcollision, rfl, rfl, rfl⟩
  · rintro ⟨hdir, hconfig, hrender, hscope, himports, hdocuments, hcollision, hmode, hpreset,
      hsweeps⟩
    obtain ⟨config, mode, preset, render, scope, isWhole, imports, documents, sweeps⟩ := s
    dsimp only at *
    rw [hscope] at himports
    rw [hscope, hmode, hpreset, hsweeps]
    refine bind_eq_ok_iff.mpr ⟨_, mapError_eq_ok_iff.mpr hdir, ?_⟩
    refine bind_eq_ok_iff.mpr ⟨_, mapError_eq_ok_iff.mpr hconfig, ?_⟩
    rw [hrender]
    refine bind_eq_ok_iff.mpr ⟨_, mapError_eq_ok_iff.mpr himports, ?_⟩
    refine bind_eq_ok_iff.mpr ⟨_, mapError_eq_ok_iff.mpr hdocuments, ?_⟩
    rw [hcollision]
    rfl

/-- What is found at a directory is taken from the files below it.  What is asked of the tree is asked
at once, since a tree that a build has left is costly to look at. -/
theorem take_of_directory (hwhole : s.isWhole = true) (hsweeps : s.sweeps = .ok true)
    (hconfig : settings.projectConfig working (some l) = .ok s.config)
    (hrender : Renderer.ofPreset? settings.preset = some s.render)
    (hscope : s.scope = Path.slashed (l.place working).text)
    (htree : Sources.isDirectory t working l = .ok true ∧
      Sources.imports t working (importBase s.config s.scope l) settings.importsFile =
        .ok s.imports ∧
      (Glob.filesFound t (l, l.place working)).Pairwise (fun a b => Location.le a b = true) ∧
      ((Import.dedupFrom [] (Glob.filesFound t (l, l.place working))).filter
        Sources.isDocument).mapM (Sources.load t working) =
          .ok (s.documents.map fun d => (d.path, d.text)))
    (hcollision : collision? s.config.projectRoot s.documents = none)
    (hmode : s.mode = settings.mode) (hpreset : s.preset = settings.preset) :
    take t working l settings = .ok s := by
  obtain ⟨hdir, himports, hsorted, hloaded⟩ := htree
  have hdocuments := Sources.documents_of_directory hdir hsorted hloaded
  refine take_eq_ok_iff.mpr ⟨?_, ?_, hrender, ?_, ?_, hdocuments, hcollision, hmode, hpreset,
    hsweeps.trans (sweepsAt_of_look (Sources.look_of_isDirectory hdir)).symm⟩
  all_goals rw [hwhole]
  · exact hdir
  · exact hconfig
  · exact hscope
  · exact himports

/-- **What a build finds is right**, in every well-formed tree. -/
theorem found_of_take (ht : t.WellFormed) (hworking : t.entry? working = some .directory)
    (h : take t working l settings = .ok s) :
    Sources.isDirectory t working l = .ok s.isWhole ∧
      s.Found t ((if s.isWhole then l else l.parent).place working) := by
  have hnames : ∀ n ∈ working, ZeroFree n :=
    fun n hn => (ht.names working (by rw [hworking]; rfl) n hn).zeroFree
  obtain ⟨hdir, hconfig, hrender, hscope, himports, hdocuments, hcollision, -, hpreset, hsweeps⟩ :=
    take_eq_ok_iff.mp h
  refine ⟨hdir, hscope, hpreset ▸ hrender, Settings.zeroFree_projectRoot hnames hconfig,
    fun e he => Sources.path_of_mem_imports himports he, nodup_of_collision? hcollision, ?_, ?_, ?_,
    ?_⟩
  · intro d hd
    cases hwhole : s.isWhole with
    | true =>
      rw [hwhole] at hdir
      obtain ⟨q, hq, hfile, -, hpath⟩ :=
        (Sources.mem_documents_iff ht hdir hdocuments).mp (List.mem_map_of_mem hd)
      exact ⟨q, hq, hpath, hfile⟩
    | false =>
      rw [hwhole] at hdir
      obtain ⟨hpath, bytes, hlook⟩ := Sources.documents_of_file hdir hdocuments hd
      obtain ⟨hpass, hentry⟩ := FileTree.entry?_of_look hlook
      have hfile : t.isFile (l.place working) = true := FileTree.isFile_iff.mpr ⟨bytes, hentry⟩
      obtain ⟨n, hn, -⟩ := place_parent ht hworking hpass hfile
      rw [hn] at hpath hfile
      exact ⟨[n], List.cons_ne_nil _ _, hpath, hfile⟩
  · intro hwhole q hq hfile hmarkdown
    rw [hwhole] at hdir hfile hmarkdown ⊢
    exact (Sources.mem_documents_iff ht hdir hdocuments).mpr ⟨q, hq, hfile, hmarkdown, rfl⟩
  · intro hwhole
    rw [hwhole] at hdir
    exact hsweeps.trans (sweepsAt_of_look (Sources.look_of_isDirectory hdir))
  · intro hpart happears
    rw [hpart] at hdir
    refine List.eq_nil_iff_forall_not_mem.mpr fun d hd => ?_
    -- a document that is built alone is a file, and no directory appears in its place
    obtain ⟨-, bytes, hlook⟩ := Sources.documents_of_file hdir hdocuments hd
    rw [hsweeps, sweepsAt_of_look hlook] at happears
    cases happears

end

section

variable {t : FileTree} {root : Place} {s : Survey} {d : Document}

theorem Found.zeroFree_path (h : s.Found t root) (ht : t.WellFormed) (hd : d ∈ s.documents) :
    ZeroFree d.path := by
  obtain ⟨q, -, hpath, hfile⟩ := h.documents d hd
  rw [hpath]
  exact Place.zeroFree_text fun n hn => (ht.proper_of_isFile hfile n hn).zeroFree

theorem Found.zeroFree_imports (h : s.Found t root) (ht : t.WellFormed) {e : ImportEntry}
    (he : e ∈ s.imports) : ZeroFree e.path := by
  obtain ⟨p, hpath, hfile⟩ := h.imports e he
  rw [hpath]
  exact Place.zeroFree_text fun n hn => (ht.proper_of_isFile hfile n hn).zeroFree

/-- Every document lies in the scope of the build. -/
theorem Found.isWithin_scope (h : s.Found t root) (hd : d ∈ s.documents) :
    Path.isWithin (Path.slashed d.path) s.scope = true := by
  obtain ⟨q, hq, hpath, -⟩ := h.documents d hd
  rw [h.scope, hpath]
  exact Place.isWithin_text hq

/-- A document is known by the name of its unit. -/
theorem Found.eq_of_unitName (h : s.Found t root) {e : Document} (hd : d ∈ s.documents)
    (he : e ∈ s.documents) (hname : s.unitName d = s.unitName e) : d = e :=
  List.inj_on_of_nodup_map h.unitNames hd he hname

/-- A document is known by its path. -/
theorem Found.eq_of_path (h : s.Found t root) {e : Document} (hd : d ∈ s.documents)
    (he : e ∈ s.documents) (hpath : d.path = e.path) : d = e :=
  h.eq_of_unitName hd he (by rw [unitName, unitName, hpath])

/-- No two documents have one path. -/
theorem Found.nodup_paths (h : s.Found t root) : (s.documents.map Document.path).Nodup := by
  have hnames : s.unitNames = (s.documents.map Document.path).map
      fun p => Component.unitName p s.config.projectRoot := by
    rw [List.map_map]
    rfl
  have hnodup := h.unitNames
  rw [hnames] at hnodup
  exact hnodup.of_map

theorem plainName_unitName (s : Survey) (d : Document) : PlainName (s.unitName d) :=
  Component.plainName_unitName _ _

/-- The unit of a document has the name that the survey has for it. -/
theorem name_of_unit [SetOrder] {u : GeneratedUnit} (h : s.unit d = .ok u) :
    u.name = s.unitName d :=
  GeneratedUnit.name_of_transform (mapError_eq_ok_iff.mp h)

end

/-! ### Keys of two builds -/

/-- What a document is generated from. -/
def generation (s : Survey) (d : Document) : Generation :=
  ⟨d, s.imports, s.config, s.mode, s.preset⟩

/-- The byte strings that a build hashes for the keys of its documents. -/
def hashed (s : Survey) : List (List UInt8) :=
  s.documents.flatMap fun d =>
    match (s.generation d).governing with
    | .ok imports => (s.generation d).hashed imports
    | .error _ => []

/-- The byte strings that a build hashes for the key of one document. -/
def hashedFor (s : Survey) (d : Document) : List (List UInt8) :=
  match (s.generation d).governing with
  | .ok imports => (s.generation d).hashed imports
  | .error _ => []

theorem hashedFor_eq {s : Survey} {d : Document} {imports : List ImportEntry}
    (h : (s.generation d).governing = .ok imports) :
    s.hashedFor d = (s.generation d).hashed imports := by
  rw [hashedFor, h]

theorem hashed_eq (s : Survey) : s.hashed = s.documents.flatMap s.hashedFor := by
  rw [hashed]
  refine List.flatMap_congr fun d _ => ?_
  cases hgov : (s.generation d).governing with
  | error e => rw [hashedFor, hgov]
  | ok imports => rw [hashedFor_eq hgov]

theorem hashedFor_subset {s : Survey} {d : Document} (hd : d ∈ s.documents) :
    s.hashedFor d ⊆ s.hashed := by
  intro x hx
  rw [hashed_eq]
  exact List.mem_flatMap.mpr ⟨d, hd, hx⟩

section

variable {s s' : Survey} {d d' : Document} {key : String}

theorem key_eq_ok_iff : s.key d = .ok key ↔ ∃ imports,
    (s.generation d).governing = .ok imports ∧ ((s.generation d).key imports).digest = key := by
  rw [Survey.key, Generation.governing]
  dsimp only [generation]
  cases Import.applicable s.imports d.path with
  | error e =>
    constructor
    · intro h
      cases h
    · rintro ⟨imports, h, -⟩
      cases h
  | ok imports =>
    constructor
    · intro h
      exact ⟨imports, rfl, Except.ok.inj h⟩
    · rintro ⟨imports', himports, rfl⟩
      rw [Except.ok.inj himports]
      rfl

/-- What two builds generate a document from has all in common that its unit depends on, if its
key is the same. -/
theorem alike_of_key {t t' : FileTree} {root root' : Place} (ht : t.WellFormed)
    (ht' : t'.WellFormed) (h : s.Found t root) (h' : s'.Found t' root') (hd : d ∈ s.documents)
    (hd' : d' ∈ s'.documents) (hkey : s.key d = .ok key) (hkey' : s'.key d' = .ok key)
    (hconfig : Fingerprint.framed s.config.parts = Fingerprint.framed s'.config.parts →
      s.config = s'.config)
    (hfree : ¬ Sha256.Collide (s.hashedFor d) (s'.hashedFor d')) :
    ∃ imports imports', (s.generation d).governing = .ok imports ∧
      (s'.generation d').governing = .ok imports' ∧
      (s.generation d).Alike (s'.generation d') imports imports' := by
  obtain ⟨imports, hgov, hdigest⟩ := key_eq_ok_iff.mp hkey
  obtain ⟨imports', hgov', hdigest'⟩ := key_eq_ok_iff.mp hkey'
  refine ⟨imports, imports', hgov, hgov', Generation.alike_of_digest_eq (h.zeroFree_path ht hd)
    (h'.zeroFree_path ht' hd') ?_ ?_ hconfig ?_ (hdigest.trans hdigest'.symm)⟩
  · exact fun e he => h.zeroFree_imports ht (Generation.mem_entries_of_governing hgov he)
  · exact fun e he => h'.zeroFree_imports ht' (Generation.mem_entries_of_governing hgov' he)
  · rwa [hashedFor_eq hgov, hashedFor_eq hgov'] at hfree

/-- **A key that has not changed gives the unit that it gave**, unless hashed byte strings collide
or configurations cannot be told apart by their bytes. -/
theorem unit_congr [SetOrder] {t t' : FileTree} {root root' : Place} (ht : t.WellFormed)
    (ht' : t'.WellFormed) (h : s.Found t root) (h' : s'.Found t' root') (hd : d ∈ s.documents)
    (hd' : d' ∈ s'.documents) (hpath : d.path = d'.path) (hkey : s.key d = .ok key)
    (hkey' : s'.key d' = .ok key)
    (hconfig : Fingerprint.framed s.config.parts = Fingerprint.framed s'.config.parts →
      s.config = s'.config)
    (hfree : ¬ Sha256.Collide s.hashed s'.hashed) {u : GeneratedUnit} (hu : s.unit d = .ok u) :
    s'.unit d' = .ok u ∧ s'.mode = s.mode := by
  obtain ⟨imports, imports', hgov, hgov', halike⟩ :=
    alike_of_key ht ht' h h' hd hd' hkey hkey' hconfig
      fun hc => hfree (hc.mono (hashedFor_subset hd) (hashedFor_subset hd'))
  have hdoc : d = d' := by
    cases d
    cases d'
    exact congrArg₂ Document.mk hpath halike.text
  have hrender : s.render = s'.render := by
    have hpreset : s.preset = s'.preset := halike.preset
    have hsome := h.renderer
    rw [hpreset, h'.renderer] at hsome
    exact (Option.some.inj hsome).symm
  have hmode : s.mode = s'.mode := halike.mode
  have htransform := mapError_eq_ok_iff.mp hu
  rw [hdoc] at hgov htransform
  refine ⟨mapError_eq_ok_iff.mpr ?_, hmode.symm⟩
  rw [← hmode, ← hrender, ← show s.config = s'.config from halike.config, ← htransform]
  exact GeneratedUnit.transform_eq hgov' hgov (fun t => (halike.texts t).symm) _ _ _

end

end Survey

end Pageworks
