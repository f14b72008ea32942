import Pageworks.Proofs.Build.History
import Pageworks.Proofs.Build.Success
import Pageworks.Proofs.Build.Unseen

/-!
# Builds of single documents

A directory can be built as a whole, or one document after the other.  A build of one document looks
at another directory, has a scope of its own and forgets nothing.  With a project root that the
directory lies in, both find the same for every document, so they leave the same behind, in
whatever order the documents are built.

The invariant that carries the proof is that the documents built so far are clean and that a build of
the directory would find what it found before the first of them.

## Main definitions

* `Survey.single` — what a build finds for one of the documents alone.
* `Build.Underway` — some of the documents have been built, and nothing else has changed.
* `Build.runEach` — builds of one location after the other.

## Main results

* `Survey.take_single` — a build of one document finds what the build of its directory finds for it.
* `Build.Underway.next` — **a build of one document adds its unit and its record**, and nothing else.
* `Build.runEach_eq_run` — **building every document is building the directory.**
-/

namespace Pageworks

/-- The location leads to the document. -/
def Document.IsAt (d : Document) (t : FileTree) (working : Place) (l : Location) : Prop :=
  ∃ p : Place, t.locate working l = .ok p ∧ t.isFile p = true ∧ d.path = p.text

/-- The record without its time. -/
def Record.untimed (r : Record) : Record := { r with committedAt := none }

theorem Document.IsAt.mono {d : Document} {t t' : FileTree} {working : Place} {l : Location}
    (h : d.IsAt t working l) (hkept : ∀ q, (t.entry? q).isSome → t'.entry? q = t.entry? q) :
    d.IsAt t' working l := by
  obtain ⟨p, hl, hfile, hpath⟩ := h
  obtain ⟨bytes, hbytes⟩ := FileTree.isFile_iff.mp hfile
  refine ⟨p, FileTree.locate_mono hl fun q hq => ?_, FileTree.isFile_iff.mpr ⟨bytes, ?_⟩, hpath⟩
  · rw [hkept q (by rw [hq]; rfl), hq]
  · rw [hkept p (by rw [hbytes]; rfl), hbytes]

theorem Settings.projectConfig_congr {settings : Settings} (h : settings.projectRoot ≠ "")
    (working : Place) (l m : Option Location) :
    settings.projectConfig working l = settings.projectConfig working m := by
  have hempty : settings.projectRoot.isEmpty = false := by
    rw [← Bool.not_eq_true, String.isEmpty_iff]
    exact h
  rw [projectConfig, projectConfig, hempty]
  rfl

namespace Survey

/-! ### One document alone -/

/-- The survey with some of its documents. -/
def only (s : Survey) (ds : List Document) : Survey :=
  { s with documents := ds, isWhole := false, sweeps := .ok false }

/-- What a build finds for one of the documents alone, which lies in the directory `dir`. -/
def single (s : Survey) (dir : Place) (d : Document) : Survey :=
  { s.only [d] with scope := Path.slashed dir.text }

/-! The documents and the scope of a survey have no part in keys and units. -/

section

variable (s : Survey) (ds : List Document) (dir : Place) (d e : Document)

theorem only_unitName : (s.only ds).unitName d = s.unitName d := by
  rw [unitName, unitName, only]

theorem only_key : (s.only ds).key d = s.key d := by rw [key, key, only]

theorem only_unit [SetOrder] : (s.only ds).unit d = s.unit d := by rw [unit, unit, only]

theorem single_unitName : (s.single dir d).unitName e = s.unitName e := by
  rw [unitName, unitName, single, only]

theorem single_key : (s.single dir d).key e = s.key e := by rw [key, key, single, only]

theorem single_unit [SetOrder] : (s.single dir d).unit e = s.unit e := by
  rw [unit, unit, single, only]

theorem single_mode : (s.single dir d).mode = s.mode := by rw [single, only]

end

section

variable {s : Survey} {t : FileTree} {working : Place} {source l : Location} {settings : Settings}
  {d : Document}

private theorem collision?_singleton (root : String) (d : Document) :
    collision? root [d] = none := by
  rw [collision?, collisionFrom?, ownerOf?, List.lookup_nil]
  rfl

/-- A location that leads to a document of a directory is read as that document alone, and the
directory that it names is the directory or lies below it. -/
private theorem documents_of_isAt (ht : t.WellFormed) (hworking : t.entry? working = some .directory)
    (hdir : Sources.isDirectory t working source = .ok true) {ds : List Document}
    (hdocuments : Sources.documents t working source = .ok ds) (hd : d ∈ ds)
    (hat : d.IsAt t working l) :
    Sources.isDirectory t working l = .ok false ∧ Sources.documents t working l = .ok [d] ∧
      ∃ r, l.parent.place working = source.place working ++ r := by
  obtain ⟨q, hq, hfile, hmarkdown, hpath⟩ :=
    (Sources.mem_documents_iff ht hdir hdocuments).mp (List.mem_map_of_mem hd)
  obtain ⟨p, hl, hpfile, hp⟩ := hat
  obtain ⟨p', hp', hfile', htext⟩ := Sources.readText_of_mem_documents hdocuments hd
  -- the document is one file, whether it is found below the directory or at the location
  obtain rfl : p' = p := Place.text_inj (ht.proper_of_isFile hfile') (ht.proper_of_isFile hpfile)
    (hp'.symm.trans hp)
  have hplace : p' = source.place working ++ q := Place.text_inj (ht.proper_of_isFile hfile')
    (ht.proper_of_isFile hfile) (hp.symm.trans hpath)
  obtain ⟨-, hpass, hlplace⟩ := FileTree.locate_eq_ok_iff.mp hl
  obtain ⟨n, hparent, hname⟩ := place_parent ht hworking hpass (hlplace ▸ hpfile)
  have hdoc : Sources.isDocument l = true := by
    have hlast : (source.place working ++ q).getLast? = some n := by
      rw [← hplace, hlplace, hparent, List.getLast?_concat]
    rw [Place.isMarkdown, Sources.isDocument, Location.suffix, Location.ofPlace] at hmarkdown
    rw [Sources.isDocument, Location.suffix, hname, ← hlast]
    exact hmarkdown
  obtain ⟨hdir', hdocuments'⟩ := Sources.documents_of_readText hl hdoc htext
  rw [← hp'] at hdocuments'
  refine ⟨hdir', hdocuments', ?_⟩
  obtain ⟨r, m, rfl⟩ := (List.eq_nil_or_concat' q).resolve_left hq
  have hsplit := hlplace.symm.trans hplace
  rw [hparent, ← List.append_assoc] at hsplit
  exact ⟨r, (List.append_inj' hsplit rfl).1⟩

/-- **A build of one document finds what the build of its directory finds for it**, if the directory
lies in the project root. -/
theorem take_single (ht : t.WellFormed) (hworking : t.entry? working = some .directory)
    (hroot : settings.projectRoot ≠ "") (hs : take t working source settings = .ok s)
    (hwhole : s.isWhole = true)
    (hwithin : Path.isWithin s.scope (Path.slashed s.config.projectRoot) = true)
    (hd : d ∈ s.documents) (hat : d.IsAt t working l) :
    take t working l settings = .ok (s.single (l.parent.place working) d) := by
  obtain ⟨hdir, hconfig, hrender, hscope, himports, hdocuments, -, hmode, hpreset, -⟩ :=
    take_eq_ok_iff.mp hs
  rw [hwhole, if_pos rfl] at hconfig hscope himports
  rw [hwhole] at hdir
  obtain ⟨hdir', hdocuments', r, hbelow⟩ := documents_of_isAt ht hworking hdir hdocuments hd hat
  -- import files are looked for in the project root, since the directory of the document lies there
  have hwithin' : Path.isWithin (Path.slashed (l.parent.place working).text)
      (Path.slashed s.config.projectRoot) = true := by
    rw [hscope] at hwithin
    rw [hbelow]
    exact Path.isWithin_of_prefix (Place.segments_text _ _) hwithin
  have hconfig' : settings.projectConfig working (some l.parent) = .ok s.config :=
    (Settings.projectConfig_congr hroot _ _ _).trans hconfig
  have himports' : Sources.imports t working (importBase s.config
      (Path.slashed (l.parent.place working).text) l.parent) settings.importsFile =
        .ok s.imports := by
    rw [importBase, if_pos hwithin] at himports
    rw [importBase, if_pos hwithin']
    exact himports
  obtain ⟨-, bytes, hlook⟩ := Sources.documents_of_file hdir' hdocuments' List.mem_cons_self
  rw [take_eq_ok_iff, single, only]
  dsimp only
  rw [if_neg Bool.false_ne_true]
  exact ⟨hdir', hconfig', hrender, rfl, himports', hdocuments', collision?_singleton _ d, hmode,
    hpreset, (sweepsAt_of_look hlook).symm⟩

end

/-! ### One document more -/

section

variable [SetOrder] {s : Survey} {t files : FileTree} {root out : Place} {store : Store}
  {done : List Document} {d : Document}

/-- What has not been built has no record. -/
theorem Clean.get?_eq_none (h : (s.only done).Clean out files store) (hfound : s.Found t root)
    (hsub : ∀ e ∈ done, e ∈ s.documents) (hd : d ∈ s.documents) (hnew : d ∉ done) :
    store.get? d.path = none := by
  rw [Store.get?_eq_none_iff]
  intro hmem
  obtain ⟨r, hr, hpath⟩ := List.mem_map.mp hmem
  obtain ⟨e, he, hrpath⟩ := h.records r hr
  exact hnew (hfound.eq_of_path hd (hsub e he) (hpath.symm.trans hrpath) ▸ he)

/-- With its file and its record, a document more is built. -/
theorem Clean.insert (h : (s.only done).Clean out files store) (hfound : s.Found t root)
    (hsub : ∀ e ∈ done, e ∈ s.documents) (hd : d ∈ s.documents) (hnew : d ∉ done) {key : String}
    {u : GeneratedUnit} (hkey : s.key d = .ok key) (hunit : s.unit d = .ok u)
    (time : Option Moment) :
    (s.only (d :: done)).Clean out (files.put (out ++ [s.unitName d]) (Step.fileOf u.text))
      (store.commit (Record.ofUnit d.path key s.mode.name u time)).1 := by
  have hnone := h.get?_eq_none hfound hsub hd hnew
  have hput := FileTree.entry?_put (t := files)
    (List.append_ne_nil_of_right_ne_nil out (List.cons_ne_nil (s.unitName d) []))
    (Step.fileOf u.text)
  have hcommit := Store.get?_commit store (Record.ofUnit d.path key s.mode.name u time)
  have hother : ∀ e ∈ done, s.unitName e ≠ s.unitName d := fun e he hname =>
    hnew (hfound.eq_of_unitName (hsub e he) hd hname ▸ he)
  refine ⟨List.nodup_cons.mpr ⟨?_, h.unitNames⟩, ?_, ?_, ?_⟩
  · intro hmem
    obtain ⟨e, he, hname⟩ := List.mem_map.mp hmem
    exact hother e he hname
  · intro e he
    rw [only_key, only_unit, only_unitName]
    rcases List.mem_cons.mp he with rfl | he
    · refine ⟨key, u, time, hkey, hunit, ?_, ?_⟩
      · exact (hput _).trans (if_pos rfl)
      · rw [hcommit, hnone]
        exact if_pos rfl
    · obtain ⟨key', u', time', hkey', hunit', hfile, hr⟩ := h.made e he
      rw [only_key] at hkey'
      rw [only_unit] at hunit'
      rw [only_unitName] at hfile
      refine ⟨key', u', time', hkey', hunit', ?_, ?_⟩
      · refine (hput _).trans ((if_neg fun hplace => hother e he ?_).trans hfile)
        exact List.singleton_inj.mp (List.append_cancel_left hplace)
      · refine (hcommit _).trans ((if_neg fun hpath : e.path = d.path => hnew ?_).trans hr)
        exact hfound.eq_of_path (hsub e he) hd hpath ▸ he
  · intro q hq hfile
    by_cases hplace : q = out ++ [s.unitName d]
    · exact ⟨d, List.mem_cons_self, hplace⟩
    · rw [FileTree.isFile, hput, if_neg hplace] at hfile
      obtain ⟨e, he, hqe⟩ := h.files q hq hfile
      exact ⟨e, List.mem_cons_of_mem _ he, hqe⟩
  · intro r hr
    rw [Store.mem_records_iff, hcommit] at hr
    split at hr
    · next hpath => exact ⟨d, List.mem_cons_self, hpath⟩
    · obtain ⟨e, he, hpath⟩ := h.records r (Store.mem_records_iff.mpr hr)
      exact ⟨e, List.mem_cons_of_mem _ he, hpath⟩

end

/-! ### Nothing left to do -/

section

variable [SetOrder] {s : Survey} {out : Place} {files : FileTree} {store store' : Store}
  {ds : List Document}

/-- The order in which documents were built does not show. -/
theorem Clean.of_only (h : (s.only ds).Clean out files store) (hds : ds.Perm s.documents)
    (hnames : s.unitNames.Nodup) : s.Clean out files store where
  unitNames := hnames
  made := fun d hd => by
    obtain ⟨key, u, time, hkey, hu, hfile, hr⟩ := h.made d (hds.mem_iff.mpr hd)
    rw [only_key] at hkey
    rw [only_unit] at hu
    rw [only_unitName] at hfile
    exact ⟨key, u, time, hkey, hu, hfile, hr⟩
  files := fun q hq hfile => by
    obtain ⟨d, hd, hplace⟩ := h.files q hq hfile
    rw [only_unitName] at hplace
    exact ⟨d, hds.mem_iff.mp hd, hplace⟩
  records := fun r hr => by
    obtain ⟨d, hd, hpath⟩ := h.records r hr
    exact ⟨d, hds.mem_iff.mp hd, hpath⟩

/-- The records are determined by what was found, up to their time. -/
theorem Recorded.untimed_eq (h : s.Recorded store) (h' : s.Recorded store') (path : String) :
    (store.get? path).map Record.untimed = (store'.get? path).map Record.untimed := by
  by_cases hpath : ∃ d ∈ s.documents, d.path = path
  · obtain ⟨d, hd, rfl⟩ := hpath
    obtain ⟨key, u, time, hkey, hu, hr⟩ := h.made d hd
    obtain ⟨key', u', time', hkey', hu', hr'⟩ := h'.made d hd
    obtain rfl := Except.ok.inj (hkey.symm.trans hkey')
    obtain rfl := Except.ok.inj (hu.symm.trans hu')
    rw [hr, hr']
    rfl
  · have hnone : ∀ {x : Store}, s.Recorded x → x.get? path = none := by
      intro x hx
      rw [Store.get?_eq_none_iff]
      intro hmem
      obtain ⟨r, hr, hrpath⟩ := List.mem_map.mp hmem
      obtain ⟨d, hd, hdpath⟩ := hx.records r hr
      exact hpath ⟨d, hd, hdpath.symm.trans hrpath⟩
    rw [hnone h, hnone h']

/-- Where everything is recorded, everything is settled. -/
theorem Recorded.settled (h : s.Recorded store) : s.Settled store where
  current := fun d hd => by
    obtain ⟨key, u, time, hkey, -, hr⟩ := h.made d hd
    exact ⟨_, verdict_eq_current_iff.mpr ⟨key, hkey, hr, rfl⟩⟩
  gone := by
    refine List.eq_nil_iff_forall_not_mem.mpr fun r hr => ?_
    obtain ⟨-, hmem, hpath, -⟩ := mem_gone_iff.mp hr
    obtain ⟨d, hd, hdpath⟩ := h.records r hmem
    exact hpath (hdpath ▸ List.mem_map_of_mem hd)

end

/-- A build of one new document does nothing but keep its unit. -/
private theorem steps_of_singleton [SetOrder] {s : Survey} {store : Store} {d : Document}
    {key : String} {u : GeneratedUnit} (time : Option Moment) (hdocuments : s.documents = [d])
    (hpart : s.sweeps = .ok false)
    (hkey : s.key d = .ok key) (hunit : s.unit d = .ok u) (hnew : store.get? d.path = none) :
    ∃ before after : List Step, (∀ x ∈ before, ∃ e, x = .tell e) ∧ (∀ x ∈ after, ∃ e, x = .tell e) ∧
      (s.plan store time).steps =
        before ++ .keep (Record.ofUnit d.path key s.mode.name u time) :: after := by
  have hverdict : s.verdict store d = .stale key none := verdict_eq_stale_iff.mpr ⟨hkey, hnew, nofun⟩
  have hstale : s.stale store = [⟨d, key, .created⟩] := by
    rw [stale, hdocuments, List.filterMap_cons]
    delta stale?
    rw [hverdict]
    rfl
  have hsweep : s.sweepSteps store = [] := by
    rw [sweepSteps, hpart]
    dsimp only
    rw [gone, hpart]
    rfl
  have hgenerate : s.generateSteps time [⟨d, key, .created⟩] =
      [.keep (Record.ofUnit d.path key s.mode.name u time),
        decision (Status.created.name ++ ": " ++ d.path ++ " -> " ++ u.name)] := by
    rw [generateSteps, List.mapM_cons, hunit]
    rfl
  have hlook : (s.documents.flatMap fun d => s.lookSteps d (s.verdict store d)) = [] := by
    rw [hdocuments, List.flatMap_singleton, hverdict]
    rfl
  have hwarnings : ∀ x ∈ ([⟨d, key, .created⟩] : List Stale).flatMap
      fun y => (warnings y.document).map Step.tell, ∃ e, x = .tell e := by
    intro x hx
    obtain ⟨y, -, hy⟩ := List.mem_flatMap.mp hx
    obtain ⟨e, -, rfl⟩ := List.mem_map.mp hy
    exact ⟨e, rfl⟩
  have hshape : ∀ (a k b c : Step) (ws : List Step),
      [a] ++ ws ++ [k, b] ++ [] ++ [c] = (a :: ws) ++ k :: [b, c] := by simp
  rw [plan, hstale, hsweep, hlook, hgenerate]
  refine ⟨_, _, ?_, ?_, hshape _ _ _ _ _⟩
  · exact List.forall_mem_cons.mpr ⟨⟨_, rfl⟩, hwarnings⟩
  · simp [decision]

/-- Every document has a key, and a unit whose name a file can have. -/
def Buildable [SetOrder] (s : Survey) : Prop :=
  ∀ d ∈ s.documents, ∃ key u, s.key d = .ok key ∧ s.unit d = .ok u ∧
    FileTree.FileName (s.unitName d)

end Survey

namespace Build

section

variable [SetOrder] {settings : Settings} {working : Place} {source l : Location}
  {time : Option Moment} {files base : FileTree} {store : Store} {s : Survey} {d : Document}

/-- With the output directory there already, a build of one new document writes its unit and
commits its record. -/
theorem run_single {key : String} {u : GeneratedUnit} (time : Option Moment)
    (hs : Survey.take files working l settings = .ok s) (hdocuments : s.documents = [d])
    (hpart : s.sweeps = .ok false)
    (hready : files.Ready working (.parse settings.outputDirectory)) (hkey : s.key d = .ok key)
    (hunit : s.unit d = .ok u) (hnew : store.get? d.path = none)
    (hname : FileTree.FileName (s.unitName d))
    (hfree : files.entry? ((Location.parse settings.outputDirectory).place working ++
      [s.unitName d]) ≠ some .directory) :
    (run settings working l time files store).result = .ok (s.report store) ∧
      (run settings working l time files store).files = files.put
        ((Location.parse settings.outputDirectory).place working ++ [s.unitName d])
        (Step.fileOf u.text) ∧
      (run settings working l time files store).store =
        (store.commit (Record.ofUnit d.path key s.mode.name u time)).1 := by
  obtain ⟨before, after, hbefore, hafter, hsteps⟩ :=
    Survey.steps_of_singleton time hdocuments hpart hkey hunit hnew
  -- only the step between those that tell something changes anything
  obtain ⟨p, hp, hpfiles, hpstore⟩ := @Step.runAll_idle working (.parse settings.outputDirectory)
    ⟨files, store, []⟩ before fun x hx => Step.idle_of_tell (hbefore x hx)
  have hkeep : Step.run working (.parse settings.outputDirectory) p
      (.keep (Record.ofUnit d.path key s.mode.name u time)) = .ok
        ⟨files.put ((Location.parse settings.outputDirectory).place working ++ [s.unitName d])
          (Step.fileOf u.text),
        (store.commit (Record.ofUnit d.path key s.mode.name u time)).1, p.log⟩ := by
    refine Step.write_eq_ok_iff.mpr ⟨files.put _ (Step.fileOf u.text), ?_, by rw [hpstore]⟩
    dsimp only [Record.ofUnit]
    rw [Survey.name_of_unit hunit, hpfiles, hready.write_eq hname hfree]
    rfl
  obtain ⟨q, hq, hqfiles, hqstore⟩ := @Step.runAll_idle working (.parse settings.outputDirectory)
    ⟨files.put ((Location.parse settings.outputDirectory).place working ++ [s.unitName d])
      (Step.fileOf u.text), (store.commit (Record.ofUnit d.path key s.mode.name u time)).1, p.log⟩
    after fun x hx => Step.idle_of_tell (hafter x hx)
  have hall : Step.runAll working (.parse settings.outputDirectory) ⟨files, store, []⟩
      (s.plan store time).steps = (q, .ok ()) := by
    rw [hsteps, Step.runAll_append hp, Step.runAll_cons hkeep]
    exact hq
  rw [run_eq_follow hs hready.makeDirectory_eq, follow, hall]
  exact ⟨rfl, hqfiles, hqstore⟩

/-! ### One document after the other -/

/-- Builds of one location after the other, each at its time, and what they leave behind if all of
them succeed. -/
def runEach (settings : Settings) (working : Place) :
    List (Location × Option Moment) → FileTree → Store → Except BuildError (FileTree × Store)
  | [], files, store => .ok (files, store)
  | (l, time) :: ls, files, store =>
    let built := run settings working l time files store
    match built.result with
    | .ok _ => runEach settings working ls built.files built.store
    | .error e => .error e

/-- Some of the documents have been built into an output directory that was empty, and nothing
else has changed. -/
structure Underway (settings : Settings) (working : Place) (source : Location) (s : Survey)
    (base : FileTree) (done : List Document) (files : FileTree) (store : Store) : Prop where
  found : Survey.take files working source settings = .ok s ∧
    files.Ready working (.parse settings.outputDirectory)
  kept : ∀ q, (base.entry? q).isSome → files.entry? q = base.entry? q
  sub : ∀ d ∈ done, d ∈ s.documents
  clean : (s.only done).Clean ((Location.parse settings.outputDirectory).place working) files store
  free : ∀ d ∈ s.documents, d ∉ done → files.entry?
    ((Location.parse settings.outputDirectory).place working ++ [s.unitName d]) = none


section

variable {done : List Document} (hworking : base.entry? working = some .directory)
  (hroot : settings.projectRoot ≠ "")
  (hname : ∀ g, Glob.parse settings.importsFile = .ok g → g.Spares) (hwhole : s.isWhole = true)
  (hwithin : Path.isWithin s.scope (Path.slashed s.config.projectRoot) = true)
  (hbuild : s.Buildable)

include hworking hroot hname hwhole hwithin hbuild

/-- **A build of one document adds its unit and its record**, and nothing else. -/
theorem Underway.next (h : Underway settings working source s base done files store)
    (hd : d ∈ s.documents) (hnew : d ∉ done) (hat : d.IsAt base working l) (time : Option Moment) :
    (∃ report, (run settings working l time files store).result = .ok report) ∧
      Underway settings working source s base (d :: done)
        (run settings working l time files store).files
        (run settings working l time files store).store := by
  obtain ⟨hfound, hready⟩ := h.found
  have hworking' : files.entry? working = some .directory := by
    rw [h.kept working (by rw [hworking]; rfl), hworking]
  obtain ⟨-, hright⟩ := Survey.found_of_take hready.wellFormed hworking' hfound
  obtain ⟨key, u, hkey, hunit, hfile⟩ := hbuild d hd
  have hfree := h.free d hd hnew
  have hadds : files.Adds (files.put _ (Step.fileOf u.text)) _ _ := FileTree.adds_put hfree
  have htake := Survey.take_single hready.wellFormed hworking' hroot hfound hwhole hwithin hd
    (hat.mono h.kept)
  obtain ⟨hok, hfiles, hstore⟩ := run_single time htake rfl rfl hready
    ((s.single_key _ d d).trans hkey) ((s.single_unit _ d d).trans hunit)
    (h.clean.get?_eq_none hright h.sub hd hnew) (by rw [Survey.single_unitName]; exact hfile)
    (by rw [Survey.single_unitName, hfree]; nofun)
  rw [Survey.single_unitName] at hfiles
  rw [Survey.single_mode] at hstore
  refine ⟨⟨_, hok⟩, ?_⟩
  rw [hfiles, hstore]
  have hready' := hready.alters hfile.toProperName hadds.alters
  -- nothing is there yet, so nothing is listed there either
  have hmatches : FileTree.Matches ((Location.parse settings.outputDirectory).place working) files
      (files.put _ (Step.fileOf u.text)) :=
    FileTree.matches_put (s.isGenerated_unitName d) fun hlisted => by
      have hsome := FileTree.isSome_entry?_of_mem hlisted
      rw [hfree] at hsome
      cases hsome
  refine ⟨⟨?_, ?_⟩, ?_, ?_, ?_, ?_⟩
  · exact Survey.take_of_matches hready hready' hmatches hworking' hname hfound
  · exact hready'
  · intro q hq
    exact (hadds.entry?_of_isSome (by rw [h.kept q hq]; exact hq)).trans (h.kept q hq)
  · exact List.forall_mem_cons.mpr ⟨hd, h.sub⟩
  · exact h.clean.insert hright h.sub hd hnew hkey hunit time
  · intro e he hrest
    rw [List.mem_cons, not_or] at hrest
    refine (hadds.alters.entry? _).trans ((if_neg fun hplace => hrest.1 ?_).trans
      (h.free e he hrest.2))
    exact hright.eq_of_unitName he hd (List.singleton_inj.mp (List.append_cancel_left hplace))

/-- **Builds of single documents succeed one after the other**, in whatever order. -/
theorem Underway.all {ds : List Document} {ls : List (Location × Option Moment)}
    (hats : List.Forall₂ (fun d x => d.IsAt base working x.1) ds ls)
    (h : Underway settings working source s base done files store)
    (hsub : ∀ d ∈ ds, d ∈ s.documents) (hnodup : ds.Nodup) (hnew : ∀ d ∈ ds, d ∉ done) :
    ∃ files' store', runEach settings working ls files store = .ok (files', store') ∧
      Underway settings working source s base (ds.reverse ++ done) files' store' := by
  induction hats generalizing done files store with
  | nil => exact ⟨files, store, rfl, h⟩
  | @cons d x ds ls hat _ ih =>
    obtain ⟨hd, hnodup⟩ := List.nodup_cons.mp hnodup
    obtain ⟨hd', hsub⟩ := List.forall_mem_cons.mp hsub
    obtain ⟨⟨report, hok⟩, hnext⟩ := h.next hworking hroot hname hwhole hwithin hbuild hd'
      (hnew d List.mem_cons_self) hat x.2
    obtain ⟨files', store', hall, hlast⟩ := ih hnext hsub hnodup fun e he hmem => by
      rcases List.mem_cons.mp hmem with rfl | hmem
      · exact hd he
      · exact hnew e (List.mem_cons_of_mem _ he) hmem
    refine ⟨files', store', ?_, ?_⟩
    · rw [runEach, hok]
      exact hall
    · rw [List.reverse_cons, List.append_assoc]
      exact hlast

end

/-! ### All documents -/

/-- With the output directory there already, a build does what it did when it made it, if it finds
the same. -/
theorem run_made {made : FileTree} (hs : Survey.take files working l settings = .ok s)
    (hs' : Survey.take made working l settings = .ok s)
    (hmade : files.makeDirectory working (.parse settings.outputDirectory) = .ok made)
    (hready : made.Ready working (.parse settings.outputDirectory)) :
    run settings working l time made store = run settings working l time files store :=
  (run_eq_follow hs' hready.makeDirectory_eq).trans (run_eq_follow hs hmade).symm

/-- **A build that finds everything recorded** leaves all documents alone. -/
theorem result_of_recorded {made : FileTree} (hfiles : files.WellFormed)
    (hworking : files.entry? working = some .directory)
    (hs : Survey.take files working source settings = .ok s)
    (hwhole : s.isWhole = true)
    (hmade : files.makeDirectory working (.parse settings.outputDirectory) = .ok made)
    (h : s.Recorded store) (hnames : ∀ n ∈ s.unitNames, FileTree.FileName n) :
    (run settings working source time files store).result =
      .ok ⟨0, 0, s.documents.length, 0, []⟩ := by
  have hrecord : ∀ r ∈ store.records, r.unitName ∈ s.unitNames := by
    intro r hr
    obtain ⟨d, hd, u, -, -, hname, -⟩ := h.exists_unit hr
    exact hname ▸ List.mem_map_of_mem hd
  have hplain : ∀ r ∈ store.records, PlainName r.unitName := by
    intro r hr
    obtain ⟨d, -, hname⟩ := List.mem_map.mp (hrecord r hr)
    exact hname ▸ Survey.plainName_unitName s d
  obtain ⟨-, hfound⟩ := Survey.found_of_take hfiles hworking hs
  refine (run_settled hfiles hworking hplain hs hmade h.settled ⟨true, hfound.sweeps hwhole⟩ ?_
    time).1
  intro d hd r hv
  obtain ⟨-, -, hr, -⟩ := Survey.verdict_eq_current_iff.mp hv
  exact hnames _ (hrecord r (Store.mem_records_of_get? hr))

/-- A build from scratch succeeds only with units for all documents, under names that files can
have and that no directory has. -/
theorem admitted_of_run {made : FileTree} {report : Report} (hfiles : files.WellFormed)
    (hworking : files.entry? working = some .directory)
    (hs : Survey.take files working source settings = .ok s)
    (hmade : files.makeDirectory working (.parse settings.outputDirectory) = .ok made)
    (hok : (run settings working source time files .empty).result = .ok report)
    (hd : d ∈ s.documents) :
    ∃ key u, s.key d = .ok key ∧ s.unit d = .ok u ∧ FileTree.FileName (s.unitName d) ∧
      made.entry? ((Location.parse settings.outputDirectory).place working ++ [s.unitName d]) ≠
        some .directory := by
  obtain ⟨-, hadmitted⟩ := (result_eq_ok_iff hfiles hworking
    (fun r hr => absurd hr List.not_mem_nil) hs hmade).mp hok
  have hfail : ∀ e, .fail e ∉ (s.plan .empty time).steps := fun e he => hadmitted _ he
  have hrenews : s.Renews .empty d := by
    refine (Survey.current_or_renews hfail hd).resolve_left ?_
    rintro ⟨r, hv⟩
    obtain ⟨key, -, hr, -⟩ := Survey.verdict_eq_current_iff.mp hv
    cases hr
  obtain ⟨u, hu⟩ := Survey.exists_unit_of_plan hfail hrenews
  obtain ⟨-, key, old, hv⟩ := hrenews
  obtain ⟨hfile, hdir⟩ := hadmitted _
    ((Survey.keep_mem_plan hfail).mpr ⟨d, hd, key, old, u, hv, hu, rfl⟩)
  rw [show (Record.ofUnit d.path key s.mode.name u time).unitName = u.name from rfl,
    Survey.name_of_unit hu] at hfile hdir
  exact ⟨key, u, (Survey.verdict_eq_stale_iff.mp hv).1, hu, hfile, hdir⟩

/-- Once the output directory is made, nothing has been built. -/
private theorem Underway.start {made : FileTree}
    (hempty : ∀ q, (Location.parse settings.outputDirectory).place working <+: q →
      made.isFile q = false)
    (hs : Survey.take made working source settings = .ok s)
    (hready : made.Ready working (.parse settings.outputDirectory))
    (hfree : ∀ d ∈ s.documents, made.entry? ((Location.parse settings.outputDirectory).place
      working ++ [s.unitName d]) ≠ some .directory) :
    Underway settings working source s made [] made .empty where
  found := ⟨hs, hready⟩
  kept := fun _ _ => rfl
  sub := nofun
  clean := Survey.clean_nothing hempty
  free := fun d hd _ => FileTree.entry?_eq_none (hempty _ (List.prefix_append _ _)) (hfree d hd)

/-- **Building every document is building the directory**, in whatever order: every build succeeds,
in the end there are the same files in the output directory and the same records up to their times,
and a build of the directory finds nothing left to do.  The project root must be there before the
first build as it is afterwards: making the output directory must not change what is found. -/
theorem runEach_eq_run {report : Report} (hfiles : files.WellFormed)
    (hworking : files.isDirectory working = true)
    (hempty : ∀ q, (Location.parse settings.outputDirectory).place working <+: q →
      files.isFile q = false)
    (hroot : settings.projectRoot ≠ "")
    (hname : ∀ g, Glob.parse settings.importsFile = .ok g → g.Spares)
    (hs : Survey.take files working source settings = .ok s) (hwhole : s.isWhole = true)
    (hwithin : Path.isWithin s.scope (Path.slashed s.config.projectRoot) = true)
    (hok : (run settings working source time files .empty).result = .ok report)
    (hsame : ∀ made, files.makeDirectory working (.parse settings.outputDirectory) = .ok made →
      Survey.take made working source settings = .ok s)
    {ds : List Document} (horder : ds.Perm s.documents) {ls : List (Location × Option Moment)}
    (hats : List.Forall₂ (fun d x => d.IsAt files working x.1) ds ls) (time' : Option Moment) :
    ∃ files' store', runEach settings working ls files .empty = .ok (files', store') ∧
      (∀ q, (Location.parse settings.outputDirectory).place working <+: q → ∀ bytes,
        files'.entry? q = some (.file bytes) ↔
          (run settings working source time files .empty).files.entry? q = some (.file bytes)) ∧
      (∀ path, (store'.get? path).map Record.untimed =
        ((run settings working source time files .empty).store.get? path).map Record.untimed) ∧
      (run settings working source time' files' store').result =
        .ok ⟨0, 0, s.documents.length, 0, []⟩ := by
  have hdir : files.entry? working = some .directory := beq_iff_eq.mp hworking
  obtain ⟨x, hx, hc⟩ := carried_of_run hfiles hdir (fun r hr => absurd hr List.not_mem_nil) hok
  obtain rfl : x = s := Except.ok.inj (hx.symm.trans hs)
  obtain ⟨-, made, -, hmade, -⟩ := exists_runAll_of_run hok
  obtain ⟨hready, hgrows⟩ := FileTree.ready_of_makeDirectory hfiles hdir hmade
  obtain ⟨-, hfound⟩ := Survey.found_of_take hfiles hdir hs
  have hadmitted := fun d hd => admitted_of_run (d := d) hfiles hdir hs hmade hok hd
  -- the build of the directory leaves everything clean
  have hclean := (Survey.clean_nothing hempty).next hfound.nothing hfound hfiles hfiles
    (Survey.not_confuses_nothing x) hc hwhole
  -- so it is enough that the builds of the documents do, whether there are any or not
  suffices h : ∃ files' store' made', runEach settings working ls files .empty =
      .ok (files', store') ∧ x.Clean ((Location.parse settings.outputDirectory).place working)
        files' store' ∧ files'.WellFormed ∧ files'.entry? working = some .directory ∧
      Survey.take files' working source settings = .ok x ∧
      files'.makeDirectory working (.parse settings.outputDirectory) = .ok made' by
    obtain ⟨files', store', made', hall, hclean', hfiles', hdir', htake, hmade'⟩ := h
    refine ⟨files', store', hall, fun q hq bytes => hclean'.file_iff hclean hq,
      hclean'.recorded.untimed_eq hclean.recorded,
      result_of_recorded hfiles' hdir' htake hwhole hmade' hclean'.recorded fun n hn => ?_⟩
    obtain ⟨d, hd, rfl⟩ := List.mem_map.mp hn
    obtain ⟨-, -, -, -, hfile, -⟩ := hadmitted d hd
    exact hfile
  cases hats with
  | nil =>
    have hstart : (x.only []).Clean ((Location.parse settings.outputDirectory).place working) files
        .empty := Survey.clean_nothing hempty
    exact ⟨files, .empty, made, rfl, hstart.of_only horder hfound.unitNames, hfiles, hdir, hs, hmade⟩
  | @cons d l ds ls hat hats =>
    have hd : d ∈ x.documents := horder.mem_iff.mp List.mem_cons_self
    have hworking' := hgrows.directory hdir
    have hmade' := hsame made hmade
    have hkept := fun q hq => hgrows.entry?_of_isSome (q := q) hq
    -- the first of the builds makes the output directory
    have hfirst : runEach settings working (l :: ls) files .empty =
        runEach settings working (l :: ls) made .empty := by
      rw [runEach, runEach, run_made (Survey.take_single hfiles hdir hroot hs hwhole hwithin hd hat)
        (Survey.take_single hready.wellFormed hworking' hroot hmade' hwhole hwithin hd
          (hat.mono hkept)) hmade hready]
    have hunderway := Underway.start (fun q hq => hgrows.isFile_eq.trans (hempty q hq)) hmade' hready
      fun e he => (hadmitted e he).choose_spec.choose_spec.2.2.2
    have hbuild : x.Buildable := by
      intro e he
      obtain ⟨key, u, hkey, hu, hfile, -⟩ := hadmitted e he
      exact ⟨key, u, hkey, hu, hfile⟩
    obtain ⟨files', store', hall, hlast⟩ := Underway.all hworking' hroot hname hwhole hwithin hbuild
      (.cons (hat.mono hkept) (hats.imp fun _ _ h => h.mono hkept)) hunderway
      (fun e he => horder.mem_iff.mp he) (horder.nodup_iff.mpr hfound.unitNames.of_map) nofun
    obtain ⟨hfound', hready'⟩ := hlast.found
    rw [List.append_nil] at hlast
    exact ⟨files', store', files', hfirst.trans hall,
      hlast.clean.of_only ((List.reverse_perm _).trans horder) hfound.unitNames, hready'.wellFormed,
      by rw [hlast.kept working (by rw [hworking']; rfl), hworking'], hfound',
      hready'.makeDirectory_eq⟩

end

/-! ### Two pages -/

attribute [local instance] SetOrder.standard

/-- Settings for a project in one directory. -/
def rooted (root : String) : Settings := { Settings.declaring "A" with projectRoot := root }

private def twinPages : Survey :=
  { Survey.onePage "/b" "/b/index.md" "A" with
    documents := [⟨"/b/index.md", "y\n"⟩, ⟨"/b/page.md", "z\n"⟩] }

private theorem take_twinPages {t : FileTree}
    (ht : t = .twins ∨ t = FileTree.twins.put ["out"] .directory) :
    Survey.take t [] (.parse "b") (rooted "b") = .ok twinPages := by
  rcases ht with rfl | rfl
  all_goals
    refine Survey.take_of_directory rfl rfl ?_ rfl ?_ ?_ ?_ rfl rfl
    all_goals decide +kernel

/-- Two pages are built in the order that is not the one of their names. -/
theorem runEach_eq_run_twins : ∃ files' store',
    runEach (rooted "b") [] [(.parse "b/page.md", none), (.parse "b/index.md", none)] .twins
      .empty = .ok (files', store') ∧
    (run (rooted "b") [] (.parse "b") none files' store').result = .ok ⟨0, 0, 2, 0, []⟩ := by
  have hmade : FileTree.twins.makeDirectory [] (.parse "out") =
      .ok (FileTree.twins.put ["out"] .directory) := by decide +kernel
  obtain ⟨report, hok⟩ := exists_of_isOk
    (x := (run (rooted "b") [] (.parse "b") none .twins .empty).result)
    (by rw [run, take_twinPages (.inl rfl)]; decide +kernel)
  have hats : List.Forall₂ (fun d x => Document.IsAt d .twins [] x.1)
      [⟨"/b/page.md", "z\n"⟩, ⟨"/b/index.md", "y\n"⟩]
      [(Location.parse "b/page.md", none), (Location.parse "b/index.md", (none : Option Moment))] :=
    .cons ⟨["b", "page.md"], by decide +kernel⟩ (.cons ⟨["b", "index.md"], by decide +kernel⟩ .nil)
  have hsame : ∀ made, FileTree.twins.makeDirectory [] (.parse (rooted "b").outputDirectory) =
      .ok made → Survey.take made [] (.parse "b") (rooted "b") = .ok twinPages := by
    intro made h
    obtain rfl := Except.ok.inj (hmade.symm.trans h)
    exact take_twinPages (.inr rfl)
  have hempty : ∀ q, (Location.parse (rooted "b").outputDirectory).place [] <+: q →
      FileTree.twins.isFile q = false := by
    rintro _ ⟨q, rfl⟩
    rfl
  have horder : List.Perm [⟨"/b/page.md", "z\n"⟩, ⟨"/b/index.md", "y\n"⟩] twinPages.documents :=
    .swap _ _ []
  have hwell : FileTree.twins.WellFormed := FileTree.wellFormed_of_entries (by decide +kernel)
  have hwithin : Path.isWithin twinPages.scope (Path.slashed twinPages.config.projectRoot) = true :=
    by decide +kernel
  have hroot : (rooted "b").projectRoot ≠ "" := by decide
  obtain ⟨files', store', hall, -, -, hresult⟩ := runEach_eq_run hwell rfl hempty hroot
    (fun _ h => Glob.spares_standard h) (take_twinPages (.inl rfl)) rfl hwithin hok hsame horder hats none
  exact ⟨files', store', hall, hresult⟩

/-- A directory with an import file and a page, whose name differs from that of the output directory
in the case of its letters. -/
def capitals : FileTree := ⟨[(["OUT"], .directory), (["OUT", "_Imports.razor"], .file []),
  (["OUT", "a.md"], .file [120, 10])]⟩

-- With `out` as its root, the project holds `OUT` up to case.  Before the first build the root is not
-- there, and import files are looked for around it; afterwards it is there, and holds none.
example : (Sources.imports capitals [] (.parse "out") "_Imports.razor").toOption =
      some [⟨"/OUT/_Imports.razor", ""⟩] ∧
    (Sources.imports (capitals.put ["out"] .directory) [] (.parse "out") "_Imports.razor").toOption =
      some [] := by
  decide +kernel

end Build

end Pageworks
