import Mathlib.Data.List.Infix
import Pageworks.Proofs.Build.Frame

/-!
# Histories of builds

One directory is built again and again into one output directory, while its sources change and the
settings differ from build to build.  What a build leaves behind should depend on what it has found
and on nothing else, as if it were the first one.

What carries the proof is that the last build left what a build from scratch would have left.  The
records then tell which files there are, and a record that a build leaves alone is the one that the
build would make.

## Main definitions

* `Survey.Clean` — files and records are what a build from scratch makes of what it finds.
* `Survey.Recorded` — the records are, whatever the files may be.
* `Survey.Confuses` — the hashed bytes of two builds do not tell them apart.
* `Build.History` — edits and builds of one directory, with what the builds have found.

## Main results

* `Survey.Recorded.next` — **a build leaves the records of what it finds** if the one before it did.
* `Survey.Clean.next` — **a build leaves files and records clean** if the one before it did.
* `Survey.Clean.unnoticed` — what happens if only the framing of the configurations is confused.
* `Build.History.clean` — **every build of a history is like a build from scratch**, unless two
  builds that follow each other confuse what they hash.
-/

namespace Pageworks

namespace Survey

/-! ### Clean outputs -/

/-- Files and records are what a build from scratch makes of what it finds: one file and one record
for each document, and no others. -/
structure Clean [SetOrder] (s : Survey) (out : Place) (files : FileTree) (store : Store) :
    Prop where
  unitNames : s.unitNames.Nodup
  made : ∀ d ∈ s.documents, ∃ key u time, s.key d = .ok key ∧ s.unit d = .ok u ∧
    files.entry? (out ++ [s.unitName d]) = some (Step.fileOf u.text) ∧
    store.get? d.path = some (Record.ofUnit d.path key s.mode.name u time)
  files : ∀ q, out <+: q → files.isFile q = true → ∃ d ∈ s.documents, q = out ++ [s.unitName d]
  records : ∀ r ∈ store.records, ∃ d ∈ s.documents, r.path = d.path

/-- The records alone are what a build from scratch makes of what it finds. -/
structure Recorded [SetOrder] (s : Survey) (store : Store) : Prop where
  made : ∀ d ∈ s.documents, ∃ key u time, s.key d = .ok key ∧ s.unit d = .ok u ∧
    store.get? d.path = some (Record.ofUnit d.path key s.mode.name u time)
  records : ∀ r ∈ store.records, ∃ d ∈ s.documents, r.path = d.path

theorem Clean.recorded [SetOrder] {s : Survey} {out : Place} {files : FileTree} {store : Store}
    (h : s.Clean out files store) : s.Recorded store where
  made := fun d hd => by
    obtain ⟨key, u, time, hkey, hu, -, hr⟩ := h.made d hd
    exact ⟨key, u, time, hkey, hu, hr⟩
  records := h.records

/-- The bytes that two builds hash do not tell them apart: they collide, or different
configurations are framed as the same bytes. -/
def Confuses (a b : Survey) : Prop :=
  Sha256.Collide a.hashed b.hashed ∨ a.config ≠ b.config ∧
    Fingerprint.framed a.config.parts = Fingerprint.framed b.config.parts

section

variable {t t' : FileTree} {root root' : Place} {a b : Survey}

/-- Without zero characters in the namespaces, only collisions confuse builds. -/
theorem Confuses.collide (h : a.Confuses b) (ha : a.Found t root) (hb : b.Found t' root')
    (hns : ZeroFree a.config.rootNamespace) (hns' : ZeroFree b.config.rootNamespace) :
    Sha256.Collide a.hashed b.hashed := by
  rcases h with h | ⟨hne, h⟩
  · exact h
  · exact absurd (ProjectConfig.eq_of_framed_parts hns hns' ha.projectRoot hb.projectRoot h) hne

/-- A document keeps its key from one configuration to another that is framed as the same bytes. -/
theorem key_eq_of_framed (himports : a.imports = b.imports) (hmode : a.mode = b.mode)
    (hpreset : a.preset = b.preset)
    (h : Fingerprint.framed a.config.parts = Fingerprint.framed b.config.parts) (d : Document) :
    a.key d = b.key d := by
  have hprint : a.config.fingerprint = b.config.fingerprint := by
    rw [ProjectConfig.fingerprint, ProjectConfig.fingerprint, Fingerprint.ofParts,
      Fingerprint.ofParts, h]
  rw [key, key, himports]
  cases Import.applicable b.imports d.path with
  | error e => rfl
  | ok imports =>
    dsimp only
    rw [CacheKey.of, CacheKey.of, hprint, hmode, hpreset]

end

/-! ### From build to build -/

section

variable {prev s : Survey} {t files files' : FileTree} {root out : Place} {store store' : Store}
  {time : Option Moment} {d : Document} {r : Record} {n : String}

/-- The survey without its documents. -/
def nothing (s : Survey) : Survey :=
  { s with documents := [], isWhole := false, sweeps := .ok false }

theorem Found.nothing (h : s.Found t root) : s.nothing.Found t root where
  scope := h.scope
  renderer := h.renderer
  projectRoot := h.projectRoot
  imports := h.imports
  unitNames := List.nodup_nil
  documents := fun _ hd => absurd hd List.not_mem_nil
  whole := fun hwhole => by cases hwhole
  sweeps := fun hwhole => by cases hwhole
  appears := fun _ _ => rfl

theorem not_confuses_nothing (s : Survey) : ¬ s.nothing.Confuses s := by
  rintro (⟨x, hx, -⟩ | ⟨hne, -⟩)
  · exact absurd hx List.not_mem_nil
  · exact hne rfl

variable [SetOrder]

/-- Where there are no files and no records, a build without documents has left nothing. -/
theorem clean_nothing (hout : ∀ q, out <+: q → files.isFile q = false) :
    s.nothing.Clean out files .empty where
  unitNames := List.nodup_nil
  made := fun _ hd => absurd hd List.not_mem_nil
  files := fun q hq hfile => by
    rw [hout q hq] at hfile
    cases hfile
  records := fun _ hr => absurd hr List.not_mem_nil

/-- Every record is the one of a document, with its unit. -/
theorem Recorded.exists_unit (hrec : s.Recorded store) (hr : r ∈ store.records) :
    ∃ d ∈ s.documents, ∃ u, s.unit d = .ok u ∧ r.path = d.path ∧ r.unitName = s.unitName d ∧
      r.text = u.text := by
  obtain ⟨d, hd, hpath⟩ := hrec.records r hr
  obtain ⟨key, u, time, -, hu, hget⟩ := hrec.made d hd
  rw [← hpath, Store.mem_records_iff.mp hr] at hget
  refine ⟨d, hd, u, hu, hpath, ?_, ?_⟩
  · rw [Option.some.inj hget, ← name_of_unit hu]
    rfl
  · rw [Option.some.inj hget]
    rfl

/-- Every record has its file. -/
theorem Clean.file_of_record (hclean : s.Clean out files store) (hr : r ∈ store.records) :
    files.entry? (out ++ [r.unitName]) = some (Step.fileOf r.text) := by
  obtain ⟨d, hd, u, hu, -, hname, htext⟩ := hclean.recorded.exists_unit hr
  obtain ⟨-, u', -, -, hu', hfile, -⟩ := hclean.made d hd
  rw [hname, htext, hfile, Except.ok.inj (hu'.symm.trans hu)]

/-- Every file that is left behind is recorded. -/
theorem Clean.exists_record (hclean : s.Clean out files store)
    (hfile : files.isFile (out ++ [n]) = true) : ∃ r ∈ store.records, r.unitName = n := by
  obtain ⟨d, hd, hplace⟩ := hclean.files _ (List.prefix_append _ _) hfile
  obtain ⟨key, u, time, -, hu, -, hr⟩ := hclean.made d hd
  refine ⟨_, Store.mem_records_of_get? hr, ?_⟩
  rw [Place.child_inj hplace, ← name_of_unit hu]
  rfl

section

variable (hrec : prev.Recorded store) (hprev : prev.Found t root) (h : s.Found files root)

include hrec hprev h

/-- A record without a document is the record of one that is gone. -/
private theorem Recorded.mem_gone (hwhole : s.isWhole = true) (hr : r ∈ store.records)
    (hpath : r.path ∉ s.documents.map Document.path) : r ∈ s.gone store := by
  obtain ⟨d', hd', hrpath⟩ := hrec.records r hr
  refine mem_gone_iff.mpr ⟨h.sweeps hwhole, hr, hpath, ?_⟩
  rw [hrpath, h.scope, ← hprev.scope]
  exact hprev.isWithin_scope hd'

variable (ht : t.WellFormed) (hfiles : files.WellFormed) (hfree : ¬ prev.Confuses s)

include ht hfiles hfree

/-- **A record that is left alone is the one that the build would make.** -/
theorem Recorded.current (hd : d ∈ s.documents) (hv : s.verdict store d = .current r) :
    ∃ key u time, s.key d = .ok key ∧ s.unit d = .ok u ∧
      r = Record.ofUnit d.path key s.mode.name u time := by
  obtain ⟨key, hkey, hr, hrkey⟩ := verdict_eq_current_iff.mp hv
  -- the record was made by the build before, for the document that had this path then
  obtain ⟨d', hd', hpath⟩ := hrec.records r (Store.mem_records_of_get? hr)
  have hsame : d'.path = d.path := hpath.symm.trans (Store.path_of_get? hr)
  obtain ⟨key', u, time, hkey', hu, hr'⟩ := hrec.made d' hd'
  rw [hsame, hr] at hr'
  have hrecord := Option.some.inj hr'
  have hkeys : key' = key := by
    rw [← hrkey, hrecord]
    rfl
  obtain ⟨hunit, hmode⟩ := unit_congr ht hfiles hprev h hd' hd hsame (hkeys ▸ hkey') hkey
    (fun hframed => by_contra fun hne => hfree (.inr ⟨hne, hframed⟩))
    (fun hc => hfree (.inl hc)) hu
  refine ⟨key, u, time, hkey, hunit, ?_⟩
  rw [hrecord, hkeys, hmode]

/-- A unit that is left alone has the name that its document gives today. -/
theorem Recorded.unitName_of_current (hd : d ∈ s.documents)
    (hv : s.verdict store d = .current r) : r.unitName = s.unitName d := by
  obtain ⟨key, u, time, -, hu, rfl⟩ := hrec.current hprev h ht hfiles hfree hd hv
  exact name_of_unit hu

variable (hc : s.Carried time out files files' store store')

include hc

/-- Every document is recorded, whether it is generated anew or not. -/
private theorem Recorded.next_made (hd : d ∈ s.documents) :
    ∃ key u time, s.key d = .ok key ∧ s.unit d = .ok u ∧
      store'.get? d.path = some (Record.ofUnit d.path key s.mode.name u time) := by
  rcases current_or_renews hc.noFail hd with ⟨r, hv⟩ | hrenews
  · obtain ⟨key, u, time, hkey, hu, rfl⟩ := hrec.current hprev h ht hfiles hfree hd hv
    exact ⟨key, u, time, hkey, hu, hc.get?_of_current h hd hv⟩
  · obtain ⟨key, u, hkey, hu, hr⟩ := hc.stored h hrenews
    exact ⟨key, u, time, hkey, hu, hr⟩

omit ht hfiles hfree in
/-- No record is left over. -/
private theorem Recorded.next_records (hwhole : s.isWhole = true) (hr : r ∈ store'.records) :
    ∃ d ∈ s.documents, r.path = d.path := by
  by_contra hnone
  have hpath : r.path ∉ s.documents.map Document.path := by
    intro hmem
    obtain ⟨d, hd, hdpath⟩ := List.mem_map.mp hmem
    exact hnone ⟨d, hd, hdpath.symm⟩
  rw [Store.mem_records_iff] at hr
  by_cases hgone : ∃ x ∈ s.gone store, x.path = r.path
  · obtain ⟨x, hx, hxpath⟩ := hgone
    rw [← hxpath, hc.forgotten hx] at hr
    cases hr
  · have hkept : store'.get? r.path = store.get? r.path := by
      refine hc.remembered ?_ fun x hx hxpath => hgone ⟨x, hx, hxpath⟩
      exact fun d hd hdpath => hpath (hdpath ▸ List.mem_map_of_mem hd.1)
    rw [hkept] at hr
    exact hgone ⟨r, hrec.mem_gone hprev h hwhole (Store.mem_records_of_get? hr) hpath, rfl⟩

/-- **A build leaves the records of what it finds**, if the one before it did and the two are not
confused. -/
theorem Recorded.next (hwhole : s.isWhole = true) : s.Recorded store' where
  made := fun _ hd => hrec.next_made hprev h ht hfiles hfree hc hd
  records := fun _ hr => hrec.next_records hprev h hc hwhole hr

end

section

variable (hclean : prev.Clean out files store) (hprev : prev.Found t root)
  (h : s.Found files root) (ht : t.WellFormed) (hfiles : files.WellFormed)
  (hfree : ¬ prev.Confuses s) (hc : s.Carried time out files files' store store')

include hclean hprev h ht hfiles hfree hc

/-- The unit of every document is there, whether it is generated anew or not. -/
private theorem Clean.next_made (hd : d ∈ s.documents) :
    ∃ key u time, s.key d = .ok key ∧ s.unit d = .ok u ∧
      files'.entry? (out ++ [s.unitName d]) = some (Step.fileOf u.text) ∧
      store'.get? d.path = some (Record.ofUnit d.path key s.mode.name u time) := by
  obtain ⟨key, u, time', hkey, hu, hr⟩ :=
    hclean.recorded.next_made hprev h ht hfiles hfree hc hd
  refine ⟨key, u, time', hkey, hu, ?_, hr⟩
  rcases current_or_renews hc.noFail hd with ⟨r, hv⟩ | hrenews
  · obtain ⟨key', u', time'', -, hu', rfl⟩ :=
      hclean.recorded.current hprev h ht hfiles hfree hd hv
    obtain rfl := Except.ok.inj (hu'.symm.trans hu)
    obtain ⟨-, -, hget, -⟩ := verdict_eq_current_iff.mp hv
    have hfile : files.entry? (out ++ [u'.name]) = some (Step.fileOf u'.text) :=
      hclean.file_of_record (Store.mem_records_of_get? hget)
    -- no other document generates a file of its name, and a name in use is not given up
    rw [← name_of_unit hu]
    refine hc.untouched ?_ ?_ hfile
    · intro e he hname
      exact not_renews_of_current hv
        (h.eq_of_unitName he.1 hd (hname.trans (name_of_unit hu)) ▸ he)
    · intro hn
      exact absurd (name_of_unit hu ▸ List.mem_map_of_mem hd) hn
  · obtain ⟨u', hu', hfile⟩ := hc.written h hrenews
    rw [hfile, Except.ok.inj (hu'.symm.trans hu)]

variable (hwhole : s.isWhole = true)

include hwhole

/-- A unit whose name no document has any more is given up, with its document or because its
document has another name today. -/
private theorem Clean.givesUp (hr : r ∈ store.records) (hn : r.unitName ∉ s.unitNames) :
    s.GivesUp store r := by
  by_cases hmem : r.path ∈ s.documents.map Document.path
  · obtain ⟨d, hd, hpath⟩ := List.mem_map.mp hmem
    have hget : store.get? d.path = some r := by rw [hpath, Store.mem_records_iff.mp hr]
    rcases current_or_renews hc.noFail hd with ⟨x, hv⟩ | ⟨-, key, old, hv⟩
    · obtain ⟨-, -, hx, -⟩ := verdict_eq_current_iff.mp hv
      rw [hget] at hx
      rw [← Option.some.inj hx] at hv
      rw [hclean.recorded.unitName_of_current hprev h ht hfiles hfree hd hv] at hn
      exact absurd (List.mem_map_of_mem hd) hn
    · have hold := (verdict_eq_stale_iff.mp hv).2.1
      rw [hget] at hold
      exact .inr ⟨d, hd, key, hold ▸ hv⟩
  · exact .inl (hclean.recorded.mem_gone hprev h hwhole hr hmem)

/-- No file is left over. -/
private theorem Clean.next_files {q : Place} (hq : out <+: q) (hfile : files'.isFile q = true) :
    ∃ d ∈ s.documents, q = out ++ [s.unitName d] := by
  obtain ⟨bytes, hbytes⟩ := FileTree.isFile_iff.mp hfile
  by_cases hname : ∃ n, q = out ++ [n]
  · obtain ⟨n, rfl⟩ := hname
    by_cases hn : n ∈ s.unitNames
    · -- the file is the one of a document
      obtain ⟨d, hd, rfl⟩ := List.mem_map.mp hn
      exact ⟨d, hd, rfl⟩
    · -- the file was there before, so its unit is recorded, and the record is given up
      obtain ⟨hbefore, hnone⟩ := hc.unwritten hn fun d hd r hv hrn =>
        hn (hrn ▸ hclean.recorded.unitName_of_current hprev h ht hfiles hfree hd hv ▸
          List.mem_map_of_mem hd)
      obtain ⟨r, hr, rfl⟩ :=
        hclean.exists_record (FileTree.isFile_iff.mpr ⟨bytes, hbefore bytes hbytes⟩)
      rw [hnone ⟨r, hclean.givesUp hprev h ht hfiles hfree hc hwhole hr hn, rfl⟩] at hbytes
      cases hbytes
  · obtain ⟨d, -, hplace⟩ := hclean.files q hq (FileTree.isFile_iff.mpr
      ⟨bytes, (hc.elsewhere fun n hqn => hname ⟨n, hqn⟩).mp hbytes⟩)
    exact absurd ⟨_, hplace⟩ hname

/-- **A build leaves files and records clean** if the one before it did and the two are not
confused. -/
theorem Clean.next : s.Clean out files' store' where
  unitNames := h.unitNames
  made := fun _ hd => hclean.next_made hprev h ht hfiles hfree hc hd
  files := fun _ hq hfile => hclean.next_files hprev h ht hfiles hfree hc hwhole hq hfile
  records := fun _ hr => hclean.recorded.next_records hprev h hc hwhole hr

end

/-- **A configuration that is framed as the same bytes goes unnoticed**: every document keeps its
record, with the unit that it had under the other configuration. -/
theorem Clean.unnoticed (hclean : prev.Clean out files store)
    (hdocuments : prev.documents = s.documents) (himports : prev.imports = s.imports)
    (hmode : prev.mode = s.mode) (hpreset : prev.preset = s.preset)
    (hframed : Fingerprint.framed prev.config.parts = Fingerprint.framed s.config.parts)
    (hc : s.Carried time out files files' store store') (hd : d ∈ s.documents) :
    store'.get? d.path = store.get? d.path := by
  -- the keys are the old ones, so no document is generated anew
  have hcurrent : ∀ e ∈ s.documents, ¬ s.Renews store e := by
    rintro e he ⟨-, key, old, hv⟩
    obtain ⟨hkey, hold, hne⟩ := verdict_eq_stale_iff.mp hv
    obtain ⟨key', u, time, hkey', -, -, hr⟩ := hclean.made e (hdocuments ▸ he)
    rw [hr] at hold
    rw [key_eq_of_framed himports hmode hpreset hframed, hkey] at hkey'
    exact hne _ hold.symm (Except.ok.inj hkey').symm
  refine hc.remembered (fun e he => absurd he (hcurrent e he.1)) ?_
  rintro r hr hpath
  exact (mem_gone_iff.mp hr).2.2.1 (hpath ▸ List.mem_map_of_mem hd)

/-- Clean outputs stay clean as long as nobody touches them. -/
theorem Clean.of_entry?_eq (hclean : s.Clean out files store)
    (hout : ∀ q, out <+: q → files'.entry? q = files.entry? q) : s.Clean out files' store where
  unitNames := hclean.unitNames
  made := fun d hd => by
    obtain ⟨key, u, time, hkey, hu, hfile, hr⟩ := hclean.made d hd
    exact ⟨key, u, time, hkey, hu, (hout _ (List.prefix_append _ _)).trans hfile, hr⟩
  files := fun q hq hfile => by
    refine hclean.files q hq ?_
    rw [FileTree.isFile, hout q hq] at hfile
    exact hfile
  records := hclean.records

/-- What is clean is determined by what was found: after any two histories the files are the
same. -/
theorem Clean.file_iff (h : s.Clean out files store) (h' : s.Clean out files' store') {q : Place}
    (hq : out <+: q) {bytes : List UInt8} :
    files.entry? q = some (.file bytes) ↔ files'.entry? q = some (.file bytes) := by
  have key : ∀ {t t' : FileTree} {x x' : Store}, s.Clean out t x → s.Clean out t' x' →
      t.entry? q = some (.file bytes) → t'.entry? q = some (.file bytes) := by
    intro t t' x x' hx hx' hfile
    obtain ⟨d, hd, rfl⟩ := hx.files q hq (FileTree.isFile_iff.mpr ⟨bytes, hfile⟩)
    obtain ⟨-, u, -, -, hu, hbytes, -⟩ := hx.made d hd
    obtain ⟨-, u', -, -, hu', hbytes', -⟩ := hx'.made d hd
    rw [hu] at hu'
    rw [hbytes', ← Except.ok.inj hu', ← hbytes, hfile]
  exact ⟨key h h', key h' h⟩

end

end Survey

namespace Build

/-! ### Histories -/

variable [SetOrder]

/-- What has become of the files and records when one directory is built again and again into one
output directory, and what the builds have found, the last one first. -/
inductive History (working : Place) (source : Location) (out : Place) :
    FileTree → Store → List Survey → Prop
  /-- Before any build there are no records, and the output directory holds no files. -/
  | start {files : FileTree} (hfiles : files.WellFormed)
      (hworking : files.isDirectory working = true)
      (hout : ∀ q, out <+: q → files.isFile q = false) : History working source out files .empty []
  /-- Anything may happen to the files outside the output directory. -/
  | edit {files files' : FileTree} {store : Store} {surveys : List Survey}
      (h : History working source out files store surveys) (hfiles : files'.WellFormed)
      (hworking : files'.isDirectory working = true)
      (hout : ∀ q, out <+: q → files'.entry? q = files.entry? q) :
      History working source out files' store surveys
  /-- The directory is built with any settings but those of the output directory. -/
  | build {files : FileTree} {store : Store} {surveys : List Survey} {s : Survey} {report : Report}
      (h : History working source out files store surveys) (settings : Settings)
      (time : Option Moment)
      (hplace : (Location.parse settings.outputDirectory).place working = out)
      (hs : Survey.take files working source settings = .ok s) (hwhole : s.isWhole = true)
      (hok : (run settings working source time files store).result = .ok report) :
      History working source out (run settings working source time files store).files
        (run settings working source time files store).store (s :: surveys)

namespace History

variable {working out : Place} {source : Location} {files : FileTree} {store : Store}
  {surveys : List Survey} {s : Survey}

theorem reachable (h : History working source out files store surveys) : store.Reachable := by
  induction h with
  | start _ _ _ => exact .empty
  | edit _ _ _ _ ih => exact ih
  | build _ settings time _ _ _ _ ih => exact .build ih _ _ _ _ _

/-- Builds keep the file tree well-formed and the working directory in it. -/
theorem wellFormed (h : History working source out files store surveys) :
    files.WellFormed ∧ files.entry? working = some .directory := by
  induction h with
  | start hfiles hworking _ => exact ⟨hfiles, beq_iff_eq.mp hworking⟩
  | edit _ hfiles hworking _ _ => exact ⟨hfiles, beq_iff_eq.mp hworking⟩
  | build h settings time _ _ _ hok ih =>
    obtain ⟨x, -, hc⟩ := carried_of_run ih.1 ih.2 (fun r hr => h.reachable.plainName hr) hok
    exact ⟨hc.wellFormed, hc.directory _ ih.2⟩

/-- The last build was right about what it found, whatever has become of it. -/
theorem found (h : History working source out files store (s :: surveys)) :
    ∃ t : FileTree, t.WellFormed ∧ s.Found t (source.place working) := by
  generalize hall : s :: surveys = all at h
  induction h with
  | start _ _ _ => cases hall
  | edit _ _ _ _ ih => exact ih hall
  | build h settings time _ hs hwhole _ _ =>
    obtain ⟨rfl, -⟩ := List.cons.inj hall
    obtain ⟨hfiles, hworking⟩ := h.wellFormed
    obtain ⟨-, hfound⟩ := Survey.found_of_take hfiles hworking hs
    rw [hwhole] at hfound
    exact ⟨_, hfiles, hfound⟩

/-- Nothing is there before the first build. -/
private theorem nothing (h : History working source out files store []) :
    (∀ q, out <+: q → files.isFile q = false) ∧ store = .empty := by
  generalize hall : ([] : List Survey) = all at h
  induction h with
  | start _ _ hout => exact ⟨hout, rfl⟩
  | edit _ _ _ hout ih =>
    obtain ⟨hnone, hstore⟩ := ih hall
    refine ⟨fun q hq => ?_, hstore⟩
    rw [FileTree.isFile, hout q hq]
    exact hnone q hq
  | build _ _ _ _ _ _ _ _ => cases hall

/-- **Every build of a history is like a build from scratch**, unless two builds that follow each
other confuse what they hash. -/
theorem clean (h : History working source out files store (s :: surveys)) :
    s.Clean out files store ∨ ∃ a b, [b, a] <:+: s :: surveys ∧ a.Confuses b := by
  generalize hall : s :: surveys = all at h ⊢
  induction h generalizing s surveys with
  | start _ _ _ => cases hall
  | edit _ _ _ hout ih =>
    rcases ih hall with hclean | hconfused
    · exact .inl (hclean.of_entry?_eq hout)
    · exact .inr hconfused
  | @build files store before s' report h settings time hplace hs hwhole hok ih =>
    obtain ⟨rfl, rfl⟩ := List.cons.inj hall
    obtain ⟨hfiles, hworking⟩ := h.wellFormed
    obtain ⟨x, hx, hc⟩ := carried_of_run hfiles hworking (fun r hr => h.reachable.plainName hr) hok
    obtain rfl : x = s := Except.ok.inj (hx.symm.trans hs)
    obtain ⟨-, hfound⟩ := Survey.found_of_take hfiles hworking hs
    rw [hwhole] at hfound
    rw [hplace] at hc
    cases surveys with
    | nil =>
      -- the first build follows one that has found no documents
      obtain ⟨hout, rfl⟩ := h.nothing
      exact .inl ((Survey.clean_nothing hout).next hfound.nothing hfound hfiles hfiles
        (Survey.not_confuses_nothing x) hc hwhole)
    | cons prev rest =>
      obtain ⟨t, ht, hprev⟩ := h.found
      by_cases hconfused : prev.Confuses x
      · exact .inr ⟨prev, x, ⟨[], rest, rfl⟩, hconfused⟩
      · rcases ih rfl with hclean | ⟨a, b, hinfix, hab⟩
        · exact .inl (hclean.next hprev hfound ht hfiles hconfused hc hwhole)
        · exact .inr ⟨a, b, hinfix.trans (List.suffix_cons _ _).isInfix, hab⟩

end History

end Build

/-! ### A page that is renamed -/

/-- A directory with one page. -/
def FileTree.onePage : FileTree := ⟨[(["site"], .directory), (["site", "a.md"], .file [120, 10])]⟩

namespace Build

attribute [local instance] SetOrder.standard

/-- The directory is built with its page under the first name. -/
def beforeRename : BuildOutcome :=
  follow (.onePage "/site" "/site/a.md" "A") [] (.parse "out") none
    (.put .onePage ["out"] .directory) .empty

/-- The page gets another name. -/
def renamed : FileTree :=
  (beforeRename.files.erase ["site", "a.md"]).put ["site", "b.md"] (.file [120, 10])

/-- The directory is built again, for another base class. -/
def afterRename : BuildOutcome :=
  run (.declaring "B") [] (.parse "site") none renamed beforeRename.store

theorem take_onePage : Survey.take .onePage [] (.parse "site") (.declaring "A") =
    .ok (.onePage "/site" "/site/a.md" "A") := by
  refine Survey.take_of_directory rfl rfl ?_ rfl ?_ ?_ ?_ rfl rfl
  all_goals decide +kernel

theorem take_renamed : Survey.take renamed [] (.parse "site") (.declaring "B") =
    .ok (.onePage "/site" "/site/b.md" "B") := by
  refine Survey.take_of_directory rfl rfl ?_ rfl ?_ ?_ ?_ rfl rfl
  all_goals decide +kernel

theorem run_onePage :
    run (.declaring "A") [] (.parse "site") none .onePage .empty = beforeRename := by
  have hmade : FileTree.onePage.makeDirectory [] (.parse "out") =
      .ok (.put .onePage ["out"] .directory) := by decide +kernel
  rw [run, take_onePage]
  dsimp only [Settings.declaring]
  rw [hmade]
  rfl

theorem history_beforeRename : History [] (.parse "site") ["out"] beforeRename.files
    beforeRename.store [.onePage "/site" "/site/a.md" "A"] := by
  obtain ⟨report, hok⟩ := exists_of_isOk (x := beforeRename.result) (by decide +kernel)
  rw [← run_onePage] at hok ⊢
  -- nothing below the output directory is in the tree yet, since its first name is not
  refine .build (.start (FileTree.wellFormed_of_entries (by decide +kernel)) rfl ?_) _ _
    (by decide +kernel) take_onePage rfl hok
  rintro _ ⟨q, rfl⟩
  rfl

/-- The tree with the other name is well-formed, and the directory can be built. -/
theorem renamed_spec : (∀ x ∈ renamed.entries, (∀ n ∈ x.1, ProperName n) ∧
    renamed.entry? x.1.dropLast = some .directory) ∧ afterRename.result.isOk = true := by
  rw [afterRename, run, take_renamed]
  decide +kernel

private theorem history_afterRename : History [] (.parse "site") ["out"] afterRename.files
    afterRename.store [.onePage "/site" "/site/b.md" "B", .onePage "/site" "/site/a.md" "A"] := by
  obtain ⟨hentries, hisok⟩ := renamed_spec
  obtain ⟨report, hok⟩ := exists_of_isOk hisok
  refine .build (.edit history_beforeRename (FileTree.wellFormed_of_entries hentries)
    (beq_iff_eq.mpr (FileTree.entry?_nil _)) ?_) _ _ rfl take_renamed rfl hok
  -- neither name of the page is below the output directory
  rintro _ ⟨q, rfl⟩
  rw [renamed, FileTree.entry?_put (by decide), FileTree.entry?_erase (by decide)]
  rfl

/-- After the page is renamed and the base class changed nothing is left over, unless the hashed
bytes collide. -/
theorem History.clean_renamed :
    (Survey.onePage "/site" "/site/b.md" "B").Clean ["out"] afterRename.files afterRename.store ∨
      Sha256.Collide (Survey.onePage "/site" "/site/a.md" "A").hashed
        (Survey.onePage "/site" "/site/b.md" "B").hashed := by
  rcases history_afterRename.clean with hclean | ⟨a, b, hinfix, hab⟩
  · exact .inl hclean
  · -- with two builds in the history they are the two that follow each other
    have hlast : [b, a] = [.onePage "/site" "/site/b.md" "B", .onePage "/site" "/site/a.md" "A"] :=
      hinfix.eq_of_length rfl
    obtain ⟨rfl, hfirst⟩ := List.cons.inj hlast
    obtain rfl := List.singleton_inj.mp hfirst
    obtain ⟨t, -, hfound⟩ := history_beforeRename.found
    obtain ⟨t', -, hfound'⟩ := history_afterRename.found
    exact .inr (hab.collide hfound hfound' (by decide) (by decide))

end Build

end Pageworks
