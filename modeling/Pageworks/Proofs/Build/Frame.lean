import Pageworks.Proofs.Build.Plan

/-!
# What a build leaves alone

Builds of different directories share one store and one output directory.  A build answers for the
documents in its scope only, so records of other documents must not change, and their files should
not.  The files do change where names meet: the guard against two documents of one name looks at
the documents of one build, while the name may be taken by a document that another build recorded.

## Main definitions

* `Store.Reachable` — the stores that builds leave behind.
* `Survey.Claims` — the build writes or removes the file of a unit name.

## Main results

* `Store.Reachable.plainName` — every unit that is recorded has a plain name.
* `Build.outside_unchanged` — **what is recorded outside the scope of a build stays**, and so does
  its file unless the build claims its name.
-/

namespace Pageworks

/-- The stores that builds leave behind, starting from the empty one: builds of anything, with any
settings, at any time and in any file tree. -/
inductive Store.Reachable [SetOrder] : Store → Prop
  /-- Before any build. -/
  | empty : Reachable .empty
  /-- After one more build. -/
  | build {store : Store} (h : Reachable store) (settings : Settings) (working : Place)
      (l : Location) (time : Option Moment) (files : FileTree) :
      Reachable (Build.run settings working l time files store).store

/-- Every unit that is recorded has a plain name. -/
theorem Store.Reachable.plainName [SetOrder] {store : Store} (h : store.Reachable) {r : Record}
    (hr : r ∈ store.records) : PlainName r.unitName := by
  induction h generalizing r with
  | empty => exact absurd hr List.not_mem_nil
  | @build store h settings working l time files ih =>
    cases hresult : (Build.run settings working l time files store).result with
    | error e =>
      rw [Build.store_of_error hresult] at hr
      exact ih hr
    | ok report =>
      obtain ⟨s, made, -, -, hok, -, hstore⟩ := Build.exists_runAll_of_run hresult
      rw [hstore] at hr
      rcases Step.mem_store_of_runAll hr with hr | hr
      · exact ih hr
      · obtain ⟨d, -, key, old, u, -, hu, rfl⟩ :=
          (Survey.keep_mem_plan (Step.fail_notMem hok)).mp hr
        change PlainName u.name
        rw [Survey.name_of_unit hu]
        exact Survey.plainName_unitName s d

/-- The build writes or removes the file of a unit name: it generates a unit of that name anew, or
gives up one that no document generates. -/
def Survey.Claims (s : Survey) (store : Store) (n : String) : Prop :=
  (∃ d, s.Renews store d ∧ s.unitName d = n) ∨
    n ∉ s.unitNames ∧ ∃ r, s.GivesUp store r ∧ r.unitName = n

/-- A name is claimed only if it is the name of a unit in the scope of the build, one of its
documents or one recorded before. -/
theorem Survey.Found.of_claims {s : Survey} {t : FileTree} {root : Place} {store : Store}
    {n : String} (h : s.Found t root) (hn : s.Claims store n) :
    n ∈ s.unitNames ∨ ∃ r ∈ store.records, r.unitName = n ∧
      Path.isWithin (Path.slashed r.path) s.scope = true := by
  rcases hn with ⟨d, ⟨hd, -⟩, rfl⟩ | ⟨-, r, hr | ⟨d, hd, key, hv⟩, hname⟩
  · exact .inl (List.mem_map_of_mem hd)
  · obtain ⟨-, hmem, -, hscope⟩ := Survey.mem_gone_iff.mp hr
    exact .inr ⟨r, hmem, hname, hscope⟩
  · have hget := (Survey.verdict_eq_stale_iff.mp hv).2.1
    refine .inr ⟨r, Store.mem_records_of_get? hget, hname, ?_⟩
    rw [Store.path_of_get? hget]
    exact h.isWithin_scope hd

/-- What the output directory holds under a name. -/
def Settings.output? (settings : Settings) (working : Place) (t : FileTree) (n : String) :
    Option Entry :=
  t.entry? ((Location.parse settings.outputDirectory).place working ++ [n])

namespace Build

variable [SetOrder] {settings : Settings} {working : Place} {l : Location} {time : Option Moment}
  {files : FileTree} {store : Store} {report : Report} {s : Survey}

/-- What is recorded outside the scope of a build is the record of no document that it builds, and
of none that it forgets. -/
private theorem get?_of_outside {t : FileTree} {root out : Place} {files' : FileTree}
    {store' : Store} (hfound : s.Found t root)
    (hc : s.Carried time out files files' store store') {path : String}
    (hout : Path.isWithin (Path.slashed path) s.scope = false) :
    store'.get? path = store.get? path := by
  refine hc.remembered ?_ ?_
  · rintro d ⟨hd, -⟩ rfl
    rw [hfound.isWithin_scope hd] at hout
    cases hout
  · rintro r hr rfl
    rw [(Survey.mem_gone_iff.mp hr).2.2.2] at hout
    cases hout

/-- **What is recorded outside the scope of a build stays.**  Its file stays too unless the build
claims the name: then the file holds the unit that is generated under the name, or is removed with
the unit that is given up. -/
theorem outside_unchanged (hstore : store.Reachable) (hfiles : files.WellFormed)
    (hworking : files.isDirectory working = true)
    (hs : Survey.take files working l settings = .ok s)
    (h : (run settings working l time files store).result = .ok report) {r : Record}
    (hr : r ∈ store.records) (hout : Path.isWithin (Path.slashed r.path) s.scope = false) :
    r ∈ (run settings working l time files store).store.records ∧
      ∀ bytes, settings.output? working files r.unitName = some (.file bytes) →
        (¬ s.Claims store r.unitName →
          settings.output? working (run settings working l time files store).files r.unitName =
            some (.file bytes)) ∧
        (∀ d, s.Renews store d → s.unitName d = r.unitName → ∃ u, s.unit d = .ok u ∧
          settings.output? working (run settings working l time files store).files r.unitName =
            some (Step.fileOf u.text)) ∧
        (r.unitName ∉ s.unitNames → (∃ x, s.GivesUp store x ∧ x.unitName = r.unitName) →
          (∀ d ∈ s.documents, ∀ x, s.verdict store d = .current x → x.unitName ≠ r.unitName) →
          settings.output? working (run settings working l time files store).files r.unitName =
            none) := by
  have hdir : files.entry? working = some .directory := beq_iff_eq.mp hworking
  obtain ⟨s', hs', hc⟩ := carried_of_run hfiles hdir (fun x hx => hstore.plainName hx) h
  obtain rfl : s' = s := Except.ok.inj (hs'.symm.trans hs)
  obtain ⟨-, hfound⟩ := Survey.found_of_take hfiles hdir hs
  refine ⟨?_, fun bytes hbytes => ⟨?_, ?_, ?_⟩⟩
  · rw [Store.mem_records_iff] at hr ⊢
    rw [get?_of_outside hfound hc hout, hr]
  · intro hclaims
    refine hc.untouched ?_ ?_ hbytes
    · exact fun d hd hname => hclaims (.inl ⟨d, hd, hname⟩)
    · exact fun hn x hx hname => hclaims (.inr ⟨hn, x, hx, hname⟩)
  · intro d hd hname
    obtain ⟨u, hu, hwritten⟩ := hc.written hfound hd
    rw [hname] at hwritten
    exact ⟨u, hu, hwritten⟩
  · intro hn hgives hcurrent
    exact (hc.unwritten hn hcurrent).2 hgives

end Build

/-! ### Pages of the same name -/

/-- Two directories with an index page each, and one more page. -/
def FileTree.twins : FileTree := ⟨[
  (["a"], .directory), (["a", "index.md"], .file [120, 10]),
  (["b"], .directory), (["b", "index.md"], .file [121, 10]), (["b", "page.md"], .file [122, 10])]⟩

/-- Settings for declarations that extend a base class. -/
def Settings.declaring (baseType : String) : Settings :=
  { outputDirectory := "out", defaultBaseType := baseType, mode := .declaration }

/-- What a build for declarations finds in a directory with one page. -/
def Survey.onePage (directory path baseType : String) : Survey where
  config := ⟨"", directory, baseType⟩
  mode := .declaration
  preset := Markdown.Preset.standardName
  render := Renderer.standard
  scope := directory
  isWhole := true
  imports := []
  documents := [⟨path, "x\n"⟩]

namespace Build

attribute [local instance] SetOrder.standard

/-- The index page of one directory is built. -/
def oneTwin : BuildOutcome := run (.declaring "A") [] (.parse "a/index.md") none .twins .empty

/-- What is to be known of the build, and of a build of the other directory behind it. -/
private theorem oneTwin_spec :
    oneTwin.store.records.map (fun r => (r.path, r.unitName)) =
      [("/a/index.md", "index.md.g.cs")] ∧
    (∀ x ∈ oneTwin.files.entries, (∀ n ∈ x.1, ProperName n) ∧
      oneTwin.files.entry? x.1.dropLast = some .directory) ∧
    oneTwin.files.isFile ((Location.parse (Settings.declaring "B").outputDirectory).place [] ++
      ["index.md.g.cs"]) = true ∧
    (Survey.take oneTwin.files [] (.parse "b/page.md") (.declaring "B")).map
      (fun s => (s.unitNames, s.scope)) = .ok (["page.md.g.cs"], "/b") ∧
    (run (.declaring "B") [] (.parse "b/page.md") none oneTwin.files
      oneTwin.store).result.isOk = true := by
  decide +kernel

private theorem oneTwin_records : ∃ r, oneTwin.store.records = [r] ∧ r.path = "/a/index.md" ∧
    r.unitName = "index.md.g.cs" := by
  obtain ⟨r, hr, hpath⟩ := List.map_eq_singleton_iff.mp oneTwin_spec.1
  exact ⟨r, hr, congrArg Prod.fst hpath, congrArg Prod.snd hpath⟩

private theorem oneTwin_wellFormed : oneTwin.files.WellFormed :=
  FileTree.wellFormed_of_entries oneTwin_spec.2.1

/-- Another page of the other directory leaves the record of the index page and its file alone. -/
theorem outside_unchanged_page : ∃ r ∈ oneTwin.store.records, r.path = "/a/index.md" ∧
    r ∈ (run (.declaring "B") [] (.parse "b/page.md") none oneTwin.files
      oneTwin.store).store.records ∧
    ∃ bytes, Settings.output? (.declaring "B") [] oneTwin.files r.unitName = some (.file bytes) ∧
      Settings.output? (.declaring "B") [] (run (.declaring "B") [] (.parse "b/page.md") none
        oneTwin.files oneTwin.store).files r.unitName = some (.file bytes) := by
  obtain ⟨r, hr, hpath, hname⟩ := oneTwin_records
  obtain ⟨-, -, hisfile, htake, hisok⟩ := oneTwin_spec
  obtain ⟨s, hs, hfacts⟩ := map_eq_ok_iff.mp htake
  obtain ⟨report, hok⟩ := exists_of_isOk hisok
  have hnames : s.unitNames = ["page.md.g.cs"] := congrArg Prod.fst hfacts
  have hscope : s.scope = "/b" := congrArg Prod.snd hfacts
  have hout : Path.isWithin (Path.slashed r.path) s.scope = false := by
    rw [hpath, hscope]
    decide +kernel
  have hmem : r ∈ oneTwin.store.records := by rw [hr]; exact List.mem_cons_self
  have hfile : ∃ bytes, Settings.output? (.declaring "B") [] oneTwin.files r.unitName =
      some (.file bytes) := by
    rw [hname]
    exact FileTree.isFile_iff.mp hisfile
  obtain ⟨bytes, hbytes⟩ := hfile
  have hreach : oneTwin.store.Reachable := .build .empty _ _ _ _ _
  obtain ⟨hkept, hfiles⟩ := outside_unchanged hreach oneTwin_wellFormed rfl hs hok hmem hout
  refine ⟨r, hmem, hpath, hkept, bytes, hbytes, (hfiles bytes hbytes).1 fun hclaims => ?_⟩
  obtain ⟨-, hfound⟩ := Survey.found_of_take oneTwin_wellFormed rfl hs
  rcases hfound.of_claims hclaims with hin | ⟨x, hx, -, hin⟩
  · rw [hnames, hname] at hin
    exact absurd hin (by decide)
  · rw [hr] at hx
    rw [List.mem_singleton.mp hx, hout] at hin
    cases hin

end Build

end Pageworks
