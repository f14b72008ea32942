import Pageworks.CommandLine
import Pageworks.Proofs.Build.Plan

/-!
# What is shown is what is built

`generate` shows the unit of one document, and a build of the document writes it.  Each finds its way
to the import files by itself: `generate` looks in the root of the project wherever that is, and a
build looks there if the document lies in the project and around the document if it does not.

## Main definitions

* `Settings.Alike` — settings that give units the same configuration, import files and renderer.
* `Import.Concur` — two lists of import files say the same to a document.

## Main results

* `Survey.Carried.file_iff_unit` — what a build from scratch leaves are the units of its documents.
* `CommandLine.exists_of_generate` — what `generate` has done if it succeeds.
* `CommandLine.output_eq_written` — **the text that is shown is the file that is written**, for a
  document in its project.
-/

namespace Pageworks

/-- Settings that give units the same configuration, the same import files and the same renderer. -/
structure Settings.Alike (s s' : Settings) : Prop where
  rootNamespace : s.rootNamespace = s'.rootNamespace
  projectRoot : s.projectRoot = s'.projectRoot
  defaultBaseType : s.defaultBaseType = s'.defaultBaseType
  importsFile : s.importsFile = s'.importsFile
  preset : s.preset = s'.preset

theorem Settings.Alike.projectConfig_eq {s s' : Settings} (h : s.Alike s') (working : Place)
    (l : Option Location) : s.projectConfig working l = s'.projectConfig working l := by
  rw [projectConfig, projectConfig, h.rootNamespace, h.projectRoot, h.defaultBaseType]

/-- Those of the import files that govern the document have the same texts in both lists. -/
def Import.Concur (es fs : List ImportEntry) (path : String) : Prop :=
  ∀ gs hs, applicable es path = .ok gs → applicable fs path = .ok hs →
    ∀ t, t ∈ gs.map ImportEntry.text ↔ t ∈ hs.map ImportEntry.text

theorem Import.Concur.transform_eq [SetOrder] {es fs : List ImportEntry} {d : Document}
    (h : Concur es fs d.path) (config : ProjectConfig) (mode : Mode) (render : Renderer) :
    GeneratedUnit.transform d es config mode render =
      GeneratedUnit.transform d fs config mode render :=
  GeneratedUnit.transform_eq_of_governing h config mode render

namespace Survey

variable {s : Survey} {t : FileTree} {root out working : Place} {files files' : FileTree}
  {store' : Store} {time : Option Moment} {l : Location} {settings : Settings} {d : Document}

/-! ### Builds from scratch -/

/-- **What a build from scratch leaves are the units of its documents**, and no other file. -/
theorem Carried.file_iff_unit [SetOrder]
    (hc : s.Carried time out files files' .empty store') (h : s.Found t root)
    (hout : ∀ q, out <+: q → files.isFile q = false) {q : Place}
    (hq : out <+: q) {bytes : List UInt8} :
    files'.entry? q = some (.file bytes) ↔ ∃ d ∈ s.documents, ∃ u, s.unit d = .ok u ∧
      q = out ++ [s.unitName d] ∧ bytes = Fingerprint.bytesOf u.text := by
  -- nothing is recorded, so every document is generated
  have hstale : ∀ d r, s.verdict .empty d ≠ .current r := by
    intro d r hv
    obtain ⟨key, -, hr, -⟩ := verdict_eq_current_iff.mp hv
    cases hr
  have hwritten : ∀ d ∈ s.documents, ∃ u, s.unit d = .ok u ∧
      files'.entry? (out ++ [s.unitName d]) = some (.file (Fingerprint.bytesOf u.text)) := by
    intro d hd
    refine hc.written h ((current_or_renews hc.noFail hd).resolve_left ?_)
    rintro ⟨r, hv⟩
    exact hstale d r hv
  have hbefore : files.entry? q ≠ some (.file bytes) := by
    intro hbytes
    have hfile : files.isFile q = true := FileTree.isFile_iff.mpr ⟨bytes, hbytes⟩
    rw [hout q hq] at hfile
    cases hfile
  constructor
  · intro hbytes
    by_cases hname : ∃ n, q = out ++ [n]
    · obtain ⟨n, rfl⟩ := hname
      by_cases hn : n ∈ s.unitNames
      · obtain ⟨d, hd, rfl⟩ := List.mem_map.mp hn
        obtain ⟨u, hu, hfile⟩ := hwritten d hd
        rw [hfile] at hbytes
        exact ⟨d, hd, u, hu, rfl, (Entry.file.inj (Option.some.inj hbytes)).symm⟩
      · obtain ⟨hkept, -⟩ := hc.unwritten hn fun d _ r hv => absurd hv (hstale d r)
        exact absurd (hkept bytes hbytes) hbefore
    · exact absurd ((hc.elsewhere fun n hqn => hname ⟨n, hqn⟩).mp hbytes) hbefore
  · rintro ⟨d, hd, u, hu, rfl, rfl⟩
    obtain ⟨u', hu', hfile⟩ := hwritten d hd
    rw [hfile, Except.ok.inj (hu.symm.trans hu')]

/-! ### One document -/

/-- At a document, a survey finds the document and nothing else. -/
theorem take_of_document (hfile : Sources.isFile t working l = .ok true)
    (hdocument : Sources.isDocument l = true)
    (hload : Sources.load t working l = .ok (d.path, d.text))
    (hs : take t working l settings = .ok s) : s.isWhole = false ∧ s.documents = [d] := by
  obtain ⟨hdir, -, -, -, -, hdocuments, -⟩ := take_eq_ok_iff.mp hs
  have hfiles : Sources.documentFiles t working l = .ok [l] := by
    rw [Sources.documentFiles, hfile]
    change Except.ok (if Sources.isDocument l then [l] else []) = _
    rw [hdocument, if_pos rfl]
  obtain ⟨bytes, hlook⟩ := Sources.look_of_isFile hfile
  have hnot : Sources.isDirectory t working l = .ok false := by
    rw [Sources.isDirectory, hlook]
    rfl
  have hone : Sources.documents t working l = .ok [d] := by
    rw [Sources.documents, hfiles]
    refine bind_eq_ok_iff.mpr ⟨[l], rfl, bind_eq_ok_iff.mpr ⟨[(d.path, d.text)], ?_, rfl⟩⟩
    rw [List.mapM_cons, hload]
    rfl
  exact ⟨Except.ok.inj (hdir.symm.trans hnot), Except.ok.inj (hdocuments.symm.trans hone)⟩

/-- A document lies in its project if the project is not told to be anywhere else. -/
theorem isWithin_of_unset (hunset : settings.projectRoot = "")
    (hs : take t working l settings = .ok s) :
    Path.isWithin s.scope (Path.slashed s.config.projectRoot) = true := by
  obtain ⟨-, hconfig, -, hscope, -⟩ := take_eq_ok_iff.mp hs
  generalize (if s.isWhole = true then l else l.parent) = base at hconfig hscope
  rw [Settings.projectConfig, hunset, if_pos (by decide)] at hconfig
  dsimp only at hconfig
  split at hconfig
  · cases hconfig
  · rw [hscope, ← Except.ok.inj hconfig]
    exact Path.isWithin_self _

end Survey

namespace CommandLine

variable {c : Setting} {path : String} {overrides : List (String × Value)} {declarations : Bool}
  {o : CommandOutcome}

/-! ### What is shown -/

theorem of_document {s : Settings} {l : Location} {d : Document} {imports : List ImportEntry}
    {config : ProjectConfig} {mode : Mode} {render : Renderer}
    (h : document c s declarations l = .ok (d, imports, config, mode, render)) :
    s.projectConfig c.working (some l.parent) = .ok config ∧
      Sources.load c.files c.working l = .ok (d.path, d.text) ∧
      Sources.imports c.files c.working (Location.parse config.projectRoot) s.importsFile =
        .ok imports ∧
      Renderer.ofPreset? s.preset = some render ∧
      mode = if declarations then .declaration else s.mode := by
  rw [document] at h
  obtain ⟨config', hconfig, h⟩ := bind_eq_ok_iff.mp h
  obtain ⟨⟨path, text⟩, hload, h⟩ := bind_eq_ok_iff.mp h
  obtain ⟨imports', himports, h⟩ := bind_eq_ok_iff.mp h
  rw [mapError_eq_ok_iff] at hconfig hload himports
  cases hrender : Renderer.ofPreset? s.preset with
  | none => rw [hrender] at h; cases h
  | some render' =>
    rw [hrender] at h
    cases h
    exact ⟨hconfig, hload, himports, rfl, rfl⟩

/-- What `generate` has done if it succeeds. -/
theorem exists_of_generate [SetOrder] (h : generate c path overrides declarations = .ok o) :
    ∃ s d imports config mode render u, settingsOf c overrides = .ok s ∧
      Sources.isFile c.files c.working (.parse path) = .ok true ∧
      document c s declarations (.parse path) = .ok (d, imports, config, mode, render) ∧
      GeneratedUnit.transform d imports config mode render = .ok u ∧ o.output = u.text := by
  rw [generate] at h
  obtain ⟨s, hs, h⟩ := bind_eq_ok_iff.mp h
  obtain ⟨isFile, hfile, h⟩ := bind_eq_ok_iff.mp h
  rw [settings, mapError_eq_ok_iff] at hs
  rw [mapError_eq_ok_iff] at hfile
  cases isFile with
  | false => cases h
  | true =>
    obtain ⟨⟨d, imports, config, mode, render⟩, hdocument, h⟩ := bind_eq_ok_iff.mp h
    rw [mapError_eq_ok_iff] at hdocument
    dsimp only at h
    split at h
    · next u hu =>
      cases h
      exact ⟨s, d, imports, config, mode, render, u, hs, hfile, hdocument, hu, rfl⟩
    · cases h
    · cases h

/-! ### What is shown and what is written -/

section

variable {shown built : Settings} {s : Survey} {time : Option Moment} {report : Report}

/-- **The text that is shown is the file that is written**, and the only one: for a document in its
project, wherever the root of the project is above it, and for any other document as long as its
own import files and those in the root of the project say the same to it. -/
theorem output_eq_written [SetOrder] (hfiles : c.files.WellFormed)
    (hworking : c.files.isDirectory c.working = true)
    (hempty : ∀ q, (Location.parse built.outputDirectory).place c.working <+: q →
      c.files.isFile q = false)
    (hdocument : Sources.isDocument (.parse path) = true)
    (hshown : settingsOf c overrides = .ok shown) (halike : shown.Alike built)
    (hmode : (if declarations then Mode.declaration else shown.mode) = built.mode)
    (hgenerate : generate c path overrides declarations = .ok o)
    (hs : Survey.take c.files c.working (.parse path) built = .ok s)
    (hbuild : (Build.run built c.working (.parse path) time c.files .empty).result = .ok report)
    (hroot : built.projectRoot ≠ "" →
      Path.isWithin s.scope (Path.slashed s.config.projectRoot) = true ∨
        ∀ imports, Sources.imports c.files c.working (.parse s.config.projectRoot)
          built.importsFile = .ok imports → ∀ d ∈ s.documents, Import.Concur imports s.imports d.path)
    {q : Place} (hq : (Location.parse built.outputDirectory).place c.working <+: q)
    (bytes : List UInt8) :
    (Build.run built c.working (.parse path) time c.files .empty).files.entry? q =
        some (.file bytes) ↔
      q = (Location.parse built.outputDirectory).place c.working ++
          [Component.unitName ((Location.parse path).place c.working).text s.config.projectRoot] ∧
        bytes = Fingerprint.bytesOf o.output := by
  have hdir : c.files.entry? c.working = some .directory := beq_iff_eq.mp hworking
  obtain ⟨x, d, imports, config, mode, render, u, hx, hfile, hd, hu, ho⟩ :=
    exists_of_generate hgenerate
  obtain rfl := Except.ok.inj (hshown.symm.trans hx)
  obtain ⟨hconfig, hload, himports, hrender, rfl⟩ := of_document hd
  -- both find the same document
  obtain ⟨hpart, hdocuments⟩ := Survey.take_of_document hfile hdocument hload hs
  obtain ⟨-, hconfig', hrender', -, himports', -, -, hmode', -⟩ := Survey.take_eq_ok_iff.mp hs
  rw [hpart, if_neg Bool.false_ne_true] at hconfig' himports'
  rw [halike.projectConfig_eq] at hconfig
  obtain rfl : config = s.config := Except.ok.inj (hconfig.symm.trans hconfig')
  obtain rfl : render = s.render := by
    rw [halike.preset, hrender'] at hrender
    exact (Option.some.inj hrender).symm
  rw [halike.importsFile] at himports
  -- what governs it is the same as well, wherever it is looked for
  have hunit : s.unit d = .ok u := by
    refine mapError_eq_ok_iff.mpr ?_
    rw [hmode', ← hmode, ← hu]
    by_cases hwithin : Path.isWithin s.scope (Path.slashed s.config.projectRoot) = true
    · rw [Survey.importBase, if_pos hwithin] at himports'
      rw [Except.ok.inj (himports'.symm.trans himports)]
    · have hset : built.projectRoot ≠ "" := fun hunset =>
        hwithin (Survey.isWithin_of_unset hunset hs)
      have hconcur := (hroot hset).resolve_left hwithin imports himports d
        (by rw [hdocuments]; exact List.mem_singleton_self d)
      exact (hconcur.transform_eq _ _ _).symm
  obtain ⟨y, hy, hc⟩ := Build.carried_of_run hfiles hdir (fun r hr => absurd hr List.not_mem_nil)
    hbuild
  obtain rfl := Except.ok.inj (hy.symm.trans hs)
  obtain ⟨-, hfound⟩ := Survey.found_of_take hfiles hdir hs
  have hname : y.unitName d =
      Component.unitName ((Location.parse path).place c.working).text y.config.projectRoot := by
    rw [Survey.unitName, ← (Sources.place_of_load hload).1]
  rw [hc.file_iff_unit hfound hempty hq, ho, hdocuments, ← hname]
  constructor
  · rintro ⟨e, he, v, hv, hplace, hbytes⟩
    obtain rfl := List.mem_singleton.mp he
    exact ⟨hplace, by rw [hbytes, Except.ok.inj (hv.symm.trans hunit)]⟩
  · rintro ⟨hplace, hbytes⟩
    exact ⟨d, List.mem_singleton_self d, u, hunit, hplace, hbytes⟩

end

/-! ### A guide and a library -/

/-- A page beside its import file, in one of two directories. -/
def guide : FileTree := ⟨[(["site"], .directory),
  (["site", "_Imports.razor"], .file (Fingerprint.bytesOf "@using A\n")),
  (["site", "a.md"], .file (Fingerprint.bytesOf "x\n")), (["lib"], .directory)]⟩

/-- A command in the directory above both. -/
def atGuide : Setting := ⟨guide, [], [], none⟩

/-- Settings for declarations in the project at a path. -/
def projectAt (root : String) : Settings := { projectRoot := root, mode := .declaration }

/-- The page is shown and built in the project of both directories. -/
theorem output_eq_written_guide : ∃ o,
    generate atGuide "site/a.md" (generateOverrides none (some ".")) true = .ok o ∧
    ∀ q, ["generated"] <+: q → ∀ bytes,
      (Build.run (projectAt ".") [] (.parse "site/a.md") none guide .empty).files.entry? q =
          some (.file bytes) ↔
        q = ["generated", "site_a.md.g.cs"] ∧ bytes = Fingerprint.bytesOf o.output := by
  obtain ⟨o, ho⟩ := exists_of_isOk
    (x := generate atGuide "site/a.md" (generateOverrides none (some ".")) true) (by decide +kernel)
  obtain ⟨s, hs⟩ := exists_of_isOk
    (x := Survey.take guide [] (.parse "site/a.md") (projectAt ".")) (by decide +kernel)
  obtain ⟨report, hok⟩ := exists_of_isOk
    (x := (Build.run (projectAt ".") [] (.parse "site/a.md") none guide .empty).result)
    (by decide +kernel)
  have hfacts : (Survey.take guide [] (.parse "site/a.md") (projectAt ".")).map
      (fun s => (s.scope, s.config.projectRoot)) = .ok ("/site", "/") := by decide +kernel
  rw [hs] at hfacts
  have hscope : s.scope = "/site" := congrArg Prod.fst (Except.ok.inj hfacts)
  have hroot : s.config.projectRoot = "/" := congrArg Prod.snd (Except.ok.inj hfacts)
  have hwithin : Path.isWithin s.scope (Path.slashed s.config.projectRoot) = true := by
    rw [hscope, hroot]
    decide +kernel
  have hwell : atGuide.files.WellFormed := FileTree.wellFormed_of_entries (by decide +kernel)
  have hempty : ∀ q, (Location.parse (projectAt ".").outputDirectory).place [] <+: q →
      guide.isFile q = false := by
    rintro _ ⟨q, rfl⟩
    rfl
  have hshown : settingsOf atGuide (generateOverrides none (some ".")) =
      .ok { projectRoot := "." } := by decide +kernel
  have halike : Settings.Alike { projectRoot := "." } (projectAt ".") := ⟨rfl, rfl, rfl, rfl, rfl⟩
  refine ⟨o, ho, fun q hq bytes => ?_⟩
  have h := output_eq_written hwell rfl hempty (by decide +kernel) hshown halike rfl ho hs hok
    (fun _ => .inl hwithin) hq bytes
  rw [hroot] at h
  exact h

-- In the project of the other directory the page is built with the import file beside it, but it
-- is shown without: the import files there are the only ones that are looked for.
example : (Sources.imports guide [] (.parse "lib") "_Imports.razor").toOption = some [] ∧
    (Survey.take guide [] (.parse "site/a.md") (projectAt "lib")).toOption.map Survey.imports =
      some [⟨"/site/_Imports.razor", "@using A\n"⟩] := by
  decide +kernel

end CommandLine

end Pageworks
