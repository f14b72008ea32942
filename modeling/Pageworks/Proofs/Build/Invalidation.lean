import Pageworks.Proofs.Build.Frame
import Pageworks.Proofs.Build.Success
import Pageworks.Proofs.Digest.Number

/-!
# What a change makes stale

A document is generated anew if something has changed that its unit depends on, and only then.  The
build compares nothing but digests: the record of a document holds the key that the build before it
had for the document, so what is compared is what the two builds have found.

If they have found the same but for one file, the documents that are generated anew can be told from
that file alone: the document that it is, if it is one, and the documents that it governs, if it is
an import file.  It may be both.

## Main definitions

* `Survey.Matches` — two builds have found the same for a document.
* `Survey.Edited` — two builds have found the same, but for the text of one file.
* `Survey.Reached` — the file is the document, or an import file that governs it.

## Main results

* `Survey.Carried.current_iff`, `Survey.Carried.mem_updated_iff` — a document is left alone if it has the
  key that the build before had for it, and updated otherwise.
* `Survey.Edited.matches_iff` — **an edit changes what it reaches**, and nothing else.
* `Build.updated_iff` — **what has changed is updated, and nothing else**, unless hashed byte strings
  collide.
* `Build.updated_beside_edit` — a document that is an import file, too, has others updated with it.
-/

namespace Pageworks

/-! ### Edits of one file -/

/-- The document, with another text if it is the file at a path. -/
def Document.edited (path text : String) (d : Document) : Document :=
  if d.path = path then { d with text := text } else d

/-- The import file, with another text if it is the file at a path. -/
def ImportEntry.edited (path text : String) (e : ImportEntry) : ImportEntry :=
  if e.path = path then { e with text := text } else e

@[simp] theorem Document.path_edited (path text : String) (d : Document) :
    (d.edited path text).path = d.path := by
  rw [edited]
  split <;> rfl

@[simp] theorem ImportEntry.path_edited (path text : String) (e : ImportEntry) :
    (e.edited path text).path = e.path := by
  rw [edited]
  split <;> rfl

theorem Document.edited_eq_self {path text : String} {d : Document}
    (h : d.path = path → d.text = text) : d.edited path text = d := by
  rw [edited]
  split
  · next hpath => rw [← h hpath]
  · rfl

theorem ImportEntry.edited_eq_self {path text : String} {e : ImportEntry}
    (h : e.path = path → e.text = text) : e.edited path text = e := by
  rw [edited]
  split
  · next hpath => rw [← h hpath]
  · rfl

namespace Survey

/-- Two builds have found the same for a document: its text, the configuration, the mode, the
renderer, and the import files that govern it, as a set of paths with slashes and texts. -/
def Matches (s s' : Survey) (d d' : Document) : Prop :=
  ∃ imports imports', (s.generation d).governing = .ok imports ∧
    (s'.generation d').governing = .ok imports' ∧
    (s.generation d).Alike (s'.generation d') imports imports'

/-- Two builds have found the same, but for the text of the file at a path. -/
structure Edited (s s' : Survey) (path text : String) : Prop where
  config : s'.config = s.config
  mode : s'.mode = s.mode
  preset : s'.preset = s.preset
  documents : s'.documents = s.documents.map (Document.edited path text)
  imports : s'.imports = s.imports.map (ImportEntry.edited path text)

/-- Another text for the file at a path is another text for the document, or for an import file in
whose directory the document lies. -/
def Reached (s : Survey) (path text : String) (d : Document) : Prop :=
  d.path = path ∧ d.text ≠ text ∨ ∃ e ∈ s.imports, e.path = path ∧ e.text ≠ text ∧
    Path.isWithin (Path.directory d.path) e.directory = true

/-! ### Keys -/

section

variable {prev s s' : Survey} {t t' : FileTree} {root root' out : Place} {files files' : FileTree}
  {store store' : Store} {time : Option Moment} {d d' : Document}

theorem Matches.key_eq (h : s.Matches s' d d') : s.key d = s'.key d' := by
  obtain ⟨imports, imports', hgov, hgov', halike⟩ := h
  have hkey := key_eq_ok_iff.mpr ⟨imports, hgov, rfl⟩
  rw [hkey]
  exact (key_eq_ok_iff.mpr ⟨imports', hgov', by rw [halike.key_eq]⟩).symm

/-- **A key is the same if and only if nothing has changed** that enters it, unless hashed byte
strings collide. -/
theorem key_eq_iff_matches {key : String} (ht : t.WellFormed) (ht' : t'.WellFormed)
    (h : s.Found t root) (h' : s'.Found t' root') (hd : d ∈ s.documents) (hd' : d' ∈ s'.documents)
    (hns : ZeroFree s.config.rootNamespace) (hns' : ZeroFree s'.config.rootNamespace)
    (hfree : ¬ Sha256.Collide (s.hashedFor d) (s'.hashedFor d')) (hkey : s.key d = .ok key) :
    s'.key d' = s.key d ↔ s.Matches s' d d' := by
  refine ⟨fun heq => ?_, fun hmatches => hmatches.key_eq.symm⟩
  refine alike_of_key ht ht' h h' hd hd' hkey (heq.trans hkey) (fun hframed => ?_) hfree
  exact ProjectConfig.eq_of_framed_parts hns hns' h.projectRoot h'.projectRoot hframed

variable [SetOrder] (hc : prev.Carried time out files files' store store')
  (hprev : prev.Found t root) (h : s.Found t' root') (hd : d ∈ prev.documents) (hd' : d' ∈ s.documents)
  (hpath : d.path = d'.path) {key : String} (hkey : s.key d' = .ok key)

include hc hprev hd hpath hkey

/-- The store of a build holds the key of every document, so the next build compares the keys of the
two builds. -/
private theorem Carried.next_verdict : ∃ r, s.verdict store' d' =
    if s.key d' = prev.key d then .current r else .stale key (some r) := by
  obtain ⟨old, r, hold, hr, hrkey⟩ := hc.key_of_record hprev hd
  rw [hpath] at hr
  rw [hold, hkey]
  refine ⟨r, ?_⟩
  split
  · next heq => exact verdict_eq_current_iff.mpr ⟨key, hkey, hr, hrkey.trans (Except.ok.inj heq).symm⟩
  · next hne =>
    refine verdict_eq_stale_iff.mpr ⟨hkey, hr, ?_⟩
    rintro x ⟨rfl⟩ hx
    exact hne (congrArg Except.ok (hx.symm.trans hrkey))

include hd'

/-- **A document is left alone if and only if it has the key that it had** in the build before. -/
theorem Carried.current_iff : d' ∈ s.current store' ↔ s.key d' = prev.key d := by
  obtain ⟨r, hv⟩ := hc.next_verdict hprev hd hpath hkey
  rw [mem_current_iff, and_iff_right hd', hv]
  split
  · next heq => exact ⟨fun _ => heq, fun _ => ⟨r, rfl⟩⟩
  · next hne =>
    refine ⟨?_, fun heq => absurd heq hne⟩
    rintro ⟨x, hx⟩
    cases hx

include h

/-- **It is updated if and only if it has another key.** -/
theorem Carried.mem_updated_iff :
    (.updated, s.unitName d') ∈ (s.report store').changes ↔ s.key d' ≠ prev.key d := by
  obtain ⟨r, hv⟩ := hc.next_verdict hprev hd hpath hkey
  rw [updated_mem_report_iff]
  constructor
  · rintro ⟨e, he, hname, k, x, hstale⟩ heq
    rw [h.eq_of_unitName he hd' hname, hv, if_pos heq] at hstale
    cases hstale
  · intro hne
    rw [if_neg hne] at hv
    exact ⟨d', hd', rfl, key, r, hv⟩

end

/-! ### One file is edited -/

section

variable {s s' : Survey} {path text : String} {d : Document}

/-- The import files that govern a document are those in whose directory it lies. -/
private theorem mem_governing_iff {imports : List ImportEntry}
    (hgov : (s.generation d).governing = .ok imports) {e : ImportEntry} : e ∈ imports ↔
      e ∈ s.imports ∧ Path.isWithin (Path.directory d.path) e.directory = true := by
  obtain ⟨dir, hdir, rfl⟩ := Import.applicable_eq_ok_iff.mp hgov
  have hdirectory : Path.directory d.path = dir := by
    rw [Path.directory, show Path.parent? d.path = some dir from hdir, Option.getD_some]
  rw [hdirectory]
  exact List.mem_filter

/-- An edit changes neither which import files govern a document nor their order. -/
private theorem Edited.governing (h : s.Edited s' path text) {imports : List ImportEntry}
    (hgov : (s.generation d).governing = .ok imports) :
    (s'.generation (d.edited path text)).governing =
      .ok (imports.map (ImportEntry.edited path text)) := by
  rw [Generation.governing] at hgov ⊢
  dsimp only [generation] at hgov ⊢
  rw [Document.path_edited, h.imports,
    Import.applicable_map (ImportEntry.path_edited path text), hgov]
  rfl

/-- **An edit changes what it reaches**, and nothing else, if no two import files share the path of
the edited one but for separators. -/
theorem Edited.matches_iff (h : s.Edited s' path text) {imports : List ImportEntry}
    (hgov : (s.generation d).governing = .ok imports)
    (halone : ∀ e ∈ s.imports, Path.slashed e.path = Path.slashed path → e.path = path) :
    s.Matches s' d (d.edited path text) ↔ ¬ s.Reached path text d := by
  have hgov' := h.governing hgov
  constructor
  · rintro ⟨as, bs, has, hbs, halike⟩ hreached
    obtain rfl := Except.ok.inj (has.symm.trans hgov)
    obtain rfl := Except.ok.inj (hbs.symm.trans hgov')
    rcases hreached with ⟨hpath, htext⟩ | ⟨e, he, hpath, htext, hwithin⟩
    · have hsame : d.text = (d.edited path text).text := halike.text
      rw [Document.edited, if_pos hpath] at hsame
      exact htext hsame
    · -- the pair of path and text is gone, since no other file can stand in for the edited one
      have hseen := (halike.imports (Generation.seen e)).mp
        (List.mem_map_of_mem ((mem_governing_iff hgov).mpr ⟨he, hwithin⟩))
      obtain ⟨f', hf', heq⟩ := List.mem_map.mp hseen
      obtain ⟨f, hf, rfl⟩ := List.mem_map.mp hf'
      obtain ⟨hslashed, hfe⟩ := Prod.mk.inj heq
      rw [ImportEntry.path_edited, hpath] at hslashed
      have hfpath := halone f ((mem_governing_iff hgov).mp hf).1 hslashed
      rw [ImportEntry.edited, if_pos hfpath] at hfe
      exact htext hfe.symm
  · intro hreached
    refine ⟨_, _, hgov, hgov', ?_⟩
    have hdocument : d.edited path text = d :=
      Document.edited_eq_self fun hpath => by_contra fun htext => hreached (.inl ⟨hpath, htext⟩)
    have himports : imports.map (ImportEntry.edited path text) = imports := by
      refine List.map_congr_left (fun e he => ?_) |>.trans (List.map_id _)
      obtain ⟨hmem, hwithin⟩ := (mem_governing_iff hgov).mp he
      exact ImportEntry.edited_eq_self fun hpath => by_contra fun htext =>
        hreached (.inr ⟨e, hmem, hpath, htext, hwithin⟩)
    rw [hdocument, himports]
    exact ⟨rfl, rfl, h.config.symm, fun _ => Iff.rfl, h.mode.symm, h.preset.symm⟩

-- Import files beside the edited one, in directories of the same name but for separators, hide the
-- edit if they have the text that was there and the text that comes.
example : ∀ before ∈ ["x", "y"], ∀ after ∈ ["x", "y"],
    let seen (text : String) := [(⟨"/a/b/i", text⟩ : ImportEntry), ⟨"/a\\b/i", "x"⟩,
      ⟨"/a:b/i", "y"⟩].map Generation.seen
    ∀ p ∈ seen before, p ∈ seen after := by
  decide +kernel

end

end Survey

/-! ### Two builds that follow each other -/

namespace Build

section

variable [SetOrder] {settings settings' : Settings} {working : Place} {l l' : Location}
  {time time' : Option Moment} {files files' : FileTree} {store : Store} {s s' : Survey}
  {report report' : Report}

/-- **What has changed is updated, and nothing else.**  Of two builds that follow each other the
second leaves a document alone if both have found the same for it, and updates it otherwise.  If one
file was edited in between, that is told by what the file is: the document itself, or an import file
in whose directory the document lies, letter case aside. -/
theorem updated_iff (hstore : store.Reachable) (hfiles : files.WellFormed)
    (hworking : files.isDirectory working = true) (hfiles' : files'.WellFormed)
    (hworking' : files'.isDirectory working = true)
    (hs : Survey.take files working l settings = .ok s)
    (hok : (run settings working l time files store).result = .ok report)
    (hs' : Survey.take files' working l' settings' = .ok s')
    (hok' : (run settings' working l' time' files'
      (run settings working l time files store).store).result = .ok report')
    (hns : ZeroFree s.config.rootNamespace) (hns' : ZeroFree s'.config.rootNamespace) :
    report'.unchanged = (s'.current (run settings working l time files store).store).length ∧
      ∀ d ∈ s.documents, ∀ d' ∈ s'.documents, d.path = d'.path →
        Sha256.Collide (s.hashedFor d) (s'.hashedFor d') ∨
        (d' ∈ s'.current (run settings working l time files store).store ↔ s.Matches s' d d') ∧
          ((.updated, s'.unitName d') ∈ report'.changes ↔ ¬ s.Matches s' d d') ∧
          ∀ path text, s.Edited s' path text →
            (∀ e ∈ s.imports, Path.slashed e.path = Path.slashed path → e.path = path) →
            (d' ∈ s'.current (run settings working l time files store).store ↔
              ¬ s.Reached path text d) ∧
            ((.updated, s'.unitName d') ∈ report'.changes ↔ s.Reached path text d) := by
  have hdir : files.entry? working = some .directory := beq_iff_eq.mp hworking
  have hdir' : files'.entry? working = some .directory := beq_iff_eq.mp hworking'
  obtain ⟨-, hfound⟩ := Survey.found_of_take hfiles hdir hs
  obtain ⟨-, hfound'⟩ := Survey.found_of_take hfiles' hdir' hs'
  obtain ⟨x, hx, hc⟩ := carried_of_run hfiles hdir (fun r hr => hstore.plainName hr) hok
  obtain rfl : x = s := Except.ok.inj (hx.symm.trans hs)
  have hreach : (run settings working l time files store).store.Reachable :=
    hstore.build settings working l time files
  obtain ⟨x', hx', hc'⟩ := carried_of_run hfiles' hdir' (fun r hr => hreach.plainName hr) hok'
  obtain rfl : x' = s' := Except.ok.inj (hx'.symm.trans hs')
  obtain rfl := report_of_run hfiles' hdir' (fun r hr => hreach.plainName hr) hs' hok'
  refine ⟨rfl, fun d hd d' hd' hpath => ?_⟩
  by_cases hfree : Sha256.Collide (x.hashedFor d) (x'.hashedFor d')
  · exact .inl hfree
  · -- both builds have a key for the document, and the second compares it with the first one's
    obtain ⟨key, -, hkey, -⟩ := hc.key_of_record hfound hd
    obtain ⟨key', -, hkey', -⟩ := hc'.key_of_record hfound' hd'
    have hsame := Survey.key_eq_iff_matches hfiles hfiles' hfound hfound' hd hd' hns hns' hfree hkey
    have hcurrent := (hc.current_iff hfound hd hd' hpath hkey').trans hsame
    have hupdated := (hc.mem_updated_iff hfound hfound' hd hd' hpath hkey').trans (not_congr hsame)
    refine .inr ⟨hcurrent, hupdated, fun path text hedit halone => ?_⟩
    obtain ⟨imports, hgov, -⟩ := Survey.key_eq_ok_iff.mp hkey
    have hedited : d' = d.edited path text := by
      rw [hedit.documents] at hd'
      obtain ⟨e, he, rfl⟩ := List.mem_map.mp hd'
      rw [Document.path_edited] at hpath
      rw [hfound.eq_of_path hd he hpath]
    have hmatches := hedit.matches_iff hgov halone
    rw [← hedited] at hmatches
    exact ⟨hcurrent.trans hmatches, hupdated.trans (by rw [hmatches, not_not])⟩

end

end Build

/-! ### A page that is an import file -/

/-- A directory with two pages, one of them its index. -/
def FileTree.indexed : FileTree := ⟨[(["site"], .directory),
  (["site", "index.md"], .file [120, 10]), (["site", "page.md"], .file [121, 10])]⟩

/-- Settings by which the index is an import file, too. -/
def Settings.indexed : Settings := { Settings.declaring "A" with importsFile := "index.md" }

/-- The other page. -/
def Document.besideIndex : Document := ⟨"/site/page.md", "y\n"⟩

/-- What a build finds there, whatever the index says. -/
def Survey.indexed (text : String) : Survey where
  config := ⟨"", "/site", "A"⟩
  mode := .declaration
  preset := Markdown.Preset.standardName
  render := Renderer.standard
  scope := "/site"
  isWhole := true
  imports := [⟨"/site/index.md", text⟩]
  documents := [⟨"/site/index.md", text⟩, .besideIndex]

namespace Build

attribute [local instance] SetOrder.standard

/-- The directory is built. -/
def indexBuilt : BuildOutcome :=
  follow (.indexed "x\n") [] (.parse "out") none (.put .indexed ["out"] .directory) .empty

/-- The index is edited. -/
def indexEdited : FileTree := indexBuilt.files.put ["site", "index.md"] (.file [122, 10])

private theorem take_indexed : Survey.take .indexed [] (.parse "site") .indexed =
    .ok (.indexed "x\n") := by
  refine Survey.take_of_directory rfl rfl ?_ rfl ?_ ?_ ?_ rfl rfl
  all_goals decide +kernel

private theorem take_indexEdited : Survey.take indexEdited [] (.parse "site") .indexed =
    .ok (.indexed "z\n") := by
  refine Survey.take_of_directory rfl rfl ?_ rfl ?_ ?_ ?_ rfl rfl
  all_goals decide +kernel

/-- What is to be known of the two directories: the first one is built, and the edited one is a tree
with the output directory, where the names of all units are free. -/
private theorem indexEdited_spec : FileTree.indexed.makeDirectory [] (.parse "out") =
      .ok (.put .indexed ["out"] .directory) ∧
    (∀ x ∈ FileTree.indexed.entries, (∀ n ∈ x.1, ProperName n) ∧
      FileTree.indexed.entry? x.1.dropLast = some .directory) ∧
    indexBuilt.result.isOk = true ∧
    (∀ x ∈ indexEdited.entries, (∀ n ∈ x.1, ProperName n) ∧
      indexEdited.entry? x.1.dropLast = some .directory) ∧
    indexEdited.entry? ["out"] = some .directory ∧
    ∀ n ∈ (Survey.indexed "z\n").unitNames ++ indexBuilt.store.records.map Record.unitName,
      FileTree.FileName n ∧ indexEdited.entry? (["out"] ++ [n]) ≠ some .directory := by
  decide +kernel

/-- Both pages have keys and units in both builds, and the index governs the other page. -/
private theorem indexed_spec : ∀ text ∈ ["x\n", "z\n"],
    (∀ d ∈ (Survey.indexed text).documents, ((Survey.indexed text).key d).isOk = true ∧
      ((Survey.indexed text).unit d).isOk = true) ∧
    ((Survey.indexed text).generation Document.besideIndex).governing =
      .ok [⟨"/site/index.md", text⟩] ∧
    (Survey.indexed text).documents =
      (Survey.indexed "x\n").documents.map (Document.edited "/site/index.md" text) ∧
    (Survey.indexed text).imports =
      (Survey.indexed "x\n").imports.map (ImportEntry.edited "/site/index.md" text) ∧
    ∀ e ∈ (Survey.indexed text).imports,
      Path.isWithin (Path.directory Document.besideIndex.path) e.directory = true := by
  decide +kernel

private theorem run_indexed : run .indexed [] (.parse "site") none .indexed .empty = indexBuilt := by
  rw [run, take_indexed]
  dsimp only [Settings.indexed, Settings.declaring]
  rw [indexEdited_spec.1]
  rfl

private theorem indexed_wellFormed : FileTree.indexed.WellFormed :=
  FileTree.wellFormed_of_entries indexEdited_spec.2.1

private theorem indexEdited_wellFormed : indexEdited.WellFormed :=
  FileTree.wellFormed_of_entries indexEdited_spec.2.2.2.1

private theorem indexBuilt_isOk : ∃ report, indexBuilt.result = .ok report :=
  exists_of_isOk indexEdited_spec.2.2.1

/-- Every page has a key and a unit in both builds. -/
private theorem exists_indexed {text : String} (htext : text ∈ ["x\n", "z\n"]) {d : Document}
    (hd : d ∈ (Survey.indexed text).documents) :
    (∃ key, (Survey.indexed text).key d = .ok key) ∧ ∃ u, (Survey.indexed text).unit d = .ok u := by
  obtain ⟨hkey, hunit⟩ := (indexed_spec text htext).1 d hd
  exact ⟨exists_of_isOk hkey, exists_of_isOk hunit⟩

/-- The second build succeeds, since the names of all units are free. -/
private theorem indexEdited_isOk : (run .indexed [] (.parse "site") none indexEdited
    indexBuilt.store).result = .ok ((Survey.indexed "z\n").report indexBuilt.store) := by
  obtain ⟨-, -, -, -, hout, hnames⟩ := indexEdited_spec
  have htext : "z\n" ∈ ["x\n", "z\n"] := by simp
  have hready : indexEdited.Ready [] (.parse "out") :=
    ⟨indexEdited_wellFormed, by decide, ⟨rfl, by decide, trivial⟩, hout⟩
  have hreach : indexBuilt.store.Reachable := run_indexed ▸ .build .empty _ _ _ _ _
  refine (result_eq_ok_iff indexEdited_wellFormed (FileTree.entry?_nil _)
    (fun r hr => hreach.plainName hr) take_indexEdited hready.makeDirectory_eq).mpr
      ⟨rfl, fun x hx => ?_⟩
  have hplace : (Location.parse Settings.indexed.outputDirectory).place [] = ["out"] := rfl
  rw [hplace]
  refine Survey.admitted_of_mem_plan ?_ ?_ ⟨true, rfl⟩ ?_ hx
  · exact fun d hd => (exists_indexed htext hd).1
  · exact fun d hd => (exists_indexed htext hd).2
  · exact fun n hn => hnames n (List.mem_append.mpr hn)

/-- The bytes that are hashed for the key of the page, the fingerprints in it written out. -/
private def pageKey (imports : String) : List UInt8 :=
  Fingerprint.framed ["1", "/site/page.md",
    "3bb2abb69ebb27fbfe63c7639624c6ec5e331b841a5bc8c3ebc10b9285e90877",
    "7de7a4e5bca7a0cb0d0d926bcb71470e8e60d911ead1735bf12d5f709b4de6de", imports, "declaration",
    "gfm-like"]

/-- The bytes that both builds hash for the page. -/
private def pageHashed : List (List UInt8) := [Fingerprint.bytesOf "y\n",
  Fingerprint.framed ["", "/site", "A"],
  pageKey "326a65adeb019b7f149494f36f3cc20a3e6c661419b3c9939847be4617d97ec6",
  Fingerprint.framed ["/site/index.md", "x\n"],
  pageKey "a253f50c5e2ac9ca43e71aef7ac9a8c6639fe7ae0f47f268977a27af2da633fc",
  Fingerprint.framed ["/site/index.md", "z\n"]]

/-- The fingerprints that enter the two keys, and the first bytes of all digests. -/
private theorem digests_page :
    Fingerprint.ofText "y\n" =
      "3bb2abb69ebb27fbfe63c7639624c6ec5e331b841a5bc8c3ebc10b9285e90877" ∧
    Fingerprint.ofParts ["", "/site", "A"] =
      "7de7a4e5bca7a0cb0d0d926bcb71470e8e60d911ead1735bf12d5f709b4de6de" ∧
    Fingerprint.ofParts ["/site/index.md", "x\n"] =
      "326a65adeb019b7f149494f36f3cc20a3e6c661419b3c9939847be4617d97ec6" ∧
    Fingerprint.ofParts ["/site/index.md", "z\n"] =
      "a253f50c5e2ac9ca43e71aef7ac9a8c6639fe7ae0f47f268977a27af2da633fc" ∧
    (pageHashed.map fun a => (Sha256.digest a).head?) =
      [59, 125, 132, 50, 210, 162].map some := by
  simp only [Fingerprint.ofText, Fingerprint.ofParts, Fingerprint.ofBytes_eq_numbers,
    Sha256.digest_eq_numbers]
  decide +kernel

private theorem fingerprint_index (text : String) :
    (⟨"/site/index.md", text⟩ : ImportEntry).fingerprint =
      Fingerprint.ofParts ["/site/index.md", text] := by
  have hpath : Path.slashed "/site/index.md" = "/site/index.md" := by decide
  rw [ImportEntry.fingerprint, hpath]

/-- The fingerprints of the page's text and of the configuration do not depend on the index. -/
private theorem parts_page (text : String) :
    Fingerprint.framed (((Survey.indexed text).generation Document.besideIndex).key
      [⟨"/site/index.md", text⟩]).parts =
        pageKey (Fingerprint.ofParts ["/site/index.md", text]) := by
  obtain ⟨hcontent, hconfig, -⟩ := digests_page
  have hpath : Path.slashed Document.besideIndex.path = "/site/page.md" := by decide
  have hset : Import.sortedSet [(⟨"/site/index.md", text⟩ : ImportEntry).fingerprint] =
      [Fingerprint.ofParts ["/site/index.md", text]] := by
    rw [fingerprint_index, Import.sortedSet, List.mergeSort_singleton]
    rfl
  rw [Generation.key, CacheKey.of, CacheKey.parts]
  dsimp only [Survey.generation, Survey.indexed]
  rw [List.map_singleton, hset, hpath, ProjectConfig.fingerprint, ProjectConfig.parts, hconfig,
    Document.contentHash, show Document.besideIndex.text = "y\n" from rfl, hcontent, pageKey]
  rfl

private theorem hashedFor_page {text : String} (htext : text ∈ ["x\n", "z\n"]) :
    (Survey.indexed text).hashedFor Document.besideIndex = [Fingerprint.bytesOf "y\n",
      Fingerprint.framed ["", "/site", "A"], pageKey (Fingerprint.ofParts ["/site/index.md", text]),
      Fingerprint.framed ["/site/index.md", text]] := by
  have hslashed : Path.slashed "/site/index.md" = "/site/index.md" := by decide
  rw [Survey.hashedFor_eq (indexed_spec text htext).2.1, Generation.hashed, parts_page,
    List.map_singleton, Generation.importBytes, hslashed]
  rfl

/-- No bytes that the two builds hash for the page collide. -/
private theorem not_collide_page :
    ¬ Sha256.Collide ((Survey.indexed "x\n").hashedFor Document.besideIndex)
      ((Survey.indexed "z\n").hashedFor Document.besideIndex) := by
  obtain ⟨-, -, hx, hz, hfirst⟩ := digests_page
  have hnodup : (pageHashed.map fun a => (Sha256.digest a).head?).Nodup := by
    rw [hfirst]
    decide
  rw [hashedFor_page (by simp), hashedFor_page (by simp), hx, hz]
  refine Sha256.not_collide_of_nodup hnodup ?_ ?_
  · simp [pageHashed]
  · simp [pageHashed]

private theorem edited_indexed :
    (Survey.indexed "x\n").Edited (.indexed "z\n") "/site/index.md" "z\n" := by
  obtain ⟨-, -, hdocuments, himports, -⟩ := indexed_spec "z\n" (by simp)
  exact ⟨rfl, rfl, rfl, hdocuments, himports⟩

/-- The edited index governs the page. -/
private theorem reached_page :
    (Survey.indexed "x\n").Reached "/site/index.md" "z\n" Document.besideIndex :=
  .inr ⟨⟨"/site/index.md", "x\n"⟩, List.mem_singleton.mpr rfl, rfl, by decide,
    (indexed_spec "x\n" (by simp)).2.2.2.2 _ (List.mem_singleton.mpr rfl)⟩

/-- **An edit to one document may update another one**, since a document may be an import file, too:
of two pages the one that has not changed is updated, and nothing that was hashed collides. -/
theorem updated_beside_edit : ∃ report report',
    Survey.take .indexed [] (.parse "site") .indexed = .ok (.indexed "x\n") ∧
      (run .indexed [] (.parse "site") none .indexed .empty).result = .ok report ∧
      Survey.take indexEdited [] (.parse "site") .indexed = .ok (.indexed "z\n") ∧
      (run .indexed [] (.parse "site") none indexEdited
        (run .indexed [] (.parse "site") none .indexed .empty).store).result = .ok report' ∧
      (Survey.indexed "x\n").Edited (.indexed "z\n") "/site/index.md" "z\n" ∧
      "/site/index.md" ∈ (Survey.indexed "x\n").documents.map Document.path ∧
      (.updated, (Survey.indexed "z\n").unitName Document.besideIndex) ∈ report'.changes ∧
      ¬ Sha256.Collide ((Survey.indexed "x\n").hashedFor Document.besideIndex)
        ((Survey.indexed "z\n").hashedFor Document.besideIndex) := by
  obtain ⟨report, hok⟩ := indexBuilt_isOk
  rw [← run_indexed] at hok
  obtain ⟨-, hfound⟩ := Survey.found_of_take indexed_wellFormed rfl take_indexed
  obtain ⟨-, hfound'⟩ := Survey.found_of_take indexEdited_wellFormed rfl take_indexEdited
  obtain ⟨s, hs, hc⟩ := carried_of_run indexed_wellFormed rfl
    (fun r hr => absurd hr List.not_mem_nil) hok
  obtain rfl : s = .indexed "x\n" := Except.ok.inj (hs.symm.trans take_indexed)
  have hpage : ∀ text, Document.besideIndex ∈ (Survey.indexed text).documents :=
    fun text => List.mem_cons_of_mem _ List.mem_cons_self
  obtain ⟨⟨key, hkey⟩, -⟩ := exists_indexed (by simp) (hpage "x\n")
  obtain ⟨⟨key', hkey'⟩, -⟩ := exists_indexed (by simp) (hpage "z\n")
  obtain ⟨imports, hgov, -⟩ := Survey.key_eq_ok_iff.mp hkey
  have hmatches := edited_indexed.matches_iff hgov
    (fun e he _ => congrArg ImportEntry.path (List.mem_singleton.mp he))
  rw [run_indexed] at hc hok ⊢
  refine ⟨report, _, take_indexed, hok, take_indexEdited, indexEdited_isOk, edited_indexed,
    by decide, ?_, not_collide_page⟩
  refine (hc.mem_updated_iff hfound hfound' (hpage _) (hpage _) rfl hkey').mpr fun heq => ?_
  exact hmatches.mp ((Survey.key_eq_iff_matches indexed_wellFormed indexEdited_wellFormed hfound
    hfound' (hpage _) (hpage _) (by decide) (by decide) not_collide_page hkey).mp heq) reached_page

/-- The page that the index governs is updated with it, unless the hashed bytes collide. -/
theorem updated_iff_index : ∃ report',
    (run .indexed [] (.parse "site") none indexEdited
      (run .indexed [] (.parse "site") none .indexed .empty).store).result = .ok report' ∧
      (Sha256.Collide ((Survey.indexed "x\n").hashedFor Document.besideIndex)
          ((Survey.indexed "z\n").hashedFor Document.besideIndex) ∨
        (.updated, (Survey.indexed "z\n").unitName Document.besideIndex) ∈
          report'.changes) := by
  obtain ⟨report, hok⟩ := indexBuilt_isOk
  have hok' := indexEdited_isOk
  rw [← run_indexed] at hok hok'
  obtain ⟨-, hdocuments⟩ := updated_iff .empty indexed_wellFormed
    rfl indexEdited_wellFormed rfl take_indexed hok take_indexEdited hok' (by decide) (by decide)
  refine ⟨_, hok', ?_⟩
  rcases hdocuments Document.besideIndex (List.mem_cons_of_mem _ List.mem_cons_self)
    Document.besideIndex (List.mem_cons_of_mem _ List.mem_cons_self) rfl with h | ⟨-, -, h⟩
  · exact .inl h
  · exact .inr ((h _ _ edited_indexed
      fun e he _ => congrArg ImportEntry.path (List.mem_singleton.mp he)).2.mpr reached_page)

end Build

end Pageworks
