import Pageworks.Proofs.Build.Frame

/-!
# What a build removes

A build of a whole directory forgets documents that are gone from it.  A document counts as gone if
the build has not found it and its path lies in the scope.  What is found is what is below the
directory, name by name; what lies in the scope is decided on paths, where letter case and the
kind of separators make no difference.  The two notions agree for every document that is below the
directory, and not always for others.  A directory that is only made with the output directory is
one at the end, though nothing was found in it.

## Main results

* `Build.removed_iff` — **the record of a document that still exists is removed** if and only if it
  was not found below the directory that is built but its path looks as if it were there.  Its file
  is removed only with a unit that is given up.
-/

namespace Pageworks.Build

variable {settings : Settings} {working : Place} {l : Location} {time : Option Moment}
  {files : FileTree} {store : Store} {report : Report} {s : Survey} {r : Record} {p : Place}

/-- A document that still exists counts as gone if it is not below the directory that is built but
its path lies in the scope. -/
private theorem mem_gone_of_isFile (hfiles : files.WellFormed) {root : Place}
    (hfound : s.Found files root) (hroot : s.isWhole = true → files.entry? root = some .directory)
    (hr : r ∈ store.records) (hp : files.isFile p = true) (hmarkdown : p.isMarkdown = true)
    (hpath : r.path = p.text) : r ∈ s.gone store ↔
      s.sweeps = .ok true ∧ (s.isWhole = true → ¬ root <+: p) ∧
        Path.isWithin (Path.slashed r.path) s.scope = true := by
  rw [Survey.mem_gone_iff]
  constructor
  · rintro ⟨hsweeps, -, habsent, hscope⟩
    refine ⟨hsweeps, fun hwhole => ?_, hscope⟩
    rintro ⟨q, rfl⟩
    refine habsent (hpath ▸ hfound.whole hwhole q ?_ hp hmarkdown)
    rintro rfl
    obtain ⟨bytes, hbytes⟩ := FileTree.isFile_iff.mp hp
    rw [List.append_nil, hroot hwhole] at hbytes
    cases hbytes
  · rintro ⟨hsweeps, hbelow, hscope⟩
    refine ⟨hsweeps, hr, fun hmem => ?_, hscope⟩
    obtain ⟨d, hd, hdpath⟩ := List.mem_map.mp hmem
    have hwhole : s.isWhole = true := by
      by_contra hpart
      rw [hfound.appears (Bool.not_eq_true _ |>.mp hpart) hsweeps] at hd
      exact absurd hd List.not_mem_nil
    refine hbelow hwhole ?_
    obtain ⟨q, -, hq, hqfile⟩ := hfound.documents d hd
    -- a file is known by its path, so the document that was found is this one
    have hsame : p = root ++ q := by
      refine Place.text_inj (hfiles.proper_of_isFile hp) (hfiles.proper_of_isFile hqfile) ?_
      rw [← hpath, ← hdpath, hq]
    exact ⟨q, hsame.symm⟩

/-- **The record of a document that still exists is removed** if and only if what is built is a
directory at the end, the document was not found below it, and its path lies in the scope all the
same.  Its file stays, perhaps with a new unit, unless it is given up under a name that no document
has any more. -/
theorem removed_iff [SetOrder] (hstore : store.Reachable) (hfiles : files.WellFormed)
    (hworking : files.isDirectory working = true)
    (hs : Survey.take files working l settings = .ok s)
    (h : (run settings working l time files store).result = .ok report)
    (hr : r ∈ store.records) (hp : files.isFile p = true) (hmarkdown : p.isMarkdown = true)
    (hpath : r.path = p.text) :
    (r.path ∉ (run settings working l time files store).store.records.map Record.path ↔
      s.sweeps = .ok true ∧ (s.isWhole = true → ¬ l.place working <+: p) ∧
        Path.isWithin (Path.slashed r.path) s.scope = true) ∧
      ∀ bytes, settings.output? working files r.unitName = some (.file bytes) →
        (∃ bytes', settings.output? working (run settings working l time files store).files
          r.unitName = some (.file bytes')) ∨
        r.unitName ∉ s.unitNames ∧ ∃ x, s.GivesUp store x ∧ x.unitName = r.unitName := by
  have hdir : files.entry? working = some .directory := beq_iff_eq.mp hworking
  obtain ⟨s', hs', hc⟩ := carried_of_run hfiles hdir (fun x hx => hstore.plainName hx) h
  obtain rfl : s' = s := Except.ok.inj (hs'.symm.trans hs)
  obtain ⟨hisdir, hfound⟩ := Survey.found_of_take hfiles hdir hs
  have hroot : s'.isWhole = true →
      files.entry? ((if s'.isWhole then l else l.parent).place working) = some .directory := by
    intro hwhole
    rw [hwhole] at hisdir ⊢
    exact (FileTree.entry?_of_look (Sources.look_of_isDirectory hisdir)).2
  have hgone := mem_gone_of_isFile hfiles hfound hroot hr hp hmarkdown hpath
  refine ⟨?_, fun bytes hbytes => ?_⟩
  · rw [← Store.get?_eq_none_iff, hc.get?_eq_none_iff hfound hr, hgone]
    refine and_congr_right fun _ => and_congr_left fun _ => forall_congr' fun hwhole => ?_
    rw [hwhole]
    rfl
  · by_cases hrenews : ∃ d, s'.Renews store d ∧ s'.unitName d = r.unitName
    · obtain ⟨d, hd, hname⟩ := hrenews
      obtain ⟨u, -, hwritten⟩ := hc.written hfound hd
      rw [hname] at hwritten
      exact .inl ⟨_, hwritten⟩
    · by_cases hgives : r.unitName ∉ s'.unitNames ∧
          ∃ x, s'.GivesUp store x ∧ x.unitName = r.unitName
      · exact .inr hgives
      · refine .inl ⟨bytes, hc.untouched ?_ ?_ hbytes⟩
        · exact fun d hd hname => hrenews ⟨d, hd, hname⟩
        · exact fun hn x hx hname => hgives ⟨hn, x, hx, hname⟩

attribute [local instance] SetOrder.standard

/-- Two directories whose names differ in the case of one letter. -/
def homographs : FileTree := ⟨[
  (["Site"], .directory), (["Site", "A.md"], .file [120, 10]),
  (["site"], .directory), (["site", "B.md"], .file [121, 10])]⟩

/-- The page in the one directory is built. -/
def lowerBuilt : BuildOutcome := run (.declaring "A") [] (.parse "site/B.md") none homographs .empty

private theorem take_upper : Survey.take lowerBuilt.files [] (.parse "Site") (.declaring "A") =
    .ok (.onePage "/Site" "/Site/A.md" "A") := by
  refine Survey.take_of_directory rfl rfl ?_ rfl ?_ ?_ ?_ rfl rfl
  all_goals decide +kernel

/-- A page is removed by a build of the other directory, though it still exists. -/
theorem removed_iff_homographs : ∃ r ∈ lowerBuilt.store.records,
    r.path = Place.text ["site", "B.md"] ∧ lowerBuilt.files.isFile ["site", "B.md"] = true ∧
      r.path ∉ (run (.declaring "A") [] (.parse "Site") none lowerBuilt.files
        lowerBuilt.store).store.records.map Record.path := by
  -- the first build is looked at once
  have hbuilt : lowerBuilt.store.records.map Record.path = ["/site/B.md"] ∧
      lowerBuilt.files.isFile ["site", "B.md"] = true ∧
      (∀ x ∈ lowerBuilt.files.entries, (∀ n ∈ x.1, ProperName n) ∧
        lowerBuilt.files.entry? x.1.dropLast = some .directory) ∧
      (run (.declaring "A") [] (.parse "Site") none lowerBuilt.files
        lowerBuilt.store).result.isOk = true := by
    rw [run, take_upper]
    decide +kernel
  obtain ⟨hrecords, hfile, hentries, hisok⟩ := hbuilt
  obtain ⟨r, hr, hpath⟩ := List.map_eq_singleton_iff.mp hrecords
  have hmem : r ∈ lowerBuilt.store.records := by rw [hr]; exact List.mem_cons_self
  have htext : r.path = Place.text ["site", "B.md"] := hpath.trans (by decide +kernel)
  obtain ⟨report, hok⟩ := exists_of_isOk hisok
  have hreach : lowerBuilt.store.Reachable := .build .empty _ _ _ _ _
  have hiff := (removed_iff hreach (FileTree.wellFormed_of_entries hentries)
    (beq_iff_eq.mpr (FileTree.entry?_nil _)) take_upper hok hmem hfile (by decide +kernel) htext).1
  refine ⟨r, hmem, htext, hfile, hiff.mpr ⟨rfl, fun _ => by decide, ?_⟩⟩
  rw [htext]
  decide +kernel

end Pageworks.Build
