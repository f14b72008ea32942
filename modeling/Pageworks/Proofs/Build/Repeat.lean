import Pageworks.Proofs.Build.Report
import Pageworks.Proofs.Build.Unseen

/-!
# Builds that are repeated

A build that is repeated at once should do nothing.  It finds what it found, because all that the first
one has changed are generated files; every document has a record made from its key, because the first
one has left it alone or recorded it; and nothing that is gone is left in the records.

Whether files stay is another matter.  A record that is left alone may have been made by any build
before, and only if that build is not confused with this one is the unit under the name that its
document has today, where no record of another document can take it away.

## Main definitions

* `FileTree.Listed` — what is listed as a directory is one.
* `Step.Generates` — the step works with a file of a generated name.
* `Build.Past` — a store that builds have left behind, with what those that succeeded have found.

## Main results

* `Step.runAll_matches` — a run of such steps changes generated files only.
* `Build.Past.exists_makes` — every record was made by one of the builds before.
* `Build.Past.unitName_of_current` — a record that is left alone has the name that its document has
  today.
* `Survey.Carried.settled` — a build leaves everything settled.
* `Survey.Carried.isSome_of_current` — the unit of every document is there after a build.
* `Build.run_again` — **a build that is repeated does nothing** if making the output directory does not
  change what it finds.
-/

namespace Pageworks

/-! ### Runs on generated files -/

/-- What is listed as a directory is one. -/
def FileTree.Listed (t : FileTree) : Prop :=
  ∀ q, (q, Entry.directory) ∈ t.entries → t.entry? q = some .directory

namespace FileTree

variable {t t' : FileTree} {out p : Place}

/-- So it is where no place is listed twice. -/
theorem listed_of_nodup (h : (t.entries.map Prod.fst).Nodup) : t.Listed := by
  intro q hq
  by_cases hnil : q = []
  · rw [hnil]
    rfl
  · obtain ⟨before, after, hentries⟩ := List.append_of_mem hq
    rw [hentries, List.map_append, List.map_cons, List.nodup_append] at h
    rw [entry?_of_ne_nil hnil, List.lookup_eq_some_iff]
    refine ⟨before, after, hentries, fun x hx => ?_⟩
    rw [bne_iff_ne]
    exact fun heq => h.2.2 x.1 (List.mem_map_of_mem hx) q List.mem_cons_self heq.symm

theorem Matches.listed_directory (h : Matches out t t') (ht : t.Listed) : t'.Listed :=
  fun q hq => h.directory_iff.mpr (ht q ((h.listed q).mp hq))

/-- A directory that is made is listed, and is one. -/
theorem Listed.makeDirectory {working : Place} {l : Location} (ht : t.Listed)
    (hm : t.makeDirectory working l = .ok t') : t'.Listed := by
  refine makeDirectory_induction (P := Listed) ?_ ht hm
  intro s p hs hnone q hq
  have hp : p ≠ [] := by
    rintro rfl
    cases hnone
  rw [entry?_put hp]
  rw [put, List.mem_cons, List.mem_filter] at hq
  by_cases hqp : q = p
  · rw [if_pos hqp]
  · rw [if_neg hqp]
    rcases hq with hq | ⟨hq, -⟩
    · exact absurd (Prod.mk.inj hq).1 hqp
    · exact hs q hq

end FileTree

namespace Step

variable {working : Place} {output : Location} {p q : Progress} {s : Step} {steps : List Step}

/-- The step works with a file of a generated name, if with any. -/
def Generates : Step → Prop
  | .restore n _ | .discard n => IsGenerated n
  | .keep r => IsGenerated r.unitName
  | .tell _ | .forget _ | .fail _ => True

theorem generates_iff : s.Generates ↔ ∀ n, s.name? = some n → IsGenerated n := by
  cases s <;> simp [Generates, name?]

private theorem write_matches (h : p.files.Ready working output) (hlisted : p.files.Listed)
    {n text : String} (hn : PlainName n) (hg : IsGenerated n)
    (hw : write working output p n text = .ok q) :
    FileTree.Matches (output.place working) p.files q.files := by
  obtain ⟨t, ht, rfl⟩ := write_eq_ok_iff.mp hw
  obtain ⟨hfile, ha⟩ := h.write hn ht
  obtain rfl := Except.ok.inj ((h.write_eq hfile ha.notDirectory text).symm.trans ht)
  exact FileTree.matches_put hg fun hmem => ha.notDirectory (hlisted _ hmem)

/-- A step that works with a generated file changes generated files only. -/
theorem run_matches (h : p.files.Ready working output) (hlisted : p.files.Listed) (hs : s.Plain)
    (hg : s.Generates) (hrun : run working output p s = .ok q) :
    FileTree.Matches (output.place working) p.files q.files := by
  cases s with
  | tell e =>
    rw [← Except.ok.inj hrun]
    exact .refl _ _
  | restore n text =>
    rcases run_restore_eq_ok_iff.mp hrun with ⟨-, rfl⟩ | ⟨-, hw⟩
    · exact .refl _ _
    · exact write_matches h hlisted hs hg hw
  | discard n =>
    obtain ⟨t, ht, rfl⟩ := run_discard_eq_ok_iff.mp hrun
    obtain ⟨hfile, ha⟩ := h.unlink hs ht
    obtain rfl := Except.ok.inj ((h.unlink_eq hfile ha.notDirectory).symm.trans ht)
    exact FileTree.matches_erase h.wellFormed hg fun hmem => ha.notDirectory (hlisted _ hmem)
  | keep r => exact write_matches (p := { p with store := (p.store.commit r).1 }) h hlisted hs hg hrun
  | forget path =>
    rw [← Except.ok.inj hrun]
    exact .refl _ _
  | fail e => cases hrun

/-- **A run of steps that work with generated files** changes generated files only. -/
theorem runAll_matches (h : p.files.Ready working output) (hlisted : p.files.Listed)
    (hs : ∀ s ∈ steps, s.Plain) (hg : ∀ s ∈ steps, s.Generates)
    (hrun : (runAll working output p steps).2 = .ok ()) :
    FileTree.Matches (output.place working) p.files (runAll working output p steps).1.files := by
  induction steps generalizing p with
  | nil => exact .refl _ _
  | cons s ss ih =>
    obtain ⟨q, hstep, hrest⟩ := of_runAll_cons hrun
    rw [hrest] at hrun ⊢
    have hplain := hs s List.mem_cons_self
    have hfirst := run_matches h hlisted hplain (hg s List.mem_cons_self) hstep
    exact hfirst.trans (ih (run_spec h hplain hstep).1.ready (hfirst.listed_directory hlisted)
      (fun x hx => hs x (List.mem_cons_of_mem _ hx)) (fun x hx => hg x (List.mem_cons_of_mem _ hx))
      hrun)

end Step

namespace Survey

/-! ### Records and the builds that made them -/

/-- The record was made by a build of one of the documents. -/
def Makes [SetOrder] (a : Survey) (r : Record) : Prop :=
  ∃ d ∈ a.documents, ∃ key u time, a.key d = .ok key ∧ a.unit d = .ok u ∧
    r = Record.ofUnit d.path key a.mode.name u time

section

variable [SetOrder] {a s : Survey} {t files files' : FileTree} {root root' out : Place}
  {store store' : Store}
  {time : Option Moment} {d : Document} {r : Record}

theorem Makes.isGenerated (h : a.Makes r) : IsGenerated r.unitName := by
  obtain ⟨d, -, key, u, time, -, hu, rfl⟩ := h
  change IsGenerated u.name
  rw [name_of_unit hu]
  exact a.isGenerated_unitName d

/-- **A record that is left alone has the name that its document has today**, unless the build that
made it is confused with this one. -/
theorem Makes.unitName_of_current (hmakes : a.Makes r) (ht : t.WellFormed) (ha : a.Found t root)
    (hfiles : files.WellFormed) (h : s.Found files root') (hd : d ∈ s.documents)
    (hv : s.verdict store d = .current r) (hfree : ¬ a.Confuses s) :
    r.unitName = s.unitName d := by
  obtain ⟨key, hkey, hr, hrkey⟩ := verdict_eq_current_iff.mp hv
  obtain ⟨e, he, key', u, time, hkey', hu, rfl⟩ := hmakes
  have hpath : e.path = d.path := Store.path_of_get? hr
  obtain rfl : key' = key := hrkey
  obtain ⟨_, _, -, -, halike⟩ := alike_of_key ht hfiles ha h he hd hkey' hkey
    (fun hframed => by_contra fun hne => hfree (.inr ⟨hne, hframed⟩))
    fun hc => hfree (.inl (hc.mono (hashedFor_subset he) (hashedFor_subset hd)))
  have hconfig : a.config = s.config := halike.config
  change u.name = s.unitName d
  rw [name_of_unit hu, unitName, unitName, hconfig, hpath]

/-- All steps of a plan work with generated files, if the records are of such. -/
theorem generates_of_mem_plan (hgenerated : ∀ r ∈ store.records, IsGenerated r.unitName) {x : Step}
    (hx : x ∈ (s.plan store time).steps) : x.Generates :=
  Step.generates_iff.mpr
    (forall_name_of_mem_plan (fun d _ => s.isGenerated_unitName d) hgenerated hx)

/-! ### What a build leaves for the next one -/

variable (hc : s.Carried time out files files' store store') (h : s.Found files root')

include hc h

/-- **A build leaves everything settled** for a next one that finds the same. -/
theorem Carried.settled : s.Settled store' where
  current := fun d hd => by
    obtain ⟨key, r, hkey, hr, hrkey⟩ := hc.key_of_record h hd
    exact ⟨r, verdict_eq_current_iff.mpr ⟨key, hkey, hr, hrkey⟩⟩
  gone := by
    refine List.eq_nil_iff_forall_not_mem.mpr fun r hr => ?_
    obtain ⟨hsweeps, hmem, hpath, hscope⟩ := mem_gone_iff.mp hr
    rcases (hc.mem_records_iff h).mp hmem with hkeep | ⟨hold, hkept, -⟩
    · obtain ⟨d, hd, key, old, u, -, -, rfl⟩ := (keep_mem_plan hc.noFail).mp hkeep
      exact hpath (List.mem_map_of_mem hd)
    · exact hkept (mem_gone_iff.mpr ⟨hsweeps, hold, hpath, hscope⟩)

/-- The record that a document has then was left alone, or was made for it. -/
theorem Carried.of_current (hd : d ∈ s.documents) (hv : s.verdict store' d = .current r) :
    s.verdict store d = .current r ∨ s.Renews store d ∧ ∃ key u, s.key d = .ok key ∧
      s.unit d = .ok u ∧ r = Record.ofUnit d.path key s.mode.name u time := by
  obtain ⟨-, -, hr, -⟩ := verdict_eq_current_iff.mp hv
  rcases current_or_renews hc.noFail hd with ⟨x, hx⟩ | hrenews
  · have hget := hc.get?_of_current h hd hx
    rw [hr] at hget
    rw [Option.some.inj hget]
    exact .inl hx
  · obtain ⟨key, u, hkey, hu, hget⟩ := hc.stored h hrenews
    rw [hr] at hget
    exact .inr ⟨hrenews, key, u, hkey, hu, Option.some.inj hget⟩

/-- A build that succeeds has found names for all units that files can have. -/
theorem Carried.fileName_of_current {made : FileTree}
    (hadmitted : ∀ x ∈ (s.plan store time).steps, x.Admitted made out) (hd : d ∈ s.documents)
    (hv : s.verdict store' d = .current r) : FileTree.FileName r.unitName := by
  rcases hc.of_current h hd hv with hbefore | ⟨⟨-, key', old, hstale⟩, key, u, hkey, hu, rfl⟩
  · exact hadmitted _ ((restore_mem_plan hc.noFail).mpr ⟨d, hd, r, hbefore, rfl, rfl⟩)
  · obtain rfl := Except.ok.inj (hkey.symm.trans (verdict_eq_stale_iff.mp hstale).1)
    exact (hadmitted _ ((keep_mem_plan hc.noFail).mpr ⟨d, hd, key, old, u, hstale, hu, rfl⟩)).1

/-- **The unit of every document is there after a build**, if records that are left alone have the names
that their documents have today. -/
theorem Carried.isSome_of_current
    (hnames : ∀ e ∈ s.documents, ∀ x, s.verdict store e = .current x → x.unitName = s.unitName e)
    (hd : d ∈ s.documents) (hv : s.verdict store' d = .current r) :
    (files'.entry? (out ++ [r.unitName])).isSome := by
  rcases hc.of_current h hd hv with hbefore | ⟨hrenews, key, u, -, hu, rfl⟩
  · have hname := hnames d hd r hbefore
    have hsame : ∀ e ∈ s.documents, s.unitName e = r.unitName → e = d :=
      fun e he hen => h.eq_of_unitName he hd (hen.trans hname)
    have hrestored := hc.restored hd hbefore (hname ▸ List.mem_map_of_mem hd) ?_ ?_
    · rcases hrestored with hfile | hdir | ⟨bytes, -, hfile⟩
      · rw [hfile]
        rfl
      · rw [hdir]
        rfl
      · rw [hfile]
        rfl
    · intro e he hen
      exact not_renews_of_current hbefore (hsame e he.1 hen ▸ he)
    · intro e he x hx hen
      obtain rfl := hsame e he ((hnames e he x hx).symm.trans hen)
      rw [hbefore] at hx
      exact (Verdict.current.inj hx).symm
  · obtain ⟨u', -, hwritten⟩ := hc.written h hrenews
    change (files'.entry? (out ++ [u.name])).isSome
    rw [name_of_unit hu, hwritten]
    rfl

end

end Survey

namespace Build

/-! ### Builds in a row -/

/-- A store that builds have left behind, builds of anything, with any settings and in any well-formed
file tree, and what those that succeeded have found, the last one first. -/
inductive Past [SetOrder] : Store → List Survey → Prop
  /-- Before any build. -/
  | start : Past .empty []
  /-- After one more build that succeeds. -/
  | build {store : Store} {surveys : List Survey} {s : Survey} {report : Report}
      (h : Past store surveys) (settings : Settings) (working : Place) (l : Location)
      (time : Option Moment) {files : FileTree} (hfiles : files.WellFormed)
      (hworking : files.isDirectory working = true)
      (hs : Survey.take files working l settings = .ok s)
      (hok : (run settings working l time files store).result = .ok report) :
      Past (run settings working l time files store).store (s :: surveys)
  /-- After one more build that fails. -/
  | failed {store : Store} {surveys : List Survey} {e : BuildError} (h : Past store surveys)
      (settings : Settings) (working : Place) (l : Location) (time : Option Moment) (files : FileTree)
      (herror : (run settings working l time files store).result = .error e) :
      Past (run settings working l time files store).store surveys

namespace Past

variable [SetOrder] {store : Store} {surveys : List Survey} {a : Survey} {r : Record}

theorem reachable (h : Past store surveys) : store.Reachable := by
  induction h with
  | start => exact .empty
  | build _ settings working l time _ _ _ _ ih => exact .build ih _ _ _ _ _
  | failed _ settings working l time files _ ih => exact .build ih _ _ _ _ _

/-- Every build was right about what it found. -/
theorem found (h : Past store surveys) (ha : a ∈ surveys) :
    ∃ (t : FileTree) (root : Place), t.WellFormed ∧ a.Found t root := by
  induction h with
  | start => exact absurd ha List.not_mem_nil
  | build _ settings working l time hfiles hworking hs _ ih =>
    rcases List.mem_cons.mp ha with rfl | ha
    · obtain ⟨-, hfound⟩ := Survey.found_of_take hfiles (beq_iff_eq.mp hworking) hs
      exact ⟨_, _, hfiles, hfound⟩
    · exact ih ha
  | failed _ _ _ _ _ _ _ ih => exact ih ha

/-- **Every record was made by one of the builds.** -/
theorem exists_makes (h : Past store surveys) (hr : r ∈ store.records) :
    ∃ a ∈ surveys, a.Makes r := by
  induction h generalizing r with
  | start => exact absurd hr List.not_mem_nil
  | @build store surveys s report h settings working l time files hfiles hworking hs hok ih =>
    have hdir : files.entry? working = some .directory := beq_iff_eq.mp hworking
    obtain ⟨s', hs', hc⟩ :=
      carried_of_run hfiles hdir (fun x hx => h.reachable.plainName hx) hok
    obtain rfl : s' = s := Except.ok.inj (hs'.symm.trans hs)
    obtain ⟨-, hfound⟩ := Survey.found_of_take hfiles hdir hs
    rcases (hc.mem_records_iff hfound).mp hr with hkeep | ⟨hold, -, -⟩
    · obtain ⟨d, hd, key, old, u, hv, hu, rfl⟩ := (Survey.keep_mem_plan hc.noFail).mp hkeep
      exact ⟨s', List.mem_cons_self, d, hd, key, u, time, (Survey.verdict_eq_stale_iff.mp hv).1, hu,
        rfl⟩
    · obtain ⟨a, ha, hmakes⟩ := ih hold
      exact ⟨a, List.mem_cons_of_mem _ ha, hmakes⟩
  | failed h settings working l time files herror ih =>
    rw [store_of_error herror] at hr
    exact ih hr

/-- **A record that is left alone has the name that its document has today**, unless one of the builds
is confused with this one. -/
theorem unitName_of_current (h : Past store surveys) {files : FileTree} {root : Place} {s : Survey}
    {d : Document} (hfiles : files.WellFormed) (hfound : s.Found files root)
    (hfree : ∀ a ∈ surveys, ¬ a.Confuses s) (hd : d ∈ s.documents)
    (hv : s.verdict store d = .current r) : r.unitName = s.unitName d := by
  obtain ⟨-, -, hr, -⟩ := Survey.verdict_eq_current_iff.mp hv
  obtain ⟨a, ha, hmakes⟩ := h.exists_makes (Store.mem_records_of_get? hr)
  obtain ⟨t, root', ht, hafound⟩ := h.found ha
  exact hmakes.unitName_of_current ht hafound hfiles hfound hd hv (hfree a ha)

end Past

/-! ### The same build again -/

section

variable [SetOrder] {settings : Settings} {working : Place} {l : Location} {time : Option Moment}
  {files : FileTree} {store : Store} {surveys : List Survey} {s : Survey} {report : Report}

/-- A build finds what the one before it found, once the output directory is there. -/
private theorem take_again (hpast : Past store surveys) (hfiles : files.WellFormed)
    (hdistinct : (files.entries.map Prod.fst).Nodup)
    (hworking : files.entry? working = some .directory)
    (hname : ∀ g, Glob.parse settings.importsFile = .ok g → g.Spares)
    (hs : Survey.take files working l settings = .ok s)
    (hsame : ∀ made, files.makeDirectory working (.parse settings.outputDirectory) = .ok made →
      Survey.take made working l settings = .ok s)
    (h : (run settings working l time files store).result = .ok report) :
    (run settings working l time files store).files.Ready working (.parse settings.outputDirectory) ∧
      Survey.take (run settings working l time files store).files working l settings = .ok s := by
  obtain ⟨s', made, hs', hmade, hok, hfiles', -⟩ := exists_runAll_of_run h
  obtain rfl : s' = s := Except.ok.inj (hs'.symm.trans hs)
  obtain ⟨hready, hgrows⟩ := FileTree.ready_of_makeDirectory hfiles hworking hmade
  have hplain : ∀ x ∈ (s'.plan store time).steps, x.Plain :=
    fun x hx => Survey.plain_of_mem_plan (fun r hr => hpast.reachable.plainName hr) hx
  have hgenerates : ∀ x ∈ (s'.plan store time).steps, x.Generates := by
    refine fun x hx => Survey.generates_of_mem_plan (fun r hr => ?_) hx
    obtain ⟨a, -, hmakes⟩ := hpast.exists_makes hr
    exact hmakes.isGenerated
  have hlisted : made.Listed := (FileTree.listed_of_nodup hdistinct).makeDirectory hmade
  have hmatches := Step.runAll_matches (p := ⟨made, store, []⟩) hready hlisted hplain hgenerates hok
  have hready' := (Step.runAll_spec (p := ⟨made, store, []⟩) hready hplain hok).1.ready
  rw [← hfiles'] at hmatches hready'
  exact ⟨hready', Survey.take_of_matches hready hready' hmatches (hgrows.directory hworking) hname
    (hsame made hmade)⟩

/-- **A build that is repeated does nothing**: it succeeds, leaves every document alone and tells of no
change, and it leaves the records as they were.  It leaves the files as they were too, unless one of the
builds before is confused with this one.  Making the output directory must not change what is found, as
it does not where the directory is there already, and the tree must list no place twice. -/
theorem run_again (hpast : Past store surveys) (hfiles : files.WellFormed)
    (hdistinct : (files.entries.map Prod.fst).Nodup) (hworking : files.isDirectory working = true)
    (hname : ∀ g, Glob.parse settings.importsFile = .ok g → g.Spares)
    (hs : Survey.take files working l settings = .ok s)
    (hsame : ∀ made, files.makeDirectory working (.parse settings.outputDirectory) = .ok made →
      Survey.take made working l settings = .ok s)
    (h : (run settings working l time files store).result = .ok report) (time' : Option Moment) :
    (run settings working l time' (run settings working l time files store).files
        (run settings working l time files store).store).result =
          .ok ⟨0, 0, s.documents.length, 0, []⟩ ∧
      (run settings working l time' (run settings working l time files store).files
        (run settings working l time files store).store).store =
          (run settings working l time files store).store ∧
      ((run settings working l time' (run settings working l time files store).files
        (run settings working l time files store).store).files =
          (run settings working l time files store).files ∨
        ∃ a ∈ surveys, a.Confuses s ∧ (ZeroFree a.config.rootNamespace →
          ZeroFree s.config.rootNamespace → Sha256.Collide a.hashed s.hashed)) := by
  have hdir : files.entry? working = some .directory := beq_iff_eq.mp hworking
  have hplain : ∀ r ∈ store.records, PlainName r.unitName := fun r hr => hpast.reachable.plainName hr
  obtain ⟨s', hs', hc⟩ := carried_of_run hfiles hdir hplain h
  obtain rfl : s' = s := Except.ok.inj (hs'.symm.trans hs)
  obtain ⟨-, hfound⟩ := Survey.found_of_take hfiles hdir hs
  obtain ⟨hready, htake⟩ := take_again hpast hfiles hdistinct hdir hname hs hsame h
  obtain ⟨-, made, -, hmade, -⟩ := exists_runAll_of_run h
  have hadmitted := ((result_eq_ok_iff hfiles hdir hplain hs hmade).mp h).2
  have hpast' : Past (run settings working l time files store).store (s' :: surveys) :=
    .build hpast settings working l time hfiles hworking hs h
  generalize hbuilt : run settings working l time files store = built at *
  have hplain' : ∀ r ∈ built.store.records, PlainName r.unitName :=
    fun r hr => hpast'.reachable.plainName hr
  obtain ⟨hresult, hstore', hfiles'⟩ := run_settled hc.wellFormed (hc.directory working hdir) hplain'
    htake hready.makeDirectory_eq (hc.settled hfound) (Survey.exists_sweeps_of_plan hc.noFail)
    (fun d hd r hv => hc.fileName_of_current hfound hadmitted hd hv) time'
  refine ⟨hresult, hstore', ?_⟩
  by_cases hconfused : ∃ a ∈ surveys, a.Confuses s'
  · obtain ⟨a, ha, hconfuses⟩ := hconfused
    obtain ⟨t, root, -, hafound⟩ := hpast.found ha
    exact .inr ⟨a, ha, hconfuses, hconfuses.collide hafound hfound⟩
  · -- every record is of the name that its document has today, so its unit is there
    have hnames := fun d hd r hv => hpast.unitName_of_current (d := d) (r := r) hfiles hfound
      (fun a ha hconfuses => hconfused ⟨a, ha, hconfuses⟩) hd hv
    exact .inl (hfiles' fun d hd r hv => hc.isSome_of_current hfound hnames hd hv)

end

attribute [local instance] SetOrder.standard

/-- After a page is renamed and built, it can be built again and again. -/
theorem run_again_renamed :
    (run (.declaring "B") [] (.parse "site") none afterRename.files afterRename.store).result =
        .ok ⟨0, 0, 1, 0, []⟩ ∧
      (run (.declaring "B") [] (.parse "site") none afterRename.files afterRename.store).store =
        afterRename.store ∧
      ((run (.declaring "B") [] (.parse "site") none afterRename.files afterRename.store).files =
          afterRename.files ∨
        Sha256.Collide (Survey.onePage "/site" "/site/a.md" "A").hashed
          (Survey.onePage "/site" "/site/b.md" "B").hashed) := by
  obtain ⟨hentries, hisok⟩ := renamed_spec
  obtain ⟨report, hok⟩ := exists_of_isOk hisok
  obtain ⟨report', hok'⟩ := exists_of_isOk (x := beforeRename.result) (by decide +kernel)
  have hpast : Past beforeRename.store [.onePage "/site" "/site/a.md" "A"] := by
    rw [← run_onePage] at hok' ⊢
    exact .build .start _ _ _ _ (FileTree.wellFormed_of_entries (by decide +kernel)) rfl take_onePage
      hok'
  -- the output directory is there since the page was built under its first name
  have htree : renamed.entries.map Prod.fst =
        [["site", "b.md"], ["out", "a.md.g.cs"], ["out"], ["site"]] ∧
      renamed.entry? ((Location.parse "out").place []) = some .directory := by
    decide +kernel
  obtain ⟨hplaces, hout⟩ := htree
  have hdistinct : (renamed.entries.map Prod.fst).Nodup := by
    rw [hplaces]
    decide
  have hwell := FileTree.wellFormed_of_entries hentries
  have hdir : renamed.isDirectory [] = true := beq_iff_eq.mpr (FileTree.entry?_nil _)
  have hready : renamed.Ready [] (.parse "out") := ⟨hwell, rfl, ⟨rfl, by decide, trivial⟩, hout⟩
  have hsame : ∀ made, renamed.makeDirectory [] (.parse "out") = .ok made →
      Survey.take made [] (.parse "site") (.declaring "B") =
        .ok (.onePage "/site" "/site/b.md" "B") := by
    intro made h
    obtain rfl := Except.ok.inj (hready.makeDirectory_eq.symm.trans h)
    exact take_renamed
  delta afterRename at hok ⊢
  obtain ⟨hresult, hstore, hfiles⟩ := @run_again .standard (.declaring "B") [] (.parse "site") none
    renamed beforeRename.store _ _ report hpast hwell hdistinct hdir
    (fun _ h => Glob.spares_standard h) take_renamed hsame hok none
  refine ⟨hresult, hstore, hfiles.imp_right ?_⟩
  rintro ⟨a, ha, -, hcollide⟩
  obtain rfl := List.mem_singleton.mp ha
  exact hcollide (by decide) (by decide)

end Build

end Pageworks
