import Pageworks.Proofs.Build.History

/-!
# Histories with builds that fail

A build that fails takes its records back, but not its files: what it has written and removed up to
the failure stays so.  From then on a file may say something else than the record of its unit.  The
next build puts that right if it generates the unit anew.  If it leaves the unit alone it only asks
whether there is a file, so the file of the failed build stays.

What carries the proof is that a recorded file says what its record says, or else a build that has
failed since its unit was last generated has left it there.

## Main definitions

* `Step.Torn` — what is left of steps that break off.
* `Attempt` — a build that has finished or failed, with `Attempt.Leaves` for what it leaves behind.
* `Spoiled` — a failed build has left some bytes under a name that nothing was generated under since.
* `Build.Attempts` — edits and builds of one directory, some of which fail.

## Main results

* `Build.Attempts.of_error` — every build that fails is one that `Build.Attempts` allows for.
* `Build.Attempts.truthful` — recorded files say what their records say, or are spoiled.
* `Build.Attempts.output` — **after every build that succeeds each document has its unit**, unless
  it was left alone and its file is spoiled.
-/

namespace Pageworks

/-! ### Steps that break off -/

namespace Step

/-- What is left of steps the first of which breaks off: everything is as it was, or the file that
the step was writing holds the beginning of its text. -/
inductive Torn (out : Place) (t : FileTree) : List Step → FileTree → Prop
  /-- The step has changed nothing. -/
  | untouched (rest : List Step) : Torn out t rest t
  /-- The step has begun to write its file. -/
  | begun {s : Step} {n text : String} {bytes : List UInt8} (rest : List Step)
      (hw : s.written? = some (n, text)) (hn : ZeroFree n)
      (hdir : t.entry? (out ++ [n]) ≠ some .directory)
      (hmissing : s = .restore n text → t.entry? (out ++ [n]) = none)
      (hbytes : bytes <+: Fingerprint.bytesOf text) :
      Torn out t (s :: rest) (t.put (out ++ [n]) (.file bytes))

theorem plainName_of_written? {s : Step} {n text : String} (hs : s.Plain)
    (hw : s.written? = some (n, text)) : PlainName n := by
  cases s with
  | restore m text' =>
    obtain ⟨rfl, -⟩ := Prod.mk.inj (Option.some.inj hw)
    exact hs
  | keep r =>
    obtain ⟨rfl, -⟩ := Prod.mk.inj (Option.some.inj hw)
    exact hs
  | tell _ => cases hw
  | discard _ => cases hw
  | forget _ => cases hw
  | fail _ => cases hw

section

variable {out : Place} {t t' : FileTree} {rest : List Step} {working : Place} {output : Location}

/-- Directories stay, and the tree stays well formed. -/
theorem Torn.keeps (h : Torn (output.place working) t rest t') (ht : t.Ready working output)
    (hplain : ∀ s ∈ rest, s.Plain) : Keeps working output t t' := by
  cases h with
  | untouched _ => exact .refl ht
  | @begun _ n _ bytes rest hw hn hdir _ _ =>
    have hproper : ProperName n := ⟨plainName_of_written? (hplain _ List.mem_cons_self) hw, hn⟩
    have ha : FileTree.Alters t (t.put (output.place working ++ [n]) (.file bytes))
        (output.place working ++ [n]) (some (.file bytes)) := FileTree.alters_put hdir
    exact ⟨ht.alters hproper ha, fun _ => ha.directory⟩

/-- A file that is there afterwards was there before, or holds the beginning of what was written. -/
theorem Torn.of_entry?_eq_file (h : Torn out t rest t') {n : String} {bytes : List UInt8}
    (hfile : t'.entry? (out ++ [n]) = some (.file bytes)) :
    t.entry? (out ++ [n]) = some (.file bytes) ∨
      ∃ s ∈ rest, ∃ text, s.written? = some (n, text) ∧ bytes <+: Fingerprint.bytesOf text := by
  cases h with
  | untouched _ => exact .inl hfile
  | @begun s m text begun rest hw hn hdir hmissing hbegun =>
    rw [FileTree.entry?_put (by simp)] at hfile
    split at hfile
    · next hplace =>
      obtain rfl := Place.child_inj hplace
      obtain rfl : begun = bytes := Entry.file.inj (Option.some.inj hfile)
      exact .inr ⟨s, List.mem_cons_self, text, hw, hbegun⟩
    · exact .inl hfile

end

end Step

/-! ### Attempts -/

/-- A build that has finished or failed, with what it has found. -/
structure Attempt where
  /-- What there was to build. -/
  survey : Survey
  /-- The records from before. -/
  store : Store
  /-- The build has succeeded. -/
  finished : Bool

namespace Attempt

/-- The build generates a unit of the name anew. -/
def Generates (a : Attempt) (n : String) : Prop :=
  ∃ d, a.survey.Renews a.store d ∧ a.survey.unitName d = n

/-- The bytes begin a unit that the build generates anew under the name, or one that it restores. -/
def Leaves [SetOrder] (a : Attempt) (n : String) (bytes : List UInt8) : Prop :=
  ∃ text, bytes <+: Fingerprint.bytesOf text ∧
    ((∃ d u, a.survey.Renews a.store d ∧ a.survey.unit d = .ok u ∧ a.survey.unitName d = n ∧
        u.text = text) ∨
      ∃ d ∈ a.survey.documents, ∃ r, a.survey.verdict a.store d = .current r ∧ r.unitName = n ∧
        r.text = text)

/-- What the builds that have succeeded have found, the last one first. -/
def surveys (attempts : List Attempt) : List Survey :=
  (attempts.filter Attempt.finished).map Attempt.survey

end Attempt

/-- A failed build has left the bytes under the name, and no build that succeeded has generated a
unit of the name since. -/
inductive Spoiled [SetOrder] (n : String) (bytes : List UInt8) : List Attempt → Prop
  /-- The last build has failed and may have left the bytes. -/
  | left {a : Attempt} (attempts : List Attempt) (hfailed : a.finished = false)
      (h : a.Leaves n bytes) : Spoiled n bytes (a :: attempts)
  /-- The last build has left the name alone, or has failed. -/
  | still {a : Attempt} {attempts : List Attempt} (h : Spoiled n bytes attempts)
      (hkept : a.finished = true → ¬ a.Generates n) : Spoiled n bytes (a :: attempts)

/-- A recorded file says what its record says, or is spoiled. -/
def Truthful [SetOrder] (out : Place) (files : FileTree) (store : Store)
    (attempts : List Attempt) : Prop :=
  ∀ r ∈ store.records, ∀ bytes, files.entry? (out ++ [r.unitName]) = some (.file bytes) →
    bytes = Fingerprint.bytesOf r.text ∨ Spoiled r.unitName bytes attempts

/-- Under the name of the document stands its unit; or else the document was left alone, and there
stands a directory or a spoiled file. -/
def Survey.Delivered [SetOrder] (s : Survey) (out : Place) (files : FileTree) (store : Store)
    (attempts : List Attempt) (d : Document) : Prop :=
  ∃ u, s.unit d = .ok u ∧
    (files.entry? (out ++ [s.unitName d]) = some (Step.fileOf u.text) ∨
      (∃ r, s.verdict store d = .current r) ∧
        (files.entry? (out ++ [s.unitName d]) = some .directory ∨
          ∃ bytes, Spoiled (s.unitName d) bytes attempts ∧
            files.entry? (out ++ [s.unitName d]) = some (.file bytes)))

/-! ### A build that fails -/

section

variable [SetOrder] {working : Place} {output : Location} {files made files' : FileTree}
  {store : Store} {time : Option Moment} {s : Survey} {taken rest : List Step} {p : Progress}
  {attempts : List Attempt}

section

variable (hready : made.Ready working output) (hgrows : files.Grows made)
  (hplain : ∀ r ∈ store.records, PlainName r.unitName)
  (hsteps : (s.plan store time).steps = taken ++ rest)
  (htaken : Step.runAll working output ⟨made, store, []⟩ taken = (p, .ok ()))
  (htorn : Step.Torn (output.place working) p.files rest files')

include hready hplain hsteps htaken htorn

/-- A build that fails has kept all directories. -/
private theorem keeps_of_torn : Step.Keeps working output made files' := by
  have hall : ∀ x ∈ taken ++ rest, x.Plain := by
    intro x hx
    exact Survey.plain_of_mem_plan hplain (hsteps ▸ hx)
  obtain ⟨hkeeps, -, -⟩ := Step.runAll_spec hready
    (fun x hx => hall x (List.mem_append_left _ hx)) (congrArg Prod.snd htaken)
  rw [htaken] at hkeeps
  have hend := htorn.keeps hkeeps.ready fun x hx => hall x (List.mem_append_right _ hx)
  exact ⟨hend.ready, fun q hq => hend.directory q (hkeeps.directory q hq)⟩

include hgrows

/-- **Where a file stands after a build that has failed**, the file was there before, or the build
has left it. -/
private theorem leaves_of_torn {n : String} {bytes : List UInt8}
    (hfile : files'.entry? (output.place working ++ [n]) = some (.file bytes)) :
    files.entry? (output.place working ++ [n]) = some (.file bytes) ∨
      Attempt.Leaves ⟨s, store, false⟩ n bytes := by
  have hplan : ∀ x ∈ taken ++ rest, ∀ text, x.written? = some (n, text) →
      bytes <+: Fingerprint.bytesOf text → Attempt.Leaves ⟨s, store, false⟩ n bytes :=
    fun x hx text hw hbytes => ⟨text, hbytes, Survey.of_written?_mem_plan (hsteps ▸ hx) hw⟩
  obtain ⟨-, hentry, -⟩ := Step.runAll_spec hready
    (fun x hx => Survey.plain_of_mem_plan hplain (hsteps ▸ List.mem_append_left rest hx))
    (congrArg Prod.snd htaken)
  rw [htaken] at hentry
  rcases htorn.of_entry?_eq_file hfile with hfile | ⟨x, hx, text, hw, hbytes⟩
  · rw [hentry] at hfile
    rcases Step.of_onEntry_eq_file hfile with hfile | ⟨x, hx, text, hw, rfl⟩
    · exact .inl (hgrows.file_iff.mp hfile)
    · exact .inr (hplan x (List.mem_append_left _ hx) text hw (List.prefix_refl _))
  · exact .inr (hplan x (List.mem_append_right _ hx) text hw hbytes)

/-- A build that fails spoils files, but no others than those that it has left. -/
private theorem Truthful.fail (htrue : Truthful (output.place working) files store attempts) :
    Truthful (output.place working) files' store (⟨s, store, false⟩ :: attempts) := by
  intro r hr bytes hfile
  rcases leaves_of_torn hready hgrows hplain hsteps htaken htorn hfile with hfile | hleaves
  · rcases htrue r hr bytes hfile with hbytes | hspoiled
    · exact .inl hbytes
    · exact .inr (.still hspoiled fun h => by cases h)
  · exact .inr (.left attempts rfl hleaves)

end

/-! ### A build that succeeds -/

section

variable {out : Place} {t : FileTree} {root : Place} {prev : Survey} {store' : Store}
  {d : Document} (htrue : Truthful out files store attempts) (hrec : prev.Recorded store)
  (hprev : prev.Found t root) (h : s.Found files root) (ht : t.WellFormed)
  (hfiles : files.WellFormed) (hfree : ¬ prev.Confuses s)
  (hc : s.Carried time out files files' store store')

include htrue hrec hprev h ht hfiles hfree hc

/-- **A build that succeeds delivers each document**, unless it leaves a spoiled file alone. -/
private theorem Truthful.delivered (hd : d ∈ s.documents) :
    s.Delivered out files' store attempts d := by
  rcases Survey.current_or_renews hc.noFail hd with ⟨r, hv⟩ | hrenews
  · have hname : ∀ e ∈ s.documents, ∀ x, s.verdict store e = .current x →
        x.unitName = s.unitName e :=
      fun e he x hx => hrec.unitName_of_current hprev h ht hfiles hfree he hx
    obtain ⟨key, u, time', -, hu, hr⟩ := hrec.current hprev h ht hfiles hfree hd hv
    have htext : r.text = u.text := by rw [hr]; rfl
    obtain ⟨-, -, hget, -⟩ := Survey.verdict_eq_current_iff.mp hv
    have hmem : r ∈ store.records := Store.mem_records_of_get? hget
    have hsame := hname d hd r hv
    -- names tell documents apart, so nothing else is done under the name
    have hentry := hc.restored hd hv (hsame ▸ List.mem_map_of_mem hd)
      (fun e he hename => Survey.not_renews_of_current hv
        (h.eq_of_unitName he.1 hd (hename.trans hsame) ▸ he))
      (fun e he x hx hxname => by
        have hed : e = d :=
          h.eq_of_unitName he hd ((hname e he x hx).symm.trans (hxname.trans hsame))
        rw [hed, hv] at hx
        exact (Verdict.current.inj hx).symm)
    rw [hsame] at hentry
    refine ⟨u, hu, ?_⟩
    rcases hentry with hfile | hdir | ⟨bytes, hbefore, hafter⟩
    · exact .inl (htext ▸ hfile)
    · exact .inr ⟨⟨r, hv⟩, .inl hdir⟩
    · rcases htrue r hmem bytes (hsame ▸ hbefore) with rfl | hspoiled
      · exact .inl (htext ▸ hafter)
      · exact .inr ⟨⟨r, hv⟩, .inr ⟨bytes, hsame ▸ hspoiled, hafter⟩⟩
  · obtain ⟨u, hu, hfile⟩ := hc.written h hrenews
    exact ⟨u, hu, .inl hfile⟩

/-- A build that succeeds spoils nothing, and what it generates anew is spoiled no longer. -/
private theorem Truthful.next (hwhole : s.isWhole = true) :
    Truthful out files' store' (⟨s, store, true⟩ :: attempts) := by
  have hrec' : s.Recorded store' := hrec.next hprev h ht hfiles hfree hc hwhole
  intro r hr bytes hfile
  obtain ⟨d, hd, u, hu, -, hname, htext⟩ := hrec'.exists_unit hr
  obtain ⟨u', hu', hentry⟩ := htrue.delivered hrec hprev h ht hfiles hfree hc hd
  obtain rfl := Except.ok.inj (hu'.symm.trans hu)
  rw [hname] at hfile ⊢
  rw [hfile] at hentry
  rcases hentry with hfileOf | ⟨⟨x, hv⟩, hdir | ⟨bytes', hspoiled, hsame⟩⟩
  · rw [htext]
    exact .inl (Entry.file.inj (Option.some.inj hfileOf))
  · cases hdir
  · obtain rfl := Entry.file.inj (Option.some.inj hsame)
    refine .inr (.still hspoiled ?_)
    rintro - ⟨e, he, hsameName⟩
    exact Survey.not_renews_of_current hv (h.eq_of_unitName he.1 hd hsameName ▸ he)

end

end

namespace Build

/-! ### Histories with failures -/

section

variable [SetOrder]

/-- What has become of the files and records when one directory is built again and again into one
output directory, and some of the builds fail; and the builds, the last one first. -/
inductive Attempts (working : Place) (source : Location) (out : Place) :
    FileTree → Store → List Attempt → Prop
  /-- Before any build there are no records, and the output directory holds no files. -/
  | start {files : FileTree} (hfiles : files.WellFormed)
      (hworking : files.isDirectory working = true)
      (hout : ∀ n, files.isFile (out ++ [n]) = false) :
      Attempts working source out files .empty []
  /-- Anything may happen but to the files of the output directory. -/
  | edit {files files' : FileTree} {store : Store} {attempts : List Attempt}
      (h : Attempts working source out files store attempts) (hfiles : files'.WellFormed)
      (hworking : files'.isDirectory working = true)
      (hout : ∀ n bytes, files'.entry? (out ++ [n]) = some (.file bytes) ↔
        files.entry? (out ++ [n]) = some (.file bytes)) :
      Attempts working source out files' store attempts
  /-- A build succeeds, with any settings but those of the output directory. -/
  | finish {files : FileTree} {store : Store} {attempts : List Attempt} {s : Survey}
      {report : Report} (h : Attempts working source out files store attempts)
      (settings : Settings) (time : Option Moment)
      (hplace : (Location.parse settings.outputDirectory).place working = out)
      (hs : Survey.take files working source settings = .ok s) (hwhole : s.isWhole = true)
      (hok : (run settings working source time files store).result = .ok report) :
      Attempts working source out (run settings working source time files store).files
        (run settings working source time files store).store (⟨s, store, true⟩ :: attempts)
  /-- A build fails once it has taken any of its steps, or while it takes the next one, for whatever
  reason.  Its records are taken back. -/
  | fail {files made files' : FileTree} {store : Store} {attempts : List Attempt} {s : Survey}
      {taken rest : List Step} {p : Progress}
      (h : Attempts working source out files store attempts)
      (settings : Settings) (time : Option Moment)
      (hplace : (Location.parse settings.outputDirectory).place working = out)
      (hs : Survey.take files working source settings = .ok s)
      (hmade : files.makeDirectory working (.parse settings.outputDirectory) = .ok made)
      (hsteps : (s.plan store time).steps = taken ++ rest)
      (htaken : Step.runAll working (.parse settings.outputDirectory) ⟨made, store, []⟩ taken =
        (p, .ok ()))
      (htorn : Step.Torn out p.files rest files') :
      Attempts working source out files' store (⟨s, store, false⟩ :: attempts)

namespace Attempts

variable {working out : Place} {source : Location} {files : FileTree} {store : Store}
  {attempts : List Attempt}

/-- **Every build that fails is allowed for**: it has changed nothing, or it has taken some of its
steps. -/
theorem of_error (h : Attempts working source out files store attempts) (settings : Settings)
    (time : Option Moment)
    (hplace : (Location.parse settings.outputDirectory).place working = out) {e : BuildError}
    (hfail : (run settings working source time files store).result = .error e) :
    ∃ more, Attempts working source out (run settings working source time files store).files
      (run settings working source time files store).store (more ++ attempts) ∧
        Attempt.surveys more = [] := by
  rw [store_of_error hfail]
  rcases exists_runAll_of_error hfail with hfiles | ⟨s, made, taken, step, rest, p, hs, hmade,
    hsteps, htaken, -, hfiles⟩
  · rw [hfiles]
    exact ⟨[], h, rfl⟩
  · rw [hfiles]
    exact ⟨[⟨s, store, false⟩],
      .fail h settings time hplace hs hmade hsteps htaken (.untouched _), rfl⟩

theorem reachable (h : Attempts working source out files store attempts) : store.Reachable := by
  induction h with
  | start _ _ _ => exact .empty
  | edit _ _ _ _ ih => exact ih
  | finish _ settings time _ _ _ _ ih => exact .build ih _ _ _ _ _
  | fail _ _ _ _ _ _ _ _ _ ih => exact ih

/-- Edits and builds keep the file tree well-formed and the working directory in it. -/
theorem wellFormed (h : Attempts working source out files store attempts) :
    files.WellFormed ∧ files.entry? working = some .directory := by
  induction h with
  | start hfiles hworking _ => exact ⟨hfiles, beq_iff_eq.mp hworking⟩
  | edit _ hfiles hworking _ _ => exact ⟨hfiles, beq_iff_eq.mp hworking⟩
  | finish h settings time _ _ _ hok ih =>
    obtain ⟨x, -, hc⟩ := carried_of_run ih.1 ih.2 (fun r hr => h.reachable.plainName hr) hok
    exact ⟨hc.wellFormed, hc.directory _ ih.2⟩
  | fail h settings time hplace _ hmade hsteps htaken htorn ih =>
    obtain ⟨hready, hgrows⟩ := FileTree.ready_of_makeDirectory ih.1 ih.2 hmade
    have hkeeps := keeps_of_torn hready (fun r hr => h.reachable.plainName hr) hsteps htaken
      (hplace ▸ htorn)
    exact ⟨hkeeps.ready.wellFormed, hkeeps.directory _ (hgrows.directory ih.2)⟩

/-- The last build that succeeded was right about what it found. -/
theorem found (h : Attempts working source out files store attempts) {s : Survey}
    {before : List Survey} (hlast : Attempt.surveys attempts = s :: before) :
    ∃ t : FileTree, t.WellFormed ∧ s.Found t (source.place working) := by
  induction h generalizing s before with
  | start _ _ _ => cases hlast
  | edit _ _ _ _ ih => exact ih hlast
  | finish h settings time _ hs hwhole _ _ =>
    obtain ⟨rfl, -⟩ := List.cons.inj hlast
    obtain ⟨hfiles, hworking⟩ := h.wellFormed
    obtain ⟨-, hfound⟩ := Survey.found_of_take hfiles hworking hs
    rw [hwhole] at hfound
    exact ⟨_, hfiles, hfound⟩
  | fail _ _ _ _ _ _ _ _ _ ih => exact ih hlast

/-- There are no records before the first build that succeeds. -/
private theorem store_eq_empty (h : Attempts working source out files store attempts)
    (hnone : Attempt.surveys attempts = []) : store = .empty := by
  induction h with
  | start _ _ _ => rfl
  | edit _ _ _ _ ih => exact ih hnone
  | finish _ _ _ _ _ _ _ _ => cases hnone
  | fail _ _ _ _ _ _ _ _ _ ih => exact ih hnone

/-- Before a build that succeeds there was another one, which the records are from, or else it is as
if one had found nothing. -/
private theorem exists_prev (h : Attempts working source out files store attempts) {s : Survey}
    (hfound : s.Found files (source.place working))
    (hrec : ∀ prev before, Attempt.surveys attempts = prev :: before → prev.Recorded store) :
    (∃ prev t, FileTree.WellFormed t ∧ Survey.Found prev t (source.place working) ∧
        prev.Recorded store ∧ ¬ prev.Confuses s) ∨
      ∃ a b, [b, a] <:+: s :: Attempt.surveys attempts ∧ a.Confuses b := by
  cases hlast : Attempt.surveys attempts with
  | nil =>
    refine .inl ⟨s.nothing, files, h.wellFormed.1, hfound.nothing, ?_,
      Survey.not_confuses_nothing s⟩
    rw [h.store_eq_empty hlast]
    exact ⟨fun d hd => absurd hd List.not_mem_nil, fun r hr => absurd hr List.not_mem_nil⟩
  | cons prev before =>
    by_cases hconfused : prev.Confuses s
    · exact .inr ⟨prev, s, ⟨[], before, rfl⟩, hconfused⟩
    · obtain ⟨t, ht, hprev⟩ := h.found hlast
      exact .inl ⟨prev, t, ht, hprev, hrec prev before hlast, hconfused⟩

/-- What one more build that succeeds comes to. -/
private theorem finish_spec (h : Attempts working source out files store attempts)
    (htrue : Truthful out files store attempts)
    (hrec : ∀ prev before, Attempt.surveys attempts = prev :: before → prev.Recorded store)
    {settings : Settings} {time : Option Moment}
    (hplace : (Location.parse settings.outputDirectory).place working = out) {s : Survey}
    (hs : Survey.take files working source settings = .ok s) (hwhole : s.isWhole = true)
    {report : Report}
    (hok : (run settings working source time files store).result = .ok report) :
    (Truthful out (run settings working source time files store).files
          (run settings working source time files store).store (⟨s, store, true⟩ :: attempts) ∧
        s.Recorded (run settings working source time files store).store ∧
        ∀ d ∈ s.documents, s.Delivered out (run settings working source time files store).files
          store attempts d) ∨
      ∃ a b, [b, a] <:+: s :: Attempt.surveys attempts ∧ a.Confuses b := by
  obtain ⟨hfiles, hworking⟩ := h.wellFormed
  obtain ⟨x, hx, hc⟩ := carried_of_run hfiles hworking (fun r hr => h.reachable.plainName hr) hok
  obtain rfl : x = s := Except.ok.inj (hx.symm.trans hs)
  obtain ⟨-, hfound⟩ := Survey.found_of_take hfiles hworking hs
  rw [hwhole] at hfound
  rw [hplace] at hc
  rcases h.exists_prev hfound hrec with ⟨prev, t, ht, hprev, hrec, hfree⟩ | hconfused
  · exact .inl ⟨htrue.next hrec hprev hfound ht hfiles hfree hc hwhole,
      hrec.next hprev hfound ht hfiles hfree hc hwhole,
      fun d hd => htrue.delivered hrec hprev hfound ht hfiles hfree hc hd⟩
  · exact .inr hconfused

/-- **Recorded files say what their records say, or are spoiled**, and the records are those of the
last build that succeeded, unless two such builds that follow each other confuse what they hash. -/
theorem truthful (h : Attempts working source out files store attempts) :
    (Truthful out files store attempts ∧
        ∀ s before, Attempt.surveys attempts = s :: before → s.Recorded store) ∨
      ∃ a b, [b, a] <:+: Attempt.surveys attempts ∧ a.Confuses b := by
  induction h with
  | start _ _ _ =>
    exact .inl ⟨fun r hr => absurd hr List.not_mem_nil, fun s before hlast => by cases hlast⟩
  | edit _ _ _ hout ih =>
    rcases ih with ⟨htrue, hrec⟩ | hconfused
    · exact .inl ⟨fun r hr bytes hfile => htrue r hr bytes ((hout _ _).mp hfile), hrec⟩
    · exact .inr hconfused
  | finish h settings time hplace hs hwhole hok ih =>
    rcases ih with ⟨htrue, hrec⟩ | ⟨a, b, hinfix, hab⟩
    · rcases h.finish_spec htrue hrec hplace hs hwhole hok with ⟨htrue', hrec', -⟩ | hconfused
      · refine .inl ⟨htrue', fun x before hlast => ?_⟩
        rw [← (List.cons.inj hlast).1]
        exact hrec'
      · exact .inr hconfused
    · exact .inr ⟨a, b, hinfix.trans (List.suffix_cons _ _).isInfix, hab⟩
  | fail h settings time hplace _ hmade hsteps htaken htorn ih =>
    obtain ⟨hfiles, hworking⟩ := h.wellFormed
    obtain ⟨hready, hgrows⟩ := FileTree.ready_of_makeDirectory hfiles hworking hmade
    subst hplace
    rcases ih with ⟨htrue, hrec⟩ | hconfused
    · exact .inl ⟨htrue.fail hready hgrows (fun r hr => h.reachable.plainName hr) hsteps htaken
        htorn, hrec⟩
    · exact .inr hconfused

/-- **After every build that succeeds each document has its unit**, whatever has failed before.  What
stands in its place, if anything does, is a directory, or what a failed build has left there; and
then the document was left alone, and no build that succeeded has generated a unit of its name since
that failure.  The exception is again two builds that confuse what they hash. -/
theorem output (h : Attempts working source out files store attempts) {settings : Settings}
    {time : Option Moment}
    (hplace : (Location.parse settings.outputDirectory).place working = out) {s : Survey}
    (hs : Survey.take files working source settings = .ok s) (hwhole : s.isWhole = true)
    {report : Report}
    (hok : (run settings working source time files store).result = .ok report) :
    (∀ d ∈ s.documents, s.Delivered out (run settings working source time files store).files
        store attempts d) ∨
      ∃ a b, [b, a] <:+: s :: Attempt.surveys attempts ∧ a.Confuses b := by
  rcases h.truthful with ⟨htrue, hrec⟩ | ⟨a, b, hinfix, hab⟩
  · rcases h.finish_spec htrue hrec hplace hs hwhole hok with ⟨-, -, hall⟩ | hconfused
    · exact .inl hall
    · exact .inr hconfused
  · exact .inr ⟨a, b, hinfix.trans (List.suffix_cons _ _).isInfix, hab⟩

end Attempts

end

/-! ### A build that breaks off -/

attribute [local instance] SetOrder.standard

/-- The first build of a directory breaks off once its page is written. -/
def brokenOff : Progress :=
  (Step.runAll [] (.parse "out") ⟨.put .onePage ["out"] .directory, .empty, []⟩
    (((Survey.onePage "/site" "/site/a.md" "B").plan .empty none).steps.take 2)).1

/-- The directory is built again, for another base class. -/
def afterBreak : BuildOutcome :=
  run (.declaring "A") [] (.parse "site") none brokenOff.files .empty

private theorem take_onePage_declaring : Survey.take .onePage [] (.parse "site") (.declaring "B") =
    .ok (.onePage "/site" "/site/a.md" "B") := by
  refine Survey.take_of_directory rfl rfl ?_ rfl ?_ ?_ ?_ rfl rfl
  all_goals decide +kernel

private theorem take_brokenOff : Survey.take brokenOff.files [] (.parse "site") (.declaring "A") =
    .ok (.onePage "/site" "/site/a.md" "A") := by
  refine Survey.take_of_directory rfl rfl ?_ rfl ?_ ?_ ?_ rfl rfl
  all_goals decide +kernel

private theorem attempts_brokenOff : Attempts [] (.parse "site") ["out"] brokenOff.files .empty
    [⟨.onePage "/site" "/site/a.md" "B", .empty, false⟩] := by
  have hstart : Attempts [] (.parse "site") ["out"] .onePage .empty [] :=
    .start (FileTree.wellFormed_of_entries (by decide +kernel)) rfl fun _ => rfl
  exact .fail hstart (.declaring "B") none (by decide +kernel) take_onePage_declaring
    (by decide +kernel) (List.take_append_drop 2 _).symm (Prod.ext rfl (by decide +kernel))
    (.untouched _)

/-- The page has the unit of the second build, though the first one has left another unit there. -/
theorem Attempts.output_brokenOff : brokenOff.files.isFile ["out", "a.md.g.cs"] = true ∧
    ∃ u, (Survey.onePage "/site" "/site/a.md" "A").unit ⟨"/site/a.md", "x\n"⟩ = .ok u ∧
      afterBreak.files.entry? ["out", "a.md.g.cs"] = some (Step.fileOf u.text) := by
  have hspec : brokenOff.files.isFile ["out", "a.md.g.cs"] = true ∧
      afterBreak.result.isOk = true := by
    rw [afterBreak, run, take_brokenOff]
    decide +kernel
  obtain ⟨hisfile, hisok⟩ := hspec
  obtain ⟨report, hok⟩ := exists_of_isOk hisok
  refine ⟨hisfile, ?_⟩
  have hname : (Survey.onePage "/site" "/site/a.md" "A").unitName ⟨"/site/a.md", "x\n"⟩ =
      "a.md.g.cs" := by decide +kernel
  rcases attempts_brokenOff.output rfl take_brokenOff rfl hok with
    hall | ⟨a, b, hinfix, -⟩
  · obtain ⟨u, hu, hfile | ⟨⟨r, hv⟩, -⟩⟩ := hall _ List.mem_cons_self
    · rw [hname] at hfile
      exact ⟨u, hu, hfile⟩
    · -- without records nothing is left alone
      obtain ⟨-, -, hget, -⟩ := Survey.verdict_eq_current_iff.mp hv
      cases hget
  · -- only one build has succeeded
    have htwo : 2 ≤ 1 := hinfix.length_le
    exact absurd htwo (by decide)

end Build

end Pageworks
