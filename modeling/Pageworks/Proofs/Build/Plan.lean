import Pageworks.Build
import Pageworks.Proofs.Build.Step
import Pageworks.Proofs.Build.Survey

/-!
# What a build does

The steps of a build follow from the verdicts on its documents and from the records that it finds.
What a build that succeeds leaves behind is told here document by document and record by record,
without its steps.

## Main definitions

* `Survey.Renews` — the document is generated anew.
* `Survey.GivesUp` — the build gives up the unit of a record, because its document is gone or is
  generated anew.
* `Survey.Settled` — every document is left alone, and none is gone.
* `Survey.Carried` — what a build that succeeds has made of files and records.

## Main results

* `Survey.of_name?_mem_plan` — a plan works with the names of documents and records only.
* `Build.run_cases` — what a build comes to.
* `Build.carried_of_run` — **a build that succeeds has taken all steps of its plan.**
* `Survey.Carried.written`, `Survey.Carried.untouched`, `Survey.Carried.unwritten`,
  `Survey.Carried.restored` — the files that it leaves behind.
* `Survey.Carried.stored`, `Survey.Carried.forgotten`, `Survey.Carried.remembered`,
  `Survey.Carried.get?_of_current`, `Survey.Carried.key_of_record` — the records.
* `Survey.updated_mem_report_iff` — what a build reports about its documents.
-/

namespace Pageworks

namespace Survey

/-! ### Verdicts -/

variable {s : Survey} {store : Store} {time : Option Moment} {d : Document} {r : Record}
  {key : String} {n : String}

theorem verdict_eq_current_iff : s.verdict store d = .current r ↔
    ∃ key, s.key d = .ok key ∧ store.get? d.path = some r ∧ r.cacheKey = key := by
  delta verdict
  cases s.key d with
  | error e => simp
  | ok key =>
    dsimp only
    cases store.get? d.path with
    | none => simp
    | some old =>
      dsimp only
      split
      · next h => 
        constructor
        · rintro ⟨rfl⟩
          exact ⟨key, rfl, rfl, beq_iff_eq.mp h⟩
        · rintro ⟨-, -, h, -⟩
          rw [Option.some.inj h]
      · next h =>
        constructor
        · nofun
        · rintro ⟨k, hk, hold, hkey⟩
          rw [Option.some.inj hold, hkey, ← Except.ok.inj hk] at h
          exact absurd (beq_self_eq_true _) h

theorem verdict_eq_stale_iff {old : Option Record} : s.verdict store d = .stale key old ↔
    s.key d = .ok key ∧ store.get? d.path = old ∧ ∀ r, old = some r → r.cacheKey ≠ key := by
  delta verdict
  cases s.key d with
  | error e => simp
  | ok key' =>
    dsimp only
    cases store.get? d.path with
    | none =>
      constructor
      · rintro ⟨rfl, rfl⟩
        exact ⟨rfl, rfl, nofun⟩
      · rintro ⟨hk, rfl, -⟩
        rw [Except.ok.inj hk]
    | some x =>
      dsimp only
      split
      · next h =>
        constructor
        · nofun
        · rintro ⟨hk, rfl, hne⟩
          rw [Except.ok.inj hk] at h
          exact absurd (beq_iff_eq.mp h) (hne x rfl)
      · next h =>
        constructor
        · rintro ⟨rfl, rfl⟩
          refine ⟨rfl, rfl, ?_⟩
          rintro r ⟨rfl⟩ hkey
          exact h (beq_iff_eq.mpr hkey)
        · rintro ⟨hk, rfl, -⟩
          rw [Except.ok.inj hk]

theorem verdict_eq_failing_iff {e : BuildError} :
    s.verdict store d = .failing e ↔ s.key d = .error e := by
  delta verdict
  cases s.key d with
  | error e' => simp
  | ok key =>
    dsimp only
    refine iff_of_false ?_ nofun
    split
    · nofun
    · split <;> nofun

/-- The document is generated anew. -/
def Renews (s : Survey) (store : Store) (d : Document) : Prop :=
  d ∈ s.documents ∧ ∃ key old, s.verdict store d = .stale key old

/-- What is left alone is not generated anew. -/
theorem not_renews_of_current (hv : s.verdict store d = .current r) : ¬ s.Renews store d := by
  rintro ⟨-, key, old, hstale⟩
  rw [hv] at hstale
  cases hstale

/-- The build gives up the unit of the record, because its document is gone or is generated
anew. -/
def GivesUp (s : Survey) (store : Store) (r : Record) : Prop :=
  r ∈ s.gone store ∨ ∃ d ∈ s.documents, ∃ key, s.verdict store d = .stale key (some r)

theorem mem_gone_iff : r ∈ s.gone store ↔ s.sweeps = .ok true ∧ r ∈ store.records ∧
    r.path ∉ s.documents.map Document.path ∧
    Path.isWithin (Path.slashed r.path) s.scope = true := by
  rw [gone]
  split
  · next h =>
    rw [List.mem_filter, Store.all, List.mem_mergeSort, isGone, Bool.and_eq_true,
      Bool.not_eq_true', ← Bool.not_eq_true, List.contains_iff_mem]
    exact (and_iff_right h).symm
  · next h =>
    exact ⟨fun hr => absurd hr List.not_mem_nil, fun hr => absurd hr.1 h⟩

/-! ### The steps of a plan -/

/-- What looking at a document comes to. -/
private theorem mem_lookSteps {x : Step} (hx : ∀ e, x ≠ .tell e) {v : Verdict} :
    x ∈ s.lookSteps d v ↔ (∃ e, v = .failing e ∧ x = .fail e) ∨
      (∃ r, v = .current r ∧ x = .restore r.unitName r.text) ∨
      ∃ key r, v = .stale key (some r) ∧ r.unitName ∉ s.unitNames ∧ x = .discard r.unitName := by
  have hdecision : ∀ m, x ≠ decision m := fun m => hx _
  cases v with
  | failing e => simp [lookSteps, eq_comm]
  | current r => simp [lookSteps, hdecision]
  | stale key old =>
    cases old with
    | none => simp [lookSteps]
    | some r =>
      rw [lookSteps]
      split
      · next h => simp [List.contains_iff_mem.mp h]
      · next h => simp [mt List.contains_iff_mem.mpr h, hdecision]

/-- What forgetting a record comes to. -/
private theorem mem_forgetSteps {x : Step} (hx : ∀ e, x ≠ .tell e) : x ∈ s.forgetSteps r ↔
    x = .forget r.path ∨ r.unitName ∉ s.unitNames ∧ x = .discard r.unitName := by
  have hdecision : ∀ m, x ≠ decision m := fun m => hx _
  rw [forgetSteps]
  split
  · next h => simp [List.contains_iff_mem.mp h, hdecision]
  · next h => simp [mt List.contains_iff_mem.mpr h, hdecision, or_comm]

/-- What looking for documents that are gone comes to. -/
private theorem mem_sweepSteps {x : Step} : x ∈ s.sweepSteps store ↔
    (∃ f, s.sweeps = .error f ∧ x = .fail (.file f)) ∨
      ∃ r ∈ s.gone store, x ∈ s.forgetSteps r := by
  rw [sweepSteps]
  split
  · next f h =>
    -- nothing is found to be gone where the location cannot be looked at
    have hnone : s.gone store = [] := by rw [gone, h]
    simp [h, hnone]
  · next h => simp [h]

theorem mem_stale_iff {x : Stale} : x ∈ s.stale store ↔ x.document ∈ s.documents ∧
    ∃ old, s.verdict store x.document = .stale x.key old ∧
      x.status = if old.isSome then .updated else .created := by
  rw [stale, List.mem_filterMap]
  constructor
  · rintro ⟨d, hd, h⟩
    delta stale? at h
    split at h
    · next key old hv =>
      rw [← Option.some.inj h]
      exact ⟨hd, old, hv, rfl⟩
    · cases h
  · rintro ⟨hd, old, hv, hstatus⟩
    refine ⟨x.document, hd, ?_⟩
    delta stale?
    rw [hv]
    dsimp only
    rw [← hstatus]

section

variable [SetOrder]

/-- Apart from what is told, the steps of a plan look at documents, keep units and forget
records. -/
private theorem mem_steps {x : Step} (hx : ∀ e, x ≠ .tell e) : x ∈ (s.plan store time).steps ↔
    (∃ d ∈ s.documents, x ∈ s.lookSteps d (s.verdict store d)) ∨
      x ∈ s.generateSteps time (s.stale store) ∨ x ∈ s.sweepSteps store := by
  have hwarn : x ∉ (s.stale store).flatMap fun y => (warnings y.document).map .tell := by
    intro h
    obtain ⟨y, -, hy⟩ := List.mem_flatMap.mp h
    obtain ⟨e, -, he⟩ := List.mem_map.mp hy
    exact hx e he.symm
  rw [plan, List.mem_append, List.mem_append, List.mem_append, List.mem_append, List.mem_cons,
    List.mem_singleton, List.mem_flatMap]
  constructor
  · rintro (((((h | h) | h) | h) | h) | h)
    · exact absurd h (hx _)
    · exact .inl h
    · exact absurd h hwarn
    · exact .inr (.inl h)
    · exact .inr (.inr h)
    · exact absurd h (hx _)
  · rintro (h | h | h)
    · exact .inl (.inl (.inl (.inl (.inr h))))
    · exact .inl (.inl (.inr h))
    · exact .inl (.inr h)

/-- Only units of documents to generate are kept. -/
private theorem of_mem_generateSteps {todo : List Stale} {x : Step} (hx : ∀ e, x ≠ .tell e)
    (hx' : ∀ e, x ≠ .fail e) (h : x ∈ s.generateSteps time todo) :
    ∃ y ∈ todo, ∃ u, s.unit y.document = .ok u ∧
      x = .keep (Record.ofUnit y.document.path y.key s.mode.name u time) := by
  rw [generateSteps] at h
  split at h
  · exact absurd (List.mem_singleton.mp h) (hx' _)
  · next units hunits =>
    obtain ⟨z, hz, hxz⟩ := List.mem_flatMap.mp h
    obtain ⟨y, hy, hyz⟩ := ((mapM_spec hunits).2 z).mp hz
    obtain ⟨u, hu, rfl⟩ := map_eq_ok_iff.mp hyz
    rw [keepSteps] at hxz
    rcases List.mem_cons.mp hxz with hxz | hxz
    · exact ⟨y, hy, u, hu, hxz⟩
    · exact absurd (List.mem_singleton.mp hxz) (hx _)

/-- The units of all documents to generate are kept, if no step fails. -/
private theorem keep_mem_generateSteps {todo : List Stale}
    (hfail : ∀ e, .fail e ∉ s.generateSteps time todo) {y : Stale} (hy : y ∈ todo) :
    ∃ u, s.unit y.document = .ok u ∧
      .keep (Record.ofUnit y.document.path y.key s.mode.name u time) ∈
        s.generateSteps time todo := by
  rw [generateSteps] at hfail ⊢
  split
  · next e he =>
    rw [he] at hfail
    exact absurd List.mem_cons_self (hfail e)
  · next units hunits =>
    obtain ⟨hall, hmem⟩ := mapM_spec hunits
    obtain ⟨z, hz⟩ := hall y hy
    obtain ⟨u, hu, -⟩ := map_eq_ok_iff.mp hz
    exact ⟨u, hu, List.mem_flatMap.mpr
      ⟨(y, u), (hmem _).mpr ⟨y, hy, map_eq_ok_iff.mpr ⟨u, hu, rfl⟩⟩, List.mem_cons_self⟩⟩

/-- What the steps of a plan are taken for, those apart that tell or fail. -/
private theorem of_mem_plan {x : Step} (hx : ∀ e, x ≠ .tell e) (hx' : ∀ e, x ≠ .fail e)
    (h : x ∈ (s.plan store time).steps) :
    (∃ d ∈ s.documents, ∃ r, s.verdict store d = .current r ∧ x = .restore r.unitName r.text) ∨
      (∃ d ∈ s.documents, ∃ key r, s.verdict store d = .stale key (some r) ∧
        r.unitName ∉ s.unitNames ∧ x = .discard r.unitName) ∨
      (∃ y ∈ s.stale store, ∃ u, s.unit y.document = .ok u ∧
        x = .keep (Record.ofUnit y.document.path y.key s.mode.name u time)) ∨
      ∃ r ∈ s.gone store,
        x = .forget r.path ∨ r.unitName ∉ s.unitNames ∧ x = .discard r.unitName := by
  rcases (mem_steps hx).mp h with ⟨d, hd, h⟩ | h | h
  · rcases (mem_lookSteps hx).mp h with ⟨e, -, rfl⟩ | h | h
    · exact absurd rfl (hx' e)
    · exact .inl ⟨d, hd, h⟩
    · exact .inr (.inl ⟨d, hd, h⟩)
  · exact .inr (.inr (.inl (of_mem_generateSteps hx hx' h)))
  · rcases mem_sweepSteps.mp h with ⟨f, -, rfl⟩ | ⟨r, hr, h⟩
    · exact absurd rfl (hx' _)
    · exact .inr (.inr (.inr ⟨r, hr, (mem_forgetSteps hx).mp h⟩))

/-- The steps of a plan that does not fail, each with what it is taken for. -/
private theorem mem_plan (hfail : ∀ e, .fail e ∉ (s.plan store time).steps) {x : Step}
    (hx : ∀ e, x ≠ .tell e) : x ∈ (s.plan store time).steps ↔
    (∃ d ∈ s.documents, ∃ r, s.verdict store d = .current r ∧ x = .restore r.unitName r.text) ∨
      (∃ d ∈ s.documents, ∃ key r, s.verdict store d = .stale key (some r) ∧
        r.unitName ∉ s.unitNames ∧ x = .discard r.unitName) ∨
      (∃ y ∈ s.stale store, ∃ u, s.unit y.document = .ok u ∧
        x = .keep (Record.ofUnit y.document.path y.key s.mode.name u time)) ∨
      ∃ r ∈ s.gone store,
        x = .forget r.path ∨ r.unitName ∉ s.unitNames ∧ x = .discard r.unitName := by
  constructor
  · intro h
    refine of_mem_plan hx ?_ h
    rintro e rfl
    exact hfail e h
  · rw [mem_steps hx]
    rintro (⟨d, hd, h⟩ | ⟨d, hd, h⟩ | ⟨y, hy, u, hu, rfl⟩ | ⟨r, hr, h⟩)
    · exact .inl ⟨d, hd, (mem_lookSteps hx).mpr (.inr (.inl h))⟩
    · exact .inl ⟨d, hd, (mem_lookSteps hx).mpr (.inr (.inr h))⟩
    · have hgen : ∀ e, .fail e ∉ s.generateSteps time (s.stale store) :=
        fun e he => hfail e ((mem_steps fun _ h => by cases h).mpr (.inr (.inl he)))
      obtain ⟨v, hv, hkeep⟩ := keep_mem_generateSteps hgen hy
      rw [Except.ok.inj (hu.symm.trans hv)]
      exact .inr (.inl hkeep)
    · exact .inr (.inr (mem_sweepSteps.mpr (.inr ⟨r, hr, (mem_forgetSteps hx).mpr h⟩)))

/-- **A plan writes nothing else** than units that it generates anew and units that it restores. -/
theorem of_written?_mem_plan {x : Step} {text : String} (hx : x ∈ (s.plan store time).steps)
    (hw : x.written? = some (n, text)) :
    (∃ d u, s.Renews store d ∧ s.unit d = .ok u ∧ s.unitName d = n ∧ u.text = text) ∨
      ∃ d ∈ s.documents, ∃ r, s.verdict store d = .current r ∧ r.unitName = n ∧ r.text = text := by
  have hnot : (∀ e, x ≠ .tell e) ∧ ∀ e, x ≠ .fail e := by
    constructor <;> rintro e rfl <;> cases hw
  rcases of_mem_plan hnot.1 hnot.2 hx with ⟨d, hd, r, hv, rfl⟩ | ⟨d, -, key, r, -, -, rfl⟩ |
    ⟨y, hy, u, hu, rfl⟩ | ⟨r, -, rfl | ⟨-, rfl⟩⟩
  · obtain ⟨rfl, rfl⟩ := Prod.mk.inj (Option.some.inj hw)
    exact .inr ⟨d, hd, r, hv, rfl, rfl⟩
  · cases hw
  · obtain ⟨hd, old, hv, -⟩ := mem_stale_iff.mp hy
    obtain ⟨rfl, rfl⟩ := Prod.mk.inj (Option.some.inj hw)
    exact .inl ⟨y.document, u, ⟨hd, y.key, old, hv⟩, hu, (name_of_unit hu).symm, rfl⟩
  · cases hw
  · cases hw

/-- **A plan works with no other names** than those of its documents and of the records. -/
theorem of_name?_mem_plan {x : Step} (hx : x ∈ (s.plan store time).steps) (hn : x.name? = some n) :
    n ∈ s.unitNames ∨ n ∈ store.records.map Record.unitName := by
  have hrecord : ∀ {path r}, store.get? path = some r →
      r.unitName ∈ store.records.map Record.unitName :=
    fun hr => List.mem_map_of_mem (Store.mem_records_of_get? hr)
  have hnot : (∀ e, x ≠ .tell e) ∧ ∀ e, x ≠ .fail e := by
    constructor <;> rintro e rfl <;> cases hn
  rcases of_mem_plan hnot.1 hnot.2 hx with ⟨d, -, r, hv, rfl⟩ | ⟨d, -, key, r, hv, -, rfl⟩ |
    ⟨y, hy, u, hu, rfl⟩ | ⟨r, hr, rfl | ⟨-, rfl⟩⟩
  · obtain rfl := Option.some.inj hn
    obtain ⟨-, -, hr, -⟩ := verdict_eq_current_iff.mp hv
    exact .inr (hrecord hr)
  · obtain rfl := Option.some.inj hn
    exact .inr (hrecord (verdict_eq_stale_iff.mp hv).2.1)
  · obtain rfl : u.name = n := Option.some.inj hn
    rw [name_of_unit hu]
    exact .inl (List.mem_map_of_mem (mem_stale_iff.mp hy).1)
  · cases hn
  · obtain rfl := Option.some.inj hn
    exact .inr (List.mem_map_of_mem (mem_gone_iff.mp hr).2.1)

/-- What holds of the names of documents and records holds of all names that a plan works with. -/
theorem forall_name_of_mem_plan {P : String → Prop}
    (hdocuments : ∀ d ∈ s.documents, P (s.unitName d))
    (hrecords : ∀ r ∈ store.records, P r.unitName) {x : Step} (hx : x ∈ (s.plan store time).steps) :
    ∀ n, x.name? = some n → P n := by
  intro n hn
  rcases of_name?_mem_plan hx hn with hmem | hmem
  · exact List.forall_mem_map.mpr hdocuments n hmem
  · exact List.forall_mem_map.mpr hrecords n hmem

/-- All names that a plan works with are plain, if those in the store are. -/
theorem plain_of_mem_plan (hplain : ∀ r ∈ store.records, PlainName r.unitName) {x : Step}
    (hx : x ∈ (s.plan store time).steps) : x.Plain :=
  Step.plain_iff.mpr
    (forall_name_of_mem_plan (fun d _ => plainName_unitName s d) hplain hx)

/-- **A plan fails only because of** a document without a key, a document without a unit, or a location
that cannot be looked at any more. -/
theorem of_fail_mem_plan {e : BuildError} (h : .fail e ∈ (s.plan store time).steps) :
    (∃ d ∈ s.documents, s.key d = .error e) ∨ (∃ d ∈ s.documents, s.unit d = .error e) ∨
      ∃ f, s.sweeps = .error f ∧ e = .file f := by
  have hnot : ∀ x, .fail e ≠ Step.tell x := fun _ h => by cases h
  rcases (mem_steps hnot).mp h with ⟨d, hd, h⟩ | h | h
  · rcases (mem_lookSteps hnot).mp h with ⟨f, hv, h⟩ | ⟨r, -, h⟩ | ⟨key, r, -, -, h⟩
    · rw [Step.fail.inj h]
      exact .inl ⟨d, hd, verdict_eq_failing_iff.mp hv⟩
    · cases h
    · cases h
  · rw [generateSteps] at h
    split at h
    · next f hunits =>
      obtain ⟨y, hy, hunit⟩ := exists_of_mapM_eq_error hunits
      rw [Step.fail.inj (List.mem_singleton.mp h)]
      exact .inr (.inl ⟨y.document, (mem_stale_iff.mp hy).1, map_eq_error_iff.mp hunit⟩)
    · obtain ⟨z, -, hz⟩ := List.mem_flatMap.mp h
      rw [keepSteps] at hz
      rcases List.mem_cons.mp hz with hz | hz
      · cases hz
      · exact absurd (List.mem_singleton.mp hz) (hnot _)
  · rcases mem_sweepSteps.mp h with ⟨f, hf, h⟩ | ⟨r, -, h⟩
    · exact .inr (.inr ⟨f, hf, Step.fail.inj h⟩)
    · rcases (mem_forgetSteps hnot).mp h with h | ⟨-, h⟩ <;> cases h

/-- A plan does not fail if all documents have keys and units. -/
theorem fail_notMem_plan (hkeys : ∀ d ∈ s.documents, ∃ key, s.key d = .ok key)
    (hunits : ∀ d ∈ s.documents, ∃ u, s.unit d = .ok u) (hsweeps : ∃ b, s.sweeps = .ok b)
    (e : BuildError) : .fail e ∉ (s.plan store time).steps := by
  intro h
  rcases of_fail_mem_plan h with ⟨d, hd, hkey⟩ | ⟨d, hd, hunit⟩ | ⟨f, hf, -⟩
  · obtain ⟨key, hok⟩ := hkeys d hd
    rw [hok] at hkey
    cases hkey
  · obtain ⟨u, hok⟩ := hunits d hd
    rw [hok] at hunit
    cases hunit
  · obtain ⟨b, hok⟩ := hsweeps
    rw [hok] at hf
    cases hf

section

variable (hfail : ∀ e, .fail e ∉ (s.plan store time).steps)

include hfail

theorem restore_mem_plan {text : String} : .restore n text ∈ (s.plan store time).steps ↔
    ∃ d ∈ s.documents, ∃ r, s.verdict store d = .current r ∧ r.unitName = n ∧ r.text = text := by
  rw [mem_plan hfail fun _ h => by cases h]
  simp [eq_comm]

theorem discard_mem_plan : .discard n ∈ (s.plan store time).steps ↔
    n ∉ s.unitNames ∧ ∃ r, s.GivesUp store r ∧ r.unitName = n := by
  rw [mem_plan hfail fun _ h => by cases h]
  constructor
  · rintro (⟨d, -, r, -, h⟩ | ⟨d, hd, key, r, hv, hr, h⟩ | ⟨y, -, u, -, h⟩ | ⟨r, hr, h | ⟨hn, h⟩⟩)
    · cases h
    · obtain rfl := Step.discard.inj h
      exact ⟨hr, r, .inr ⟨d, hd, key, hv⟩, rfl⟩
    · cases h
    · cases h
    · obtain rfl := Step.discard.inj h
      exact ⟨hn, r, .inl hr, rfl⟩
  · rintro ⟨hn, r, hr | ⟨d, hd, key, hv⟩, rfl⟩
    · exact .inr (.inr (.inr ⟨r, hr, .inr ⟨hn, rfl⟩⟩))
    · exact .inr (.inl ⟨d, hd, key, r, hv, hn, rfl⟩)

theorem forget_mem_plan {path : String} : .forget path ∈ (s.plan store time).steps ↔
    ∃ r ∈ s.gone store, r.path = path := by
  rw [mem_plan hfail fun _ h => by cases h]
  simp [eq_comm]

/-- The record that a plan keeps for a document. -/
theorem keep_mem_plan : .keep r ∈ (s.plan store time).steps ↔ ∃ d ∈ s.documents, ∃ key old u,
    s.verdict store d = .stale key old ∧ s.unit d = .ok u ∧
      r = Record.ofUnit d.path key s.mode.name u time := by
  rw [mem_plan hfail fun _ h => by cases h]
  constructor
  · rintro (⟨d, -, r, -, h⟩ | ⟨d, -, key, r, -, -, h⟩ | ⟨y, hy, u, hu, h⟩ | ⟨r, -, h | ⟨-, h⟩⟩)
    · cases h
    · cases h
    · obtain ⟨hd, old, hv, -⟩ := mem_stale_iff.mp hy
      exact ⟨y.document, hd, y.key, old, u, hv, hu, Step.keep.inj h⟩
    · cases h
    · cases h
  · rintro ⟨d, hd, key, old, u, hv, hu, rfl⟩
    exact .inr (.inr (.inl ⟨⟨d, key, _⟩, mem_stale_iff.mpr ⟨hd, old, hv, rfl⟩, u, hu, rfl⟩))

/-- Every document is left alone or generated anew. -/
theorem current_or_renews (hd : d ∈ s.documents) :
    (∃ r, s.verdict store d = .current r) ∨ s.Renews store d := by
  cases hv : s.verdict store d with
  | current r => exact .inl ⟨r, rfl⟩
  | stale key old => exact .inr ⟨hd, key, old, hv⟩
  | failing e =>
    refine absurd ((mem_steps fun _ h => by cases h).mpr (.inl ⟨d, hd, ?_⟩)) (hfail e)
    rw [hv, lookSteps]
    exact List.mem_cons_self

/-- The location can be looked at to the end. -/
theorem exists_sweeps_of_plan : ∃ b, s.sweeps = .ok b := by
  cases hsweeps : s.sweeps with
  | ok b => exact ⟨b, rfl⟩
  | error f =>
    exact absurd ((mem_steps fun _ h => by cases h).mpr
      (.inr (.inr (mem_sweepSteps.mpr (.inl ⟨f, hsweeps, rfl⟩))))) (hfail (.file f))

/-- Every document that is generated anew has a unit. -/
theorem exists_unit_of_plan (hd : s.Renews store d) : ∃ u, s.unit d = .ok u := by
  obtain ⟨hmem, key, old, hv⟩ := hd
  have hgen : ∀ e, .fail e ∉ s.generateSteps time (s.stale store) :=
    fun e he => hfail e ((mem_steps fun _ h => by cases h).mpr (.inr (.inl he)))
  have hstale : ⟨d, key, if old.isSome then .updated else .created⟩ ∈ s.stale store :=
    mem_stale_iff.mpr ⟨hmem, old, hv, rfl⟩
  obtain ⟨u, hu, -⟩ := keep_mem_generateSteps hgen hstale
  exact ⟨u, hu⟩

end

end

/-! ### Reports -/

theorem mem_current_iff : d ∈ s.current store ↔
    d ∈ s.documents ∧ ∃ r, s.verdict store d = .current r := by
  rw [current, List.mem_filter]
  cases s.verdict store d <;> simp

/-- **Updated is what has a record that was made from another key.** -/
theorem updated_mem_report_iff : (.updated, n) ∈ (s.report store).changes ↔
    ∃ d ∈ s.documents, s.unitName d = n ∧ ∃ key r, s.verdict store d = .stale key (some r) := by
  rw [report]
  dsimp only
  rw [List.mem_append]
  constructor
  · rintro (h | h)
    · obtain ⟨x, hx, heq⟩ := List.mem_map.mp h
      obtain ⟨hstatus, rfl⟩ := Prod.mk.inj heq
      obtain ⟨hd, old, hv, hold⟩ := mem_stale_iff.mp hx
      cases old with
      | none => rw [hold] at hstatus; cases hstatus
      | some r => exact ⟨x.document, hd, rfl, x.key, r, hv⟩
    · obtain ⟨r, -, heq⟩ := List.mem_map.mp h
      cases (Prod.mk.inj heq).1
  · rintro ⟨d, hd, rfl, key, r, hv⟩
    exact .inl (List.mem_map.mpr ⟨⟨d, key, .updated⟩, mem_stale_iff.mpr ⟨hd, some r, hv, rfl⟩, rfl⟩)

/-! ### Nothing to do -/

/-- Every document is left alone, and none is gone. -/
structure Settled (s : Survey) (store : Store) : Prop where
  current : ∀ d ∈ s.documents, ∃ r, s.verdict store d = .current r
  gone : s.gone store = []

private theorem Settled.stale_eq_nil (h : s.Settled store) : s.stale store = [] := by
  refine List.eq_nil_iff_forall_not_mem.mpr fun x hx => ?_
  obtain ⟨hd, old, hv, -⟩ := mem_stale_iff.mp hx
  obtain ⟨r, hr⟩ := h.current x.document hd
  exact not_renews_of_current hr ⟨hd, x.key, old, hv⟩

/-- Where everything is settled, there is nothing to report. -/
theorem Settled.report_eq (h : s.Settled store) :
    s.report store = ⟨0, 0, s.documents.length, 0, []⟩ := by
  have hall : s.current store = s.documents :=
    List.filter_eq_self.mpr fun d hd => by
      obtain ⟨r, hr⟩ := h.current d hd
      rw [hr]
  rw [report, h.stale_eq_nil, h.gone, hall]
  rfl

/-- Then the steps only look whether units are there. -/
theorem Settled.of_mem_plan [SetOrder] (h : s.Settled store) (hsweeps : ∃ b, s.sweeps = .ok b)
    {x : Step} (hx : x ∈ (s.plan store time).steps) : (∃ e, x = .tell e) ∨
      ∃ d ∈ s.documents, ∃ r, s.verdict store d = .current r ∧ x = .restore r.unitName r.text := by
  by_cases htell : ∃ e, x = .tell e
  · exact .inl htell
  · have hnot : ∀ e, x ≠ .tell e := fun e he => htell ⟨e, he⟩
    obtain ⟨b, hb⟩ := hsweeps
    rcases (mem_steps hnot).mp hx with ⟨d, hd, hlook⟩ | hgen | hsweep
    · obtain ⟨r, hr⟩ := h.current d hd
      rw [hr, lookSteps] at hlook
      rcases List.mem_cons.mp hlook with hlook | hlook
      · exact .inr ⟨d, hd, r, hr, hlook⟩
      · exact absurd (List.mem_singleton.mp hlook) (hnot _)
    · rw [h.stale_eq_nil] at hgen
      exact absurd hgen List.not_mem_nil
    · rw [sweepSteps, hb] at hsweep
      dsimp only at hsweep
      rw [h.gone] at hsweep
      exact absurd hsweep List.not_mem_nil

/-! ### What is left behind -/

/-- What a build that succeeds has made of files and records: the output directory is made, and the
steps of the plan are taken. -/
structure Carried [SetOrder] (s : Survey) (time : Option Moment) (out : Place)
    (files files' : FileTree) (store store' : Store) : Prop where
  wellFormed : files'.WellFormed
  directory : ∀ q, files.entry? q = some .directory → files'.entry? q = some .directory
  noFail : ∀ e, .fail e ∉ (s.plan store time).steps
  entry? : ∃ made, files.Grows made ∧ ∀ q, files'.entry? q =
    (s.plan store time).steps.foldl (Step.onEntry out q) (made.entry? q)
  get? : ∀ path, store'.get? path =
    (s.plan store time).steps.foldl (Step.onRecord path) (store.get? path)

section

variable [SetOrder] {t : FileTree} {root out : Place} {files files' : FileTree} {store' : Store}

/-- **What is generated anew is written.** -/
theorem Carried.written (hc : s.Carried time out files files' store store') (h : s.Found t root)
    (hd : s.Renews store d) : ∃ u, s.unit d = .ok u ∧
      files'.entry? (out ++ [s.unitName d]) = some (Step.fileOf u.text) := by
  obtain ⟨u, hu⟩ := exists_unit_of_plan hc.noFail hd
  obtain ⟨hmem, key, old, hv⟩ := hd
  obtain ⟨made, -, hentry⟩ := hc.entry?
  refine ⟨u, hu, ?_⟩
  rw [hentry]
  refine Step.onEntry_written ?_ ?_ (.inr ⟨_, (keep_mem_plan hc.noFail).mpr
    ⟨d, hmem, key, old, u, hv, hu, rfl⟩, name_of_unit hu⟩)
  · intro hdiscard
    exact ((discard_mem_plan hc.noFail).mp hdiscard).1 (List.mem_map_of_mem hmem)
  · -- units of one name are units of one document
    intro r hr hname
    obtain ⟨e, he, k, o, v, -, hv, hrecord⟩ := (keep_mem_plan hc.noFail).mp hr
    have hrname : r.unitName = v.name := by rw [hrecord]; rfl
    have hed : e = d :=
      h.eq_of_unitName he hmem ((name_of_unit hv).symm.trans (hrname.symm.trans hname))
    rw [hed, hu] at hv
    rw [hrecord, Except.ok.inj hv]
    rfl

/-- **A file stays** if no unit of its name is generated anew and none is given up. -/
theorem Carried.untouched (hc : s.Carried time out files files' store store')
    (hrenews : ∀ d, s.Renews store d → s.unitName d ≠ n)
    (hgives : n ∉ s.unitNames → ∀ r, s.GivesUp store r → r.unitName ≠ n) {bytes : List UInt8}
    (hfile : files.entry? (out ++ [n]) = some (.file bytes)) :
    files'.entry? (out ++ [n]) = some (.file bytes) := by
  obtain ⟨made, hgrows, hentry⟩ := hc.entry?
  rw [hentry]
  refine Step.onEntry_written ?_ ?_ (.inl (hgrows.file_iff.mpr hfile))
  · intro hdiscard
    obtain ⟨hn, r, hr, hname⟩ := (discard_mem_plan hc.noFail).mp hdiscard
    exact hgives hn r hr hname
  · intro r hr hname
    obtain ⟨d, hd, key, old, u, hv, hu, rfl⟩ := (keep_mem_plan hc.noFail).mp hr
    exact absurd ((name_of_unit hu).symm.trans hname) (hrenews d ⟨hd, key, old, hv⟩)

/-- Under a name that nothing is written under, there is at most what was there before, and
**nothing if a unit of the name is given up.** -/
theorem Carried.unwritten (hc : s.Carried time out files files' store store')
    (hn : n ∉ s.unitNames)
    (hcurrent : ∀ d ∈ s.documents, ∀ r, s.verdict store d = .current r → r.unitName ≠ n) :
    (∀ bytes, files'.entry? (out ++ [n]) = some (.file bytes) →
      files.entry? (out ++ [n]) = some (.file bytes)) ∧
      ((∃ r, s.GivesUp store r ∧ r.unitName = n) → files'.entry? (out ++ [n]) = none) := by
  obtain ⟨made, hgrows, hentry⟩ := hc.entry?
  have hfold : (s.plan store time).steps.foldl (Step.onEntry out (out ++ [n]))
      (made.entry? (out ++ [n])) = if .discard n ∈ (s.plan store time).steps then none
      else made.entry? (out ++ [n]) := Step.onEntry_unwritten ?_ ?_
  · rw [hentry, hfold]
    refine ⟨fun bytes hbytes => ?_, fun hgives => ?_⟩
    · split at hbytes
      · cases hbytes
      · exact hgrows.file_iff.mp hbytes
    · exact if_pos ((discard_mem_plan hc.noFail).mpr ⟨hn, hgives⟩)
  · intro text hrestore
    obtain ⟨d, hd, r, hv, hname, -⟩ := (restore_mem_plan hc.noFail).mp hrestore
    exact hcurrent d hd r hv hname
  · intro r hr hname
    obtain ⟨d, hd, k, o, u, -, hu, rfl⟩ := (keep_mem_plan hc.noFail).mp hr
    have hdn : s.unitName d = n := (name_of_unit hu).symm.trans hname
    exact hn (hdn ▸ List.mem_map_of_mem hd)

/-- **What is left alone is there afterwards**: restored if it was missing, or else as it was, if no
other unit has its name. -/
theorem Carried.restored (hc : s.Carried time out files files' store store')
    (hd : d ∈ s.documents) (hv : s.verdict store d = .current r) (hn : r.unitName ∈ s.unitNames)
    (hrenews : ∀ e, s.Renews store e → s.unitName e ≠ r.unitName)
    (hcurrent : ∀ e ∈ s.documents, ∀ x, s.verdict store e = .current x →
      x.unitName = r.unitName → x = r) :
    files'.entry? (out ++ [r.unitName]) = some (Step.fileOf r.text) ∨
      files'.entry? (out ++ [r.unitName]) = some .directory ∨
      ∃ bytes, files.entry? (out ++ [r.unitName]) = some (.file bytes) ∧
        files'.entry? (out ++ [r.unitName]) = some (.file bytes) := by
  obtain ⟨made, hgrows, hentry⟩ := hc.entry?
  have hrestore := (restore_mem_plan hc.noFail).mpr ⟨d, hd, r, hv, rfl, rfl⟩
  have hfold : files'.entry? (out ++ [r.unitName]) =
      (made.entry? (out ++ [r.unitName])).or (some (Step.fileOf r.text)) := by
    rw [hentry, Step.onEntry_restored ?_ ?_ ?_, if_pos hrestore]
    · intro hdiscard
      exact ((discard_mem_plan hc.noFail).mp hdiscard).1 hn
    · intro x hx hname
      obtain ⟨e, he, key, old, u, hstale, hu, rfl⟩ := (keep_mem_plan hc.noFail).mp hx
      exact hrenews e ⟨he, key, old, hstale⟩ ((name_of_unit hu).symm.trans hname)
    · intro text htext
      obtain ⟨e, he, x, hx, hname, rfl⟩ := (restore_mem_plan hc.noFail).mp htext
      rw [hcurrent e he x hx hname]
  rw [hfold]
  cases hbefore : made.entry? (out ++ [r.unitName]) with
  | none => exact .inl rfl
  | some f =>
    cases f with
    | directory => exact .inr (.inl rfl)
    | file bytes => exact .inr (.inr ⟨bytes, hgrows.file_iff.mp hbefore, rfl⟩)

/-- Nothing changes but directly in the output directory. -/
theorem Carried.elsewhere (hc : s.Carried time out files files' store store') {q : Place}
    (hq : ∀ n, q ≠ out ++ [n]) {bytes : List UInt8} :
    files'.entry? q = some (.file bytes) ↔ files.entry? q = some (.file bytes) := by
  obtain ⟨made, hgrows, hentry⟩ := hc.entry?
  rw [hentry, Step.onEntry_elsewhere hq]
  exact hgrows.file_iff

/-- **What is generated anew is recorded.** -/
theorem Carried.stored (hc : s.Carried time out files files' store store') (h : s.Found t root)
    (hd : s.Renews store d) : ∃ key u, s.key d = .ok key ∧ s.unit d = .ok u ∧
      store'.get? d.path = some (Record.ofUnit d.path key s.mode.name u time) := by
  obtain ⟨u, hu⟩ := exists_unit_of_plan hc.noFail hd
  obtain ⟨hmem, key, old, hv⟩ := hd
  obtain ⟨hkey, hold, hne⟩ := verdict_eq_stale_iff.mp hv
  refine ⟨key, u, hkey, hu, ?_⟩
  rw [hc.get?]
  refine Step.onRecord_stored (x := Record.ofUnit d.path key s.mode.name u time) ?_ ?_ ?_
    (.inr ((keep_mem_plan hc.noFail).mpr ⟨d, hmem, key, old, u, hv, hu, rfl⟩))
  · -- records of one path are records of one document
    intro y hy hpath
    obtain ⟨e, he, k, o, v, hk, hv, hrecord⟩ := (keep_mem_plan hc.noFail).mp hy
    have hypath : y.path = e.path := by rw [hrecord]; rfl
    have hed : e = d := h.eq_of_path he hmem (hypath.symm.trans hpath)
    have hkey' := (verdict_eq_stale_iff.mp hk).1
    rw [hed, hkey] at hkey'
    rw [hed, hu] at hv
    rw [hrecord, hed, Except.ok.inj hv, Except.ok.inj hkey']
  · intro hforget
    obtain ⟨r, hr, hpath⟩ := (forget_mem_plan hc.noFail).mp hforget
    exact (mem_gone_iff.mp hr).2.2.1 (hpath ▸ List.mem_map_of_mem hmem)
  · rw [hold]
    cases old with
    | none => rfl
    | some r => exact if_neg fun hkeys => hne r rfl (beq_iff_eq.mp hkeys)

/-- **The record of a document that is gone is forgotten.** -/
theorem Carried.forgotten (hc : s.Carried time out files files' store store')
    (hr : r ∈ s.gone store) : store'.get? r.path = none := by
  rw [hc.get?]
  refine Step.onRecord_forgotten ?_ (.inr ((forget_mem_plan hc.noFail).mpr ⟨r, hr, rfl⟩))
  intro x hx hpath
  obtain ⟨d, hd, k, o, u, -, -, hrecord⟩ := (keep_mem_plan hc.noFail).mp hx
  have hdpath : d.path = r.path := by
    rw [← hpath, hrecord]
    rfl
  exact (mem_gone_iff.mp hr).2.2.1 (hdpath ▸ List.mem_map_of_mem hd)

/-- **All other records are remembered.** -/
theorem Carried.remembered (hc : s.Carried time out files files' store store') {path : String}
    (hrenews : ∀ d, s.Renews store d → d.path ≠ path)
    (hgone : ∀ r ∈ s.gone store, r.path ≠ path) : store'.get? path = store.get? path := by
  rw [hc.get?]
  refine Step.onRecord_kept ?_ ?_
  · intro x hx
    obtain ⟨d, hd, key, old, u, hv, -, rfl⟩ := (keep_mem_plan hc.noFail).mp hx
    exact hrenews d ⟨hd, key, old, hv⟩
  · intro hforget
    obtain ⟨r, hr, hpath⟩ := (forget_mem_plan hc.noFail).mp hforget
    exact hgone r hr hpath

/-- **The record of a document that is left alone is remembered.** -/
theorem Carried.get?_of_current (hc : s.Carried time out files files' store store')
    (h : s.Found t root) (hd : d ∈ s.documents) (hv : s.verdict store d = .current r) :
    store'.get? d.path = some r := by
  obtain ⟨-, -, hr, -⟩ := verdict_eq_current_iff.mp hv
  rw [hc.remembered, hr]
  · exact fun e he hpath => not_renews_of_current hv (h.eq_of_path he.1 hd hpath ▸ he)
  · intro x hx hpath
    exact (mem_gone_iff.mp hx).2.2.1 (hpath ▸ List.mem_map_of_mem hd)

/-- **Every document has a record made from its key**, whether it was left alone or not. -/
theorem Carried.key_of_record (hc : s.Carried time out files files' store store')
    (h : s.Found t root) (hd : d ∈ s.documents) : ∃ key r, s.key d = .ok key ∧
      store'.get? d.path = some r ∧ r.cacheKey = key := by
  rcases current_or_renews hc.noFail hd with ⟨r, hv⟩ | hrenews
  · obtain ⟨key, hkey, -, hrkey⟩ := verdict_eq_current_iff.mp hv
    exact ⟨key, r, hkey, hc.get?_of_current h hd hv, hrkey⟩
  · obtain ⟨key, u, hkey, -, hr⟩ := hc.stored h hrenews
    exact ⟨key, _, hkey, hr, rfl⟩

/-- **A record is removed if and only if its document is gone.** -/
theorem Carried.get?_eq_none_iff (hc : s.Carried time out files files' store store')
    (h : s.Found t root) (hr : r ∈ store.records) :
    store'.get? r.path = none ↔ r ∈ s.gone store := by
  refine ⟨fun hnone => ?_, hc.forgotten⟩
  by_contra hkept
  by_cases hrenews : ∃ d, s.Renews store d ∧ d.path = r.path
  · obtain ⟨d, hd, hdpath⟩ := hrenews
    obtain ⟨key, u, -, -, hget⟩ := hc.stored h hd
    rw [hdpath, hnone] at hget
    cases hget
  · rw [hc.remembered, Store.mem_records_iff.mp hr] at hnone
    · cases hnone
    · exact fun d hd hdpath => hrenews ⟨d, hd, hdpath⟩
    · intro x hx hxpath
      have hxr := Store.mem_records_iff.mp (mem_gone_iff.mp hx).2.1
      rw [hxpath, Store.mem_records_iff.mp hr] at hxr
      exact hkept (Option.some.inj hxr ▸ hx)

end

end Survey

namespace Build

variable [SetOrder] {settings : Settings} {working : Place} {l : Location} {time : Option Moment}
  {files : FileTree} {store : Store} {report : Report}

theorem run_eq_follow {s : Survey} {made : FileTree}
    (hs : Survey.take files working l settings = .ok s)
    (hmade : files.makeDirectory working (.parse settings.outputDirectory) = .ok made) :
    run settings working l time files store =
      follow s working (.parse settings.outputDirectory) time made store := by
  rw [run, hs]
  dsimp only
  rw [hmade]

/-- **What a build comes to**: it ends before it has changed anything, or it takes the steps of its
plan, all of them or those up to one that fails. -/
theorem run_cases (settings : Settings) (working : Place) (l : Location) (time : Option Moment)
    (files : FileTree) (store : Store) :
    (∃ e, (∀ s, Survey.take files working l settings = .ok s → ∃ f, e = .file f) ∧
        run settings working l time files store = ⟨files, store, [], .error e⟩) ∨
      ∃ s made p, Survey.take files working l settings = .ok s ∧
        files.makeDirectory working (.parse settings.outputDirectory) = .ok made ∧
        (Step.runAll working (.parse settings.outputDirectory) ⟨made, store, []⟩
            (s.plan store time).steps = (p, .ok ()) ∧
          run settings working l time files store =
            ⟨p.files, p.store, p.log, .ok (s.plan store time).report⟩ ∨
        ∃ e, Step.runAll working (.parse settings.outputDirectory) ⟨made, store, []⟩
            (s.plan store time).steps = (p, .error e) ∧
          run settings working l time files store = ⟨p.files, store, p.log, .error e⟩) := by
  cases hs : Survey.take files working l settings with
  | error e => exact .inl ⟨e, nofun, by rw [run, hs]⟩
  | ok s =>
    cases hmade : files.makeDirectory working (.parse settings.outputDirectory) with
    | error f =>
      refine .inl ⟨.file f, fun _ _ => ⟨f, rfl⟩, ?_⟩
      rw [run, hs]
      dsimp only
      rw [hmade]
    | ok made =>
      refine .inr ⟨s, made, ?_⟩
      rw [run_eq_follow hs hmade, follow]
      cases Step.runAll working (.parse settings.outputDirectory) ⟨made, store, []⟩
          (s.plan store time).steps with
      | mk p result =>
        cases result with
        | ok _ => exact ⟨p, rfl, rfl, .inl ⟨rfl, rfl⟩⟩
        | error e => exact ⟨p, rfl, rfl, .inr ⟨e, rfl, rfl⟩⟩

/-- A build that succeeds takes the steps of its plan once the output directory is made. -/
theorem exists_runAll_of_run (h : (run settings working l time files store).result = .ok report) :
    ∃ s made, Survey.take files working l settings = .ok s ∧
      files.makeDirectory working (.parse settings.outputDirectory) = .ok made ∧
      (Step.runAll working (.parse settings.outputDirectory) ⟨made, store, []⟩
        (s.plan store time).steps).2 = .ok () ∧
      (run settings working l time files store).files = (Step.runAll working
        (.parse settings.outputDirectory) ⟨made, store, []⟩ (s.plan store time).steps).1.files ∧
      (run settings working l time files store).store = (Step.runAll working
        (.parse settings.outputDirectory) ⟨made, store, []⟩ (s.plan store time).steps).1.store := by
  rcases run_cases settings working l time files store with ⟨e, -, hrun⟩ |
    ⟨s, made, p, hs, hmade, ⟨hsteps, hrun⟩ | ⟨e, -, hrun⟩⟩
  · rw [hrun] at h
    cases h
  · exact ⟨s, made, hs, hmade, by rw [hsteps], by rw [hrun, hsteps], by rw [hrun, hsteps]⟩
  · rw [hrun] at h
    cases h

/-- A build that fails although it has found what there is to build cannot make the output directory,
or has taken the steps of its plan up to one that fails. -/
theorem exists_step_of_error {e : BuildError} {s : Survey}
    (hs : Survey.take files working l settings = .ok s)
    (h : (run settings working l time files store).result = .error e) :
    (∃ f, e = .file f ∧ (run settings working l time files store).files = files) ∨
      ∃ made taken step rest p,
        files.makeDirectory working (.parse settings.outputDirectory) = .ok made ∧
        (s.plan store time).steps = taken ++ step :: rest ∧
        Step.runAll working (.parse settings.outputDirectory) ⟨made, store, []⟩ taken =
          (p, .ok ()) ∧
        Step.run working (.parse settings.outputDirectory) p step = .error e ∧
        (run settings working l time files store).files = p.files := by
  rcases run_cases settings working l time files store with ⟨e', hfile, hrun⟩ |
    ⟨s', made, p, hs', hmade, ⟨-, hrun⟩ | ⟨e', hsteps, hrun⟩⟩
  · rw [hrun] at h ⊢
    obtain ⟨f, rfl⟩ := hfile s hs
    exact .inl ⟨f, (Except.error.inj h).symm, rfl⟩
  · rw [hrun] at h
    cases h
  · rw [hrun] at h ⊢
    obtain rfl : s' = s := Except.ok.inj (hs'.symm.trans hs)
    obtain rfl : e' = e := Except.error.inj h
    obtain ⟨taken, step, rest, hsplit, htaken, hstep⟩ :=
      Step.exists_of_runAll_error (congrArg Prod.snd hsteps)
    rw [hsteps] at htaken hstep
    exact .inr ⟨made, taken, step, rest, p, hmade, hsplit, htaken, hstep, rfl⟩

/-- A build that fails has begun nothing, or has taken the steps of its plan up to one that fails. -/
theorem exists_runAll_of_error {e : BuildError}
    (h : (run settings working l time files store).result = .error e) :
    (run settings working l time files store).files = files ∨
      ∃ s made taken step rest p, Survey.take files working l settings = .ok s ∧
        files.makeDirectory working (.parse settings.outputDirectory) = .ok made ∧
        (s.plan store time).steps = taken ++ step :: rest ∧
        Step.runAll working (.parse settings.outputDirectory) ⟨made, store, []⟩ taken =
          (p, .ok ()) ∧
        Step.run working (.parse settings.outputDirectory) p step = .error e ∧
        (run settings working l time files store).files = p.files := by
  rcases run_cases settings working l time files store with ⟨e, -, hrun⟩ | ⟨s, -, -, hs, -, -⟩
  · exact .inl (by rw [hrun])
  · rcases exists_step_of_error hs h with ⟨-, -, hfiles⟩ | ⟨made, taken, step, rest, p, hstep⟩
    · exact .inl hfiles
    · exact .inr ⟨s, made, taken, step, rest, p, hs, hstep⟩

/-- A build that fails leaves the records as they were. -/
theorem store_of_error {e : BuildError}
    (h : (run settings working l time files store).result = .error e) :
    (run settings working l time files store).store = store := by
  rcases run_cases settings working l time files store with ⟨e, -, hrun⟩ |
    ⟨s, made, p, -, -, ⟨-, hrun⟩ | ⟨e, -, hrun⟩⟩
  · rw [hrun]
  · rw [hrun] at h
    cases h
  · rw [hrun]

/-- **A build that succeeds has taken all steps of its plan.** -/
theorem carried_of_run (hfiles : files.WellFormed)
    (hworking : files.entry? working = some .directory)
    (hplain : ∀ r ∈ store.records, PlainName r.unitName)
    (h : (run settings working l time files store).result = .ok report) :
    ∃ s, Survey.take files working l settings = .ok s ∧
      s.Carried time ((Location.parse settings.outputDirectory).place working) files
        (run settings working l time files store).files store
        (run settings working l time files store).store := by
  obtain ⟨s, made, hs, hmade, hok, hfiles', hstore'⟩ := exists_runAll_of_run h
  obtain ⟨hready, hgrows⟩ := FileTree.ready_of_makeDirectory hfiles hworking hmade
  have hfail := Step.fail_notMem hok
  obtain ⟨hkeeps, hentry, hrecord⟩ := Step.runAll_spec hready
    (fun x hx => Survey.plain_of_mem_plan hplain hx) hok
  rw [← hfiles'] at hkeeps hentry
  rw [← hstore'] at hrecord
  exact ⟨s, hs, hkeeps.ready.wellFormed, fun q hq => hkeeps.directory q (hgrows.directory hq),
    hfail, ⟨made, hgrows, hentry⟩, hrecord⟩

end Build

end Pageworks
