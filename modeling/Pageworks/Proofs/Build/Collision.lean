import Pageworks.Proofs.Build.Frame

/-!
# Builds whose documents collide

Two documents that generate the same file cannot both be built.  A build looks for such documents
as soon as it has read its sources and before it makes the output directory, so a build that finds
them has changed nothing.

## Main definitions

* `Survey.Reads` — the sources of a build can be read, and its settings fit them.

## Main results

* `Survey.Reads.take_of_collision`, `Survey.Reads.take_of_none` — a survey of sources that can be read
  fails if and only if two of its documents collide.
* `Build.collision_iff` — **collisions are found exactly, and before anything is changed.**
-/

namespace Pageworks

/-! ### Surveys of sources that can be read -/

namespace Survey

section

variable {t : FileTree} {working : Place} {l : Location} {settings : Settings}
  {config : ProjectConfig} {documents : List Document} {c : Collision}

/-- The sources of a build can be read: its location can be looked at, the settings describe a project
and name a dialect, and neither import files nor documents fail to load. -/
structure Reads (t : FileTree) (working : Place) (l : Location) (settings : Settings)
    (config : ProjectConfig) (documents : List Document) : Prop where
  renderer : (Renderer.ofPreset? settings.preset).isSome
  documents : Sources.documents t working l = .ok documents
  project : ∃ isWhole imports, Sources.isDirectory t working l = .ok isWhole ∧
    settings.projectConfig working (some (if isWhole then l else l.parent)) = .ok config ∧
    Sources.imports t working
      (importBase config (Path.slashed ((if isWhole then l else l.parent).place working).text)
        (if isWhole then l else l.parent)) settings.importsFile = .ok imports

/-- A survey whose documents collide fails. -/
theorem Reads.take_of_collision (h : Reads t working l settings config documents)
    (hc : collision? config.projectRoot documents = some c) :
    take t working l settings = .error (.collision c) := by
  obtain ⟨hrender, hdocuments, isWhole, imports, hdir, hconfig, himports⟩ := h
  obtain ⟨render, hrender⟩ := Option.isSome_iff_exists.mp hrender
  simp only [take, hdir, hconfig, hrender, himports, hdocuments, hc, Except.mapError, bind,
    Except.bind]
  rfl

/-- Nothing else fails the survey of sources that can be read. -/
theorem Reads.take_of_none (h : Reads t working l settings config documents)
    (hnone : collision? config.projectRoot documents = none) : ∃ s,
      take t working l settings = .ok s ∧ s.config = config ∧ s.documents = documents := by
  obtain ⟨hrender, hdocuments, isWhole, imports, hdir, hconfig, himports⟩ := h
  obtain ⟨render, hrender⟩ := Option.isSome_iff_exists.mp hrender
  refine ⟨⟨config, settings.mode, settings.preset, render, _, isWhole, imports, documents, _⟩,
    take_eq_ok_iff.mpr ⟨hdir, hconfig, hrender, rfl, himports, hdocuments, hnone, rfl, rfl, rfl⟩,
    rfl, rfl⟩

end

end Survey

/-! ### Builds -/

namespace Build

variable {settings : Settings} {working : Place} {l : Location} {time : Option Moment}
  {files : FileTree} {store : Store}

/-- A build that has found what there is to build fails for other reasons. -/
theorem result_ne_collision [SetOrder] {s : Survey}
    (hs : Survey.take files working l settings = .ok s) (c : Collision) :
    (run settings working l time files store).result ≠ .error (.collision c) := by
  intro h
  rcases exists_step_of_error hs h with ⟨f, hf, -⟩ | ⟨made, taken, step, rest, p, -, hsteps, -,
    hstep, -⟩
  · cases hf
  · rcases Step.of_run_eq_error hstep with ⟨f, hf⟩ | rfl
    · cases hf
    · have hmem : .fail (.collision c) ∈ (s.plan store time).steps := by
        rw [hsteps]
        exact List.mem_append_right _ List.mem_cons_self
      rcases Survey.of_fail_mem_plan hmem with ⟨d, -, hkey⟩ | ⟨d, -, hunit⟩ | ⟨f, -, hf⟩
      · rw [Survey.key] at hkey
        split at hkey <;> cases hkey
      · obtain ⟨g, -, hg⟩ := mapError_eq_error_iff.mp hunit
        cases g <;> cases hg
      · cases hf

/-- **Collisions are found exactly, and before anything is changed.**  Among documents one is found
if and only if two of them generate the same file up to case, and then it tells of the first one that
does so and of the earlier one; otherwise no two documents have one path or one file.  A build whose
sources can be read fails with a collision if and only if two of its documents collide, and
then it has told nothing and left files and records as they were. -/
theorem collision_iff [SetOrder] :
    (∀ (root : String) (ds : List Document),
      ((∃ c, collision? root ds = some c) ↔ ShareUnit root ds) ∧
      (∀ c, collision? root ds = some c → c.IsFirst root ds) ∧
      (collision? root ds = none →
        ds.Pairwise fun d e => d.path ≠ e.path ∧ ¬ SameUnit root d e)) ∧
    ∀ (settings : Settings) (working : Place) (l : Location) (time : Option Moment)
      (files : FileTree) (store : Store) (config : ProjectConfig) (ds : List Document),
      Survey.Reads files working l settings config ds →
      ((∃ c, (run settings working l time files store).result = .error (.collision c)) ↔
        ShareUnit config.projectRoot ds) ∧
      (∀ c, (run settings working l time files store).result = .error (.collision c) →
        c.IsFirst config.projectRoot ds ∧
        (BuildError.collision c).message? = some ("Unit name collision: " ++ c.first ++ " and " ++
          c.second ++ " both generate " ++ c.name) ∧
        run settings working l time files store = ⟨files, store, [], .error (.collision c)⟩) ∧
      ((∀ c, (run settings working l time files store).result ≠ .error (.collision c)) →
        ∃ s, Survey.take files working l settings = .ok s ∧ s.documents = ds ∧
          ∀ d ∈ ds, s.unitName d = Component.unitName d.path config.projectRoot) := by
  refine ⟨fun root ds => ⟨collision?_isSome_iff, fun c => collision?_eq_some_iff.mp, ?_⟩, ?_⟩
  · intro hnone
    refine (collision?_eq_none_iff.mp hnone).imp fun hne => ⟨fun hpath => hne ?_, hne⟩
    rw [SameUnit, hpath]
  · intro settings working l time files store config ds h
    -- the survey decides: if it fails the build ends, and else no collision comes any more
    have hrun : ∀ c, (run settings working l time files store).result = .error (.collision c) →
        collision? config.projectRoot ds = some c := by
      intro c hc
      cases hfound : collision? config.projectRoot ds with
      | some c' =>
        rw [run, h.take_of_collision hfound] at hc
        rw [BuildError.collision.inj (Except.error.inj hc)]
      | none =>
        obtain ⟨s, hs, -⟩ := h.take_of_none hfound
        exact absurd hc (result_ne_collision hs c)
    have hfails : ∀ c, collision? config.projectRoot ds = some c →
        run settings working l time files store = ⟨files, store, [], .error (.collision c)⟩ := by
      intro c hc
      rw [run, h.take_of_collision hc]
    refine ⟨?_, fun c hc => ⟨collision?_eq_some_iff.mp (hrun c hc), rfl, hfails c (hrun c hc)⟩, ?_⟩
    · rw [← collision?_isSome_iff]
      exact exists_congr fun c => ⟨hrun c, fun hc => by rw [hfails c hc]⟩
    · intro hnone
      cases hfound : collision? config.projectRoot ds with
      | some c => exact absurd (by rw [hfails c hfound]) (hnone c)
      | none =>
        obtain ⟨s, hs, hconfig, hdocuments⟩ := h.take_of_none hfound
        exact ⟨s, hs, hdocuments, fun d _ => by rw [Survey.unitName, hconfig]⟩

/-- Two pages of one unit name up to case, in different directories. -/
def flattened : FileTree := ⟨[
  (["site"], .directory), (["site", "A_B.md"], .file [120, 10]),
  (["site", "a"], .directory), (["site", "a", "b.md"], .file [121, 10])]⟩

private theorem reads_flattened : Survey.Reads flattened [] (.parse "site") (.declaring "B")
    ⟨"", "/site", "B"⟩ [⟨"/site/A_B.md", "x\n"⟩, ⟨"/site/a/b.md", "y\n"⟩] := by
  refine ⟨rfl, Sources.documents_of_directory ?_ ?_ ?_, true, [], ?_, ?_, ?_⟩
  all_goals decide +kernel

attribute [local instance] SetOrder.standard

/-- The pages collide, and nothing is built. -/
theorem collision_iff_flattened :
    run (.declaring "B") [] (.parse "site") none flattened .empty = ⟨flattened, .empty, [],
      .error (.collision ⟨"/site/A_B.md", "/site/a/b.md", "a_b.md.g.cs"⟩)⟩ := by
  obtain ⟨hexists, hfails, -⟩ := collision_iff.2 _ _ _ none _ .empty _ _ reads_flattened
  obtain ⟨c, hc⟩ := hexists.mpr ⟨0, 1, by decide, by decide, by rw [SameUnit]; decide +kernel⟩
  obtain ⟨hfirst, -, hrun⟩ := hfails c hc
  have hfound : collision? "/site" [⟨"/site/A_B.md", "x\n"⟩, ⟨"/site/a/b.md", "y\n"⟩] =
      some ⟨"/site/A_B.md", "/site/a/b.md", "a_b.md.g.cs"⟩ := by decide +kernel
  obtain rfl := Option.some.inj ((collision?_eq_some_iff.mpr hfirst).symm.trans hfound)
  exact hrun

end Build

end Pageworks
