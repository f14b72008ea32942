import Mathlib.Data.List.DropRight
import Mathlib.Data.List.TakeWhile
import Mathlib.Data.String.Basic
import Mathlib.Tactic.TFAE
import Pageworks.Proofs.Path
import Pageworks.Proofs.Usings

/-!
# Names without their terminators

A header may give a name with a terminator behind it and blanks anywhere around the two.  What is
meant is the bare name, and cleaning a value takes three cuts at its end: blanks, terminators, and
blanks again.  These give the bare name unless the value is broken: unless it has terminators behind
blanks behind terminators.  Then the first ones stay, the entry of the name ends in two terminators,
and cleaning the name once more would change it.

## Main definitions

* `Terminated`, `IsBare` — a name with a terminator at its end, and one without it and without
  blanks around it.
* `bare` — a value without blanks in front of it, and without any blanks and terminators behind it.
* `Surroundings` — what three cuts take off: blanks, and behind them terminators, and behind these
  blanks.
* `Broken` — a value with terminators that stand apart.

## Main results

* `cleaned_eq_iff` — **a cleaned name is what its surroundings leave.**
* `cleaned_tfae` — **a value is cleaned to its bare name** if and only if it is not broken.
* `header_using_lines` — what units use the names of a header for.
-/

namespace Pageworks

open Pageworks.Text

/-! ### Cutting ends -/

namespace Text

variable {cs : List Char}

/-- It does not matter which end is cut first. -/
theorem trimStart_dropTrailing (p : Char → Bool) (cs : List Char) :
    trimStart (dropTrailing p cs) = dropTrailing p (trimStart cs) := by
  have hprefix : trimStart (dropTrailing p (trimStart cs)) = dropTrailing p (trimStart cs) :=
    dropWhile_eq_self_of_prefix (List.rdropWhile_prefix _ _) (List.dropWhile_idempotent _ _)
  have hblank : ∀ c ∈ cs.takeWhile isBlank, isBlank c = true := fun _ => List.mem_takeWhile_imp
  conv_lhs => rw [← List.takeWhile_append_dropWhile (p := isBlank) (l := cs)]
  rw [← trimStart, dropTrailing_append]
  split
  · rename_i hnil
    rw [List.isEmpty_iff.mp hnil]
    refine List.dropWhile_eq_nil_iff.mpr fun c hc => hblank c ?_
    exact (List.rdropWhile_prefix _ _).subset hc
  · rw [trimStart, List.dropWhile_append_of_pos hblank]
    exact hprefix

theorem trim_eq_self_iff : trim cs = cs ↔ trimStart cs = cs ∧ trimEnd cs = cs := by
  constructor
  · intro h
    have hstart : trimStart cs = cs := by
      conv_lhs => rw [← h]
      rw [trimStart_trim, h]
    refine ⟨hstart, ?_⟩
    rwa [trim, hstart] at h
  · rintro ⟨hstart, hend⟩
    rw [trim, hstart, hend]

end Text

namespace GeneratedUnit

/-! ### Bare names -/

/-- The name ends in a terminator. -/
def Terminated (n : String) : Prop := n.toList.getLast? = some ';'

instance (n : String) : Decidable (Terminated n) :=
  inferInstanceAs (Decidable (n.toList.getLast? = some ';'))

/-- A name without blanks around it and without a terminator at its end. -/
structure IsBare (n : String) : Prop where
  trimmed_eq : trimmed n = n
  not_terminated : ¬ Terminated n

/-- The characters that mean nothing behind a name: blanks and terminators. -/
def isEnding (c : Char) : Bool := isBlank c || c == ';'

/-- The name that a value means: the value without blanks in front of it, and without any blanks and
terminators behind it. -/
def bare (v : String) : String := String.ofList (dropTrailing isEnding (trimStart v.toList))

theorem trimmed_eq_self_iff {n : String} :
    trimmed n = n ↔ trimStart n.toList = n.toList ∧ trimEnd n.toList = n.toList := by
  rw [trimmed, ← trim_eq_self_iff, ← String.toList_inj, String.toList_ofList]

theorem IsBare.dropTrailing_isEnding {n : String} (h : IsBare n) :
    dropTrailing isEnding n.toList = n.toList := by
  refine dropTrailing_eq_self_iff.mpr fun c hc => ?_
  have hblank := dropTrailing_eq_self_iff.mp (trimmed_eq_self_iff.mp h.trimmed_eq).2 c hc
  have hterminator : (c == ';') = false := by
    refine beq_false_of_ne ?_
    rintro rfl
    exact h.not_terminated hc
  rw [isEnding, hblank, hterminator]
  rfl

/-- **Any blanks and terminators behind a name** can be added to it. -/
theorem bare_append {lead tail : List Char} {n : String} (hlead : ∀ c ∈ lead, isBlank c = true)
    (h : IsBare n) (htail : ∀ c ∈ tail, isEnding c = true) :
    bare (String.ofList (lead ++ n.toList ++ tail)) = n := by
  rw [bare, String.toList_ofList, ← trimStart_dropTrailing, dropTrailing_append_of_forall htail,
    trimStart_dropTrailing, trimStart, List.dropWhile_append_of_pos hlead, ← trimStart,
    (trimmed_eq_self_iff.mp h.trimmed_eq).1, h.dropTrailing_isEnding, String.ofList_toList]

theorem isBare_bare (v : String) : IsBare (bare v) := by
  have hend : dropTrailing isEnding (bare v).toList = (bare v).toList := by
    rw [bare, String.toList_ofList]
    exact List.rdropWhile_idempotent _ _
  have hlast : ∀ c, (bare v).toList.getLast? = some c → isBlank c = false ∧ (c == ';') = false :=
    fun c hc => Bool.or_eq_false_iff.mp (dropTrailing_eq_self_iff.mp hend c hc)
  refine ⟨trimmed_eq_self_iff.mpr ⟨?_, ?_⟩, fun h => absurd (hlast ';' h).2 (by decide)⟩
  · rw [bare, String.toList_ofList]
    exact dropWhile_eq_self_of_prefix (List.rdropWhile_prefix _ _) (List.dropWhile_idempotent _ _)
  · exact dropTrailing_eq_self_iff.mpr fun c hc => (hlast c hc).1

/-! ### Three cuts -/

/-- The second cut finds nothing behind another character. -/
theorem dropTrailing_terminators {cs : List Char} (h : cs.getLast? ≠ some ';') :
    dropTrailing (· == ';') cs = cs := by
  refine dropTrailing_eq_self_iff.mpr fun c hc => beq_false_of_ne ?_
  rintro rfl
  exact h hc

/-- The three cuts at the end of a text. -/
def cutEnd (cs : List Char) : List Char := trimEnd (dropTrailing (· == ';') (trimEnd cs))

theorem cleaned_eq_cutEnd (v : String) :
    cleaned v = String.ofList (trimStart (cutEnd v.toList)) := by
  simp only [cleaned, trim, cutEnd, trimEnd, trimStart_dropTrailing]

/-- What three cuts take off a value. -/
structure Surroundings where
  /-- The blanks before the name. -/
  lead : List Char
  /-- The blanks between the name and the terminators. -/
  gap : List Char
  /-- The terminators. -/
  marks : List Char
  /-- The blanks behind them. -/
  trail : List Char
  isBlank_lead : ∀ c ∈ lead, isBlank c = true
  isBlank_gap : ∀ c ∈ gap, isBlank c = true
  eq_terminator : ∀ c ∈ marks, (c == ';') = true
  isBlank_trail : ∀ c ∈ trail, isBlank c = true

namespace Surroundings

/-- The value in which a name stands in its surroundings. -/
def around (s : Surroundings) (n : String) : String :=
  String.ofList (s.lead ++ n.toList ++ (s.gap ++ s.marks ++ s.trail))

/-- Blanks stand between the name and terminators. -/
def Apart (s : Surroundings) : Prop := s.gap ≠ [] ∧ s.marks ≠ []

variable {a : List Char} {n : String}

/-- Every character behind the name means nothing. -/
theorem isEnding_behind (s : Surroundings) :
    ∀ c ∈ s.gap ++ s.marks ++ s.trail, isEnding c = true := by
  intro c hc
  rw [isEnding, Bool.or_eq_true]
  rcases List.mem_append.mp hc with hc | hc
  · rcases List.mem_append.mp hc with hc | hc
    · exact .inl (s.isBlank_gap c hc)
    · exact .inr (s.eq_terminator c hc)
  · exact .inl (s.isBlank_trail c hc)

/-- **Three cuts give the text back** to which blanks, terminators and blanks were added, unless its
own terminators would go with those. -/
theorem cutEnd_append (s : Surroundings) (ha : trimEnd a = a)
    (hapart : a.getLast? = some ';' → s.Apart) :
    cutEnd (a ++ (s.gap ++ s.marks ++ s.trail)) = a := by
  by_cases hmarks : s.marks = []
  · -- the first cut goes through to the text, which ends in no terminator
    have hlast : dropTrailing (· == ';') a = a :=
      dropTrailing_terminators fun hc => (hapart hc).2 hmarks
    rw [cutEnd, hmarks, List.append_nil, ← List.append_assoc, trimEnd, trimEnd,
      dropTrailing_append_of_forall s.isBlank_trail, dropTrailing_append_of_forall s.isBlank_gap,
      ← trimEnd, ← trimEnd, ha, hlast, ha]
  · -- the first cut ends at the terminators, and the second one at the blanks before them
    have hsemicolon : isBlank ';' = false := by decide
    have hfirst : dropTrailing isBlank s.marks = s.marks := by
      refine dropTrailing_eq_self_iff.mpr fun c hc => ?_
      rw [beq_iff_eq.mp (s.eq_terminator c (List.mem_of_getLast? hc)), hsemicolon]
    have hsecond : dropTrailing (· == ';') (a ++ s.gap) = a ++ s.gap := by
      refine dropTrailing_terminators fun hc => ?_
      rw [List.getLast?_append] at hc
      cases hgap : s.gap.getLast? with
      | none =>
        rw [hgap] at hc
        exact (hapart hc).1 (List.getLast?_eq_none_iff.mp hgap)
      | some c =>
        rw [hgap] at hc
        cases hc
        have hblank := s.isBlank_gap _ (List.mem_of_getLast? hgap)
        rw [hsemicolon] at hblank
        cases hblank
    rw [cutEnd, trimEnd, trimEnd, ← List.append_assoc,
      dropTrailing_append_of_forall s.isBlank_trail, ← List.append_assoc,
      dropTrailing_append_of_eq_self hmarks hfirst, dropTrailing_append_of_forall s.eq_terminator,
      hsecond, dropTrailing_append_of_forall s.isBlank_gap]
    exact ha

/-- Around every value's cleaned name stands what was cut off; terminators that are left at the end
of the name stand apart from those that were cut off. -/
theorem exists_around (v : String) :
    ∃ s : Surroundings, v = s.around (cleaned v) ∧ (Terminated (cleaned v) → s.Apart) := by
  obtain ⟨trail, htrail, hblank⟩ := exists_dropTrailing_append isBlank (trimStart v.toList)
  obtain ⟨marks, hmarks, hterminator⟩ := exists_dropTrailing_append (· == ';') (trim v.toList)
  obtain ⟨gap, hgap, hblank'⟩ :=
    exists_dropTrailing_append isBlank (dropTrailing (· == ';') (trim v.toList))
  have hname : (cleaned v).toList = trimEnd (dropTrailing (· == ';') (trim v.toList)) := by
    rw [cleaned, String.toList_ofList]
  rw [← trimEnd, ← trim] at htrail
  rw [← trimEnd, ← hname] at hgap
  refine ⟨⟨v.toList.takeWhile isBlank, gap, marks, trail, fun _ => List.mem_takeWhile_imp, hblank',
    hterminator, hblank⟩, ?_, fun hlast => ?_⟩
  · rw [around, ← List.append_assoc, ← List.append_assoc, List.append_assoc _ _ gap, ← hgap,
      List.append_assoc _ _ marks, ← hmarks, List.append_assoc, ← htrail, trimStart,
      List.takeWhile_append_dropWhile, String.ofList_toList]
  · -- the second cut leaves no terminator at the end, so the third one took something off
    have hcut : dropTrailing (· == ';') (trim v.toList) ≠ (cleaned v).toList := by
      intro heq
      have hend : dropTrailing (· == ';') (cleaned v).toList = (cleaned v).toList := by
        rw [← heq]
        exact List.rdropWhile_idempotent _ _
      exact absurd (dropTrailing_eq_self_iff.mp hend ';' hlast) (by decide)
    refine ⟨?_, ?_⟩
    · rintro rfl
      exact hcut (hgap.trans (List.append_nil _))
    · rintro rfl
      refine hcut ?_
      rw [hname, ← (hmarks.trans (List.append_nil _)), trim, trimEnd, trimEnd]
      exact (List.rdropWhile_idempotent _ _).symm

theorem cleaned_around (s : Surroundings) (hne : n ≠ "") (hend : trimEnd n.toList = n.toList)
    (hapart : Terminated n → s.Apart) :
    cleaned (s.around n) = String.ofList (trimStart n.toList) := by
  have hlist : n.toList ≠ [] := mt String.toList_eq_nil_iff.mp hne
  have ha : trimEnd (s.lead ++ n.toList) = s.lead ++ n.toList :=
    dropTrailing_append_of_eq_self hlist hend
  have hlast : (s.lead ++ n.toList).getLast? = n.toList.getLast? := by
    rw [List.getLast?_append, List.getLast?_eq_some_getLast hlist, Option.some_or]
  rw [cleaned_eq_cutEnd, around, String.toList_ofList,
    s.cutEnd_append ha fun h => hapart (hlast.symm.trans h), trimStart,
    List.dropWhile_append_of_pos s.isBlank_lead, ← trimStart]

/-- Surroundings without a name declare nothing. -/
theorem cleaned_around_empty (s : Surroundings) : cleaned (s.around "") = "" := by
  -- the blanks in front are then blanks in front of the terminators
  let joined : Surroundings := {
    s with
    lead := []
    gap := s.lead ++ s.gap
    isBlank_lead := fun _ hc => absurd hc List.not_mem_nil
    isBlank_gap := List.forall_mem_append.mpr ⟨s.isBlank_lead, s.isBlank_gap⟩ }
  have hjoined : (s.around "").toList = [] ++ (joined.gap ++ joined.marks ++ joined.trail) := by
    simp [around, joined]
  rw [cleaned_eq_cutEnd, hjoined, joined.cutEnd_append rfl fun h => by cases h]
  rfl

end Surroundings

/-- **A cleaned name is what its surroundings leave**: it is trimmed, and it stands in the value
with surroundings whose terminators are not its own. -/
theorem cleaned_eq_iff {v n : String} :
    cleaned v = n ↔ trimmed n = n ∧
      ∃ s : Surroundings, v = s.around n ∧ (Terminated n → s.Apart) := by
  constructor
  · rintro rfl
    exact ⟨trimmed_cleaned v, Surroundings.exists_around v⟩
  · rintro ⟨htrim, s, rfl, hapart⟩
    obtain ⟨hstart, hend⟩ := trimmed_eq_self_iff.mp htrim
    by_cases hne : n = ""
    · rw [hne, s.cleaned_around_empty]
    · rw [s.cleaned_around hne hend hapart, hstart, String.ofList_toList]

/-! ### Broken values -/

/-- A value with terminators behind blanks behind terminators, at its end. -/
def Broken (v : String) : Prop :=
  ∃ (s : Surroundings) (n : String), s.Apart ∧ Terminated n ∧ v = s.around n

variable {v n : String}

theorem terminated_cleaned_iff : Terminated (cleaned v) ↔ Broken v := by
  constructor
  · intro h
    obtain ⟨s, hv, hapart⟩ := Surroundings.exists_around v
    exact ⟨s, cleaned v, hapart h, h, hv⟩
  · rintro ⟨s, n, hapart, hn, rfl⟩
    obtain ⟨front, hfront⟩ := List.getLast?_eq_some_iff.mp hn
    have hne : n ≠ "" := by
      rintro rfl
      cases hn
    have hend : trimEnd n.toList = n.toList := by
      refine dropTrailing_eq_self_iff.mpr fun c hc => ?_
      obtain rfl := Option.some.inj (hn.symm.trans hc)
      decide
    rw [s.cleaned_around hne hend fun _ => hapart, Terminated, String.toList_ofList, hfront,
      trimStart_append_cons (by decide), List.getLast?_concat]

theorem IsBare.cleaned_eq (h : IsBare n) : cleaned n = n := by
  obtain ⟨hstart, hend⟩ := trimmed_eq_self_iff.mp h.trimmed_eq
  have htrim : trim n.toList = n.toList := trim_eq_self_iff.mpr ⟨hstart, hend⟩
  rw [cleaned, htrim, dropTrailing_terminators h.not_terminated, hend, String.ofList_toList]

/-- A name that is left with a terminator would lose it to another cleaning. -/
theorem cleaned_ne_of_terminated (h : Terminated n) : cleaned n ≠ n := by
  intro heq
  obtain ⟨-, s, hn, hapart⟩ := cleaned_eq_iff.mp heq
  have hlength := congrArg String.length hn
  have hmarks := List.length_pos_iff.mpr (hapart h).2
  simp only [Surroundings.around, String.length_ofList, List.length_append,
    String.length_toList] at hlength
  omega

theorem isBare_cleaned (h : ¬ Broken v) : IsBare (cleaned v) :=
  ⟨trimmed_cleaned v, mt terminated_cleaned_iff.mp h⟩

/-- **A value that is not broken is cleaned to its bare name.** -/
theorem cleaned_eq_bare (h : ¬ Broken v) : cleaned v = bare v := by
  obtain ⟨s, hv, -⟩ := Surroundings.exists_around v
  conv_rhs => rw [hv]
  exact (bare_append s.isBlank_lead (isBare_cleaned h) s.isEnding_behind).symm

/-- An entry ends in two terminators if its name ends in one. -/
theorem suffix_usingEntry_iff : [';', ';'] <:+ (usingEntry n).toList ↔ Terminated n := by
  have hentry : (usingEntry n).toList = "using ".toList ++ n.toList ++ [';'] := by
    rw [usingEntry, String.toList_append, String.toList_append]
    rfl
  have hsuffix : [';', ';'] <:+ (usingEntry n).toList ↔
      ("using ".toList ++ n.toList).getLast? = some ';' := by
    rw [hentry, List.getLast?_eq_some_iff]
    constructor
    · rintro ⟨front, hfront⟩
      rw [List.append_cons] at hfront
      exact ⟨front, (List.append_inj_left' hfront rfl).symm⟩
    · rintro ⟨front, hfront⟩
      exact ⟨front, by rw [hfront]; simp⟩
  rw [hsuffix, Terminated, List.getLast?_append]
  cases n.toList.getLast? with
  | none => decide
  | some c => rfl

/-- **Where cleaning falls short of the bare name.** -/
theorem cleaned_tfae (v : String) :
    List.TFAE [Broken v, cleaned v ≠ bare v, Terminated (cleaned v),
      cleaned (cleaned v) ≠ cleaned v, [';', ';'] <:+ (usingEntry (cleaned v)).toList] := by
  tfae_have 1 ↔ 3 := terminated_cleaned_iff.symm
  tfae_have 2 → 1 := fun h => by
    by_contra hv
    exact h (cleaned_eq_bare hv)
  tfae_have 3 → 2 := fun h heq => (isBare_bare v).not_terminated (heq ▸ h)
  tfae_have 3 → 4 := cleaned_ne_of_terminated
  tfae_have 4 → 1 := fun h => by
    by_contra hv
    exact h (isBare_cleaned hv).cleaned_eq
  tfae_have 3 ↔ 5 := suffix_usingEntry_iff.symm
  tfae_finish

/-! ### Names in units -/

variable {m : Metadata} {vs ws : List String}

/-- Only the cleaned names of a header enter its unit. -/
theorem generate_congr_headerNames
    (h : headerNames { m with imports := ws } = headerNames m)
    (d : Document) (es : List ImportEntry) (config : ProjectConfig) (mode : Mode)
    (render : Renderer) (xs : List Diagnostic) :
    generate d { m with imports := ws } es config mode render xs =
      generate d m es config mode render xs :=
  generate_congr_usings (congrArg (fun ns => Import.names es (defaultUsings ++ ns)) h)
    d config mode render xs

theorem headerNames_bare (hv : ¬ Broken v) (hm : m.imports = vs ++ v :: ws) :
    headerNames { m with imports := vs ++ bare v :: ws } = headerNames m := by
  simp only [headerNames, hm, List.map_append, List.map_cons, cleaned_eq_bare hv,
    (isBare_bare v).cleaned_eq]

theorem headerNames_omit (hv : ¬ Broken v) (hempty : bare v = "") (hm : m.imports = vs ++ v :: ws) :
    headerNames { m with imports := vs ++ ws } = headerNames m := by
  simp [headerNames, hm, cleaned_eq_bare hv, hempty]

/-- **What the names of a header are used for.**  Each of them is trimmed and not empty, and the
unit has one line for it, in every mode.  Blanks before a bare name, and any blanks and terminators
behind it, do not change the unit, and without a name they declare nothing, unless the value is
broken.  This is also what decides whether the line ends in two terminators, and whether cleaning
the name again would change it. -/
theorem header_using_lines (d : Document) (m : Metadata) (es : List ImportEntry)
    (config : ProjectConfig) (mode : Mode) (render : Renderer) (xs : List Diagnostic) :
    (∀ n ∈ headerNames m, n ≠ "" ∧ trimmed n = n ∧ (usings m es).count n = 1 ∧
      ∃ v ∈ m.imports, cleaned v = n) ∧
    (∀ u, generate d m es config mode render xs = .ok u → ∃ content,
      let place := Namespace.resolve d.path config.projectRoot config.rootNamespace m.namespaceName
      u.text = textOf (preamble place) ++
        textOf ((usings m es).map fun n => margin place ++ usingEntry n) ++ textOf content) ∧
    (∀ v, List.TFAE [Broken v, cleaned v ≠ bare v, Terminated (cleaned v),
      cleaned (cleaned v) ≠ cleaned v, [';', ';'] <:+ (usingEntry (cleaned v)).toList]) ∧
    ∀ lead n tail vs ws, (∀ c ∈ lead, isBlank c = true) → IsBare n →
      (∀ c ∈ tail, isEnding c = true) →
      let v := String.ofList (lead ++ n.toList ++ tail)
      bare v = n ∧ (¬ Broken v → m.imports = vs ++ v :: ws →
        generate d { m with imports := vs ++ n :: ws } es config mode render xs =
            generate d m es config mode render xs ∧
          (n = "" → generate d { m with imports := vs ++ ws } es config mode render xs =
            generate d m es config mode render xs)) := by
  refine ⟨fun n hn => ?_, fun u hu => ?_, cleaned_tfae, ?_⟩
  · obtain ⟨hne, v, hv, rfl⟩ := mem_headerNames.mp hn
    have hmem : cleaned v ∈ usings m es := mem_usings.mpr (.inr (.inr ⟨hne, v, hv, rfl⟩))
    have hnodup : (usings m es).Nodup := (Import.sortedLT_sortedSet _).imp ne_of_lt
    exact ⟨hne, trimmed_cleaned v, List.count_eq_one_of_mem hnodup hmem, v, hv, rfl⟩
  · obtain ⟨typeName, ms, -, -, htext⟩ := text_of_generate hu
    exact ⟨_, htext⟩
  · intro lead n tail vs ws hlead hn htail v
    have hbare : bare v = n := bare_append hlead hn htail
    refine ⟨hbare, fun hv hm => ⟨?_, fun hempty => ?_⟩⟩
    · rw [← hbare]
      exact generate_congr_headerNames (headerNames_bare hv hm) d es config mode render xs
    · rw [← hbare] at hempty
      exact generate_congr_headerNames (headerNames_omit hv hempty hm) d es config mode render xs

/-- A page. -/
def plainPage : Document := ⟨"/p/a.md", "x\n"⟩

/-- Three values: a name with terminators and blanks, no name at all, and a broken one. -/
def spacedNames : Metadata := { imports := [" A ;; ", "; ", "B; ;"] }

/-- The blanks and the terminators of the first two values leave no trace in the unit; the third one
has a line that ends in two terminators. -/
theorem header_using_lines_spaced :
    generate plainPage { spacedNames with imports := ["A", "; ", "B; ;"] } [] (.make "" "/p" "C")
        .declaration .ok [] =
      generate plainPage spacedNames [] (.make "" "/p" "C") .declaration .ok [] ∧
    generate plainPage { spacedNames with imports := [" A ;; ", "B; ;"] } [] (.make "" "/p" "C")
        .declaration .ok [] =
      generate plainPage spacedNames [] (.make "" "/p" "C") .declaration .ok [] ∧
    (usings spacedNames []).count "A" = 1 ∧
    "B;" ∈ headerNames spacedNames ∧ [';', ';'] <:+ (usingEntry "B;").toList := by
  obtain ⟨hnames, -, hbroken, hvalues⟩ :=
    header_using_lines plainPage spacedNames [] (.make "" "/p" "C") .declaration .ok []
  have hcleaned : cleaned " A ;; " = "A" ∧ cleaned "A" = "A" ∧ cleaned "; " = "" ∧
      cleaned "" = "" ∧ cleaned "B; ;" = "B;" := by decide +kernel
  obtain ⟨hA, hA', hnone, hnone', hB⟩ := hcleaned
  have hsound : ¬ Broken " A ;; " ∧ ¬ Broken "; " := by
    have hagain : ∀ v, Broken v ↔ cleaned (cleaned v) ≠ cleaned v := fun v => (hbroken v).out 0 3
    rw [hagain, hagain, not_not, not_not, hA, hA', hnone, hnone']
    exact ⟨rfl, rfl⟩
  have hbare : IsBare "A" ∧ IsBare "" :=
    ⟨⟨by decide +kernel, by decide +kernel⟩, ⟨by decide +kernel, by decide +kernel⟩⟩
  have hmemA : "A" ∈ headerNames spacedNames :=
    mem_headerNames.mpr ⟨by decide, " A ;; ", by decide, hA⟩
  obtain ⟨-, hname⟩ := hvalues [' '] "A" [' ', ';', ';', ' '] [] ["; ", "B; ;"]
    (List.all_eq_true.mp (by decide)) hbare.1 (List.all_eq_true.mp (by decide))
  obtain ⟨-, hblank⟩ := hvalues [] "" [';', ' '] [" A ;; "] ["B; ;"]
    (List.all_eq_true.mp (by decide)) hbare.2 (List.all_eq_true.mp (by decide))
  obtain ⟨-, -, hcount, -⟩ := hnames "A" hmemA
  refine ⟨(hname hsound.1 rfl).1, (hblank hsound.2 rfl).2 rfl, hcount,
    mem_headerNames.mpr ⟨by decide, "B; ;", by decide, hB⟩, ?_⟩
  have hlast : Terminated (cleaned "B; ;") ↔ [';', ';'] <:+ (usingEntry (cleaned "B; ;")).toList :=
    (hbroken "B; ;").out 2 4
  rw [hB] at hlast
  exact hlast.mp (by decide +kernel)

end GeneratedUnit

end Pageworks
