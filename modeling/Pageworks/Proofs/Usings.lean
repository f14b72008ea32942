import Mathlib.Data.List.DropRight
import Mathlib.Data.List.TakeWhile
import Mathlib.Data.String.Basic
import Pageworks.CacheKey
import Pageworks.Proofs.Skeleton

/-!
# What a unit uses

A unit opens with the names that it uses: those that every unit uses, those that the import files
declare and those that its header gives.  They are a set, written in one order.  So neither the
order of import files nor a copy of one can be seen in a unit or in the key of its document, and the
same goes for the names in the header.

## Main definitions

* `GeneratedUnit.preamble`, `GeneratedUnit.content` — the entries of a unit before and behind the
  names that it uses.

## Main results

* `GeneratedUnit.mem_usings` — the names that a unit uses, without sorting them.
* `GeneratedUnit.entries_usings` — where they stand in a unit.
* `GeneratedUnit.using_lines` — **the names that a unit uses are a set in order**, and units and keys
  depend on the set of import files and of header names only.
-/

namespace Pageworks

open Pageworks.Text

/-! ### Trimmed names -/

namespace Text

/-- What starts a text without leading characters of a class has none either. -/
theorem dropWhile_eq_self_of_prefix {p : Char → Bool} {xs ys : List Char} (h : xs <+: ys)
    (hys : ys.dropWhile p = ys) : xs.dropWhile p = xs := by
  obtain ⟨zs, rfl⟩ := h
  cases xs with
  | nil => rfl
  | cons x xs =>
    rw [List.dropWhile_eq_self_iff] at hys ⊢
    exact fun _ => hys (Nat.succ_pos _)

theorem trimStart_trim (cs : List Char) : trimStart (trim cs) = trim cs :=
  dropWhile_eq_self_of_prefix (List.rdropWhile_prefix _ _) (List.dropWhile_idempotent _ _)

/-- Cutting more off the end of a trimmed text, and trimming that end, leaves a trimmed text. -/
theorem trim_trimEnd_dropTrailing (p : Char → Bool) (cs : List Char) :
    trim (trimEnd (dropTrailing p (trim cs))) = trimEnd (dropTrailing p (trim cs)) := by
  have hstart : trimStart (trimEnd (dropTrailing p (trim cs))) =
      trimEnd (dropTrailing p (trim cs)) :=
    dropWhile_eq_self_of_prefix
      ((List.rdropWhile_prefix _ _).trans (List.rdropWhile_prefix _ _)) (trimStart_trim cs)
  rw [trim, hstart]
  exact List.rdropWhile_idempotent _ _

end Text

/-- A sorted set is in strict order. -/
theorem Import.sortedLT_sortedSet (as : List String) : (sortedSet as).Pairwise (· < ·) :=
  ((pairwise_sortedSet as).and (nodup_dedupFrom _ _)).imp fun h => lt_of_le_of_ne h.1 h.2

/-- The key of a document depends on the set of import files only. -/
theorem CacheKey.of_congr_mem {es es' : List ImportEntry} (hes : ∀ e, e ∈ es' ↔ e ∈ es)
    (d : Document) (config : ProjectConfig) (mode : Mode) (renderer : String) :
    CacheKey.of d config es' mode renderer = CacheKey.of d config es mode renderer := by
  have hprints : Import.sortedSet (es'.map ImportEntry.fingerprint) =
      Import.sortedSet (es.map ImportEntry.fingerprint) := by
    refine Import.sortedSet_congr fun s => ?_
    simp only [List.mem_map, hes]
  rw [CacheKey.of, CacheKey.of, hprints]

namespace GeneratedUnit

variable {m : Metadata} {es : List ImportEntry} {n : String}

/-! ### The set of names -/

/-- A cleaned name is trimmed. -/
theorem trimmed_cleaned (v : String) : trimmed (cleaned v) = cleaned v := by
  rw [trimmed, cleaned, String.toList_ofList, trim_trimEnd_dropTrailing]

theorem mem_headerNames : n ∈ headerNames m ↔ n ≠ "" ∧ ∃ v ∈ m.imports, cleaned v = n := by
  rw [headerNames, List.mem_filter, List.mem_map, Bool.not_eq_true', ← Bool.not_eq_true,
    String.isEmpty_iff]
  exact and_comm

/-- **The names that a unit uses**: those that every unit uses, those that import files declare, and
those of the header that are not empty once they are cleaned. -/
theorem mem_usings : n ∈ usings m es ↔
    n ∈ defaultUsings ∨ (∃ e ∈ es, n ∈ e.names) ∨ n ≠ "" ∧ ∃ v ∈ m.imports, cleaned v = n := by
  -- every further name is trimmed and not empty already
  have hextra : ∀ x ∈ defaultUsings ++ headerNames m, trimmed x = x ∧ x ≠ "" := by
    intro x hx
    rcases List.mem_append.mp hx with hx | hx
    · have hdefault : ∀ x ∈ defaultUsings, trimmed x = x ∧ x ≠ "" := by decide
      exact hdefault x hx
    · obtain ⟨hne, v, -, rfl⟩ := mem_headerNames.mp hx
      exact ⟨trimmed_cleaned v, hne⟩
  have hfilter : ((defaultUsings ++ headerNames m).map trimmed).filter (fun n => !n.isEmpty) =
      defaultUsings ++ headerNames m := by
    rw [List.map_congr_left fun x hx => (hextra x hx).1, List.map_id', List.filter_eq_self]
    intro x hx
    rw [Bool.not_eq_true', ← Bool.not_eq_true, String.isEmpty_iff]
    exact (hextra x hx).2
  rw [usings, Import.names, Import.mem_sortedSet, hfilter, List.mem_append, List.mem_append,
    List.mem_flatMap, mem_headerNames]
  exact or_left_comm

/-- Only the set of import files and the set of header names enter the names that a unit uses. -/
theorem usings_congr_mem {es' : List ImportEntry} {vs : List String}
    (hes : ∀ e, e ∈ es' ↔ e ∈ es) (hvs : ∀ v, v ∈ vs ↔ v ∈ m.imports) :
    usings { m with imports := vs } es' = usings m es := by
  have hmem : ∀ n, n ∈ usings { m with imports := vs } es' ↔ n ∈ usings m es := by
    intro n
    rw [mem_usings, mem_usings]
    simp only [hes, hvs]
  exact Import.sortedSet_congr fun n =>
    Import.mem_sortedSet.symm.trans ((hmem n).trans Import.mem_sortedSet)

/-! ### Where the names stand -/

/-- The entries of a unit before the names that it uses. -/
def preamble (place : String) : List String :=
  opening ++ if place.isEmpty then [] else ["namespace " ++ place, "\x7b"]

/-- The entries of a unit behind the names that it uses. -/
def content (place : String) (declaration : List String) : List String :=
  "" :: (if place.isEmpty then declaration else Component.indented declaration ++ ["\x7d"]) ++
    [closing]

/-- The names that a unit uses stand between its preamble and its content, as far in as its class. -/
theorem entries_usings (place : String) (names declaration : List String) :
    entries place (names.map usingEntry) declaration =
      preamble place ++ names.map (fun n => margin place ++ usingEntry n) ++
        content place declaration := by
  unfold entries preamble content margin
  by_cases hplace : place.isEmpty = true
  · simp only [hplace, if_true, String.empty_append, List.append_assoc, List.nil_append,
      List.cons_append]
  · have hnames : Component.indented (names.map usingEntry) =
        names.map fun n => Component.indent ++ usingEntry n := by
      rw [Component.indented_eq_map, List.map_map]
      · rfl
      · intro e he
        obtain ⟨n, -, rfl⟩ := List.mem_map.mp he
        rw [usingEntry, String.append_assoc]
        exact fun h => absurd (String.append_eq_empty_iff.mp h).1 (by decide)
    rw [if_neg hplace, if_neg hplace, if_neg hplace, if_neg hplace, hnames]
    simp only [List.append_assoc, List.cons_append, List.nil_append]

/-- The lines of a unit up to its names, the lines of its names, and those behind them. -/
theorem text_of_generate {d : Document} {config : ProjectConfig} {mode : Mode} {render : Renderer}
    {xs : List Diagnostic} {u : GeneratedUnit}
    (h : generate d m es config mode render xs = .ok u) :
    ∃ typeName ms, Component.typeName d.path = .ok typeName ∧ members mode render d m = .ok ms ∧
      let place := Namespace.resolve d.path config.projectRoot config.rootNamespace m.namespaceName
      u.text = textOf (preamble place) ++
        textOf ((usings m es).map fun n => margin place ++ usingEntry n) ++
        textOf (content place
          (Component.classEntries typeName (baseType m config) (Component.attributes m) ms)) := by
  obtain ⟨typeName, ms, hname, hms, rfl⟩ := of_generate h
  refine ⟨typeName, ms, hname, hms, ?_⟩
  -- every unit uses some name, so none of the three parts is empty
  have hne : usings m es ≠ [] := by
    have hsystem : "System" ∈ usings m es := mem_usings.mpr (.inl List.mem_cons_self)
    exact List.ne_nil_of_mem hsystem
  have hpreamble : ∀ place, preamble place ≠ [] := fun _ => List.cons_ne_nil _ _
  have hcontent : ∀ place declaration, content place declaration ≠ [] :=
    fun _ _ => List.cons_ne_nil _ _
  dsimp only
  rw [entries_usings, textOf_append (List.append_ne_nil_of_left_ne_nil (hpreamble _) _)
    (hcontent _ _), textOf_append (hpreamble _) (mt List.map_eq_nil_iff.mp hne)]

/-! ### Order and copies do not count -/

variable {es' : List ImportEntry}

/-- The names in a header are read for what the unit uses, and for nothing else. -/
theorem generate_congr_usings {vs : List String}
    (h : usings { m with imports := vs } es' = usings m es) (d : Document) (config : ProjectConfig)
    (mode : Mode) (render : Renderer) (xs : List Diagnostic) :
    generate d { m with imports := vs } es' config mode render xs =
      generate d m es config mode render xs := by
  have hmembers : members mode render d { m with imports := vs } = members mode render d m := rfl
  have hbase : baseType { m with imports := vs } config = baseType m config := rfl
  have hattributes : Component.attributes { m with imports := vs } = Component.attributes m := rfl
  unfold generate
  rw [hmembers, hbase, hattributes, h]

theorem generate_congr_mem {vs : List String} (hes : ∀ e, e ∈ es' ↔ e ∈ es)
    (hvs : ∀ v, v ∈ vs ↔ v ∈ m.imports) (d : Document) (config : ProjectConfig) (mode : Mode)
    (render : Renderer) (xs : List Diagnostic) :
    generate d { m with imports := vs } es' config mode render xs =
      generate d m es config mode render xs :=
  generate_congr_usings (usings_congr_mem hes hvs) d config mode render xs

/-- A document is generated from its path, its metadata and its body. -/
theorem generate_congr_body {d d' : Document} (hpath : d'.path = d.path)
    (hbody : (Header.split d'.text).2 = (Header.split d.text).2) (m : Metadata)
    (es : List ImportEntry) (config : ProjectConfig) (mode : Mode) (render : Renderer)
    (xs : List Diagnostic) :
    generate d' m es config mode render xs = generate d m es config mode render xs := by
  unfold generate members markup
  rw [hpath, hbody]

/-- What is told about a document is not written. -/
theorem written_generate (d : Document) (m : Metadata) (es : List ImportEntry)
    (config : ProjectConfig) (mode : Mode) (render : Renderer) (xs ys : List Diagnostic) :
    (generate d m es config mode render xs).map (fun u => (u.name, u.text)) =
      (generate d m es config mode render ys).map fun u => (u.name, u.text) := by
  unfold generate
  cases Component.typeName d.path with
  | error e => rfl
  | ok name =>
    dsimp only
    cases members mode render d m with
    | error f => rfl
    | ok ms => rfl

theorem transform_congr_mem [SetOrder] (hes : ∀ e, e ∈ es' ↔ e ∈ es) (d : Document)
    (config : ProjectConfig) (mode : Mode) (render : Renderer) :
    transform d es' config mode render = transform d es config mode render := by
  refine transform_eq_of_governing (fun gs hs hgs hhs t => ?_) config mode render
  obtain ⟨dir, hdir, rfl⟩ := Import.applicable_eq_ok_iff.mp hgs
  obtain ⟨dir', hdir', rfl⟩ := Import.applicable_eq_ok_iff.mp hhs
  obtain rfl : dir = dir' := Option.some.inj (hdir.symm.trans hdir')
  simp only [List.mem_map, List.mem_filter, hes]

/-- **A header says which names are used**, not in which order or how often. -/
theorem written_transform [SetOrder] {d d' : Document} {x x' : Metadata.Extraction}
    {vs : List String} (hpath : d'.path = d.path)
    (hbody : (Header.split d'.text).2 = (Header.split d.text).2)
    (hx : Metadata.extract d = .ok x) (hx' : Metadata.extract d' = .ok x')
    (hmetadata : x'.metadata = { x.metadata with imports := vs })
    (hvs : ∀ v, v ∈ vs ↔ v ∈ x.metadata.imports) (es : List ImportEntry) (config : ProjectConfig)
    (mode : Mode) (render : Renderer) :
    (transform d' es config mode render).map (fun u => (u.name, u.text)) =
      (transform d es config mode render).map fun u => (u.name, u.text) := by
  rw [transform, transform, hx, hx']
  dsimp only
  rw [hpath]
  cases Import.applicable es d.path with
  | error e => rfl
  | ok imports =>
    dsimp only
    rw [generate_congr_body hpath hbody, hmetadata, generate_congr_mem (fun _ => Iff.rfl) hvs]
    exact written_generate ..

/-- **The names that a unit uses are a set in order.**  A document with a class name and markup has
a unit.  The unit holds one entry for each name, in code-point order, between its preamble and its
content: the names that every unit uses, those declared by import files, and those of its header
that are not empty once they are cleaned.  Neither the order of import files and of header names nor
a copy of one makes a difference to a unit or to the key of its document. -/
theorem using_lines [SetOrder] (d : Document) (m : Metadata) (es : List ImportEntry)
    (config : ProjectConfig) (mode : Mode) (render : Renderer) (xs : List Diagnostic)
    (renderer : String) :
    (∀ typeName ms, Component.typeName d.path = .ok typeName → members mode render d m = .ok ms →
      ∃ u, generate d m es config mode render xs = .ok u) ∧
    (∀ u, generate d m es config mode render xs = .ok u →
      ∃ typeName ms, Component.typeName d.path = .ok typeName ∧ members mode render d m = .ok ms ∧
        let place := Namespace.resolve d.path config.projectRoot config.rootNamespace m.namespaceName
        u.text = textOf (preamble place) ++
          textOf ((usings m es).map fun n => margin place ++ "using " ++ n ++ ";") ++
          textOf (content place
            (Component.classEntries typeName (baseType m config) (Component.attributes m) ms))) ∧
    (usings m es).Pairwise (· < ·) ∧
    (∀ n, n ∈ usings m es ↔
      n ∈ defaultUsings ∨ (∃ e ∈ es, n ∈ e.names) ∨ n ≠ "" ∧ ∃ v ∈ m.imports, cleaned v = n) ∧
    ∀ es', (∀ e, e ∈ es' ↔ e ∈ es) →
      (∀ vs, (∀ v, v ∈ vs ↔ v ∈ m.imports) →
        generate d { m with imports := vs } es' config mode render xs =
          generate d m es config mode render xs) ∧
      transform d es' config mode render = transform d es config mode render ∧
      (∀ d' x x' vs, d'.path = d.path → (Header.split d'.text).2 = (Header.split d.text).2 →
        Metadata.extract d = .ok x → Metadata.extract d' = .ok x' →
        x'.metadata = { x.metadata with imports := vs } → (∀ v, v ∈ vs ↔ v ∈ x.metadata.imports) →
        (transform d' es' config mode render).map (fun u => (u.name, u.text)) =
          (transform d es config mode render).map fun u => (u.name, u.text)) ∧
      (CacheKey.of d config es' mode renderer).digest =
        (CacheKey.of d config es mode renderer).digest := by
  refine ⟨fun typeName ms hname hms => ⟨_, generate_eq_ok hname hms⟩, ?_,
    Import.sortedLT_sortedSet _, fun n => mem_usings, fun es' hes => ⟨?_, ?_, ?_, ?_⟩⟩
  · intro u hu
    obtain ⟨typeName, ms, hname, hms, htext⟩ := text_of_generate hu
    refine ⟨typeName, ms, hname, hms, ?_⟩
    dsimp only at htext ⊢
    simp only [htext, usingEntry, String.append_assoc]
  · exact fun vs hvs => generate_congr_mem hes hvs d config mode render xs
  · exact transform_congr_mem hes d config mode render
  · intro d' x x' vs hpath hbody hx hx' hmetadata hvs
    rw [transform_congr_mem hes d', written_transform hpath hbody hx hx' hmetadata hvs]
  · exact congrArg CacheKey.digest (CacheKey.of_congr_mem hes d config mode renderer)

/-- A page that uses two names. -/
def pairedPage : Document := ⟨"/p/a.md", "---\nusing: [B, A]\n---\nx\n"⟩

/-- The page with its names the other way round, and one of them twice. -/
def repeatedPage : Document := ⟨"/p/a.md", "---\nusing: [A, B, A]\n---\nx\n"⟩

/-- An import file beside the page. -/
def besideEntry : ImportEntry := ⟨"/p/_i.razor", "@using Z\n@using C\n"⟩

/-- An import file above it. -/
def aboveEntry : ImportEntry := ⟨"/_i.razor", "@using C\n"⟩

private theorem mem_repeated {α : Type} (a b x : α) : x ∈ [a, b, a] ↔ x ∈ [b, a] := by
  simp only [List.mem_cons, List.not_mem_nil, or_false]
  tauto

attribute [local instance] SetOrder.standard

/-- Both pages become the same unit, whichever import file is listed first, or twice. -/
theorem using_lines_paired :
    (transform repeatedPage [aboveEntry, besideEntry, aboveEntry] (.make "" "/p" "B") .full .ok).map
        (fun u => (u.name, u.text)) =
      (transform pairedPage [besideEntry, aboveEntry] (.make "" "/p" "B") .full .ok).map
        fun u => (u.name, u.text) := by
  have hspec : (Metadata.extract pairedPage).toOption.map (·.metadata) =
        some { imports := ["B", "A"] } ∧
      (Metadata.extract repeatedPage).toOption.map (·.metadata) =
        some { imports := ["A", "B", "A"] } ∧
      (Header.split repeatedPage.text).2 = (Header.split pairedPage.text).2 := by
    decide +kernel
  obtain ⟨hpaired, hrepeated, hbody⟩ := hspec
  cases hx : Metadata.extract pairedPage with
  | error f => rw [hx] at hpaired; cases hpaired
  | ok x =>
    cases hx' : Metadata.extract repeatedPage with
    | error f => rw [hx'] at hrepeated; cases hrepeated
    | ok x' =>
      rw [hx] at hpaired
      rw [hx'] at hrepeated
      have hm : x.metadata = { imports := ["B", "A"] } := Option.some.inj hpaired
      have hm' : x'.metadata = { imports := ["A", "B", "A"] } := Option.some.inj hrepeated
      have hnames : ∀ v, v ∈ ["A", "B", "A"] ↔ v ∈ x.metadata.imports := by
        intro v
        rw [hm]
        exact mem_repeated "A" "B" v
      have hmetadata : x'.metadata = { x.metadata with imports := ["A", "B", "A"] } := by
        rw [hm, hm']
      obtain ⟨-, -, -, -, hset⟩ := using_lines pairedPage {} [besideEntry, aboveEntry]
        (.make "" "/p" "B") .full .ok [] "gfm-like"
      obtain ⟨-, -, hwritten, -⟩ := hset _ (mem_repeated aboveEntry besideEntry)
      exact hwritten repeatedPage x x' _ rfl hbody hx hx' hmetadata hnames

end GeneratedUnit

end Pageworks
