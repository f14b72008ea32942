import Mathlib.Data.List.Nodup
import Pageworks.Settings

/-!
# Settings from three sources

A field of the settings is set by the command line, the environment or the configuration file, and
of these the first one that says something counts.  Each has its own way to say nothing: the command
line says null or leaves the field out, a variable is empty or unset, and the file has no entry.  A
null in the file says something.

The ten fields are one definition with parameters, `Settings.Field`: a name, what is made of a
value, and what settings hold.  Every field is read by itself, and `Settings.ofValues_cases` says so
once.  What follows about two loads goes through the value that counts: where it is the same, the
field reads the same.

## Main definitions

* `SettingsSources.Holds` — the entries of the configuration file.
* `SettingsSources.Counts` — the value of a field that counts.
* `SettingsSources.Agree`, `SettingsSources.DifferAt` — sources that say the same about a field as
  far as it counts, and sources that differ in what they say about one field.
* `Settings.Field`, `Settings.fields` — the fields, in order.
* `Settings.Outcome` — what loading comes to.

## Main results

* `SettingsSources.counts_iff` — there is one value that counts, or none.
* `Settings.ofValues_cases` — **every field is read by itself.**
* `Settings.exists_check_standard` — what a field holds unless set is something that it takes.
* `Settings.mem_faults_iff`, `Settings.faults_sublist` — the fields that are told, in order.
* `Settings.load_reads` — **the first source that says something sets the field**, and nothing else
  does.
-/

namespace Pageworks

namespace SettingsSources

variable {s s' : SettingsSources} {es es' : List (Value × Value)} {field : String} {v : Value}
  {raw : Option Value}

/-! ### The value that counts -/

/-- The configuration file is absent or empty, or it holds a mapping with these entries, whose keys
are texts. -/
inductive Holds (s : SettingsSources) : List (Value × Value) → Prop
  | absent (h : s.file = none) : Holds s []
  | empty {text : String} (h : s.file = some text) (hload : Yaml.load text = .ok .null) : Holds s []
  | mapping {text : String} {es : List (Value × Value)} (h : s.file = some text)
    (hload : Yaml.load text = .ok (.mapping es)) (hkeys : ∀ e ∈ es, e.1.isTextual = true) :
    Holds s es

/-- The command line says something other than null about the field. -/
def Overrides (s : SettingsSources) (field : String) (v : Value) : Prop :=
  s.overrides.lookup field = some v ∧ v ≠ .null

/-- The variable of the field is set, and not to the empty text. -/
def Exports (s : SettingsSources) (field text : String) : Prop :=
  s.environment.lookup (variableOf field) = some text ∧ text ≠ ""

/-- The value of a field that counts, if there is one: what the command line says, or else the
environment, or else the configuration file. -/
inductive Counts (s : SettingsSources) (es : List (Value × Value)) (field : String) :
    Option Value → Prop
  | override {v : Value} (h : s.Overrides field v) : Counts s es field (some v)
  | environment {text : String} (hoverride : ∀ v, ¬ s.Overrides field v)
    (h : s.Exports field text) : Counts s es field (some (.text text))
  | file (hoverride : ∀ v, ¬ s.Overrides field v) (hexport : ∀ text, ¬ s.Exports field text) :
    Counts s es field (Value.lookup? field es)

theorem Holds.entries_eq (h : s.Holds es) : s.entries = .ok es := by
  cases h with
  | absent h =>
    rw [entries, h]
  | empty h hload =>
    rw [entries, h]
    simp only [hload]
    rfl
  | mapping h hload hkeys =>
    rw [entries, h]
    simp only [hload]
    cases es with
    | nil =>
      -- a mapping without entries is taken for nothing, as the value of an empty file is
      rfl
    | cons e es =>
      have hall : ((e :: es).all fun e => e.1.isTextual) = true := List.all_eq_true.mpr hkeys
      simp only [Value.isFalse, List.isEmpty_cons, Bool.false_eq_true, if_false, hall, if_true]

theorem override?_eq_some_iff : s.override? field = some v ↔ s.Overrides field v := by
  rw [override?, Overrides]
  cases s.overrides.lookup field with
  | none => simp
  | some w =>
    constructor
    · intro h
      cases w with
      | null => cases h
      | _ =>
        obtain rfl := Option.some.inj h
        exact ⟨rfl, nofun⟩
    · rintro ⟨hw, hne⟩
      obtain rfl := Option.some.inj hw
      cases w with
      | null => exact absurd rfl hne
      | _ => rfl

theorem override?_eq_none_iff : s.override? field = none ↔ ∀ v, ¬ s.Overrides field v := by
  simp only [Option.eq_none_iff_forall_ne_some, ne_eq, override?_eq_some_iff]

theorem inEnvironment?_eq_some_iff :
    s.inEnvironment? field = some v ↔ ∃ text, s.Exports field text ∧ v = .text text := by
  rw [inEnvironment?]
  simp only [Exports]
  cases s.environment.lookup (variableOf field) with
  | none => simp
  | some text =>
    by_cases hempty : text = ""
    · simp [hempty]
    · have hfull : text.isEmpty = false := by simpa using hempty
      simp only [hfull, Bool.false_eq_true, if_false, Option.some.injEq]
      constructor
      · rintro rfl
        exact ⟨text, ⟨rfl, hempty⟩, rfl⟩
      · rintro ⟨_, ⟨rfl, -⟩, rfl⟩
        rfl

theorem inEnvironment?_eq_none_iff :
    s.inEnvironment? field = none ↔ ∀ text, ¬ s.Exports field text := by
  simp only [Option.eq_none_iff_forall_ne_some, ne_eq, inEnvironment?_eq_some_iff]
  constructor
  · intro h text htext
    exact h _ ⟨text, htext, rfl⟩
  · rintro h v ⟨text, htext, -⟩
    exact h text htext

/-- **There is one value that counts**, or none, for every field. -/
theorem counts_iff : s.Counts es field raw ↔ s.effective? es field = raw := by
  constructor
  · intro h
    cases h with
    | override h => rw [effective?, override?_eq_some_iff.mpr h]
    | environment hoverride h =>
      rw [effective?, override?_eq_none_iff.mpr hoverride,
        inEnvironment?_eq_some_iff.mpr ⟨_, h, rfl⟩]
    | file hoverride hexport =>
      rw [effective?, override?_eq_none_iff.mpr hoverride, inEnvironment?_eq_none_iff.mpr hexport]
  · intro h
    subst h
    rw [effective?]
    -- each source is asked where the ones in front of it say nothing
    cases hoverride : s.override? field with
    | some v => exact .override (override?_eq_some_iff.mp hoverride)
    | none =>
      have hnone := override?_eq_none_iff.mp hoverride
      cases hexport : s.inEnvironment? field with
      | some v =>
        obtain ⟨text, htext, rfl⟩ := inEnvironment?_eq_some_iff.mp hexport
        exact .environment hnone htext
      | none => exact .file hnone (inEnvironment?_eq_none_iff.mp hexport)

/-! ### Two sets of sources -/

/-- Both sources say the same about the field as far as it counts: what stands behind something that
counts is not compared. -/
structure Agree (s : SettingsSources) (es : List (Value × Value)) (s' : SettingsSources)
    (es' : List (Value × Value)) (field : String) : Prop where
  overrides : ∀ v, s'.Overrides field v ↔ s.Overrides field v
  environment : (∀ v, ¬ s.Overrides field v) → ∀ text, s'.Exports field text ↔ s.Exports field text
  file : (∀ v, ¬ s.Overrides field v) → (∀ text, ¬ s.Exports field text) →
    Value.lookup? field es' = Value.lookup? field es

/-- Nothing is changed but what is said about the field. -/
structure DifferAt (s : SettingsSources) (es : List (Value × Value)) (s' : SettingsSources)
    (es' : List (Value × Value)) (field : String) : Prop where
  overrides : ∀ name, name ≠ field → s'.overrides.lookup name = s.overrides.lookup name
  environment : ∀ name, name ≠ variableOf field →
    s'.environment.lookup name = s.environment.lookup name
  file : ∀ name, name ≠ field → Value.lookup? name es' = Value.lookup? name es

theorem Agree.effective?_eq (h : Agree s es s' es' field) :
    s'.effective? es' field = s.effective? es field := by
  have hcounts : s.Counts es field (s.effective? es field) := counts_iff.mpr rfl
  refine counts_iff.mp ?_
  -- what counts is followed to the source it comes from
  generalize s.effective? es field = raw at hcounts ⊢
  cases hcounts with
  | override hv => exact .override ((h.overrides _).mpr hv)
  | environment hoverride htext =>
    exact .environment (fun v hv => hoverride v ((h.overrides v).mp hv))
      ((h.environment hoverride _).mpr htext)
  | file hoverride hexport =>
    rw [← h.file hoverride hexport]
    exact .file (fun v hv => hoverride v ((h.overrides v).mp hv))
      fun text htext => hexport text ((h.environment hoverride text).mp htext)

/-- No two fields have one variable. -/
theorem variableOf_ne {name : String} (hfield : field ∈ Settings.fieldNames)
    (hname : name ∈ Settings.fieldNames) (h : name ≠ field) :
    variableOf name ≠ variableOf field := by
  have hnodup : (Settings.fieldNames.map variableOf).Nodup := by decide +kernel
  exact fun hvariable => h (List.inj_on_of_nodup_map hnodup hname hfield hvariable)

/-- What is said about one field is not said about another one. -/
theorem DifferAt.agree {name : String} (h : DifferAt s es s' es' field)
    (hfield : field ∈ Settings.fieldNames) (hname : name ∈ Settings.fieldNames)
    (hne : name ≠ field) : Agree s es s' es' name := by
  constructor
  · intro v
    rw [Overrides, Overrides, h.overrides name hne]
  · intro _ text
    rw [Exports, Exports, h.environment _ (variableOf_ne hfield hname hne)]
  · intro _ _
    exact h.file name hne

end SettingsSources

namespace Settings

/-! ### The fields -/

/-- A field of the settings. -/
structure Field where
  /-- What the field holds. -/
  Kind : Type
  /-- The name of the field. -/
  name : String
  /-- What the field makes of a value. -/
  check : Value → Except SettingFault Kind
  /-- What settings hold in the field. -/
  get : Settings → Kind

/-- A field of a text. -/
def Field.text (name : String) (get : Settings → String) : Field := ⟨String, name, textField, get⟩

/-- The field of the mode. -/
def modeField : Field := ⟨Mode, "mode", fun v => modeOr .full (some v), mode⟩

/-- The field of the workers. -/
def workersField : Field := ⟨Int, "max_workers", fun v => workersOr 4 (some v), workers⟩

/-- The fields, in order. -/
def fields : List Field := [
  .text "app_name" appName, .text "db_url" databaseUrl, .text "root_namespace" rootNamespace,
  .text "project_root" projectRoot, .text "default_base_type" defaultBaseType,
  .text "imports_file" importsFile, .text "output_dir" outputDirectory,
  .text "parser_config" preset, modeField, workersField]

/-- The value of a field, or what it holds unless set. -/
def Field.read (f : Field) : Option Value → Except SettingFault f.Kind
  | none => .ok (f.get {})
  | some v => f.check v

theorem map_name_fields : fields.map Field.name = fieldNames := rfl

variable {given : String → Option Value} {t : Settings}

/-- What is wrong with the values that are given. -/
def faults (given : String → Option Value) : List FieldFault :=
  fields.flatMap fun f => faultOf f.name (f.read (given f.name))

theorem Field.read_text (name : String) (get : Settings → String) (raw : Option Value) :
    (Field.text name get).read raw = textOr (get {}) raw := by
  cases raw with
  | none => rfl
  | some v => rfl

theorem read_modeField (raw : Option Value) : modeField.read raw = modeOr .full raw := by
  cases raw with
  | none => rfl
  | some v => rfl

theorem read_workersField (raw : Option Value) : workersField.read raw = workersOr 4 raw := by
  cases raw with
  | none => rfl
  | some v => rfl

/-- **What a field holds unless set is something that it takes.** -/
theorem exists_check_standard : ∀ f ∈ fields, ∃ v, f.check v = .ok (f.get {}) := by
  have htext : ∀ (name : String) (get : Settings → String),
      ∃ v, (Field.text name get).check v = .ok ((Field.text name get).get {}) :=
    fun _ get => ⟨.text (get {}), rfl⟩
  simp only [fields, List.forall_mem_cons]
  refine ⟨htext _ _, htext _ _, htext _ _, htext _ _, htext _ _, htext _ _, htext _ _, htext _ _,
    ⟨.text "full", rfl⟩, ⟨.int 4, rfl⟩, nofun⟩

/-- Settings are known by their fields. -/
theorem eq_of_get_eq {t t' : Settings} (h : ∀ f ∈ fields, f.get t = f.get t') : t = t' := by
  simp only [fields, List.forall_mem_cons] at h
  obtain ⟨ha, hd, hn, hr, hb, hi, ho, hp, hm, hw, -⟩ := h
  cases t
  cases t'
  congr

/-- **Every field is read by itself.**  Either each of them reads something and the settings hold
that, or one of them does not and all that do not are told. -/
theorem ofValues_cases (given : String → Option Value) :
    (∃ t, ofValues given = .ok t ∧ ∀ f ∈ fields, f.read (given f.name) = .ok (f.get t)) ∨
      ofValues given = .error (faults given) ∧
        ∃ f ∈ fields, ∀ a, f.read (given f.name) ≠ .ok a := by
  unfold ofValues
  dsimp only
  split
  · refine .inl ⟨_, rfl, ?_⟩
    simp only [fields, List.forall_mem_cons, Field.read_text, read_modeField, read_workersField]
    exact ⟨‹_›, ‹_›, ‹_›, ‹_›, ‹_›, ‹_›, ‹_›, ‹_›, ‹_›, ‹_›, nofun⟩
  · next hnot =>
    -- no ten readings succeed together, so one of them fails
    refine .inr ⟨?_, ?_⟩
    · simp only [faults, fields, List.flatMap_cons, List.flatMap_nil, List.append_nil,
        List.append_assoc, Field.read_text, read_modeField, read_workersField]
      rfl
    · by_contra hall
      have hread : ∀ f ∈ fields, ∃ a, f.read (given f.name) = .ok a := by simpa using hall
      simp only [fields, List.forall_mem_cons, Field.read_text, read_modeField,
        read_workersField] at hread
      obtain ⟨⟨a, ha⟩, ⟨d, hd⟩, ⟨n, hn⟩, ⟨r, hr⟩, ⟨b, hb⟩, ⟨i, hi⟩, ⟨o, ho⟩, ⟨p, hp⟩, ⟨m, hm⟩,
        ⟨w, hw⟩, -⟩ := hread
      exact hnot a d n r b i o p m w ha hd hn hr hb hi ho hp hm hw

theorem ofValues_eq_ok_iff :
    ofValues given = .ok t ↔ ∀ f ∈ fields, f.read (given f.name) = .ok (f.get t) := by
  rcases ofValues_cases given with ⟨t', ht', hread⟩ | ⟨herror, f, hf, hnot⟩
  · rw [ht', Except.ok.injEq]
    constructor
    · rintro rfl
      exact hread
    · intro h
      exact eq_of_get_eq fun f hf => Except.ok.inj ((hread f hf).symm.trans (h f hf))
  · simp only [herror, reduceCtorEq, false_iff]
    exact fun h => hnot _ (h f hf)

/-- There are settings if and only if every field reads something. -/
theorem exists_ofValues_iff :
    (∃ t, ofValues given = .ok t) ↔ ∀ f ∈ fields, ∃ a, f.read (given f.name) = .ok a := by
  rcases ofValues_cases given with ⟨t, ht, hread⟩ | ⟨herror, f, hf, hnot⟩
  · exact ⟨fun _ f hf => ⟨_, hread f hf⟩, fun _ => ⟨t, ht⟩⟩
  · simp only [herror, reduceCtorEq, exists_false, false_iff]
    intro h
    obtain ⟨a, ha⟩ := h f hf
    exact hnot a ha

theorem faults_of_ofValues {fs : List FieldFault} (h : ofValues given = .error fs) :
    fs = faults given := by
  rcases ofValues_cases given with ⟨t, ht, -⟩ | ⟨herror, -⟩
  · rw [ht] at h
    cases h
  · exact Except.error.inj (h.symm.trans herror)

theorem eq_of_name_eq {f g : Field} (hf : f ∈ fields) (hg : g ∈ fields) (h : f.name = g.name) :
    f = g := by
  have hnodup : (fields.map Field.name).Nodup := by rw [map_name_fields]; decide
  exact List.inj_on_of_nodup_map hnodup hf hg h

/-- **A field is told if and only if it does not read its value.** -/
theorem mem_faults_iff {f : Field} (hf : f ∈ fields) {fault : SettingFault} :
    ⟨f.name, fault⟩ ∈ faults given ↔ f.read (given f.name) = .error fault := by
  have hmem : ∀ g : Field, ⟨f.name, fault⟩ ∈ faultOf g.name (g.read (given g.name)) ↔
      g.name = f.name ∧ g.read (given g.name) = .error fault := by
    intro g
    cases g.read (given g.name) with
    | ok a => simp [faultOf]
    | error e => simp [faultOf, eq_comm]
  simp only [faults, List.mem_flatMap, hmem]
  -- a fault has the name of its field, and no two fields have one name
  constructor
  · rintro ⟨g, hg, hname, hread⟩
    obtain rfl := eq_of_name_eq hg hf hname
    exact hread
  · intro hread
    exact ⟨f, hf, rfl, hread⟩

/-- Faults are told in the order of the fields, at most one for each. -/
theorem faults_sublist (given : String → Option Value) :
    ((faults given).map FieldFault.field).Sublist fieldNames := by
  rw [← map_name_fields, faults]
  -- every field adds its name or nothing
  induction fields with
  | nil => exact List.Sublist.slnil
  | cons f fs ih =>
    rw [List.flatMap_cons, List.map_append, List.map_cons]
    cases f.read (given f.name) with
    | ok a => exact ih.cons f.name
    | error e => exact ih.cons_cons f.name

theorem ofValues_congr {given' : String → Option Value}
    (h : ∀ name ∈ fieldNames, given' name = given name) : ofValues given' = ofValues given := by
  simp only [fieldNames, List.forall_mem_cons] at h
  obtain ⟨ha, hd, hn, hr, hb, hi, ho, hp, hm, hw, -⟩ := h
  unfold ofValues
  rw [ha, hd, hn, hr, hb, hi, ho, hp, hm, hw]

/-! ### Loading -/

variable {s s' : SettingsSources} {es es' : List (Value × Value)} {f : Field}

/-- The field takes the value. -/
def Field.Accepts (f : Field) (v : Value) : Prop := ∃ a, f.check v = .ok a

/-- What loading comes to: it succeeds if and only if every field takes the value that counts; the
settings then hold these values, and what they hold unless set where there is none; and if it fails
it tells the fields that do not take theirs, in order. -/
structure Outcome (s : SettingsSources) (es : List (Value × Value))
    (r : Except SettingsError Settings) : Prop where
  succeeds : (∃ t, r = .ok t) ↔ ∀ f ∈ fields, ∀ v, s.Counts es f.name (some v) → f.Accepts v
  holds : ∀ t, r = .ok t → ∀ f ∈ fields,
    (∀ v, s.Counts es f.name (some v) → f.check v = .ok (f.get t)) ∧
    (s.Counts es f.name none → f.get t = f.get {})
  fails : ∀ e, r = .error e → ∃ fs, e = .fields fs ∧
    (fs.map FieldFault.field).Sublist fieldNames ∧
    ∀ f ∈ fields, ∀ fault, ⟨f.name, fault⟩ ∈ fs ↔
      ∃ v, s.Counts es f.name (some v) ∧ f.check v = .error fault

/-- The field is told with the fault. -/
def Reports (r : Except SettingsError Settings) (name : String) (fault : SettingFault) : Prop :=
  ∃ fs, r = .error (.fields fs) ∧ ⟨name, fault⟩ ∈ fs

theorem load_of_holds (h : s.Holds es) :
    load s = (ofValues (s.effective? es)).mapError .fields := by
  rw [load, h.entries_eq]

theorem load_eq_ok_iff (h : s.Holds es) {t : Settings} :
    load s = .ok t ↔ ofValues (s.effective? es) = .ok t := by
  rw [load_of_holds h]
  cases ofValues (s.effective? es) with
  | ok t => simp [Except.mapError]
  | error fs => simp [Except.mapError]

theorem load_eq_error_iff (h : s.Holds es) {e : SettingsError} : load s = .error e ↔
    e = .fields (faults (s.effective? es)) ∧ ∀ t, load s ≠ .ok t := by
  rw [load_of_holds h]
  cases hvalues : ofValues (s.effective? es) with
  | ok t => simp [Except.mapError]
  | error fs =>
    rw [faults_of_ofValues hvalues]
    simp [Except.mapError, eq_comm]

theorem outcome_load (h : s.Holds es) : Outcome s es (load s) := by
  constructor
  · simp only [load_eq_ok_iff h, exists_ofValues_iff, SettingsSources.counts_iff]
    refine forall₂_congr fun f hf => ?_
    -- without a value there is nothing to take
    cases s.effective? es f.name with
    | none => simp [Field.read]
    | some v => simp [Field.read, Field.Accepts]
  · intro t ht f hf
    have hread := ofValues_eq_ok_iff.mp ((load_eq_ok_iff h).mp ht) f hf
    simp only [SettingsSources.counts_iff]
    constructor
    · intro v hv
      rw [hv] at hread
      exact hread
    · intro hnone
      rw [hnone] at hread
      exact (Except.ok.inj hread).symm
  · intro e he
    obtain ⟨rfl, -⟩ := (load_eq_error_iff h).mp he
    refine ⟨_, rfl, faults_sublist _, fun f hf fault => ?_⟩
    rw [mem_faults_iff hf]
    simp only [SettingsSources.counts_iff]
    cases s.effective? es f.name with
    | none => simp [Field.read]
    | some v => simp [Field.read]

theorem mem_fieldNames (hf : f ∈ fields) : f.name ∈ fieldNames := by
  rw [← map_name_fields]
  exact List.mem_map_of_mem hf

theorem reports_iff (h : s.Holds es) (hf : f ∈ fields) {fault : SettingFault} :
    Reports (load s) f.name fault ↔ f.read (s.effective? es f.name) = .error fault := by
  rw [← mem_faults_iff hf]
  constructor
  · rintro ⟨fs, hfs, hmem⟩
    obtain ⟨heq, -⟩ := (load_eq_error_iff h).mp hfs
    rwa [SettingsError.fields.inj heq] at hmem
  · intro hmem
    refine ⟨_, (load_eq_error_iff h).mpr ⟨rfl, fun t ht => ?_⟩, hmem⟩
    -- settings would hold what the field reads, but it reads nothing
    have hread := ofValues_eq_ok_iff.mp ((load_eq_ok_iff h).mp ht) f hf
    rw [(mem_faults_iff hf).mp hmem] at hread
    cases hread

/-- What counts for a field is all that the field depends on. -/
theorem load_congr (h : s.Holds es) (h' : s'.Holds es')
    (hagree : ∀ name ∈ fieldNames, s.Agree es s' es' name) : load s' = load s := by
  rw [load_of_holds h, load_of_holds h',
    ofValues_congr fun name hname => (hagree name hname).effective?_eq]

/-- **Every field is set by the first of its sources that says something**, and by nothing else.
The settings are loaded if and only if every field takes the value that counts for it, and the
fields that do not are told in order.  A value that stands behind one that counts makes no
difference, and neither does what is said about a field make one for any other field. -/
theorem load_reads (h : s.Holds es) :
    Outcome s es (load s) ∧
    (∀ s' es', s'.Holds es' → (∀ name ∈ fieldNames, s.Agree es s' es' name) →
      load s' = load s) ∧
    ∀ s' es' name, s'.Holds es' → name ∈ fieldNames → s.DifferAt es s' es' name →
      ∀ f ∈ fields, f.name ≠ name →
        (∀ t t', load s = .ok t → load s' = .ok t' → f.get t' = f.get t) ∧
        ∀ fault, Reports (load s') f.name fault ↔ Reports (load s) f.name fault := by
  refine ⟨outcome_load h, fun s' es' h' hagree => load_congr h h' hagree, ?_⟩
  intro s' es' name h' hname hdiffer f hf hne
  have hagree := hdiffer.agree hname (mem_fieldNames hf) hne
  constructor
  · intro t t' ht ht'
    have hread := ofValues_eq_ok_iff.mp ((load_eq_ok_iff h).mp ht) f hf
    have hread' := ofValues_eq_ok_iff.mp ((load_eq_ok_iff h').mp ht') f hf
    rw [hagree.effective?_eq, hread] at hread'
    exact (Except.ok.inj hread').symm
  · intro fault
    rw [reports_iff h hf, reports_iff h' hf, hagree.effective?_eq]

/-! ### Layers -/

/-- The environment covers the mode of the file, which is none; it gives a namespace that the
command line leaves alone, and a number of workers that the command line covers. -/
def layered : SettingsSources where
  file := some "mode: x"
  environment :=
    [("MDGEN_MODE", "declaration"), ("MDGEN_ROOT_NAMESPACE", "Site"), ("MDGEN_MAX_WORKERS", "0")]
  overrides := [("max_workers", .int 2), ("root_namespace", .null), ("db_url", .text "")]

/-- The same with other values where they are covered. -/
def recovered : SettingsSources where
  file := none
  environment :=
    [("MDGEN_MODE", "declaration"), ("MDGEN_ROOT_NAMESPACE", "Site"), ("MDGEN_MAX_WORKERS", "many")]
  overrides := layered.overrides

/-- The same with an empty variable, which covers nothing. -/
def uncovered : SettingsSources where
  file := layered.file
  environment :=
    [("MDGEN_MODE", ""), ("MDGEN_ROOT_NAMESPACE", "Site"), ("MDGEN_MAX_WORKERS", "0")]
  overrides := layered.overrides

/-- The entries of the file. -/
def layeredEntries : List (Value × Value) := [(.text "mode", .text "x")]

theorem yaml_load_layered : Yaml.load "mode: x" = .ok (.mapping layeredEntries) := by
  have htokens : Yaml.Token.ofText "mode: x".toList =
      ([.blockMappingStart, .key, .scalar "mode" true, .value, .scalar "x" true, .blockEnd,
        .streamEnd], none) := by
    decide +kernel
  rw [Yaml.load, htokens]
  rfl

theorem textual_layeredEntries : ∀ e ∈ layeredEntries, e.1.isTextual = true := by decide +kernel

theorem holds_layered : layered.Holds layeredEntries :=
  .mapping rfl yaml_load_layered textual_layeredEntries

theorem holds_uncovered : uncovered.Holds layeredEntries :=
  .mapping rfl yaml_load_layered textual_layeredEntries

/-- The covered values are told apart by no field. -/
theorem agree_recovered : ∀ name ∈ fieldNames, layered.Agree layeredEntries recovered [] name := by
  have henvironment : ∀ name ∈ fieldNames, name ≠ "max_workers" →
      recovered.environment.lookup (SettingsSources.variableOf name) =
        layered.environment.lookup (SettingsSources.variableOf name) := by
    decide +kernel
  have hfile : ∀ name ∈ fieldNames, name ≠ "mode" →
      (Value.lookup? name layeredEntries).isNone = true := by
    decide +kernel
  intro name hname
  refine ⟨fun v => Iff.rfl, fun hoverride text => ?_, fun _ hexport => ?_⟩
  · have hworkers : name ≠ "max_workers" := by
      rintro rfl
      exact hoverride (.int 2) ⟨rfl, nofun⟩
    rw [SettingsSources.Exports, SettingsSources.Exports, henvironment name hname hworkers]
  · have hmode : name ≠ "mode" := by
      rintro rfl
      refine hexport "declaration" ⟨?_, by decide⟩
      decide +kernel
    exact (Option.isNone_iff_eq_none.mp (hfile name hname hmode)).symm

theorem variableOf_mode : SettingsSources.variableOf "mode" = "MDGEN_MODE" := by decide +kernel

theorem differAt_uncovered :
    layered.DifferAt layeredEntries uncovered layeredEntries "mode" := by
  refine ⟨fun _ _ => rfl, fun name hname => ?_, fun _ _ => rfl⟩
  rw [variableOf_mode] at hname
  simp [layered, uncovered, List.lookup_cons, beq_false_of_ne hname]

theorem counts_uncovered : uncovered.Counts layeredEntries "mode" (some (.text "x")) := by
  have hlookup : Value.lookup? "mode" layeredEntries = some (.text "x") := by
    simp [Value.lookup?, layeredEntries, Value.isText]
  rw [← hlookup]
  refine .file ?_ ?_
  · rintro v ⟨hv, -⟩
    simp [layered, uncovered, List.lookup_cons] at hv
  · rintro text ⟨htext, hne⟩
    rw [variableOf_mode] at htext
    exact hne (Option.some.inj htext).symm

/-- What is covered makes no difference.  Once the mode of the file is uncovered, it is told; the
number of workers is still set and is not told. -/
theorem load_reads_layered :
    load layered = .ok
      { databaseUrl := "", rootNamespace := "Site", mode := .declaration, workers := 2 } ∧
    load recovered = load layered ∧
    Reports (load uncovered) "mode" .noPattern ∧
    ∀ fault, ¬ Reports (load uncovered) "max_workers" fault := by
  obtain ⟨-, hcovered, hapart⟩ := load_reads holds_layered
  obtain ⟨houtcome, -, -⟩ := load_reads holds_uncovered
  have hload : load layered = .ok
      { databaseUrl := "", rootNamespace := "Site", mode := .declaration, workers := 2 } := by
    refine (load_eq_ok_iff holds_layered).mpr ?_
    decide +kernel
  have hmode : modeField ∈ fields := by simp [fields]
  have hworkers : workersField ∈ fields := by simp [fields]
  refine ⟨hload, hcovered recovered [] (.absent rfl) agree_recovered, ?_, ?_⟩
  · cases hread : load uncovered with
    | ok t => cases (houtcome.holds t hread _ hmode).1 _ counts_uncovered
    | error e =>
      obtain ⟨fs, rfl, -, hfs⟩ := houtcome.fails e hread
      exact ⟨fs, rfl, (hfs _ hmode .noPattern).mpr ⟨_, counts_uncovered, rfl⟩⟩
  · intro fault
    have hsame := hapart uncovered layeredEntries "mode" holds_uncovered (by decide)
      differAt_uncovered _ hworkers (by decide)
    intro hreports
    obtain ⟨fs, hfs, -⟩ := (hsame.2 fault).mp hreports
    rw [hload] at hfs
    cases hfs

end Settings

end Pageworks
