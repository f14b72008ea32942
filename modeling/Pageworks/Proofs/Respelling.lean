import Mathlib.Data.List.Forall2
import Pageworks.CacheKey
import Pageworks.Proofs.GeneratedUnit
import Pageworks.Proofs.Path

/-!
# Paths written with other separators

The slash, the backslash and the colon separate alike.  A path in which some of them stand for
others has the same form with slashes, and everything that is made from a document's path, from the
paths of import files and from the project root is made from that form: the names of the unit and
the class, the namespace, which import files govern the document, and the digest of its key.

## Main definitions

* `Path.Respelled p q` — the paths agree but for separators, each in place of another one.
* `Import.select keep es` — the entries at the positions that are kept.

## Main results

* `Path.Respelled.slashed_eq` — **paths that are respelled have the same form with slashes**.
* `GeneratedUnit.respelled` — **separators make no difference** to a unit, to the entries that govern
  it or to the digest of its key.
-/

namespace Pageworks

/-- The paths agree but for separators: where they differ, each has one. -/
def Path.Respelled (p q : String) : Prop :=
  List.Forall₂ (fun a b => a = b ∨ Path.isSeparator a = true ∧ Path.isSeparator b = true)
    p.toList q.toList

instance (p q : String) : Decidable (Path.Respelled p q) :=
  decidable_of_iff (p.toList.length = q.toList.length ∧ ∀ x ∈ p.toList.zip q.toList,
    x.1 = x.2 ∨ Path.isSeparator x.1 = true ∧ Path.isSeparator x.2 = true)
    (List.forall₂_iff_zip.trans
      (and_congr_right fun _ => ⟨fun h _ hx => h hx, fun h a b hab => h (a, b) hab⟩)).symm

/-- The entries say the same, and their paths agree but for separators. -/
structure ImportEntry.Respelled (e f : ImportEntry) : Prop where
  path : Path.Respelled e.path f.path
  text : e.text = f.text

/-- The entries at the positions that are kept. -/
def Import.select (keep : List Bool) (es : List ImportEntry) : List ImportEntry :=
  ((keep.zip es).filter Prod.fst).map Prod.snd

/-! ### The form with slashes -/

section

variable {p q root root' : String}

theorem Path.Respelled.slashed_eq (h : Path.Respelled p q) : Path.slashed p = Path.slashed q := by
  have hmap : p.toList.map slashOf = q.toList.map slashOf := by
    unfold Path.Respelled at h
    generalize p.toList = as at h ⊢
    generalize q.toList = bs at h ⊢
    induction h with
    | nil => rfl
    | cons hab _ ih =>
      rw [List.map_cons, List.map_cons, ih]
      rcases hab with rfl | ⟨ha, hb⟩
      · rfl
      · rw [slashOf, slashOf, if_pos ha, if_pos hb]
  exact String.toList_inj.mp (by rw [Path.slashed_toList, Path.slashed_toList, hmap])

theorem Path.parent?_congr (h : Path.slashed p = Path.slashed q) :
    Path.parent? p = Path.parent? q := by
  unfold Path.parent?
  rw [h]

theorem Component.unitName_root_congr (h : Path.slashed root = Path.slashed root')
    (document : String) : Component.unitName document root = Component.unitName document root' := by
  unfold Component.unitName
  rw [h]

theorem Namespace.resolve_root_congr (h : Path.slashed root = Path.slashed root')
    (document rootNamespace : String) (override : Option String) :
    Namespace.resolve document root rootNamespace override =
      Namespace.resolve document root' rootNamespace override := by
  unfold Namespace.resolve Namespace.suffix
  rw [h]

end

/-! ### Governing entries -/

namespace Import

variable {es fs : List ImportEntry} {document document' : String}

/-- A filter keeps the positions where it holds. -/
theorem select_map (f : ImportEntry → Bool) (es : List ImportEntry) :
    select (es.map f) es = es.filter f := by
  unfold select
  induction es with
  | nil => rfl
  | cons e es ih =>
    rw [List.map_cons, List.zip_cons_cons, List.filter_cons, List.filter_cons]
    cases hf : f e with
    | true => rw [if_pos rfl, if_pos rfl, List.map_cons, ih]
    | false => rw [if_neg Bool.false_ne_true, if_neg Bool.false_ne_true, ih]

/-- What is selected from entries that correspond corresponds. -/
theorem forall₂_select {R : ImportEntry → ImportEntry → Prop} (h : List.Forall₂ R es fs)
    (keep : List Bool) : List.Forall₂ R (select keep es) (select keep fs) := by
  unfold select
  induction h generalizing keep with
  | nil => rw [List.zip_nil_right]; exact .nil
  | cons hef _ ih =>
    cases keep with
    | nil => exact .nil
    | cons k keep =>
      rw [List.zip_cons_cons, List.zip_cons_cons, List.filter_cons, List.filter_cons]
      cases k with
      | true => exact .cons hef (ih keep)
      | false => exact ih keep

/-- **Entries that are respelled govern at the same positions**, or the document has no directory
under either path. -/
theorem applicable_respelled (hpath : Path.slashed document = Path.slashed document')
    (h : List.Forall₂ ImportEntry.Respelled es fs) :
    (∃ e f, applicable es document = .error e ∧ applicable fs document' = .error f) ∨
      ∃ keep : List Bool, keep.length = es.length ∧ applicable es document = .ok (select keep es) ∧
        applicable fs document' = .ok (select keep fs) := by
  unfold applicable
  rw [Path.parent?_congr hpath]
  cases Path.parent? document' with
  | none => exact .inl ⟨_, _, rfl, rfl⟩
  | some dir =>
    refine .inr ⟨es.map fun e => Path.isWithin dir e.directory, List.length_map _, ?_, ?_⟩
    · rw [select_map]
    · have hkeep : (es.map fun e => Path.isWithin dir e.directory) =
          fs.map fun f => Path.isWithin dir f.directory := by
        induction h with
        | nil => rfl
        | cons hef _ ih =>
          rw [List.map_cons, List.map_cons, ih, ImportEntry.directory, ImportEntry.directory,
            Path.directory_congr hef.path.slashed_eq]
      rw [hkeep, select_map]

end Import

/-! ### Units and keys -/

section

variable {d d' : Document} {es fs : List ImportEntry} {config : ProjectConfig} {root : String}

theorem CacheKey.of_respelled (hpath : Path.slashed d.path = Path.slashed d'.path)
    (htext : d.text = d'.text) (h : List.Forall₂ ImportEntry.Respelled es fs)
    (config : ProjectConfig) (mode : Mode) (renderer : String) :
    CacheKey.of d config es mode renderer = CacheKey.of d' config fs mode renderer := by
  have hprints : es.map ImportEntry.fingerprint = fs.map ImportEntry.fingerprint := by
    induction h with
    | nil => rfl
    | cons hef _ ih =>
      rw [List.map_cons, List.map_cons, ih, ImportEntry.fingerprint, ImportEntry.fingerprint,
        hef.path.slashed_eq, hef.text]
  unfold CacheKey.of Document.contentHash
  rw [hpath, htext, hprints]

namespace GeneratedUnit

/-- Of the project root only the form with slashes enters a unit. -/
theorem transform_root_congr [SetOrder] (h : Path.slashed config.projectRoot = Path.slashed root)
    (d : Document) (es : List ImportEntry) (mode : Mode) (render : Renderer) :
    transform d es config mode render =
      transform d es { config with projectRoot := root } mode render := by
  have hbase : ∀ m, baseType m { config with projectRoot := root } = baseType m config :=
    fun _ => rfl
  unfold transform generate
  simp only [hbase, Component.unitName_root_congr h, Namespace.resolve_root_congr h]

/-- **Separators make no difference.**  With other separators in the paths of a document and of import
files, and in the project root, there is a unit if and only if there was one, and it has the same name
and text.  The import files that govern the document stand at the same positions, and with
the configuration left as it is the key has the same digest. -/
theorem respelled [SetOrder] (hpath : Path.Respelled d.path d'.path) (htext : d.text = d'.text)
    (hes : List.Forall₂ ImportEntry.Respelled es fs)
    (hroot : Path.Respelled config.projectRoot root) (mode : Mode) (render : Renderer)
    (renderer : String) :
    Option.Rel Agree (transform d es config mode render).toOption
        (transform d' fs { config with projectRoot := root } mode render).toOption ∧
      ((∃ e f, Import.applicable es d.path = .error e ∧
          Import.applicable fs d'.path = .error f) ∨
        ∃ keep : List Bool, keep.length = es.length ∧
          Import.applicable es d.path = .ok (Import.select keep es) ∧
          Import.applicable fs d'.path = .ok (Import.select keep fs) ∧
          (CacheKey.of d config (Import.select keep es) mode renderer).digest =
            (CacheKey.of d' config (Import.select keep fs) mode renderer).digest) := by
  rw [← transform_root_congr hroot.slashed_eq]
  rcases Import.applicable_respelled hpath.slashed_eq hes with
    ⟨e, f, he, hf⟩ | ⟨keep, hlength, he, hf⟩
  · refine ⟨?_, .inl ⟨e, f, he, hf⟩⟩
    -- without a directory no unit is generated, whatever the header says
    have hnone : ∀ (x : Document) (gs : List ImportEntry) (g : PathError),
        Import.applicable gs x.path = .error g →
          (transform x gs config mode render).toOption = none := by
      intro x gs g hg
      unfold transform
      rw [hg]
      cases Metadata.extract x <;> rfl
    rw [hnone d es e he, hnone d' fs f hf]
    exact .none
  · have hselect := Import.forall₂_select hes keep
    refine ⟨?_, .inr ⟨keep, hlength, he, hf, ?_⟩⟩
    · refine transform_congr hpath.slashed_eq htext he hf (fun t => ?_) config mode render
      have htexts : (Import.select keep es).map ImportEntry.text =
          (Import.select keep fs).map ImportEntry.text := by
        generalize Import.select keep es = as at hselect
        generalize Import.select keep fs = bs at hselect
        induction hselect with
        | nil => rfl
        | cons h _ ih => rw [List.map_cons, List.map_cons, ih, h.text]
      rw [htexts]
    · rw [CacheKey.of_respelled hpath.slashed_eq htext hselect]

attribute [local instance] SetOrder.standard

/-- The unit of a page with an import file, whose paths are written as given. -/
def spelled (page imports root : String) : Except GenerationError GeneratedUnit :=
  transform ⟨page, "x\n"⟩ [⟨imports, "@using A\n"⟩] ⟨"", root, "B"⟩ .declaration .ok

/-- A page has a unit, and the same one with a mix of other separators. -/
theorem respelled_page : ∃ u v,
    spelled "/p/n/a.md" "/p/_Imports.razor" "/p" = .ok u ∧
      spelled "\\p:n/a.md" ":p\\_Imports.razor" ":p" = .ok v ∧ u.name = v.name ∧ u.text = v.text := by
  have hisok : (spelled "/p/n/a.md" "/p/_Imports.razor" "/p").isOk = true := by decide +kernel
  have hes : List.Forall₂ ImportEntry.Respelled [⟨"/p/_Imports.razor", "@using A\n"⟩]
      [⟨":p\\_Imports.razor", "@using A\n"⟩] := .cons ⟨by decide, rfl⟩ .nil
  obtain ⟨hagree, -⟩ := @respelled ⟨"/p/n/a.md", "x\n"⟩ ⟨"\\p:n/a.md", "x\n"⟩ _ _
    ⟨"", "/p", "B"⟩ ":p" .standard (by decide) rfl hes (by decide) .declaration .ok ""
  replace hagree : Option.Rel Agree (spelled "/p/n/a.md" "/p/_Imports.razor" "/p").toOption
    (spelled "\\p:n/a.md" ":p\\_Imports.razor" ":p").toOption := hagree
  cases hu : spelled "/p/n/a.md" "/p/_Imports.razor" "/p" with
  | error f => rw [hu] at hisok; cases hisok
  | ok u =>
    cases hv : spelled "\\p:n/a.md" ":p\\_Imports.razor" ":p" with
    | error f => rw [hu, hv] at hagree; cases hagree
    | ok v =>
      rw [hu, hv] at hagree
      cases hagree with
      | some h => exact ⟨u, v, rfl, rfl, h.name, h.text⟩

end GeneratedUnit

end

end Pageworks
