import Pageworks.GeneratedUnit
import Pageworks.Proofs.Import

/-!
# What a unit depends on

A unit is generated from more than what its text shows: from a path, a header and a body, and from
the import files, a configuration, a mode and a renderer.  Of the path it sees only the form with
slashes, and of the import files only which texts there are.

## Main definitions

* `GeneratedUnit.Agree u v` — the units have the same name and text, and their diagnostics say the
  same, wherever the documents lie.

## Main results

* `GeneratedUnit.transform_congr` — **nothing else enters a unit**: documents of one text whose
  paths agree up to separators generate the same from import files of the same texts.
-/

namespace Pageworks

/-- What a diagnostic says, wherever its document lies. -/
def Diagnostic.said (g : Diagnostic) : Severity × String := (g.severity, g.message)

/-- The units have the same name and text, and their diagnostics say the same. -/
structure GeneratedUnit.Agree (u v : GeneratedUnit) : Prop where
  name : u.name = v.name
  text : u.text = v.text
  diagnostics : u.diagnostics.map Diagnostic.said = v.diagnostics.map Diagnostic.said

/-! ### Paths -/

section Paths

variable {p q : String}

theorem Path.directory_congr (h : Path.slashed p = Path.slashed q) :
    Path.directory p = Path.directory q := by
  rw [Path.directory, Path.parent?, Path.directory, Path.parent?, h]

theorem Path.stem_congr (h : Path.slashed p = Path.slashed q) : Path.stem p = Path.stem q := by
  delta Path.stem Path.fileName
  rw [h]

theorem Component.unitName_congr (h : Path.slashed p = Path.slashed q) (root : String) :
    Component.unitName p root = Component.unitName q root := by
  rw [Component.unitName, Component.unitName, h]

/-- Whether there is a class name, and which, is the same for paths that agree. -/
theorem Component.toOption_typeName_congr (h : Path.slashed p = Path.slashed q) :
    (Component.typeName p).toOption = (Component.typeName q).toOption := by
  rw [Component.typeName, Component.typeName, Path.stem_congr h]
  split <;> rfl

theorem Namespace.resolve_congr (h : Path.slashed p = Path.slashed q)
    (root rootNamespace : String) (override : Option String) :
    Namespace.resolve p root rootNamespace override =
      Namespace.resolve q root rootNamespace override := by
  cases override with
  | some name => rfl
  | none =>
    unfold Namespace.resolve Namespace.suffix
    rw [Path.directory_congr h]

end Paths

/-! ### Headers -/

variable {d e : Document}

/-- The path of a document is only told, and decides nothing. -/
theorem Metadata.extract_congr [SetOrder] (h : d.text = e.text) :
    Option.Rel
      (fun x y => x.metadata = y.metadata ∧
        x.diagnostics.map Diagnostic.said = y.diagnostics.map Diagnostic.said)
      (Metadata.extract d).toOption (Metadata.extract e).toOption := by
  rw [Metadata.extract, Metadata.extract, h]
  dsimp only
  cases Metadata.ofHeader (Header.split e.text).1 with
  | ok m => exact .some ⟨rfl, rfl⟩
  | error f =>
    dsimp only
    split
    · exact .some ⟨rfl, rfl⟩
    · exact .none

/-! ### Units -/

namespace GeneratedUnit

theorem members_congr (h : d.text = e.text) (mode : Mode) (render : Renderer) (m : Metadata) :
    members mode render d m = members mode render e m := by
  cases mode with
  | declaration => rfl
  | full => rw [members, members, markup, markup, h]

variable {imports imports' : List ImportEntry} {xs ys : List Diagnostic}

theorem usings_congr
    (himports : ∀ t, t ∈ imports.map ImportEntry.text ↔ t ∈ imports'.map ImportEntry.text)
    (m : Metadata) : usings m imports = usings m imports' :=
  Import.names_congr himports _

theorem generate_congr (hpath : Path.slashed d.path = Path.slashed e.path)
    (htext : d.text = e.text)
    (himports : ∀ t, t ∈ imports.map ImportEntry.text ↔ t ∈ imports'.map ImportEntry.text)
    (hxs : xs.map Diagnostic.said = ys.map Diagnostic.said) (m : Metadata)
    (config : ProjectConfig) (mode : Mode) (render : Renderer) :
    Option.Rel Agree (generate d m imports config mode render xs).toOption
      (generate e m imports' config mode render ys).toOption := by
  -- both paths give the same class name, or both give none
  have htype := Component.toOption_typeName_congr hpath
  delta generate
  rw [members_congr htext]
  cases hd : Component.typeName d.path with
  | error f =>
    cases he : Component.typeName e.path with
    | error g => exact .none
    | ok name => rw [hd, he] at htype; cases htype
  | ok name =>
    cases he : Component.typeName e.path with
    | error g => rw [hd, he] at htype; cases htype
    | ok name' =>
      rw [hd, he] at htype
      obtain rfl : name = name' := Option.some.inj htype
      cases members mode render e m with
      | error f => exact .none
      | ok ms =>
        refine .some ⟨Component.unitName_congr hpath _, ?_, hxs⟩
        dsimp only
        rw [Namespace.resolve_congr hpath, usings_congr himports]

/-- **Nothing else enters a unit**: documents of one text whose paths agree up to separators
generate the same from import files of the same texts. -/
theorem transform_congr [SetOrder] {es fs : List ImportEntry}
    (hpath : Path.slashed d.path = Path.slashed e.path) (htext : d.text = e.text)
    (hd : Import.applicable es d.path = .ok imports)
    (he : Import.applicable fs e.path = .ok imports')
    (himports : ∀ t, t ∈ imports.map ImportEntry.text ↔ t ∈ imports'.map ImportEntry.text)
    (config : ProjectConfig) (mode : Mode) (render : Renderer) :
    Option.Rel Agree (transform d es config mode render).toOption
      (transform e fs config mode render).toOption := by
  -- both headers are read to the same metadata, or both fail
  have hextract := Metadata.extract_congr htext
  rw [transform, transform, hd, he]
  cases hx : Metadata.extract d with
  | error f =>
    cases hy : Metadata.extract e with
    | error g => exact .none
    | ok y => rw [hx, hy] at hextract; cases hextract
  | ok x =>
    cases hy : Metadata.extract e with
    | error g => rw [hx, hy] at hextract; cases hextract
    | ok y =>
      rw [hx, hy] at hextract
      cases hextract with
      | some h =>
        dsimp only
        rw [h.1]
        exact generate_congr hpath htext himports h.2 _ config mode render

/-- Import files of the same texts give a document the same unit, or the same failure. -/
theorem transform_eq [SetOrder] {es fs : List ImportEntry}
    (hes : Import.applicable es d.path = .ok imports)
    (hfs : Import.applicable fs d.path = .ok imports')
    (himports : ∀ t, t ∈ imports.map ImportEntry.text ↔ t ∈ imports'.map ImportEntry.text)
    (config : ProjectConfig) (mode : Mode) (render : Renderer) :
    transform d es config mode render = transform d fs config mode render := by
  rw [transform, transform, hes, hfs]
  cases Metadata.extract d with
  | error f => rfl
  | ok x =>
    dsimp only
    delta generate
    rw [usings_congr himports]

/-- Whether import files can govern a document is up to its path alone, so it is enough to compare
those that do. -/
theorem transform_eq_of_governing [SetOrder] {es fs : List ImportEntry}
    (h : ∀ gs hs, Import.applicable es d.path = .ok gs → Import.applicable fs d.path = .ok hs →
      ∀ t, t ∈ gs.map ImportEntry.text ↔ t ∈ hs.map ImportEntry.text)
    (config : ProjectConfig) (mode : Mode) (render : Renderer) :
    transform d es config mode render = transform d fs config mode render := by
  cases hdir : Path.parent? d.path with
  | none =>
    have herror := Import.applicable_of_parent?_eq_none hdir
    rw [transform, transform, herror, herror]
  | some dir =>
    have hok := Import.applicable_of_parent? hdir
    exact transform_eq (hok es) (hok fs) (h _ _ (hok es) (hok fs)) config mode render

/-- All that `generate` does if it succeeds. -/
theorem of_generate {m : Metadata} {config : ProjectConfig} {mode : Mode} {render : Renderer}
    {u : GeneratedUnit} (h : generate d m imports config mode render xs = .ok u) :
    ∃ typeName ms, Component.typeName d.path = .ok typeName ∧ members mode render d m = .ok ms ∧
      u = ⟨Component.unitName d.path config.projectRoot,
        textOf (entries
          (Namespace.resolve d.path config.projectRoot config.rootNamespace m.namespaceName)
          ((usings m imports).map usingEntry)
          (Component.classEntries typeName (baseType m config) (Component.attributes m) ms)), xs⟩ := by
  delta generate at h
  dsimp only at h
  cases ht : Component.typeName d.path with
  | error f => rw [ht] at h; cases h
  | ok name =>
    rw [ht] at h
    dsimp only at h
    cases hm : members mode render d m with
    | error f => rw [hm] at h; cases h
    | ok ms =>
      rw [hm] at h
      exact ⟨name, ms, rfl, rfl, (Except.ok.inj h).symm⟩

/-- The only member of a full unit is the method for its markup: what the renderer makes of the
body, with the external links marked. -/
theorem of_members_full {m : Metadata} {render : Renderer} {ms : List String}
    (h : members .full render d m = .ok ms) :
    ∃ r, render (Header.split d.text).2 = .ok r ∧
      ms = Component.renderMethod (String.ofList (Link.openExternal r.toList)) m.title := by
  unfold members markup at h
  cases hr : render (Header.split d.text).2 with
  | error f => rw [hr] at h; cases h
  | ok r => rw [hr] at h; exact ⟨r, rfl, (Except.ok.inj h).symm⟩

/-- The name of a unit is known before it is generated. -/
theorem name_of_transform [SetOrder] {es : List ImportEntry} {config : ProjectConfig} {mode : Mode}
    {render : Renderer} {u : GeneratedUnit} (h : transform d es config mode render = .ok u) :
    u.name = Component.unitName d.path config.projectRoot := by
  rw [transform] at h
  cases hx : Metadata.extract d with
  | error f => rw [hx] at h; cases h
  | ok x =>
    rw [hx] at h
    cases ha : Import.applicable es d.path with
    | error f => rw [ha] at h; cases h
    | ok imports =>
      rw [ha] at h
      obtain ⟨-, -, -, -, rfl⟩ := of_generate h
      rfl

end GeneratedUnit

/-- A renderer that puts a link in front of a body. -/
def Renderer.linking : Renderer := fun body => .ok ("<a href=\"https://x.org\">x</a>" ++ body)

end Pageworks
