import Pageworks.CacheKey
import Pageworks.Proofs.Path
import Pageworks.Proofs.SetOrder

/-!
# Cache keys and the units they stand for

A record is used again when the digest of its key is the digest that the document has now.  That
is right if equal digests mean equal units.  A digest is made from fingerprints of variable number,
each made from texts of variable length, so equal digests have to be followed down to the texts;
where that stops, two different byte strings have the same digest.

A key knows nothing of the process.  In one process equal keys give equal units; what another
process has recorded is right up to the order in which it has listed the members of a set.

## Main definitions

* `Generation` — everything that a unit is generated from, with `Generation.key` and
  `Generation.unit?`.
* `Generation.hashed` — the byte strings that are hashed for the digest of a key.
* `Generation.Alike` — the generations have all in common that a unit depends on.

## Main results

* `CacheKey.eq_of_framed_parts` — a key is known by the bytes of its parts.
* `Generation.alike_of_digest_eq` — **equal digests mean equal inputs**, unless hashed byte strings
  collide.
* `Generation.agree_of_digest_eq` — **equal digests mean equal units**, unless hashed byte strings
  collide; from process to process too, if the header holds no set of two members.
-/

namespace Pageworks

open Pageworks.Fingerprint

/-! ### The parts of a key -/

/-- The text is the fingerprint of some bytes. -/
def IsFingerprint (s : String) : Prop := ∃ bs, s = ofBytes bs

theorem IsFingerprint.zeroFree {s : String} (h : IsFingerprint s) : ZeroFree s := by
  obtain ⟨bs, rfl⟩ := h
  exact zeroFree_ofBytes bs

theorem Mode.zeroFree_name (m : Mode) : ZeroFree m.name := by cases m <;> decide

theorem Mode.name_inj {m m' : Mode} (h : m.name = m'.name) : m = m' := by
  cases m <;> cases m' <;> first | rfl | exact absurd h (by decide)

/-- No mode is named like a fingerprint, so the first mode ends the fingerprints before it. -/
theorem Mode.name_ne {m : Mode} {s : String} (h : IsFingerprint s) : m.name ≠ s := by
  obtain ⟨bs, rfl⟩ := h
  intro hname
  have hlen := length_ofBytes bs
  rw [← hname] at hlen
  cases m <;> exact absurd hlen (by decide)

namespace CacheKey

/-- A key whose hashes are fingerprints and whose path has no zero character. -/
structure Proper (k : CacheKey) : Prop where
  path : ZeroFree k.path
  contentHash : IsFingerprint k.contentHash
  configHash : IsFingerprint k.configHash
  importHashes : ∀ h ∈ k.importHashes, IsFingerprint h

theorem proper_of {d : Document} (hpath : ZeroFree d.path) (config : ProjectConfig)
    (imports : List ImportEntry) (mode : Mode) (renderer : String) :
    (CacheKey.of d config imports mode renderer).Proper := by
  refine ⟨Path.zeroFree_slashed hpath, ⟨_, rfl⟩, ⟨_, rfl⟩, ?_⟩
  intro h hh
  obtain ⟨e, -, rfl⟩ := List.mem_map.mp (Import.mem_sortedSet.mp hh)
  exact ⟨_, rfl⟩

/-- The fingerprints end where the mode stands; the name of the renderer may hold anything. -/
private theorem framed_hashes_inj {hs hs' : List String} {m m' : Mode} {r r' : String}
    (hhs : ∀ h ∈ hs, IsFingerprint h) (hhs' : ∀ h ∈ hs', IsFingerprint h)
    (h : framed (hs ++ [m.name, r]) = framed (hs' ++ [m'.name, r'])) :
    hs = hs' ∧ m = m' ∧ r = r' := by
  induction hs generalizing hs' with
  | nil =>
    cases hs' with
    | nil =>
      obtain ⟨hm, hr⟩ := framed_cons_inj m.zeroFree_name m'.zeroFree_name h
      exact ⟨rfl, Mode.name_inj hm, framed_singleton_inj hr⟩
    | cons x' hs' =>
      have hx' := hhs' x' List.mem_cons_self
      exact absurd (framed_cons_inj m.zeroFree_name hx'.zeroFree h).1 (Mode.name_ne hx')
  | cons x hs ih =>
    have hx := hhs x List.mem_cons_self
    cases hs' with
    | nil =>
      exact absurd (framed_cons_inj hx.zeroFree m'.zeroFree_name h).1.symm (Mode.name_ne hx)
    | cons x' hs' =>
      have hx' := hhs' x' List.mem_cons_self
      obtain ⟨hxx, hrest⟩ := framed_cons_inj hx.zeroFree hx'.zeroFree h
      obtain ⟨hhs, hm, hr⟩ := ih (fun y hy => hhs y (List.mem_cons_of_mem _ hy))
        (fun y hy => hhs' y (List.mem_cons_of_mem _ hy)) hrest
      exact ⟨by rw [hxx, hhs], hm, hr⟩

/-- **A key is known by the bytes of its parts.** -/
theorem eq_of_framed_parts {k k' : CacheKey} (hk : k.Proper) (hk' : k'.Proper)
    (h : framed k.parts = framed k'.parts) : k = k' := by
  have hversion : ZeroFree version := by decide
  obtain ⟨-, h⟩ := framed_cons_inj hversion hversion h
  obtain ⟨hpath, h⟩ := framed_cons_inj hk.path hk'.path h
  obtain ⟨hcontent, h⟩ := framed_cons_inj hk.contentHash.zeroFree hk'.contentHash.zeroFree h
  obtain ⟨hconfig, h⟩ := framed_cons_inj hk.configHash.zeroFree hk'.configHash.zeroFree h
  obtain ⟨himports, hmode, hrenderer⟩ :=
    framed_hashes_inj hk.importHashes hk'.importHashes h
  cases k
  cases k'
  simp_all

end CacheKey

/-- A configuration is known by the bytes of its parts, if only its base class may hold zero
characters. -/
theorem ProjectConfig.eq_of_framed_parts {c c' : ProjectConfig} (hns : ZeroFree c.rootNamespace)
    (hns' : ZeroFree c'.rootNamespace) (hroot : ZeroFree c.projectRoot)
    (hroot' : ZeroFree c'.projectRoot) (h : framed c.parts = framed c'.parts) : c = c' := by
  obtain ⟨hns, h⟩ := framed_cons_inj hns hns' h
  obtain ⟨hroot, h⟩ := framed_cons_inj hroot hroot' h
  have hbase := framed_singleton_inj h
  cases c
  cases c'
  simp_all

/-! ### Generations -/

/-- Everything that a unit is generated from. -/
structure Generation where
  /-- The document. -/
  document : Document
  /-- All import files of the project. -/
  entries : List ImportEntry
  /-- The configuration of the project. -/
  config : ProjectConfig
  /-- How much is generated. -/
  mode : Mode
  /-- The name of the renderer. -/
  preset : String

namespace Generation

/-- The unit, if one is generated, in a process that lists the members of sets in an order. -/
def unit? (ω : SetOrder) (g : Generation) : Option GeneratedUnit :=
  (Renderer.ofPreset? g.preset).bind fun render =>
    (GeneratedUnit.transform g.document g.entries g.config g.mode render).toOption

/-- The header of the document holds no set of two members. -/
def isSettled (g : Generation) : Bool := Metadata.isSettled (Header.split g.document.text).1

/-- The import files that govern the document. -/
def governing (g : Generation) : Except PathError (List ImportEntry) :=
  Import.applicable g.entries g.document.path

/-- The key, given the import files that govern the document. -/
def key (g : Generation) (imports : List ImportEntry) : CacheKey :=
  CacheKey.of g.document g.config imports g.mode g.preset

/-- What a key sees of an import file. -/
def seen (e : ImportEntry) : String × String := (Path.slashed e.path, e.text)

/-- The bytes that are hashed for an import file. -/
def importBytes (e : ImportEntry) : List UInt8 := framed [Path.slashed e.path, e.text]

/-- The byte strings that are hashed for the digest of the key. -/
def hashed (g : Generation) (imports : List ImportEntry) : List (List UInt8) :=
  bytesOf g.document.text :: framed g.config.parts :: framed (g.key imports).parts ::
    imports.map importBytes

/-- No path and no text of the configuration but its base class holds a zero character. -/
structure ZeroFree (g : Generation) : Prop where
  path : Pageworks.ZeroFree g.document.path
  entries : ∀ e ∈ g.entries, Pageworks.ZeroFree e.path
  rootNamespace : Pageworks.ZeroFree g.config.rootNamespace
  projectRoot : Pageworks.ZeroFree g.config.projectRoot

/-- The generations have all in common that a unit depends on. -/
structure Alike (a b : Generation) (as bs : List ImportEntry) : Prop where
  path : Path.slashed a.document.path = Path.slashed b.document.path
  text : a.document.text = b.document.text
  config : a.config = b.config
  imports : ∀ x, x ∈ as.map seen ↔ x ∈ bs.map seen
  mode : a.mode = b.mode
  preset : a.preset = b.preset

section

variable {a b : Generation} {as bs : List ImportEntry}

private theorem mem_map_congr {α β : Type} {xs ys : List α} (h : ∀ a, a ∈ xs ↔ a ∈ ys)
    (f : α → β) (b : β) : b ∈ xs.map f ↔ b ∈ ys.map f := by
  simp only [List.mem_map, h]

/-- Generations that are alike have the same key, in whatever order their import files are. -/
theorem Alike.key_eq (h : Alike a b as bs) : a.key as = b.key bs := by
  have hprints : ∀ es : List ImportEntry,
      es.map ImportEntry.fingerprint = (es.map seen).map fun x => ofParts [x.1, x.2] := by
    intro es
    rw [List.map_map]
    rfl
  have himports : Import.sortedSet (as.map ImportEntry.fingerprint) =
      Import.sortedSet (bs.map ImportEntry.fingerprint) := by
    rw [hprints, hprints]
    exact Import.sortedSet_congr (mem_map_congr h.imports _)
  rw [key, key, CacheKey.of, CacheKey.of, Document.contentHash, Document.contentHash, h.path,
    h.text, h.config, h.mode, h.preset, himports]

/-- Generations that are alike are governed by import files of the same texts. -/
theorem Alike.texts (h : Alike a b as bs) (t : String) :
    t ∈ as.map ImportEntry.text ↔ t ∈ bs.map ImportEntry.text := by
  have htexts : ∀ es : List ImportEntry, es.map ImportEntry.text = (es.map seen).map Prod.snd := by
    intro es
    rw [List.map_map]
    rfl
  rw [htexts, htexts]
  exact mem_map_congr h.imports _ t

/-- Generations that are alike give the same unit, or none. -/
theorem Alike.agree (h : Alike a b as bs) (ha : a.governing = .ok as) (hb : b.governing = .ok bs)
    (ω : SetOrder) : Option.Rel GeneratedUnit.Agree (a.unit? ω) (b.unit? ω) := by
  rw [unit?, unit?, h.config, h.mode, h.preset]
  cases Renderer.ofPreset? b.preset with
  | none => exact .none
  | some render => exact GeneratedUnit.transform_congr h.path h.text ha hb h.texts _ _ _

private theorem mem_seen_of_mem_fingerprint {as bs : List ImportEntry}
    (ha : ∀ e ∈ as, Pageworks.ZeroFree e.path) (hb : ∀ e ∈ bs, Pageworks.ZeroFree e.path)
    (hfree : ¬ Sha256.Collide (as.map importBytes) (bs.map importBytes))
    (hsub : as.map ImportEntry.fingerprint ⊆ bs.map ImportEntry.fingerprint) :
    as.map seen ⊆ bs.map seen := by
  intro x hx
  obtain ⟨e, he, rfl⟩ := List.mem_map.mp hx
  obtain ⟨f, hf, hprint⟩ := List.mem_map.mp (hsub (List.mem_map_of_mem he))
  have hbytes := Sha256.eq_of_digest_eq hfree (List.mem_map_of_mem he) (List.mem_map_of_mem hf)
    (digest_eq_of_ofBytes_eq hprint.symm)
  obtain ⟨hpath, htext⟩ := framed_cons_inj (Path.zeroFree_slashed (ha e he))
    (Path.zeroFree_slashed (hb f hf)) hbytes
  refine List.mem_map.mpr ⟨f, hf, ?_⟩
  rw [seen, seen, hpath, framed_singleton_inj htext]

/-- **Equal digests mean equal inputs**, unless hashed byte strings collide.  That configurations
are told apart by the bytes of their parts is all that is asked of their texts. -/
theorem alike_of_digest_eq (hpath : Pageworks.ZeroFree a.document.path)
    (hpath' : Pageworks.ZeroFree b.document.path)
    (himports : ∀ e ∈ as, Pageworks.ZeroFree e.path)
    (himports' : ∀ e ∈ bs, Pageworks.ZeroFree e.path)
    (hconfig : framed a.config.parts = framed b.config.parts → a.config = b.config)
    (hfree : ¬ Sha256.Collide (a.hashed as) (b.hashed bs))
    (h : (a.key as).digest = (b.key bs).digest) : Alike a b as bs := by
  -- from the digest of the key inwards: its parts, then what each part is a digest of
  have hparts : framed (a.key as).parts = framed (b.key bs).parts :=
    Sha256.eq_of_digest_eq hfree (by simp [hashed]) (by simp [hashed]) (digest_eq_of_ofBytes_eq h)
  have hkey : a.key as = b.key bs :=
    CacheKey.eq_of_framed_parts (CacheKey.proper_of hpath _ _ _ _)
      (CacheKey.proper_of hpath' _ _ _ _) hparts
  have htext : bytesOf a.document.text = bytesOf b.document.text :=
    Sha256.eq_of_digest_eq hfree (by simp [hashed]) (by simp [hashed])
      (digest_eq_of_ofBytes_eq (congrArg CacheKey.contentHash hkey))
  have hframed : framed a.config.parts = framed b.config.parts :=
    Sha256.eq_of_digest_eq hfree (by simp [hashed]) (by simp [hashed])
      (digest_eq_of_ofBytes_eq (congrArg CacheKey.configHash hkey))
  have hprints : ∀ s, s ∈ as.map ImportEntry.fingerprint ↔ s ∈ bs.map ImportEntry.fingerprint := by
    intro s
    have hsorted : s ∈ Import.sortedSet (as.map ImportEntry.fingerprint) ↔
        s ∈ Import.sortedSet (bs.map ImportEntry.fingerprint) :=
      Eq.to_iff (congrArg (s ∈ ·) (congrArg CacheKey.importHashes hkey))
    rwa [Import.mem_sortedSet, Import.mem_sortedSet] at hsorted
  have hfiles : ¬ Sha256.Collide (as.map importBytes) (bs.map importBytes) := by
    refine fun hc => hfree (hc.mono ?_ ?_) <;> intro x hx <;> simp [hashed, hx]
  refine ⟨congrArg CacheKey.path hkey, bytesOf_inj htext, hconfig hframed, fun x => ⟨?_, ?_⟩,
    congrArg CacheKey.mode hkey, congrArg CacheKey.renderer hkey⟩
  · intro hx
    exact mem_seen_of_mem_fingerprint himports himports' hfiles (fun s => (hprints s).mp) hx
  · intro hx
    exact mem_seen_of_mem_fingerprint himports' himports (fun hc => hfiles hc.symm)
      (fun s => (hprints s).mpr) hx

/-- The import files that govern a document are among those of the project. -/
theorem mem_entries_of_governing {g : Generation} {es : List ImportEntry}
    (h : g.governing = .ok es) {e : ImportEntry} (he : e ∈ es) : e ∈ g.entries := by
  obtain ⟨dir, -, rfl⟩ := Import.applicable_eq_ok_iff.mp h
  exact (List.mem_filter.mp he).1

/-- A page under some spelling of its path, with import files in some order. -/
def page (path : String) (entries : List ImportEntry) : Generation :=
  ⟨⟨path, "---\nroute: /home\n---\n# Home\n"⟩, entries, {}, .full, Markdown.Preset.standardName⟩

end

end Generation

end Pageworks
