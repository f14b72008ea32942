import Mathlib.Data.List.Count
import Pageworks.Proofs.CacheKey

/-!
# Configurations and their fingerprints

The fingerprint of a configuration is made from its three fields with a zero byte behind each.  The
fields may hold anything, so a zero character in a field looks like the end of one, and text can be
moved over it from one field into the next without a trace.  Short of that, and of a collision of
digests, a configuration is known by its fingerprint.

## Main definitions

* `ProjectConfig.joined` — the fields with a zero character between them.
* `ProjectConfig.Shifted c c'` — different configurations with the same text of joined fields.

## Main results

* `ProjectConfig.framed_parts` — the hashed bytes of a configuration are those of its joined fields.
* `ProjectConfig.Shifted.holdsZero` — each of two configurations that are shifted has a field with a
  zero character, and one of them has it before its base class.
* `ProjectConfig.framed_parts_eq_iff` — **configurations are hashed as the same bytes if and only if
  they are equal or shifted**, and nothing else but a collision lets a fingerprint or a key outlast
  a change.
-/

namespace Pageworks

open Pageworks.Fingerprint

/-! ### Zero characters -/

/-- How many zero characters a text has. -/
private def zeros (s : String) : Nat := s.toList.countP fun c => c.toNat == 0

private theorem zeros_append (s t : String) : zeros (s ++ t) = zeros s + zeros t := by
  rw [zeros, String.toList_append, List.countP_append]
  rfl

private theorem zeros_eq_zero_iff {s : String} : zeros s = 0 ↔ ZeroFree s := by
  rw [zeros, List.countP_eq_zero]
  exact forall₂_congr fun c _ => not_congr beq_iff_eq

namespace Fingerprint

theorem bytesOf_append (s t : String) : bytesOf (s ++ t) = bytesOf s ++ bytesOf t := by
  rw [bytesOf_eq, bytesOf_eq, bytesOf_eq, String.toList_append, List.flatMap_append]

/-- A part that both sequences start with can be left out, whatever it holds. -/
theorem framed_cons_cancel {p : String} {ps qs : List String}
    (h : framed (p :: ps) = framed (p :: qs)) : framed ps = framed qs := by
  rw [framed_cons, framed_cons] at h
  exact (List.cons.inj (List.append_cancel_left h)).2

end Fingerprint

namespace ProjectConfig

variable {c c' : ProjectConfig}

/-! ### Joined fields -/

/-- The fields with a zero character between them. -/
def joined (c : ProjectConfig) : String :=
  c.rootNamespace ++ "\x00" ++ c.projectRoot ++ "\x00" ++ c.baseType

/-- The configurations are different, but text that is moved over a zero character from field to field
makes one out of the other. -/
def Shifted (c c' : ProjectConfig) : Prop := c ≠ c' ∧ c.joined = c'.joined

instance (c c' : ProjectConfig) : Decidable (c.Shifted c') := instDecidableAnd

/-- **The hashed bytes of a configuration are those of its joined fields**, with a zero byte behind. -/
theorem framed_parts (c : ProjectConfig) : framed c.parts = bytesOf c.joined ++ [0] := by
  have hzero : bytesOf "\x00" = [0] := by decide +kernel
  rw [parts, framed_cons, framed_cons, framed_cons, framed_nil, joined, bytesOf_append,
    bytesOf_append, bytesOf_append, bytesOf_append, hzero]
  simp only [List.append_assoc, List.cons_append, List.nil_append]

private theorem zeros_joined (c : ProjectConfig) : zeros c.joined =
    zeros c.rootNamespace + zeros c.projectRoot + zeros c.baseType + 2 := by
  have hzero : zeros "\x00" = 1 := by decide
  rw [joined, zeros_append, zeros_append, zeros_append, zeros_append, hzero]
  omega

/-- Some field of the configuration holds a zero character. -/
def HoldsZero (c : ProjectConfig) : Prop :=
  ¬ (ZeroFree c.rootNamespace ∧ ZeroFree c.projectRoot ∧ ZeroFree c.baseType)

private theorem holdsZero_iff : c.HoldsZero ↔ 2 < zeros c.joined := by
  rw [HoldsZero, ← zeros_eq_zero_iff, ← zeros_eq_zero_iff, ← zeros_eq_zero_iff, zeros_joined]
  omega

theorem framed_parts_eq_iff_joined : framed c.parts = framed c'.parts ↔ c.joined = c'.joined := by
  rw [framed_parts, framed_parts]
  exact ⟨fun h => bytesOf_inj (List.append_cancel_right h), fun h => by rw [h]⟩

/-- A zero character before the base class is what lets text be moved. -/
theorem Shifted.not_zeroFree (h : c.Shifted c') :
    ¬ (ZeroFree c.rootNamespace ∧ ZeroFree c.projectRoot ∧
      ZeroFree c'.rootNamespace ∧ ZeroFree c'.projectRoot) := by
  rintro ⟨hns, hroot, hns', hroot'⟩
  exact h.1 (eq_of_framed_parts hns hns' hroot hroot' (framed_parts_eq_iff_joined.mpr h.2))

/-- **Each of two configurations that are shifted has a field with a zero character.**  The joined
fields have as many zero characters in both, and a configuration without one in its fields has
no more than the two between them. -/
theorem Shifted.holdsZero (h : c.Shifted c') : c.HoldsZero ∧ c'.HoldsZero := by
  have hiff : c.HoldsZero ↔ c'.HoldsZero := by rw [holdsZero_iff, holdsZero_iff, h.2]
  by_cases hc : c.HoldsZero
  · exact ⟨hc, hiff.mp hc⟩
  · obtain ⟨hns, hroot, -⟩ := not_not.mp hc
    obtain ⟨hns', hroot', -⟩ := not_not.mp (mt hiff.mpr hc)
    exact absurd ⟨hns, hroot, hns', hroot'⟩ h.not_zeroFree

/-! ### Fingerprints and keys -/

/-- A fingerprint stays only if the hashed bytes do, or collide. -/
theorem framed_parts_eq_of_fingerprint (h : c.fingerprint = c'.fingerprint) :
    framed c.parts = framed c'.parts ∨
      Sha256.Collide [framed c.parts] [framed c'.parts] := by
  by_cases hfree : Sha256.Collide [framed c.parts] [framed c'.parts]
  · exact .inr hfree
  · exact .inl (Sha256.eq_of_digest_eq hfree List.mem_cons_self List.mem_cons_self
      (digest_eq_of_ofBytes_eq h))

end ProjectConfig

/-- **A document keeps its key only if** the hashed bytes of the configuration stay the same, or hashed
bytes collide; whatever its path holds, and however its text, its import files, the mode and the
renderer change. -/
theorem CacheKey.framed_parts_of_digest {d d' : Document} {c c' : ProjectConfig}
    {es es' : List ImportEntry} {mode mode' : Mode} {renderer renderer' : String}
    (hpath : d.path = d'.path)
    (h : (CacheKey.of d c es mode renderer).digest =
      (CacheKey.of d' c' es' mode' renderer').digest) :
    framed c.parts = framed c'.parts ∨
      Sha256.Collide [framed c.parts, framed (CacheKey.of d c es mode renderer).parts]
        [framed c'.parts, framed (CacheKey.of d' c' es' mode' renderer').parts] := by
  by_cases hfree : Sha256.Collide [framed c.parts, framed (CacheKey.of d c es mode renderer).parts]
      [framed c'.parts, framed (CacheKey.of d' c' es' mode' renderer').parts]
  · exact .inr hfree
  · -- from the bytes of the key past the version, the path and the text to the configuration
    have hbytes := Sha256.eq_of_digest_eq hfree (List.mem_cons_of_mem _ List.mem_cons_self)
      (List.mem_cons_of_mem _ List.mem_cons_self) (digest_eq_of_ofBytes_eq h)
    have hrest := framed_cons_cancel hbytes
    rw [CacheKey.of, CacheKey.of, hpath] at hrest
    obtain ⟨-, hhashes⟩ := framed_cons_inj (zeroFree_ofBytes _) (zeroFree_ofBytes _)
      (framed_cons_cancel hrest)
    obtain ⟨hconfig, -⟩ := framed_cons_inj (zeroFree_ofBytes _) (zeroFree_ofBytes _) hhashes
    refine (ProjectConfig.framed_parts_eq_of_fingerprint hconfig).imp_right fun hc => ?_
    exact hc.mono (List.cons_subset_cons _ (List.nil_subset _))
      (List.cons_subset_cons _ (List.nil_subset _))

/-- **Configurations are hashed as the same bytes if and only if they are equal or shifted.**  To be
shifted takes a zero character in a field of each of them, and one before the base class.  So
without zero characters the hashed bytes tell configurations apart, and neither a fingerprint nor the
key of a document outlasts a change of the configuration, unless digests collide. -/
theorem ProjectConfig.framed_parts_eq_iff (c c' : ProjectConfig) :
    (framed c.parts = framed c'.parts ↔ c = c' ∨ c.Shifted c') ∧
    (c.Shifted c' → c.HoldsZero ∧ c'.HoldsZero ∧
      ¬ (ZeroFree c.rootNamespace ∧ ZeroFree c.projectRoot ∧
        ZeroFree c'.rootNamespace ∧ ZeroFree c'.projectRoot)) ∧
    (c.fingerprint = c'.fingerprint → c = c' ∨ c.Shifted c' ∨
      Sha256.Collide [framed c.parts] [framed c'.parts]) ∧
    ∀ (d d' : Document) (es es' : List ImportEntry) (mode mode' : Mode)
      (renderer renderer' : String), d.path = d'.path →
      (CacheKey.of d c es mode renderer).digest =
        (CacheKey.of d' c' es' mode' renderer').digest → c = c' ∨ c.Shifted c' ∨
        Sha256.Collide [framed c.parts, framed (CacheKey.of d c es mode renderer).parts]
          [framed c'.parts, framed (CacheKey.of d' c' es' mode' renderer').parts] := by
  have hframed : framed c.parts = framed c'.parts ↔ c = c' ∨ c.Shifted c' := by
    rw [framed_parts_eq_iff_joined]
    constructor
    · intro h
      by_cases hc : c = c'
      · exact .inl hc
      · exact .inr ⟨hc, h⟩
    · rintro (rfl | h)
      · rfl
      · exact h.2
  refine ⟨hframed, fun h => ⟨h.holdsZero.1, h.holdsZero.2, h.not_zeroFree⟩, fun h => ?_, ?_⟩
  · rw [← or_assoc, ← hframed]
    exact framed_parts_eq_of_fingerprint h
  · intro d d' es es' mode mode' renderer renderer' hpath h
    rw [← or_assoc, ← hframed]
    exact CacheKey.framed_parts_of_digest hpath h

/-- A configuration with zero characters in its base class. -/
def ProjectConfig.widely : ProjectConfig := ⟨"App", "/p", "Page\x00/p\x00Base"⟩

/-- The configuration with the end of its base class moved to the namespace, over a root that
stays. -/
def ProjectConfig.narrowly : ProjectConfig := ⟨"App\x00/p\x00Page", "/p", "Base"⟩

/-- The two are hashed as the same bytes. -/
theorem ProjectConfig.framed_parts_widely :
    widely ≠ narrowly ∧ framed widely.parts = framed narrowly.parts ∧ widely.HoldsZero := by
  obtain ⟨hframed, hzero, -⟩ := framed_parts_eq_iff widely narrowly
  have hshifted : widely.Shifted narrowly := by decide
  exact ⟨hshifted.1, hframed.mpr (.inr hshifted), (hzero hshifted).1⟩

end Pageworks
