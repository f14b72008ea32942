import Mathlib.Data.List.Nodup
import Mathlib.Tactic.Common
import Pageworks.Digest.Fingerprint

/-!
# Fingerprints and what they are made of

A fingerprint says nothing about its texts until two things are known: that different sequences of
texts are different byte strings, and that different byte strings have different digests.  The first
is a property of the framing and is proved here, for texts without a zero character.  The second
is no theorem, so results that need it name the byte strings whose digests would have to agree.

## Main definitions

* `ZeroFree s` — no character of the text is the zero character.
* `Sha256.Collide as bs` — two different byte strings, one of each list, have the same digest.

## Main results

* `Fingerprint.framed_cons_inj` — **a part without a zero character can be split off** the bytes of
  a sequence of texts, whatever the other parts hold.
* `Fingerprint.digest_eq_of_ofBytes_eq` — the hexadecimal form loses nothing of a digest.
-/

namespace Pageworks

open Pageworks.Text

/-- No character of the text is the zero character. -/
def ZeroFree (s : String) : Prop := ∀ c ∈ s.toList, c.toNat ≠ 0

-- looks at the characters of the text one by one, however many characters there are
instance (s : String) : Decidable (ZeroFree s) := List.decidableBAll _ _

/-- Two different byte strings, one of each list, have the same digest. -/
def Sha256.Collide (as bs : List (List UInt8)) : Prop :=
  ∃ a ∈ as, ∃ b ∈ bs, a ≠ b ∧ Sha256.digest a = Sha256.digest b

/-- Byte strings that do not collide are told apart by their digests. -/
theorem Sha256.eq_of_digest_eq {as bs : List (List UInt8)} (hfree : ¬ Sha256.Collide as bs)
    {a b : List UInt8} (ha : a ∈ as) (hb : b ∈ bs) (h : Sha256.digest a = Sha256.digest b) :
    a = b := by
  by_contra hne
  exact hfree ⟨a, ha, b, hb, hne, h⟩

theorem Sha256.Collide.symm {as bs : List (List UInt8)} (h : Sha256.Collide as bs) :
    Sha256.Collide bs as := by
  obtain ⟨a, ha, b, hb, hne, heq⟩ := h
  exact ⟨b, hb, a, ha, hne.symm, heq.symm⟩

/-- More byte strings collide more easily. -/
theorem Sha256.Collide.mono {as bs as' bs' : List (List UInt8)} (h : Sha256.Collide as bs)
    (ha : as ⊆ as') (hb : bs ⊆ bs') : Sha256.Collide as' bs' := by
  obtain ⟨a, hmem, b, hmem', hne, heq⟩ := h
  exact ⟨a, ha hmem, b, hb hmem', hne, heq⟩

/-- Byte strings do not collide if already the first bytes of their digests tell them apart. -/
theorem Sha256.not_collide_of_nodup {all as bs : List (List UInt8)}
    (h : (all.map fun a => (Sha256.digest a).head?).Nodup) (ha : as ⊆ all) (hb : bs ⊆ all) :
    ¬ Sha256.Collide as bs := by
  rintro ⟨a, hmem, b, hmem', hne, heq⟩
  exact hne (List.inj_on_of_nodup_map h (ha hmem) (hb hmem') (congrArg List.head? heq))

namespace Fingerprint

/-! ### The bytes of a text -/

/-- Reading a byte array from a position on appends what is left of it. -/
private theorem loop_eq (bs : ByteArray) : ∀ (n i : Nat) (r : List UInt8), bs.size - i = n →
    ByteArray.toList.loop bs i r = r.reverse ++ bs.data.toList.drop i := by
  -- the loop counts up to the size, so the induction is on how much is left
  intro n
  induction n with
  | zero =>
    intro i r hn
    rw [ByteArray.toList.loop, if_neg (by omega), List.drop_eq_nil_of_le, List.append_nil]
    rw [Array.length_toList]
    exact Nat.le_of_sub_eq_zero hn
  | succ n ih =>
    intro i r hn
    have hlt : i < bs.data.size := by
      have : bs.size = bs.data.size := rfl
      omega
    have hget : bs.get! i = bs.data[i] := getElem!_pos bs.data i hlt
    have hdrop : bs.data.toList.drop i = bs.data[i] :: bs.data.toList.drop (i + 1) := by
      rw [List.drop_eq_getElem_cons (by rw [Array.length_toList]; exact hlt), Array.getElem_toList]
    rw [ByteArray.toList.loop, if_pos (by omega), ih _ _ (by omega), List.reverse_cons, hget, hdrop,
      List.append_assoc, List.singleton_append]

private theorem toList_eq (bs : ByteArray) : bs.toList = bs.data.toList := by
  rw [ByteArray.toList, loop_eq bs _ 0 [] rfl]
  rfl

/-- The bytes of a text are those of its characters, one after the other. -/
theorem bytesOf_eq (s : String) : bytesOf s = s.toList.flatMap String.utf8EncodeChar := by
  rw [bytesOf, toList_eq, String.toUTF8_eq_toByteArray, ← String.utf8Encode_toList, List.utf8Encode,
    List.toList_data_toByteArray]

/-- A text is known by its bytes. -/
theorem bytesOf_inj {s t : String} (h : bytesOf s = bytesOf t) : s = t := by
  rw [bytesOf, bytesOf, toList_eq, toList_eq, Array.toList_inj] at h
  exact String.toByteArray_inj.mp (ByteArray.ext h)

/-- Only the zero character is encoded with a zero byte. -/
theorem ne_zero_of_mem_utf8EncodeChar {c : Char} (hc : c.toNat ≠ 0) {b : UInt8}
    (hb : b ∈ String.utf8EncodeChar c) : b ≠ 0 := by
  have hv : c.val.toNat ≠ 0 := hc
  rw [Ne, ← UInt8.toNat_inj]
  simp only [String.utf8EncodeChar] at hb
  split at hb
  · next h =>
    rw [List.mem_singleton.mp hb, UInt8.toNat_ofNat', UInt8.toNat_zero]
    omega
  -- every byte of a longer encoding carries a marker above its payload
  · split at hb
    · simp only [List.mem_cons, List.not_mem_nil, or_false] at hb
      rcases hb with rfl | rfl <;> rw [UInt8.toNat_ofNat', UInt8.toNat_zero] <;> omega
    · split at hb <;> simp only [List.mem_cons, List.not_mem_nil, or_false] at hb
      · rcases hb with rfl | rfl | rfl <;> rw [UInt8.toNat_ofNat', UInt8.toNat_zero] <;> omega
      · rcases hb with rfl | rfl | rfl | rfl <;>
          rw [UInt8.toNat_ofNat', UInt8.toNat_zero] <;> omega

/-- A text without a zero character has no zero byte. -/
theorem zero_notMem_bytesOf {s : String} (hs : ZeroFree s) : (0 : UInt8) ∉ bytesOf s := by
  rw [bytesOf_eq]
  intro h
  obtain ⟨c, hc, hb⟩ := List.mem_flatMap.mp h
  exact ne_zero_of_mem_utf8EncodeChar (hs c hc) hb rfl

/-! ### Framing -/

@[simp] theorem framed_nil : framed [] = [] := rfl

theorem framed_cons (p : String) (ps : List String) :
    framed (p :: ps) = bytesOf p ++ 0 :: framed ps := by
  simp [framed]

/-- Two byte strings without a zero byte, each with a zero byte behind it, agree up to there. -/
private theorem append_zero_inj {a b as bs : List UInt8} (ha : (0 : UInt8) ∉ a)
    (hb : (0 : UInt8) ∉ b) (h : a ++ 0 :: as = b ++ 0 :: bs) : a = b ∧ as = bs := by
  induction a generalizing b with
  | nil =>
    cases b with
    | nil => exact ⟨rfl, (List.cons.inj h).2⟩
    | cons y b => exact absurd (List.cons.inj h).1 (List.ne_of_not_mem_cons hb)
  | cons x a ih =>
    cases b with
    | nil => exact absurd (List.cons.inj h).1.symm (List.ne_of_not_mem_cons ha)
    | cons y b =>
      obtain ⟨hxy, ht⟩ := List.cons.inj h
      obtain ⟨hab, hrest⟩ := ih (List.not_mem_of_not_mem_cons ha)
        (List.not_mem_of_not_mem_cons hb) ht
      exact ⟨by rw [hxy, hab], hrest⟩

/-- **A part without a zero character can be split off** the bytes of a sequence of texts, whatever
the other parts hold. -/
theorem framed_cons_inj {p q : String} {ps qs : List String} (hp : ZeroFree p) (hq : ZeroFree q)
    (h : framed (p :: ps) = framed (q :: qs)) : p = q ∧ framed ps = framed qs := by
  rw [framed_cons, framed_cons] at h
  obtain ⟨hpq, hrest⟩ := append_zero_inj (zero_notMem_bytesOf hp) (zero_notMem_bytesOf hq) h
  exact ⟨bytesOf_inj hpq, hrest⟩

/-- The last part may hold anything. -/
theorem framed_singleton_inj {p q : String} (h : framed [p] = framed [q]) : p = q := by
  rw [framed_cons, framed_cons, framed_nil] at h
  exact bytesOf_inj (List.append_cancel_right h)

/-! ### Hexadecimal form -/

/-- Every word of a digest has four bytes, so the digest has 32. -/
theorem length_digest (bs : List UInt8) : (Sha256.digest bs).length = 32 := rfl

private theorem length_hexDigits (b : UInt8) : (hexDigits 2 b.toNat).length = 2 := by
  have h : ∀ n < 256, (hexDigits 2 n).length = 2 := by decide +kernel
  exact h _ b.toNat_lt

/-- The number that hexadecimal digits write. -/
private def hexValue (cs : List Char) : Nat :=
  cs.foldl (fun n c => 16 * n + if c.toNat < 58 then c.toNat - 48 else c.toNat - 87) 0

private theorem hexDigits_inj {a b : UInt8} (h : hexDigits 2 a.toNat = hexDigits 2 b.toNat) :
    a = b := by
  have hvalue : ∀ n < 256, hexValue (hexDigits 2 n) = n := by decide +kernel
  rw [← UInt8.toNat_inj, ← hvalue _ a.toNat_lt, ← hvalue _ b.toNat_lt, h]

private theorem toNat_ne_zero_of_mem_hexDigits {b : UInt8} {c : Char}
    (h : c ∈ hexDigits 2 b.toNat) : c.toNat ≠ 0 := by
  have hall : ∀ n < 256, ZeroFree (String.ofList (hexDigits 2 n)) := by decide +kernel
  exact hall _ b.toNat_lt c (by rwa [String.toList_ofList])

/-- A fingerprint has 64 characters. -/
theorem length_ofBytes (bs : List UInt8) : (ofBytes bs).toList.length = 64 := by
  rw [ofBytes, String.toList_ofList, List.length_flatMap]
  simp only [length_hexDigits]
  rw [List.map_const', List.sum_replicate_nat, length_digest]

/-- A fingerprint holds no zero character. -/
theorem zeroFree_ofBytes (bs : List UInt8) : ZeroFree (ofBytes bs) := by
  intro c hc
  rw [ofBytes, String.toList_ofList] at hc
  obtain ⟨b, -, hb⟩ := List.mem_flatMap.mp hc
  exact toNat_ne_zero_of_mem_hexDigits hb

/-- **The hexadecimal form loses nothing of a digest.** -/
theorem digest_eq_of_ofBytes_eq {as bs : List UInt8} (h : ofBytes as = ofBytes bs) :
    Sha256.digest as = Sha256.digest bs := by
  rw [ofBytes, ofBytes, String.ofList_inj] at h
  revert h
  generalize Sha256.digest as = xs
  generalize Sha256.digest bs = ys
  induction xs generalizing ys with
  | nil =>
    intro h
    cases ys with
    | nil => rfl
    | cons y ys =>
      have hlen := congrArg List.length h
      rw [List.flatMap_cons, List.length_append, length_hexDigits] at hlen
      simp at hlen
      omega
  | cons x xs ih =>
    intro h
    cases ys with
    | nil =>
      have hlen := congrArg List.length h
      rw [List.flatMap_cons, List.length_append, length_hexDigits] at hlen
      simp at hlen
    | cons y ys =>
      rw [List.flatMap_cons, List.flatMap_cons] at h
      -- every byte takes two digits, so both texts are cut at the same places
      obtain ⟨hxy, hrest⟩ := List.append_inj h (by rw [length_hexDigits, length_hexDigits])
      rw [hexDigits_inj hxy, ih ys hrest]

end Fingerprint

end Pageworks
