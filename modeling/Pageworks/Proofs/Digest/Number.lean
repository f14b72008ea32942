import Mathlib.Tactic.Common
import Pageworks.Proofs.Digest.Window

/-!
# SHA-256 in natural numbers

Arithmetic of natural numbers is cheap inside a proof, arithmetic of words is not.  A word is
held as its number here: a sum is reduced once, at its end, and a rotation is a shift of two copies.

## Main definitions

* `Sha256.twice` — two copies of a word, one behind the other.
* `Sha256.Numbers` — the state, `Sha256.roundNumbers` and `Sha256.compressNumbers` the steps on it.
* `Sha256.digestNumbers` — the digest, computed with them.

## Main results

* `Sha256.toNat_rotate` — a rotation shifts the two copies.
* `Sha256.digest_eq_numbers` — **the digest is the same.**
-/

namespace Pageworks

namespace Sha256

/-- How many words there are. -/
abbrev wordCount : Nat := 0x100000000

/-- Two copies of a word, one behind the other. -/
def twice (x : Nat) : Nat := x * 0x100000001

/-- The number of the word that follows some words of the schedule, the latest of them first. -/
def nextNumber (ws : List Nat) : Nat :=
  let x := ws.getD 14 0
  let y := ws.getD 1 0
  let s0 := (twice x >>> 7) ^^^ (twice x >>> 18) ^^^ (x >>> 3)
  let s1 := (twice y >>> 17) ^^^ (twice y >>> 19) ^^^ (y >>> 10)
  (ws.getD 15 0 + s0 + ws.getD 6 0 + s1) % wordCount

/-- The numbers of the schedule with some more words, the latest first. -/
def latestNumbers : Nat → List Nat → List Nat
  | 0, ws => ws
  | n + 1, ws => latestNumbers n (nextNumber ws :: ws)

/-- The numbers of the eight words of the state. -/
structure Numbers where
  a : Nat
  b : Nat
  c : Nat
  d : Nat
  e : Nat
  f : Nat
  g : Nat
  h : Nat

/-- The numbers of a state. -/
def State.numbers (s : State) : Numbers :=
  ⟨s.a.toNat, s.b.toNat, s.c.toNat, s.d.toNat, s.e.toNat, s.f.toNat, s.g.toNat, s.h.toNat⟩

/-- One round. -/
def roundNumbers (s : Numbers) (w k : Nat) : Numbers :=
  let s1 := (twice s.e >>> 6) ^^^ (twice s.e >>> 11) ^^^ (twice s.e >>> 25)
  let ch := (s.e &&& s.f) ^^^ ((wordCount - 1 - s.e) &&& s.g)
  let t1 := s.h + s1 + ch + k + w
  let s0 := (twice s.a >>> 2) ^^^ (twice s.a >>> 13) ^^^ (twice s.a >>> 22)
  let maj := (s.a &&& s.b) ^^^ (s.a &&& s.c) ^^^ (s.b &&& s.c)
  ⟨(t1 + (s0 + maj)) % wordCount, s.a, s.b, s.c, (s.d + t1) % wordCount, s.e, s.f, s.g⟩

/-- One block, as a list of numbers, taken into the state. -/
def compressNumbers (s : Numbers) (block : List Nat) : Numbers :=
  let constants := roundConstants.toList.map UInt32.toNat
  let rounds := (latestNumbers 48 block.reverse).reverse.zip constants
  let t := rounds.foldl (fun t x => roundNumbers t x.1 x.2) s
  ⟨(s.a + t.a) % wordCount, (s.b + t.b) % wordCount, (s.c + t.c) % wordCount,
    (s.d + t.d) % wordCount, (s.e + t.e) % wordCount, (s.f + t.f) % wordCount,
    (s.g + t.g) % wordCount, (s.h + t.h) % wordCount⟩

/-- A number of blocks taken into the state. -/
def absorbNumbers : Nat → Numbers → List Nat → Numbers
  | 0, s, _ => s
  | n + 1, s, ws => absorbNumbers n (compressNumbers s (ws.take 16)) (ws.drop 16)

/-- The big-endian bytes of a word. -/
def numberBytes (x : Nat) : List UInt8 :=
  [UInt8.ofNat (x >>> 24), UInt8.ofNat (x >>> 16), UInt8.ofNat (x >>> 8), UInt8.ofNat x]

/-- The digest of a sequence of bytes. -/
def digestNumbers (message : List UInt8) : List UInt8 :=
  let ws := (wordsOf (pad message)).map UInt32.toNat
  let s := absorbNumbers (ws.length / 16) State.initial.numbers ws
  [s.a, s.b, s.c, s.d, s.e, s.f, s.g, s.h].flatMap numberBytes

/-! ### Words -/

/-- **A rotation shifts two copies of the word.** -/
theorem toNat_rotate (x : UInt32) {n : UInt32} (hpos : 0 < n.toNat) (hlt : n.toNat < 32) :
    (rotate x n).toNat = (twice x.toNat >>> n.toNat) % wordCount := by
  have hx : x.toNat < 2 ^ 32 := x.toNat_lt
  have hsub : (32 - n).toNat = 32 - n.toNat :=
    UInt32.toNat_sub_of_le _ _ (UInt32.le_iff_toNat_le.mpr (Nat.le_of_lt hlt))
  have htwice : twice x.toNat = 2 ^ 32 * x.toNat + x.toNat := by
    unfold twice
    omega
  have hhigh : ∀ i, 32 ≤ i → x.toNat.testBit i = false := fun i hi =>
    Nat.testBit_lt_two_pow (Nat.lt_of_lt_of_le hx (Nat.pow_le_pow_right (by decide) hi))
  rw [rotate, UInt32.toNat_or, UInt32.toNat_shiftRight, UInt32.toNat_shiftLeft, hsub,
    Nat.mod_eq_of_lt hlt, Nat.mod_eq_of_lt (by omega : 32 - n.toNat < 32)]
  -- bit by bit: what leaves the word at one end stands in the upper copy
  refine Nat.eq_of_testBit_eq fun i => ?_
  rw [htwice, show wordCount = 2 ^ 32 from rfl, Nat.testBit_or, Nat.testBit_mod_two_pow,
    Nat.testBit_mod_two_pow, Nat.testBit_shiftRight, Nat.testBit_shiftRight,
    Nat.testBit_shiftLeft, Nat.testBit_two_pow_mul_add _ hx]
  by_cases hi : i < 32
  · by_cases hlow : n.toNat + i < 32
    · have hout : ¬ 32 - n.toNat ≤ i := by omega
      simp [hi, hlow, hout]
    · have hin : 32 - n.toNat ≤ i := by omega
      have hplace : i - (32 - n.toNat) = n.toNat + i - 32 := by omega
      simp [hi, hlow, hhigh (n.toNat + i) (by omega), hin, hplace]
  · simp [hi, hhigh (n.toNat + i) (by omega)]

/-- Three words that a shift has left too long are combined before they are cut. -/
private theorem xor_xor_mod (x y z : Nat) : (x % wordCount) ^^^ (y % wordCount) ^^^ (z % wordCount) =
    (x ^^^ y ^^^ z) % wordCount := by
  rw [show wordCount = 2 ^ 32 from rfl, Nat.xor_mod_two_pow, Nat.xor_mod_two_pow]

private theorem toNat_shiftRight_mod (x : UInt32) {n : UInt32} (hlt : n.toNat < 32) :
    (x >>> n).toNat = (x.toNat >>> n.toNat) % wordCount := by
  rw [UInt32.toNat_shiftRight, Nat.mod_eq_of_lt hlt, Nat.mod_eq_of_lt]
  exact Nat.lt_of_le_of_lt (Nat.shiftRight_le _ _) x.toNat_lt

/-- Two rotations and a shift, as the schedule combines them. -/
private theorem toNat_rotate_xor_shift (x : UInt32) {l m n : UInt32}
    (hl : 0 < l.toNat ∧ l.toNat < 32) (hm : 0 < m.toNat ∧ m.toNat < 32) (hn : n.toNat < 32) :
    (rotate x l ^^^ rotate x m ^^^ (x >>> n)).toNat = ((twice x.toNat >>> l.toNat) ^^^
      (twice x.toNat >>> m.toNat) ^^^ (x.toNat >>> n.toNat)) % wordCount := by
  rw [UInt32.toNat_xor, UInt32.toNat_xor, toNat_rotate x hl.1 hl.2, toNat_rotate x hm.1 hm.2,
    toNat_shiftRight_mod x hn, xor_xor_mod]

/-- Three rotations, as a round combines them. -/
private theorem toNat_rotate_xor_rotate (x : UInt32) {l m n : UInt32}
    (hl : 0 < l.toNat ∧ l.toNat < 32) (hm : 0 < m.toNat ∧ m.toNat < 32)
    (hn : 0 < n.toNat ∧ n.toNat < 32) :
    (rotate x l ^^^ rotate x m ^^^ rotate x n).toNat = ((twice x.toNat >>> l.toNat) ^^^
      (twice x.toNat >>> m.toNat) ^^^ (twice x.toNat >>> n.toNat)) % wordCount := by
  rw [UInt32.toNat_xor, UInt32.toNat_xor, toNat_rotate x hl.1 hl.2, toNat_rotate x hm.1 hm.2,
    toNat_rotate x hn.1 hn.2, xor_xor_mod]

/-! ### The schedule -/

private theorem toNat_getD (ws : List UInt32) (i : Nat) :
    (ws.map UInt32.toNat).getD i 0 = (ws.getD i 0).toNat := by
  rw [List.getD_eq_getElem?_getD, List.getD_eq_getElem?_getD, List.getElem?_map]
  cases ws[i]? <;> rfl

theorem nextNumber_map (ws : List UInt32) :
    nextNumber (ws.map UInt32.toNat) = (nextWord ws).toNat := by
  unfold nextNumber nextWord
  simp only [toNat_getD]
  generalize ws.getD 14 0 = x
  generalize ws.getD 1 0 = y
  have h0 := toNat_rotate_xor_shift x (l := 7) (m := 18) (n := 3) (by decide) (by decide)
    (by decide)
  have h1 := toNat_rotate_xor_shift y (l := 17) (m := 19) (n := 10) (by decide) (by decide)
    (by decide)
  rw [UInt32.toNat_add, UInt32.toNat_add, UInt32.toNat_add, h0, h1]
  simp only [Nat.mod_add_mod, Nat.add_mod_mod]
  rfl

theorem latestNumbers_map (n : Nat) (ws : List UInt32) :
    latestNumbers n (ws.map UInt32.toNat) = (latest n ws).map UInt32.toNat := by
  induction n generalizing ws with
  | zero => rfl
  | succ n ih => rw [latestNumbers, nextNumber_map, ← List.map_cons, ih, latest]

/-! ### Rounds and blocks -/

theorem numbers_round (s : State) (w k : UInt32) :
    (round s w k).numbers = roundNumbers s.numbers w.toNat k.toNat := by
  have h1 := toNat_rotate_xor_rotate s.e (l := 6) (m := 11) (n := 25) (by decide) (by decide)
    (by decide)
  have h0 := toNat_rotate_xor_rotate s.a (l := 2) (m := 13) (n := 22) (by decide) (by decide)
    (by decide)
  have hnot : (~~~ s.e).toNat = wordCount - 1 - s.e.toNat := UInt32.toNat_not _
  unfold round roundNumbers State.numbers
  simp only [UInt32.toNat_add, h0, h1, hnot, UInt32.toNat_xor, UInt32.toNat_and, Nat.mod_add_mod,
    Nat.add_mod_mod]
  rfl

theorem numbers_compressWords (s : State) (block : List UInt32) :
    (compressWords s block).numbers =
      compressNumbers s.numbers (block.map UInt32.toNat) := by
  have hrounds : ∀ (xs : List (UInt32 × UInt32)) (t : State),
      (xs.foldl (fun t x => round t x.1 x.2) t).numbers =
        (xs.map (Prod.map UInt32.toNat UInt32.toNat)).foldl
          (fun t x => roundNumbers t x.1 x.2) t.numbers := by
    intro xs
    induction xs with
    | nil => exact fun _ => rfl
    | cons x xs ih =>
      intro t
      rw [List.foldl_cons, ih, numbers_round, List.map_cons, List.foldl_cons]
      rfl
  unfold compressNumbers
  dsimp only
  rw [← List.map_reverse, latestNumbers_map, ← List.map_reverse, List.zip_map, ← hrounds]
  rfl

theorem numbers_absorbWords (n : Nat) (s : State) (ws : List UInt32) :
    (absorbWords n s ws).numbers = absorbNumbers n s.numbers (ws.map UInt32.toNat) := by
  induction n generalizing s ws with
  | zero => rfl
  | succ n ih =>
    rw [absorbWords, ih, numbers_compressWords, absorbNumbers, List.map_take, List.map_drop]

/-! ### The digest -/

private theorem wordBytes_eq (x : UInt32) : wordBytes x = numberBytes x.toNat := by
  have hbyte : ∀ n : UInt32, n.toNat < 32 → (x >>> n).toUInt8 = UInt8.ofNat (x.toNat >>> n.toNat) := by
    intro n hn
    rw [← UInt8.toNat_inj, UInt32.toNat_toUInt8, UInt8.toNat_ofNat', UInt32.toNat_shiftRight,
      Nat.mod_eq_of_lt hn]
  unfold wordBytes numberBytes
  rw [hbyte 24 (by decide), hbyte 16 (by decide), hbyte 8 (by decide)]
  rfl

/-- **The digest is the same.** -/
theorem digest_eq_numbers (message : List UInt8) : digest message = digestNumbers message := by
  rw [digest_eq, digestWords, digestNumbers]
  simp only [List.length_map]
  rw [← numbers_absorbWords]
  simp only [State.numbers, List.flatMap_cons, List.flatMap_nil, wordBytes_eq]

end Sha256

/-- So is the fingerprint. -/
theorem Fingerprint.ofBytes_eq_numbers (bs : List UInt8) : ofBytes bs =
    String.ofList ((Sha256.digestNumbers bs).flatMap fun b => Text.hexDigits 2 b.toNat) := by
  rw [ofBytes, Sha256.digest_eq_numbers]

end Pageworks
