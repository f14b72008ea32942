import Mathlib.Tactic.Common
import Pageworks.Digest.Fingerprint

/-!
# SHA-256 with the latest words at hand

A word of the message schedule depends on the 16 words before it and on nothing else.  Held with the
latest word first, these are always the first 16, so a block costs no more than its rounds.  In this
form the digest of a short text can be computed inside a proof.

## Main definitions

* `Sha256.nextWord`, `Sha256.latest` — the word that follows 16 words, and the schedule up to there.
* `Sha256.compressWords`, `Sha256.digestWords` — one block, and the digest, with that schedule.

## Main results

* `Sha256.reverse_schedule` — it is the schedule, the other way round.
* `Sha256.digest_eq` — **the digest is the same.**
-/

namespace Pageworks

namespace Sha256

/-- The word that follows some words of the schedule, the latest of them first. -/
def nextWord (ws : List UInt32) : UInt32 :=
  let x := ws.getD 14 0
  let y := ws.getD 1 0
  let s0 := rotate x 7 ^^^ rotate x 18 ^^^ (x >>> 3)
  let s1 := rotate y 17 ^^^ rotate y 19 ^^^ (y >>> 10)
  ws.getD 15 0 + s0 + ws.getD 6 0 + s1

/-- The schedule with some more words, the latest first. -/
def latest : Nat → List UInt32 → List UInt32
  | 0, ws => ws
  | n + 1, ws => latest n (nextWord ws :: ws)

/-- One block, as a list of words, taken into the state. -/
def compressWords (s : State) (block : List UInt32) : State :=
  let rounds := (latest 48 block.reverse).reverse.zip roundConstants.toList
  let t := rounds.foldl (fun t (w, k) => round t w k) s
  ⟨s.a + t.a, s.b + t.b, s.c + t.c, s.d + t.d, s.e + t.e, s.f + t.f, s.g + t.g, s.h + t.h⟩

/-- A number of blocks taken into the state. -/
def absorbWords : Nat → State → List UInt32 → State
  | 0, s, _ => s
  | n + 1, s, ws => absorbWords n (compressWords s (ws.take 16)) (ws.drop 16)

/-- The digest of a sequence of bytes. -/
def digestWords (message : List UInt8) : List UInt8 :=
  let ws := wordsOf (pad message)
  let s := absorbWords (ws.length / 16) State.initial ws
  [s.a, s.b, s.c, s.d, s.e, s.f, s.g, s.h].flatMap wordBytes

/-! ### The schedule -/

theorem latest_succ (n : Nat) (ws : List UInt32) :
    latest (n + 1) ws = nextWord (latest n ws) :: latest n ws := by
  induction n generalizing ws with
  | zero => rfl
  | succ n ih => exact ih (nextWord ws :: ws)

@[simp] theorem length_latest (n : Nat) (ws : List UInt32) :
    (latest n ws).length = ws.length + n := by
  induction n with
  | zero => rfl
  | succ n ih => rw [latest_succ, List.length_cons, ih, Nat.add_assoc]

/-- Counted from the end, an array is read from the front of its reverse. -/
private theorem getD_eq_reverse {w : Array UInt32} {i j : Nat} (h : i + j + 1 = w.size) :
    w.getD i 0 = w.toList.reverse.getD j 0 := by
  have hj : j < w.toList.length := by
    rw [Array.length_toList]
    omega
  have hi : w.toList.length - 1 - j = i := by
    rw [Array.length_toList]
    omega
  rw [Array.getD_eq_getD_getElem?, List.getD_eq_getElem?_getD, List.getElem?_reverse hj, hi,
    Array.getElem?_toList]

/-- **The schedule holds after each word the one that follows from the 16 before it.** -/
theorem reverse_schedule {block : Array UInt32} (h : block.size = 16) :
    (schedule block).toList.reverse = latest 48 block.toList.reverse := by
  -- the words are numbered from the first one, so the induction is on how many there are
  suffices hfold : ∀ n, ((List.range n).foldl (fun w i =>
      let x := w.getD (i + 1) 0
      let y := w.getD (i + 14) 0
      let s0 := rotate x 7 ^^^ rotate x 18 ^^^ (x >>> 3)
      let s1 := rotate y 17 ^^^ rotate y 19 ^^^ (y >>> 10)
      w.push (w.getD i 0 + s0 + w.getD (i + 9) 0 + s1)) block).toList.reverse =
      latest n block.toList.reverse from hfold 48
  intro n
  induction n with
  | zero => rfl
  | succ n ih =>
    rw [List.range_succ, List.foldl_append]
    generalize (List.range n).foldl _ block = w at ih ⊢
    have hsize : w.size = 16 + n := by
      rw [← Array.length_toList, ← List.length_reverse, ih, length_latest, List.length_reverse,
        Array.length_toList, h]
    dsimp only [List.foldl_cons, List.foldl_nil]
    rw [Array.toList_push, List.reverse_append, List.reverse_singleton, List.singleton_append,
      latest_succ, ← ih, nextWord, getD_eq_reverse (i := n + 1) (j := 14) (by omega),
      getD_eq_reverse (i := n + 14) (j := 1) (by omega),
      getD_eq_reverse (i := n) (j := 15) (by omega),
      getD_eq_reverse (i := n + 9) (j := 6) (by omega)]

/-! ### The digest -/

/-- What two arrays hold side by side. -/
private theorem zip_eq_map {v w : Array UInt32} (h : v.size = w.size) :
    v.toList.zip w.toList = (List.range v.size).map fun i => (v.getD i 0, w.getD i 0) := by
  refine List.ext_getElem ?_ fun i hi _ => ?_
  · rw [List.length_zip, Array.length_toList, Array.length_toList, ← h, Nat.min_self,
      List.length_map, List.length_range]
  · rw [List.length_zip, Array.length_toList, Array.length_toList, ← h, Nat.min_self] at hi
    have hv : v.getD i 0 = v[i] := by
      rw [Array.getD_eq_getD_getElem?, Array.getElem?_eq_getElem hi, Option.getD_some]
    have hw : w.getD i 0 = w[i] := by
      rw [Array.getD_eq_getD_getElem?, Array.getElem?_eq_getElem (h ▸ hi), Option.getD_some]
    rw [List.getElem_zip, List.getElem_map, List.getElem_range, hv, hw, Array.getElem_toList,
      Array.getElem_toList]

theorem compressWords_eq (s : State) {block : List UInt32} (h : block.length = 16) :
    compressWords s block = compress s block.toArray := by
  have hschedule : (latest 48 block.reverse).reverse = (schedule block.toArray).toList := by
    rw [← List.reverse_reverse (schedule block.toArray).toList, reverse_schedule h]
  have hsize : (schedule block.toArray).size = 64 := by
    rw [← Array.length_toList, ← hschedule, List.length_reverse, length_latest, List.length_reverse, h]
  have hrounds := zip_eq_map (v := schedule block.toArray) (w := roundConstants) hsize
  rw [hsize] at hrounds
  rw [compressWords, compress, hschedule, hrounds, List.foldl_map]

theorem absorbWords_eq (s : State) (ws : List UInt32) :
    absorbWords (ws.length / 16) s ws = absorb s ws := by
  generalize hn : ws.length / 16 = n
  induction n generalizing s ws with
  | zero =>
    rw [absorb, dif_pos (by omega)]
    rfl
  | succ n ih =>
    have hlength : (ws.take 16).length = 16 := by
      rw [List.length_take]
      omega
    rw [absorb, dif_neg (by omega), absorbWords, compressWords_eq s hlength]
    refine ih _ _ ?_
    rw [List.length_drop]
    omega

/-- **The digest is the same.** -/
theorem digest_eq (message : List UInt8) : digest message = digestWords message := by
  rw [digest, digestWords, absorbWords_eq]

-- the start of the digest of "abc"
example : (digest [97, 98, 99]).take 4 = [0xba, 0x78, 0x16, 0xbf] := by
  rw [digest_eq]
  decide +kernel

end Sha256

end Pageworks
