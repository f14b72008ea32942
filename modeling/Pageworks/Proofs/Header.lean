import Mathlib.Data.List.Basic
import Mathlib.Data.List.TakeWhile
import Pageworks.Header

/-!
# Fences of document headers

A fence is a word of a small grammar: three dashes, spaces and tabs, and the end of a line.  A cut
divides a text at an opening fence in front and at a closing fence where a line starts.  A document
is divided at its first cut, and has no header if there is none.

The search for a closing fence goes on character by character.  What it keeps is `ClosedAt`: where
a closing fence stands in the rest of a text, whether or not a line starts in front of that rest.
With one character less, the fence in front of the text is the only one that is lost.

## Main definitions

* `Header.IsOpening`, `Header.IsClosing` — the words that are fences.
* `Header.ClosedAt` — a closing fence stands at a line start.
* `Header.Cut`, `Header.Cut.IsFirst` — a text divided at its fences, and at its first closing one.
* `Header.Unfenced` — a header without a closing fence of its own.

## Main results

* `Header.afterOpening?_eq_some_iff`, `Header.afterClosing?_eq_some_iff` — the fences that are taken
  from a text are the words of the grammar.
* `Header.untilClosing?_eq_some_iff`, `Header.untilClosing?_eq_none_iff` — **the search finds the
  first closing fence, and fails only where there is none.**
* `Header.isSome_split_iff` — the documents with a header are those that can be cut.
* `Header.split_first_fence` — **a document is divided at its first closing fence** or keeps its
  text, and a header put between two fences is found again.
-/

namespace Pageworks

namespace Text

theorem startsWith?_eq_some_iff {beginning cs rest : List Char} :
    startsWith? beginning cs = some rest ↔ cs = beginning ++ rest := by
  induction beginning generalizing cs with
  | nil => simp [startsWith?]
  | cons b beginning ih =>
    cases cs with
    | nil => simp [startsWith?]
    | cons c cs =>
      rw [startsWith?, List.cons_append, List.cons.injEq]
      by_cases hb : b = c
      · simp [hb, ih]
      · simp [hb, Ne.symm hb]

end Text

namespace Header

open Pageworks.Text

variable {cs rest rule fence header body : List Char} {start : Bool} {text : String}

/-! ### The grammar of fences -/

/-- Three dashes and padding. -/
def IsRule (cs : List Char) : Prop :=
  ∃ padding, (∀ c ∈ padding, c = ' ' ∨ c = '\t') ∧ cs = ['-', '-', '-'] ++ padding

/-- A line feed, with or without a carriage return in front of it. -/
def IsNewline (cs : List Char) : Prop := cs = ['\n'] ∨ cs = ['\r', '\n']

/-- An opening fence is a line of its own. -/
def IsOpening (cs : List Char) : Prop :=
  ∃ rule newline, IsRule rule ∧ IsNewline newline ∧ cs = rule ++ newline

/-- A closing fence in front of a text is a line of its own, which the text may end in. -/
def IsClosing (fence rest : List Char) : Prop := IsOpening fence ∨ IsRule fence ∧ rest = []

theorem isPadding_iff {c : Char} : isPadding c = true ↔ c = ' ' ∨ c = '\t' := by
  simp [isPadding]

theorem IsNewline.head (h : IsNewline fence) : ∃ c cs, fence = c :: cs ∧ isPadding c = false := by
  rcases h with rfl | rfl
  · exact ⟨'\n', [], rfl, rfl⟩
  · exact ⟨'\r', ['\n'], rfl, rfl⟩

/-- Padding ends where something else begins. -/
theorem afterDashes?_append (h : IsRule rule)
    (hrest : ∀ c, rest.head? = some c → isPadding c = false) :
    afterDashes? (rule ++ rest) = some rest := by
  obtain ⟨padding, hpadding, rfl⟩ := h
  have hdrop : rest.dropWhile isPadding = rest := by
    cases rest with
    | nil => rfl
    | cons c cs => exact List.dropWhile_cons_of_neg (by simp [hrest c rfl])
  rw [List.append_assoc, afterDashes?, startsWith?_eq_some_iff.mpr rfl, Option.map_some,
    List.dropWhile_append_of_pos fun c hc => isPadding_iff.mpr (hpadding c hc), hdrop]

theorem isRule_of_afterDashes? (h : afterDashes? cs = some rest) :
    ∃ rule, IsRule rule ∧ cs = rule ++ rest := by
  obtain ⟨tail, htail, rfl⟩ := Option.map_eq_some_iff.mp h
  refine ⟨['-', '-', '-'] ++ tail.takeWhile isPadding, ⟨_, fun c hc => ?_, rfl⟩, ?_⟩
  · exact isPadding_iff.mp (List.mem_takeWhile_imp hc)
  · rw [List.append_assoc, List.takeWhile_append_dropWhile]
    exact startsWith?_eq_some_iff.mp htail

theorem afterNewline?_eq_some_iff :
    afterNewline? cs = some rest ↔ ∃ newline, IsNewline newline ∧ cs = newline ++ rest := by
  constructor
  · intro h
    unfold afterNewline? at h
    split at h
    · exact ⟨['\n'], .inl rfl, congrArg _ (Option.some.inj h)⟩
    · exact ⟨['\r', '\n'], .inr rfl, congrArg (fun cs => '\r' :: '\n' :: cs) (Option.some.inj h)⟩
    · cases h
  · rintro ⟨newline, rfl | rfl, rfl⟩
    · rfl
    · rfl

/-- A text without its opening fence is what stands behind a word of the grammar. -/
theorem afterOpening?_eq_some_iff :
    afterOpening? cs = some rest ↔ ∃ fence, IsOpening fence ∧ cs = fence ++ rest := by
  rw [afterOpening?, Option.bind_eq_some_iff]
  constructor
  · rintro ⟨tail, hdashes, htail⟩
    obtain ⟨rule, hrule, rfl⟩ := isRule_of_afterDashes? hdashes
    obtain ⟨newline, hnewline, rfl⟩ := afterNewline?_eq_some_iff.mp htail
    exact ⟨rule ++ newline, ⟨rule, newline, hrule, hnewline, rfl⟩, (List.append_assoc ..).symm⟩
  · rintro ⟨-, ⟨rule, newline, hrule, hnewline, rfl⟩, rfl⟩
    refine ⟨newline ++ rest, ?_, afterNewline?_eq_some_iff.mpr ⟨newline, hnewline, rfl⟩⟩
    obtain ⟨c, cs, rfl, hc⟩ := hnewline.head
    rw [List.append_assoc]
    exact afterDashes?_append hrule fun x hx => Option.some.inj hx ▸ hc

/-- A text without its closing fence is what stands behind a word of the grammar. -/
theorem afterClosing?_eq_some_iff :
    afterClosing? cs = some rest ↔ ∃ fence, IsClosing fence rest ∧ cs = fence ++ rest := by
  constructor
  · intro h
    obtain ⟨tail, hdashes, htail⟩ := Option.bind_eq_some_iff.mp h
    split at htail
    · obtain ⟨rule, hrule, rfl⟩ := isRule_of_afterDashes? hdashes
      rw [← Option.some.inj htail]
      exact ⟨rule, .inr ⟨hrule, rfl⟩, rfl⟩
    · -- behind a line that ends a closing fence is an opening one
      have hopening : afterOpening? cs = some rest := by rw [afterOpening?, hdashes]; exact htail
      obtain ⟨fence, hfence, hcs⟩ := afterOpening?_eq_some_iff.mp hopening
      exact ⟨fence, .inl hfence, hcs⟩
  · rintro ⟨fence, hfence | ⟨hrule, rfl⟩, rfl⟩
    · have hopening : afterOpening? (fence ++ rest) = some rest :=
        afterOpening?_eq_some_iff.mpr ⟨fence, hfence, rfl⟩
      obtain ⟨tail, hdashes, htail⟩ := Option.bind_eq_some_iff.mp hopening
      rw [afterClosing?, hdashes, Option.bind_some]
      cases tail with
      | nil => cases htail
      | cons c cs => exact htail
    · rw [afterClosing?, afterDashes?_append hrule fun c hc => by cases hc]
      rfl

/-! ### Line starts -/

/-- A line starts behind a text that ends in a line feed, and behind an empty text if one starts in
front of it. -/
def lineStart (start : Bool) (cs : List Char) : Bool := (cs.getLast?.map (· == '\n')).getD start

theorem lineStart_cons (start : Bool) (c : Char) (cs : List Char) :
    lineStart start (c :: cs) = lineStart (c == '\n') cs := by
  rw [lineStart, lineStart, List.getLast?_cons]
  cases cs.getLast? with
  | none => rfl
  | some x => rfl

/-- A text is divided at a closing fence that stands where a line starts. -/
structure ClosedAt (start : Bool) (cs header body : List Char) : Prop where
  /-- A line starts behind the header. -/
  startsLine : lineStart start header = true
  /-- A closing fence stands between the header and the body. -/
  fence : ∃ fence, IsClosing fence body ∧ cs = header ++ fence ++ body

theorem not_closedAt_nil : ¬ ClosedAt start [] header body := by
  rintro ⟨-, fence, hfence, hcs⟩
  have hafter : afterClosing? [] = some body := by
    refine afterClosing?_eq_some_iff.mpr ⟨fence, hfence, ?_⟩
    rw [List.append_assoc] at hcs
    exact (List.append_eq_nil_iff.mp hcs.symm).2.symm
  cases hafter

/-- **One character less.**  A closing fence stands in front of the text or behind its first
character. -/
theorem closedAt_cons_iff {c : Char} : ClosedAt start (c :: cs) header body ↔
    header = [] ∧ start = true ∧ afterClosing? (c :: cs) = some body ∨
      ∃ tail, header = c :: tail ∧ ClosedAt (c == '\n') cs tail body := by
  constructor
  · rintro ⟨hstart, fence, hfence, hcs⟩
    cases header with
    | nil => exact .inl ⟨rfl, hstart, afterClosing?_eq_some_iff.mpr ⟨fence, hfence, hcs⟩⟩
    | cons x tail =>
      rw [List.cons_append, List.cons_append] at hcs
      obtain ⟨rfl, rfl⟩ := List.cons.inj hcs
      rw [lineStart_cons] at hstart
      exact .inr ⟨tail, rfl, hstart, fence, hfence, rfl⟩
  · rintro (⟨rfl, hstart, hafter⟩ | ⟨tail, rfl, hstart, fence, hfence, rfl⟩)
    · exact ⟨hstart, afterClosing?_eq_some_iff.mp hafter⟩
    · exact ⟨by rwa [lineStart_cons], fence, hfence, rfl⟩

/-- A fence that is tried and found leaves an empty header. -/
theorem closedAt_of_tried {c : Char}
    (h : (if start then afterClosing? (c :: cs) else none) = some body) :
    ClosedAt start (c :: cs) [] body := by
  obtain ⟨hstart, hafter⟩ := Option.ite_none_right_eq_some.mp h
  exact closedAt_cons_iff.mpr (.inl ⟨rfl, hstart, hafter⟩)

/-- Where no fence is found in front, every header begins with the first character. -/
theorem closedAt_cons_iff_of_tried {c : Char}
    (h : (if start then afterClosing? (c :: cs) else none) = none) :
    ClosedAt start (c :: cs) header body ↔
      ∃ tail, header = c :: tail ∧ ClosedAt (c == '\n') cs tail body := by
  rw [closedAt_cons_iff, or_iff_right]
  rintro ⟨-, hstart, hafter⟩
  rw [if_pos hstart, hafter] at h
  cases h

/-- **The search fails only where no closing fence stands at a line start.** -/
theorem untilClosing?_eq_none_iff :
    untilClosing? start cs = none ↔ ∀ header body, ¬ ClosedAt start cs header body := by
  induction cs generalizing start with
  | nil => simp [untilClosing?, not_closedAt_nil]
  | cons c cs ih =>
    unfold untilClosing?
    split
    · next rest htried =>
      simp only [reduceCtorEq, false_iff]
      exact fun h => h [] rest (closedAt_of_tried htried)
    · next htried =>
      rw [Option.map_eq_none_iff, ih]
      constructor
      · intro htail header body hclosed
        obtain ⟨tail, -, hclosed⟩ := (closedAt_cons_iff_of_tried htried).mp hclosed
        exact htail tail body hclosed
      · intro h tail body hclosed
        exact h _ body ((closedAt_cons_iff_of_tried htried).mpr ⟨tail, rfl, hclosed⟩)

/-- **The search finds the first closing fence**: no other one leaves a shorter header. -/
theorem untilClosing?_eq_some_iff : untilClosing? start cs = some (header, body) ↔
    ClosedAt start cs header body ∧
      ∀ header' body', ClosedAt start cs header' body' → header.length ≤ header'.length := by
  induction cs generalizing start header with
  | nil => simp [untilClosing?, not_closedAt_nil]
  | cons c cs ih =>
    unfold untilClosing?
    split
    · next rest htried =>
      obtain ⟨-, hafter⟩ := Option.ite_none_right_eq_some.mp htried
      constructor
      · rintro ⟨⟩
        exact ⟨closedAt_of_tried htried, fun _ _ _ => Nat.zero_le _⟩
      · rintro ⟨hclosed, hfirst⟩
        have hnil := hfirst [] rest (closedAt_of_tried htried)
        rw [List.length_nil, Nat.le_zero, List.length_eq_zero_iff] at hnil
        rcases closedAt_cons_iff.mp hclosed with ⟨-, -, hbody⟩ | ⟨tail, hcons, -⟩
        · rw [hnil, ← Option.some.inj (hafter.symm.trans hbody)]
        · rw [hnil] at hcons
          cases hcons
    · next htried =>
      rw [Option.map_eq_some_iff]
      constructor
      · rintro ⟨⟨tail, body⟩, hfound, ⟨⟩⟩
        obtain ⟨hclosed, hfirst⟩ := ih.mp hfound
        refine ⟨(closedAt_cons_iff_of_tried htried).mpr ⟨tail, rfl, hclosed⟩, ?_⟩
        intro header' body' hclosed'
        obtain ⟨tail', rfl, htail'⟩ := (closedAt_cons_iff_of_tried htried).mp hclosed'
        exact Nat.succ_le_succ (hfirst tail' body' htail')
      · rintro ⟨hclosed, hfirst⟩
        obtain ⟨tail, rfl, htail⟩ := (closedAt_cons_iff_of_tried htried).mp hclosed
        refine ⟨(tail, body), ih.mpr ⟨htail, fun tail' body' htail' => ?_⟩, rfl⟩
        have hlonger := (closedAt_cons_iff_of_tried htried).mpr ⟨tail', rfl, htail'⟩
        exact Nat.le_of_succ_le_succ (hfirst _ _ hlonger)

/-! ### Cuts -/

/-- A text divided at an opening fence in front and at a closing fence where a line starts. -/
structure Cut (text : String) where
  /-- The opening fence. -/
  opening : String
  /-- The text between the fences. -/
  header : String
  /-- The closing fence. -/
  closing : String
  /-- The text behind the closing fence. -/
  body : String
  isOpening : IsOpening opening.toList
  startsLine : header = "" ∨ header.toList.getLast? = some '\n'
  isClosing : IsClosing closing.toList body.toList
  text_eq : opening ++ header ++ closing ++ body = text

namespace Cut

/-- A cut at the first of all closing fences. -/
def IsFirst (c : Cut text) : Prop :=
  ∀ d : Cut text, (c.opening ++ c.header).length ≤ (d.opening ++ d.header).length

/-- The text behind the opening fence. -/
def inner (c : Cut text) : List Char := c.header.toList ++ c.closing.toList ++ c.body.toList

theorem toList_eq (c : Cut text) : text.toList = c.opening.toList ++ c.inner := by
  have htext := congrArg String.toList c.text_eq
  rw [← htext, inner]
  simp

theorem afterOpening?_eq (c : Cut text) : afterOpening? text.toList = some c.inner :=
  afterOpening?_eq_some_iff.mpr ⟨c.opening.toList, c.isOpening, c.toList_eq⟩

theorem lineStart_iff {header : String} : lineStart true header.toList = true ↔
    header = "" ∨ header.toList.getLast? = some '\n' := by
  rw [lineStart, ← String.toList_eq_nil_iff, ← List.getLast?_eq_none_iff]
  cases header.toList.getLast? with
  | none => simp
  | some c => simp

theorem closedAt (c : Cut text) : ClosedAt true c.inner c.header.toList c.body.toList :=
  ⟨lineStart_iff.mpr c.startsLine, c.closing.toList, c.isClosing, rfl⟩

/-- A closing fence behind an opening one makes a cut. -/
theorem exists_of_closedAt (hopening : afterOpening? text.toList = some rest)
    (hclosed : ClosedAt true rest header body) :
    ∃ c : Cut text, c.header.toList = header ∧ c.body.toList = body := by
  obtain ⟨opening, hfence, htext⟩ := afterOpening?_eq_some_iff.mp hopening
  obtain ⟨hstart, closing, hclosing, rfl⟩ := hclosed
  have hstarts : lineStart true (String.ofList header).toList = true := by
    rwa [String.toList_ofList]
  refine ⟨⟨String.ofList opening, String.ofList header, String.ofList closing, String.ofList body,
    ?_, lineStart_iff.mp hstarts, ?_, ?_⟩, String.toList_ofList, String.toList_ofList⟩
  · rwa [String.toList_ofList]
  · rwa [String.toList_ofList, String.toList_ofList]
  · apply String.toList_inj.mp
    simp [htext]

/-- All cuts of a text are made at the same opening fence. -/
theorem opening_eq (c d : Cut text) : c.opening = d.opening ∧ c.inner = d.inner := by
  have hinner := Option.some.inj (c.afterOpening?_eq.symm.trans d.afterOpening?_eq)
  have htext := c.toList_eq.symm.trans d.toList_eq
  rw [hinner] at htext
  exact ⟨String.toList_inj.mp (List.append_cancel_right htext), hinner⟩

/-- A cut is the first one if the search finds it behind the opening fence. -/
theorem isFirst_iff (c : Cut text) : c.IsFirst ↔
    untilClosing? true c.inner = some (c.header.toList, c.body.toList) := by
  rw [untilClosing?_eq_some_iff, and_iff_right c.closedAt]
  have hlength : ∀ d : Cut text, (c.opening ++ c.header).length ≤ (d.opening ++ d.header).length ↔
      c.header.toList.length ≤ d.header.toList.length := by
    intro d
    rw [(c.opening_eq d).1, String.length_append, String.length_append, String.length_toList,
      String.length_toList]
    exact Nat.add_le_add_iff_left
  constructor
  · intro hfirst header body hclosed
    obtain ⟨d, rfl, -⟩ := exists_of_closedAt c.afterOpening?_eq hclosed
    exact (hlength d).mp (hfirst d)
  · intro hfirst d
    have hclosed := d.closedAt
    rw [← (c.opening_eq d).2] at hclosed
    exact (hlength d).mpr (hfirst _ _ hclosed)

/-- A document is divided at its first cut. -/
theorem split_of_isFirst {c : Cut text} (h : c.IsFirst) : split text = (some c.header, c.body) := by
  rw [split, c.afterOpening?_eq, Option.bind_some, c.isFirst_iff.mp h]
  simp

/-- A text that can be cut has a first cut. -/
theorem exists_isFirst (c : Cut text) : ∃ d : Cut text, d.IsFirst := by
  cases hfound : untilClosing? true c.inner with
  | none => exact absurd c.closedAt (untilClosing?_eq_none_iff.mp hfound _ _)
  | some found =>
    obtain ⟨header, body⟩ := found
    obtain ⟨hclosed, -⟩ := untilClosing?_eq_some_iff.mp hfound
    obtain ⟨d, rfl, rfl⟩ := exists_of_closedAt c.afterOpening?_eq hclosed
    rw [(c.opening_eq d).2] at hfound
    exact ⟨d, d.isFirst_iff.mpr hfound⟩

end Cut

/-- A document without a cut has no header. -/
theorem split_of_not_nonempty (h : ¬ Nonempty (Cut text)) : split text = (none, text) := by
  have hnone : (afterOpening? text.toList).bind (untilClosing? true) = none := by
    rw [Option.bind_eq_none_iff]
    intro rest hopening
    rw [untilClosing?_eq_none_iff]
    intro header body hclosed
    obtain ⟨c, -, -⟩ := Cut.exists_of_closedAt hopening hclosed
    exact h ⟨c⟩
  rw [split, hnone]

/-- **The documents with a header are those that can be cut.** -/
theorem isSome_split_iff : (split text).1.isSome = true ↔ Nonempty (Cut text) := by
  constructor
  · intro h
    by_contra hnone
    rw [split_of_not_nonempty hnone] at h
    cases h
  · rintro ⟨c⟩
    obtain ⟨d, hd⟩ := c.exists_isFirst
    rw [Cut.split_of_isFirst hd]
    rfl

instance (text : String) : Decidable (Nonempty (Cut text)) :=
  decidable_of_iff _ isSome_split_iff

/-! ### Headers between fences -/

/-- No closing fence stands where a line of the header starts. -/
def Unfenced (header : String) : Prop :=
  ∀ front body, ¬ ClosedAt true header.toList front body

instance (header : String) : Decidable (Unfenced header) :=
  decidable_of_iff (untilClosing? true header.toList = none) untilClosing?_eq_none_iff

theorem newline_notMem_of_isRule (h : IsRule rule) : '\n' ∉ rule := by
  obtain ⟨padding, hpadding, rfl⟩ := h
  intro hmem
  rcases List.mem_append.mp hmem with hmem | hmem
  · exact absurd hmem (by decide)
  · exact absurd (hpadding _ hmem) (by decide)

/-- Only the end of a fence is a line feed. -/
theorem newline_notMem_dropLast (h : IsClosing fence rest) : '\n' ∉ fence.dropLast := by
  rcases h with ⟨rule, newline, hrule, rfl | rfl, rfl⟩ | ⟨hrule, -⟩
  · rw [List.dropLast_concat]
    exact newline_notMem_of_isRule hrule
  · rw [List.dropLast_append_of_ne_nil (List.cons_ne_nil _ _)]
    intro hmem
    rcases List.mem_append.mp hmem with hmem | hmem
    · exact newline_notMem_of_isRule hrule hmem
    · exact absurd hmem (by decide)
  · exact fun hmem => newline_notMem_of_isRule hrule (List.dropLast_subset _ hmem)

/-- A fence that begins in front of a line feed ends there or before it. -/
theorem isClosing_of_append {front tail : List Char} (h : IsClosing fence rest)
    (hline : front.getLast? = some '\n') (happend : fence ++ rest = front ++ tail) :
    ∃ rest', IsClosing fence rest' ∧ front = fence ++ rest' := by
  rcases List.append_eq_append_iff.mp happend with ⟨a, rfl, rfl⟩ | ⟨a, rfl, rfl⟩
  · exact ⟨a, h.imp id fun ⟨hrule, hnil⟩ => ⟨hrule, (List.append_eq_nil_iff.mp hnil).1⟩, rfl⟩
  · by_cases ha : a = []
    · refine ⟨[], h.imp id fun ⟨hrule, _⟩ => ⟨hrule, rfl⟩, ?_⟩
      rw [ha, List.append_nil, List.append_nil]
    · -- a fence that went on behind the line feed would hold it before its end
      have hfeed := newline_notMem_dropLast h
      rw [List.dropLast_append_of_ne_nil ha] at hfeed
      exact absurd (List.mem_append_left _ (List.mem_of_getLast? hline)) hfeed

/-- Whatever follows whole lines without a closing fence, the first closing fence stands behind
them. -/
theorem length_le_of_closedAt {lines front tail : List Char}
    (hline : lines = [] ∨ lines.getLast? = some '\n')
    (hnone : ∀ front body, ¬ ClosedAt start lines front body)
    (h : ClosedAt start (lines ++ tail) front body) : lines.length ≤ front.length := by
  obtain ⟨hstart, fence, hfence, happend⟩ := h
  rw [List.append_assoc] at happend
  rcases List.append_eq_append_iff.mp happend with ⟨a, rfl, -⟩ | ⟨a, rfl, htail⟩
  · rw [List.length_append]
    exact Nat.le_add_right _ _
  · by_cases ha : a = []
    · rw [ha, List.append_nil]
    · have hlast : a.getLast? = some '\n' := by
        rw [List.append_eq_nil_iff, List.getLast?_append_of_ne_nil _ ha] at hline
        exact hline.resolve_left fun hnil => ha hnil.2
      obtain ⟨rest', hfence', rfl⟩ := isClosing_of_append hfence hlast htail
      exact absurd ⟨hstart, fence, hfence', (List.append_assoc ..).symm⟩ (hnone front rest')

/-- A plain fence and the end of its line. -/
theorem isOpening_plain : IsOpening "---\n".toList :=
  ⟨['-', '-', '-'], ['\n'], ⟨[], by simp, rfl⟩, .inl rfl, rfl⟩

/-- **A header put between two fences is found again.** -/
theorem split_fenced {header body : String}
    (hline : header = "" ∨ header.toList.getLast? = some '\n') (hnone : Unfenced header) :
    split ("---\n" ++ header ++ "---\n" ++ body) = (some header, body) := by
  let c : Cut ("---\n" ++ header ++ "---\n" ++ body) :=
    ⟨"---\n", header, "---\n", body, isOpening_plain, hline, .inl isOpening_plain, rfl⟩
  have hfirst : c.IsFirst := by
    refine c.isFirst_iff.mpr (untilClosing?_eq_some_iff.mpr ⟨c.closedAt, fun front rest h => ?_⟩)
    rw [Cut.inner, List.append_assoc] at h
    exact length_le_of_closedAt (hline.imp_left String.toList_eq_nil_iff.mpr) hnone h
  exact Cut.split_of_isFirst hfirst

/-- **A document is divided at its first closing fence**, where the fences, the header and the body
make up the text, and one that cannot be cut keeps its text.  So a header that is put between two
fences is found again, unless it has a fence of its own. -/
theorem split_first_fence :
    (∀ text, Nonempty (Cut text) →
      ∃ c : Cut text, c.IsFirst ∧ split text = (some c.header, c.body)) ∧
    (∀ text, ¬ Nonempty (Cut text) → split text = (none, text)) ∧
    ∀ header body : String, header = "" ∨ header.toList.getLast? = some '\n' → Unfenced header →
      split ("---\n" ++ header ++ "---\n" ++ body) = (some header, body) := by
  refine ⟨fun text ⟨c⟩ => ?_, fun text => split_of_not_nonempty, fun header body => split_fenced⟩
  obtain ⟨d, hd⟩ := c.exists_isFirst
  exact ⟨d, hd, Cut.split_of_isFirst hd⟩

/-- A document with padding and with carriage returns; one whose lines are no fences, for the dashes
are four or a letter follows them; and a header with such lines, with a blank in front of the dashes
and with a lone carriage return behind them. -/
theorem split_first_fence_lookalikes :
    (∃ c : Cut "--- \t\r\na\r\n---\t", c.IsFirst ∧ c.header = "a\r\n" ∧ c.body = "") ∧
    split "---\n----\n---x\n" = (none, "---\n----\n---x\n") ∧
    split ("---\n" ++ "----\n---x\n ---\n---\rx\n" ++ "---\n" ++ "---\n# A\n") =
      (some "----\n---x\n ---\n---\rx\n", "---\n# A\n") := by
  obtain ⟨hcut, hwhole, hfenced⟩ := split_first_fence
  refine ⟨?_, hwhole _ (by decide +kernel), hfenced _ _ (.inr ?_) (by decide +kernel)⟩
  · obtain ⟨c, hfirst, hsplit⟩ := hcut "--- \t\r\na\r\n---\t" (by decide +kernel)
    have hpieces : split "--- \t\r\na\r\n---\t" = (some "a\r\n", "") := by decide +kernel
    rw [hpieces, Prod.mk.injEq, Option.some.injEq] at hsplit
    exact ⟨c, hfirst, hsplit.1.symm, hsplit.2.symm⟩
  · decide +kernel

end Header

end Pageworks
