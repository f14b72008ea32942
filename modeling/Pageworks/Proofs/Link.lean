import Mathlib.Data.List.Basic
import Mathlib.Data.List.TakeWhile
import Pageworks.Link

/-!
# Marked links

A markup falls into anchor tags and single characters: the first anchor tag is the leftmost one, it
ends at the first closing bracket, and the next one is looked for behind it.  Marking goes through
these pieces and rewrites some of the tags.  A tag that is rewritten is an anchor tag again, at the
same place among the pieces, and it names a target.  So it is left alone from then on.

The pieces are carried by `Link.markup_induction`: what holds of the empty markup, and goes on to
hold with an anchor tag or with a character that starts none in front, holds of every markup.

## Main definitions

* `Link.Anchor` — an anchor tag; `Link.Anchor.marked` — the tag with the target.
* `Link.Mentions` — a text holds a name, where no word goes on, with an equals sign behind it.
* `Link.Inserts` — a markup with targets inserted into its external anchor tags.

## Main results

* `Link.names_iff` — the presence of an attribute is looked for in the text of all attributes.
* `Link.openExternal_anchor`, `Link.openExternal_append` — marking goes tag by tag.
* `Link.openExternal_inserts` — **marking only inserts**, and a second time it changes nothing.
-/

namespace Pageworks.Link

open Pageworks.Text

variable {name cs rest s t : List Char} {inWord : Bool} {c : Char}

/-! ### Names in a text -/

/-- The text starts with the name, in any case, and an equals sign behind blanks. -/
def IsAssigned (name cs : List Char) : Prop :=
  ∃ word gap rest, cs = word ++ gap ++ '=' :: rest ∧ word.map letterIgnoringCase = name ∧
    ∀ c ∈ gap, isBlank c = true

/-- A word goes on behind the text, or behind what stands in front of an empty one. -/
def endsInWord (inWord : Bool) (cs : List Char) : Bool := (cs.getLast?.map isWord).getD inWord

/-- Somewhere in the text, where no word goes on, the name is assigned to. -/
def Mentions (name : List Char) (inWord : Bool) (cs : List Char) : Prop :=
  ∃ front back, cs = front ++ back ∧ endsInWord inWord front = false ∧ IsAssigned name back

theorem endsInWord_cons (inWord : Bool) (c : Char) (cs : List Char) :
    endsInWord inWord (c :: cs) = endsInWord (isWord c) cs := by
  rw [endsInWord, endsInWord, List.getLast?_cons]
  cases cs.getLast? with
  | none => rfl
  | some x => rfl

theorem isBlank_equals : isBlank '=' = false := by decide

theorem afterName?_eq_some_iff : afterName? name cs = some rest ↔
    ∃ word gap, cs = word ++ gap ++ '=' :: rest ∧ word.map letterIgnoringCase = name ∧
      ∀ c ∈ gap, isBlank c = true := by
  induction name generalizing cs with
  | nil =>
    constructor
    · intro h
      rw [afterName?] at h
      split at h
      · next tail htail =>
        obtain rfl := Option.some.inj h
        refine ⟨[], cs.takeWhile isBlank, ?_, rfl, fun c hc => List.mem_takeWhile_imp hc⟩
        rw [List.nil_append, ← htail, trimStart, List.takeWhile_append_dropWhile]
      · cases h
    · rintro ⟨word, gap, rfl, hword, hgap⟩
      obtain rfl := List.map_eq_nil_iff.mp hword
      simp only [List.nil_append, afterName?, trimStart_blanks_append hgap isBlank_equals]
  | cons n ns ih =>
    cases cs with
    | nil =>
      constructor
      · intro h
        cases h
      · rintro ⟨word, gap, hcs, -, -⟩
        simp at hcs
    | cons c cs =>
      rw [afterName?]
      constructor
      · intro h
        obtain ⟨hc, hrest⟩ := Option.ite_none_right_eq_some.mp h
        obtain ⟨word, gap, rfl, hword, hgap⟩ := ih.mp hrest
        exact ⟨c :: word, gap, rfl, by rw [List.map_cons, beq_iff_eq.mp hc, hword], hgap⟩
      · rintro ⟨word, gap, hcs, hword, hgap⟩
        cases word with
        | nil => cases hword
        | cons x word =>
          rw [List.cons_append, List.cons_append] at hcs
          obtain ⟨rfl, rfl⟩ := List.cons.inj hcs
          rw [List.map_cons] at hword
          obtain ⟨hx, hword⟩ := List.cons.inj hword
          rw [if_pos (beq_iff_eq.mpr hx)]
          exact ih.mpr ⟨word, gap, rfl, hword, hgap⟩

theorem isAssigned_iff : IsAssigned name cs ↔ (afterName? name cs).isSome = true := by
  rw [Option.isSome_iff_exists]
  constructor
  · rintro ⟨word, gap, rest, h⟩
    exact ⟨rest, afterName?_eq_some_iff.mpr ⟨word, gap, h⟩⟩
  · rintro ⟨rest, h⟩
    obtain ⟨word, gap, h⟩ := afterName?_eq_some_iff.mp h
    exact ⟨word, gap, rest, h⟩

theorem not_isAssigned_nil : ¬ IsAssigned name [] := by
  rintro ⟨word, gap, rest, hcs, -⟩
  simp at hcs

/-- **Names are looked for everywhere**, in the names and in the values of a tag. -/
theorem names_iff : names name inWord cs = true ↔ Mentions name inWord cs := by
  induction cs generalizing inWord with
  | nil =>
    constructor
    · intro h
      cases h
    · rintro ⟨front, back, hcs, -, hback⟩
      rw [(List.append_eq_nil_iff.mp hcs.symm).2] at hback
      exact absurd hback not_isAssigned_nil
  | cons c cs ih =>
    rw [names, Bool.or_eq_true, Bool.and_eq_true, Bool.not_eq_true', ih, ← isAssigned_iff]
    constructor
    · rintro (⟨hword, hassigned⟩ | ⟨front, back, rfl, hword, hassigned⟩)
      · exact ⟨[], c :: cs, rfl, hword, hassigned⟩
      · exact ⟨c :: front, back, rfl, by rwa [endsInWord_cons], hassigned⟩
    · rintro ⟨front, back, hcs, hword, hassigned⟩
      cases front with
      | nil =>
        rw [List.nil_append] at hcs
        exact .inl ⟨hword, hcs ▸ hassigned⟩
      | cons x front =>
        rw [List.cons_append] at hcs
        obtain ⟨rfl, rfl⟩ := List.cons.inj hcs
        exact .inr ⟨front, back, rfl, by rwa [endsInWord_cons] at hword, hassigned⟩

instance (name : List Char) (inWord : Bool) (cs : List Char) :
    Decidable (Mentions name inWord cs) :=
  decidable_of_iff _ names_iff

/-- A tag that names a target is not to be marked. -/
theorem isExternal_of_mentions (h : Mentions "target".toList false cs) :
    isExternal cs = false := by
  rw [isExternal]
  split
  · rfl
  · rw [names_iff.mpr h, Bool.not_true, Bool.and_false, Bool.false_and]

/-! ### Anchor tags -/

/-- An anchor tag: its letter, and what stands up to the first closing bracket. -/
structure Anchor where
  /-- The name of the tag. -/
  letter : Char
  /-- The text of the attributes. -/
  attributes : List Char
  isLetter : letter = 'a' ∨ letter = 'A'
  closed : '>' ∉ attributes
  apart : attributes.head?.any isWord = false

namespace Anchor

/-- The tag as it is written. -/
def text (a : Anchor) : List Char := '<' :: a.letter :: a.attributes ++ ['>']

/-- The target that a tag gets. -/
def target : List Char := " target=\"_blank\"".toList

theorem targetBlank_eq : targetBlank = target ++ ['>'] := by decide

/-- The tag with its letter in small and the target behind its attributes. -/
def marked (a : Anchor) : Anchor where
  letter := 'a'
  attributes := a.attributes ++ target
  isLetter := .inl rfl
  closed h := (List.mem_append.mp h).elim a.closed fun h => absurd h (by decide)
  apart := by
    have happart := a.apart
    cases hattributes : a.attributes with
    | nil => decide +kernel
    | cons c cs => rwa [hattributes] at happart

theorem text_marked (a : Anchor) : a.marked.text = '<' :: 'a' :: a.attributes ++ targetBlank := by
  rw [targetBlank_eq, ← List.append_assoc]
  rfl

theorem text_append (a : Anchor) (s : List Char) :
    a.text ++ s = '<' :: a.letter :: (a.attributes ++ '>' :: s) := by
  simp [text]

/-- The tag with the target, if it leads to an external address. -/
def opened (a : Anchor) : Anchor := if isExternal a.attributes then a.marked else a

/-- The inserted target is an attribute of its own. -/
theorem mentions_target (a : Anchor) : Mentions "target".toList false a.marked.attributes := by
  refine ⟨a.attributes ++ [' '], "target=\"_blank\"".toList, ?_, ?_, ?_⟩
  · rw [List.append_assoc]
    rfl
  · rw [endsInWord, List.getLast?_concat]
    decide +kernel
  · exact isAssigned_iff.mpr (by decide +kernel)

/-- **A tag that has been marked is left alone.** -/
theorem opened_opened (a : Anchor) : a.opened.opened = a.opened := by
  have hmarked : a.marked.opened = a.marked := by
    rw [opened, isExternal_of_mentions a.mentions_target, if_neg Bool.false_ne_true]
  cases h : isExternal a.attributes with
  | true =>
    have hopened : a.opened = a.marked := by rw [opened, if_pos h]
    rw [hopened, hmarked]
  | false =>
    have hopened : a.opened = a := by
      rw [opened, if_neg (by rw [h]; exact Bool.false_ne_true)]
    rw [hopened, hopened]

end Anchor

/-- The text goes on like an anchor tag, whether or not the tag ends. -/
def StartsAnchor (cs : List Char) : Prop :=
  ∃ letter back, cs = '<' :: letter :: back ∧ (letter = 'a' ∨ letter = 'A') ∧
    back.head?.any isWord = false

theorem anchor?_text_append (a : Anchor) (s : List Char) :
    anchor? (a.text ++ s) = some (a.attributes, s) := by
  have hopen : ∀ c ∈ a.attributes, (c != '>') = true := by
    intro c hc
    rw [bne_iff_ne]
    rintro rfl
    exact a.closed hc
  have happart : (a.attributes ++ '>' :: s).head?.any isWord = false := by
    have happart := a.apart
    cases hcs : a.attributes with
    | nil =>
      rw [List.nil_append, List.head?_cons, Option.any_some]
      decide +kernel
    | cons c cs => rwa [hcs] at happart
  rw [Anchor.text_append, anchor?, happart, if_pos]
  · rw [List.takeWhile_append_of_pos hopen, List.dropWhile_append_of_pos hopen]
    simp
  · simp [a.isLetter]

/-- What starts like an anchor tag is one up to the first closing bracket. -/
theorem exists_anchor (h : StartsAnchor s) (hend : '>' ∈ s) :
    ∃ (a : Anchor) (after : List Char), s = a.text ++ after := by
  obtain ⟨letter, back, rfl, hletter, happart⟩ := h
  have hback : '>' ∈ back := by
    rcases hletter with rfl | rfl <;> simpa using hend
  obtain ⟨attributes, after, rfl, hclosed⟩ := List.eq_append_cons_of_mem hback
  have happart' : attributes.head?.any isWord = false := by
    cases attributes with
    | nil => rfl
    | cons c cs => exact happart
  refine ⟨⟨letter, attributes, hletter, hclosed, happart'⟩, after, ?_⟩
  rw [Anchor.text_append]

/-- **Where an anchor tag starts**, one is found if a closing bracket follows. -/
theorem isSome_anchor?_iff : (anchor? s).isSome = true ↔ StartsAnchor s ∧ '>' ∈ s := by
  constructor
  · intro h
    unfold anchor? at h
    split at h
    · next letter back =>
      rw [Option.isSome_ite] at h
      simp only [Bool.and_eq_true, Bool.or_eq_true, beq_iff_eq, Bool.not_eq_true',
        List.contains_iff_mem] at h
      obtain ⟨⟨hletter, happart⟩, hend⟩ := h
      exact ⟨⟨letter, back, rfl, hletter, happart⟩,
        List.mem_cons_of_mem _ (List.mem_cons_of_mem _ hend)⟩
    · cases h
  · rintro ⟨hstart, hend⟩
    obtain ⟨a, after, rfl⟩ := exists_anchor hstart hend
    rw [anchor?_text_append]
    rfl

/-- A tag that is found stands in front of the markup. -/
theorem exists_of_anchor? {attributes after : List Char}
    (h : anchor? s = some (attributes, after)) :
    ∃ a : Anchor, a.attributes = attributes ∧ s = a.text ++ after := by
  obtain ⟨hstart, hend⟩ := isSome_anchor?_iff.mp (Option.isSome_of_eq_some h)
  obtain ⟨a, after', rfl⟩ := exists_anchor hstart hend
  rw [anchor?_text_append, Option.some.injEq, Prod.mk.injEq] at h
  obtain ⟨hattributes, rfl⟩ := h
  exact ⟨a, hattributes, rfl⟩

theorem anchor?_eq_none_iff : anchor? s = none ↔ ¬ (StartsAnchor s ∧ '>' ∈ s) := by
  rw [← isSome_anchor?_iff, Option.not_isSome_iff_eq_none]

/-! ### Marking tag by tag -/

/-- What holds of the empty markup, and with an anchor tag or a character that starts none in front
of a markup that it holds of, holds of every markup. -/
theorem markup_induction {P : List Char → Prop} (nil : P [])
    (anchor : ∀ (a : Anchor) s, P s → P (a.text ++ s))
    (text : ∀ c s, anchor? (c :: s) = none → P s → P (c :: s)) (s : List Char) : P s := by
  induction s using openExternal.induct with
  | case1 => exact nil
  | case2 c cs attributes after h _ ih =>
    obtain ⟨a, -, hs⟩ := exists_of_anchor? h
    rw [hs]
    exact anchor a after ih
  | case3 c cs attributes after h _ ih =>
    obtain ⟨a, -, hs⟩ := exists_of_anchor? h
    rw [hs]
    exact anchor a after ih
  | case4 c cs h ih => exact text c cs h ih

theorem openExternal_nil : openExternal [] = [] := by
  rw [openExternal]

theorem openExternal_cons (h : anchor? (c :: s) = none) :
    openExternal (c :: s) = c :: openExternal s := by
  rw [openExternal]
  split
  · next hsome =>
    rw [h] at hsome
    cases hsome
  · rfl

theorem openExternal_anchor (a : Anchor) (s : List Char) :
    openExternal (a.text ++ s) = a.opened.text ++ openExternal s := by
  have hfound := anchor?_text_append a s
  rw [Anchor.text_append] at hfound ⊢
  rw [openExternal]
  split
  · next attributes after hsome =>
    rw [hfound, Option.some.injEq, Prod.mk.injEq] at hsome
    obtain ⟨rfl, rfl⟩ := hsome
    rw [Anchor.opened]
    split
    · rw [Anchor.text_marked]
    · rw [← Anchor.text_append, List.length_append, Nat.add_sub_cancel, List.take_left]
  · next hnone =>
    rw [hfound] at hnone
    cases hnone

/-- Marking does not move the start of a markup. -/
theorem head?_openExternal (s : List Char) : (openExternal s).head? = s.head? := by
  induction s using markup_induction with
  | nil => rw [openExternal_nil]
  | anchor a s _ =>
    rw [openExternal_anchor, Anchor.text_append, Anchor.text_append]
    rfl
  | text c s h _ =>
    rw [openExternal_cons h]
    rfl

/-- Marking neither adds the first closing bracket nor takes the last one. -/
theorem closing_mem_openExternal (s : List Char) : '>' ∈ openExternal s ↔ '>' ∈ s := by
  induction s using markup_induction with
  | nil => rw [openExternal_nil]
  | anchor a s _ =>
    rw [openExternal_anchor, Anchor.text_append, Anchor.text_append]
    simp
  | text c s h ih => rw [openExternal_cons h, List.mem_cons, List.mem_cons, ih]

/-- **Where no anchor tag starts, none does once what follows is marked.** -/
theorem anchor?_cons_openExternal (h : anchor? (c :: s) = none) :
    anchor? (c :: openExternal s) = none := by
  rw [anchor?_eq_none_iff] at h ⊢
  rintro ⟨⟨letter, back, hs, hletter, happart⟩, hend⟩
  refine h ⟨?_, ?_⟩
  · cases s with
    | nil =>
      rw [openExternal_nil] at hs
      cases hs
    | cons x s =>
      have hhead := head?_openExternal (x :: s)
      obtain ⟨rfl, hback⟩ := List.cons.inj hs
      rw [hback, List.head?_cons, List.head?_cons, Option.some.injEq] at hhead
      subst hhead
      -- behind the bracket stands a letter, and no tag starts there
      have hnone : anchor? (letter :: s) = none := by
        rw [anchor?_eq_none_iff]
        rintro ⟨⟨x, xs, hx, -⟩, -⟩
        obtain ⟨rfl, -⟩ := List.cons.inj hx
        revert hletter
        decide
      rw [openExternal_cons hnone] at hback
      obtain ⟨-, rfl⟩ := List.cons.inj hback
      exact ⟨letter, s, rfl, hletter, by rwa [head?_openExternal] at happart⟩
  · rwa [List.mem_cons, closing_mem_openExternal, ← List.mem_cons] at hend

/-- **Marking again changes nothing.** -/
theorem openExternal_openExternal (s : List Char) :
    openExternal (openExternal s) = openExternal s := by
  induction s using markup_induction with
  | nil => rw [openExternal_nil, openExternal_nil]
  | anchor a s ih => rw [openExternal_anchor, openExternal_anchor, a.opened_opened, ih]
  | text c s h ih => rw [openExternal_cons h, openExternal_cons (anchor?_cons_openExternal h), ih]

/-- Whether an anchor tag starts in front of a closing bracket is told up to that bracket. -/
theorem anchor?_cons_append (hend : (c :: s).getLast? = some '>') (h : anchor? (c :: s) = none)
    (t : List Char) : anchor? (c :: (s ++ t)) = none := by
  rw [anchor?_eq_none_iff] at h ⊢
  rintro ⟨⟨letter, back, hcs, hletter, happart⟩, -⟩
  obtain ⟨rfl, hback⟩ := List.cons.inj hcs
  refine h ⟨?_, List.mem_of_getLast? hend⟩
  -- the closing bracket comes behind the letter
  cases s with
  | nil => simp at hend
  | cons x s =>
    obtain ⟨rfl, hrest⟩ := List.cons.inj hback
    cases s with
    | nil =>
      rcases hletter with rfl | rfl
      · simp at hend
      · simp at hend
    | cons y s =>
      rw [← hrest] at happart
      exact ⟨x, y :: s, rfl, hletter, happart⟩

/-- **Nothing is marked across the end of a tag.** -/
theorem openExternal_append (h : s.getLast? = some '>') (t : List Char) :
    openExternal (s ++ t) = openExternal s ++ openExternal t := by
  induction s using markup_induction with
  | nil => cases h
  | anchor a s ih =>
    rw [List.append_assoc, openExternal_anchor, openExternal_anchor, List.append_assoc]
    cases s with
    | nil => rw [List.nil_append, openExternal_nil, List.nil_append]
    | cons c s => rw [ih (by rwa [List.getLast?_append_cons] at h)]
  | text c s hnone ih =>
    rw [List.cons_append, openExternal_cons (anchor?_cons_append h hnone t),
      openExternal_cons hnone, List.cons_append]
    cases s with
    | nil => rw [List.nil_append, openExternal_nil, List.nil_append]
    | cons x s => rw [ih (by rwa [List.getLast?_cons_cons] at h)]

/-- A text without an angle bracket stays. -/
theorem openExternal_text_append (h : '<' ∉ s) (t : List Char) :
    openExternal (s ++ t) = s ++ openExternal t := by
  induction s with
  | nil => rfl
  | cons c s ih =>
    rw [List.mem_cons, not_or] at h
    have hnone : anchor? (c :: (s ++ t)) = none := by
      rw [anchor?_eq_none_iff]
      rintro ⟨⟨letter, back, hcs, -⟩, -⟩
      exact h.1 (List.cons.inj hcs).1.symm
    rw [List.cons_append, openExternal_cons hnone, ih h.2, List.cons_append]

theorem openExternal_of_notMem (h : '<' ∉ s) : openExternal s = s := by
  have happend := openExternal_text_append h []
  rwa [openExternal_nil, List.append_nil] at happend

/-! ### What marking inserts -/

/-- A markup with targets inserted: each of its anchor tags that is external has the target in front
of its closing bracket and a small letter, and every other character stays. -/
inductive Inserts : List Char → List Char → Prop
  /-- Nothing is inserted into the empty markup. -/
  | nil : Inserts [] []
  /-- A character that starts no anchor tag stays. -/
  | text {c : Char} {s t : List Char} (h : ¬ (StartsAnchor (c :: s) ∧ '>' ∈ c :: s)) :
    Inserts s t → Inserts (c :: s) (c :: t)
  /-- An anchor tag that is not external stays. -/
  | kept {a : Anchor} {s t : List Char} (h : isExternal a.attributes = false) :
    Inserts s t → Inserts (a.text ++ s) (a.text ++ t)
  /-- An external anchor tag gets a target. -/
  | marked {a : Anchor} {s t : List Char} (h : isExternal a.attributes = true) :
    Inserts s t →
      Inserts (a.text ++ s) ('<' :: 'a' :: a.attributes ++ " target=\"_blank\">".toList ++ t)

theorem inserts_openExternal (s : List Char) : Inserts s (openExternal s) := by
  induction s using markup_induction with
  | nil =>
    rw [openExternal_nil]
    exact .nil
  | anchor a s ih =>
    rw [openExternal_anchor, Anchor.opened]
    cases h : isExternal a.attributes with
    | true =>
      rw [if_pos rfl, a.text_marked]
      exact .marked h ih
    | false =>
      rw [if_neg Bool.false_ne_true]
      exact .kept h ih
  | text c s h ih =>
    rw [openExternal_cons h]
    exact .text (anchor?_eq_none_iff.mp h) ih

/-- **Marking only inserts, and only once.**  In any markup, well-formed or not, the anchor tags
that are external get a target in front of their closing bracket and a small letter, and nothing
else is touched; marking the outcome again changes nothing. -/
theorem openExternal_inserts (s : List Char) :
    openExternal (openExternal s) = openExternal s ∧ Inserts s (openExternal s) :=
  ⟨openExternal_openExternal s, inserts_openExternal s⟩

/-- Tags in tags, a tag without an end and tags side by side. -/
example : openExternal "<A href='x://y' <a><A HREF=\"x://y\"></A><a href='x://y'".toList =
    ("<a href='x://y' <a target=\"_blank\">" ++
      "<a HREF=\"x://y\" target=\"_blank\"></A><a href='x://y'").toList := by
  decide +kernel

end Pageworks.Link
