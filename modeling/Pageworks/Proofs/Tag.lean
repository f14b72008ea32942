import Pageworks.Proofs.Header
import Pageworks.Proofs.Identifier
import Pageworks.Proofs.Link

/-!
# Well-formed tags

A well-formed markup is a sequence of texts and tags, and the attributes of a tag are names with
quoted values.  An anchor tag is to be marked if its first `href` is an absolute address and none of
its attributes is a `target`.

Marking reads the text of the attributes and not the attributes.  So it can be misled: by an
attribute whose name ends in the one that it looks for, such as `data-target`, by a value that reads
like an attribute, by the name of a tag that goes on behind an `a` with no letter, such as `a-card`,
and by an anchor tag inside the value of another tag.  Quotes are what keeps the attributes apart:
neither a name nor the equals sign behind it reaches over one.

## Main definitions

* `Link.Attribute`, `Link.Tag`, `Link.Piece` — the pieces of a well-formed markup.
* `Link.Tag.IsExternal` — a tag that is to be marked.
* `Link.Attribute.Feigns` — an attribute of another name that is read as one of the name.
* `Link.Tag.IsClear` — a tag that nothing in it misleads about.

## Main results

* `Link.names_written`, `Link.attribute?_written` — what is found in the text of attributes.
* `Link.openExternal_pieces` — **exactly the external tags are marked** among the clear ones, and no
  tag has a say in what becomes of another one.
-/

namespace Pageworks.Link

open Pageworks.Text

variable {name cs xs ys : List Char} {inWord : Bool} {c n : Char}

/-! ### Pieces of a markup -/

/-- Characters of the names of tags and attributes. -/
def isNameChar (c : Char) : Bool :=
  !isBlank c && !(['<', '>', '=', '"', quotedValue?.apostrophe].contains c)

/-- An attribute of a tag: its name and its value in quotes, with blanks in front. -/
structure Attribute where
  /-- The blanks in front of the attribute. -/
  gap : List Char
  /-- The name of the attribute. -/
  name : List Char
  /-- The quote on either side of the value. -/
  quote : Char
  /-- The value of the attribute. -/
  value : List Char
  gap_ne_nil : gap ≠ []
  isBlank_gap : ∀ c ∈ gap, isBlank c = true
  name_ne_nil : name ≠ []
  isNameChar_name : ∀ c ∈ name, isNameChar c = true
  isQuote : quote = '"' ∨ quote = quotedValue?.apostrophe
  quote_notMem : quote ∉ value
  closed : '>' ∉ value

/-- A tag: its name, its attributes, and the blanks in front of its end. -/
structure Tag where
  /-- The name of the tag, with the slash of a tag that closes an element. -/
  name : List Char
  /-- The attributes of the tag. -/
  attributes : List Attribute
  /-- The blanks behind the attributes. -/
  trail : List Char
  name_ne_nil : name ≠ []
  isNameChar_name : ∀ c ∈ name, isNameChar c = true
  isBlank_trail : ∀ c ∈ trail, isBlank c = true

/-- A piece of a well-formed markup. -/
inductive Piece
  /-- A text without an angle bracket. -/
  | text (cs : List Char) (h : '<' ∉ cs)
  /-- A tag. -/
  | tag (t : Tag)

/-- The attribute as it is written. -/
def Attribute.text (a : Attribute) : List Char :=
  a.gap ++ a.name ++ '=' :: a.quote :: a.value ++ [a.quote]

/-- The attributes of a tag and the blanks behind them, as they are written. -/
def Tag.inner (t : Tag) : List Char := t.attributes.flatMap Attribute.text ++ t.trail

/-- The tag as it is written. -/
def Tag.text (t : Tag) : List Char := '<' :: t.name ++ t.inner ++ ['>']

/-- The piece as it is written. -/
def Piece.written : Piece → List Char
  | .text cs _ => cs
  | .tag t => t.text

/-- The tag in small letters, with a target behind its attributes. -/
def Tag.marked (t : Tag) : List Char := '<' :: 'a' :: t.inner ++ " target=\"_blank\">".toList

/-! ### What is to be marked -/

/-- The attribute has the name, in any case. -/
def Attribute.Named (name : List Char) (a : Attribute) : Prop := a.name.map asciiLower = name

instance (name : List Char) (a : Attribute) : Decidable (a.Named name) :=
  inferInstanceAs (Decidable (_ = _))

/-- An absolute address: a scheme, then `://`. -/
def IsAddress (url : List Char) : Prop :=
  ∃ first scheme rest, url = first :: scheme ++ "://".toList ++ rest ∧
    ('a' ≤ first ∧ first ≤ 'z') ∧ ∀ c ∈ scheme, isSchemeChar c = true

/-- The tag is an anchor, in either case. -/
def Tag.IsAnchor (t : Tag) : Prop := t.name.map asciiLower = ['a']

/-- An anchor whose first `href` is an absolute address, without a target. -/
structure Tag.IsExternal (t : Tag) : Prop where
  isAnchor : t.IsAnchor
  isAddress : ∃ a, t.attributes.find? (·.Named "href".toList) = some a ∧ IsAddress a.value
  noTarget : ∀ a ∈ t.attributes, ¬ a.Named "target".toList

/-! ### What misleads -/

/-- An attribute of another name that is read as one of the name: its name ends in it, or its value
assigns to it. -/
def Attribute.Feigns (name : List Char) (a : Attribute) : Prop :=
  ¬ a.Named name ∧ Mentions name false (a.name ++ ['=']) ∨ Mentions name false a.value

/-- An anchor tag starts somewhere in the text. -/
def OpensAnchor (cs : List Char) : Prop := ∃ back, back <:+ cs ∧ StartsAnchor back

instance (cs : List Char) : Decidable (StartsAnchor cs) :=
  match cs with
  | [] => isFalse (by rintro ⟨_, _, h, -⟩; cases h)
  | [_] => isFalse (by rintro ⟨_, _, h, -⟩; cases h)
  | c :: letter :: back =>
    decidable_of_iff (c = '<' ∧ (letter = 'a' ∨ letter = 'A') ∧ back.head?.any isWord = false)
      ⟨fun ⟨hc, h⟩ => ⟨letter, back, by rw [hc], h⟩,
        fun ⟨_, _, hcs, h⟩ => by cases hcs; exact ⟨rfl, h⟩⟩

instance (cs : List Char) : Decidable (OpensAnchor cs) :=
  decidable_of_iff (∃ back ∈ cs.tails, StartsAnchor back)
    (by simp only [List.mem_tails, OpensAnchor])

instance (name : List Char) (a : Attribute) : Decidable (a.Feigns name) :=
  inferInstanceAs (Decidable (_ ∨ _))

instance (t : Tag) : Decidable t.IsAnchor := inferInstanceAs (Decidable (_ = _))

/-- Nothing in the tag is read as what it is not. -/
structure Tag.IsClear (t : Tag) : Prop where
  /-- The name of a tag that starts like an anchor is that of an anchor. -/
  anchor : StartsAnchor ('<' :: t.name) → t.IsAnchor
  /-- No attribute in front of the first `href` of an anchor is read as one. -/
  href : t.IsAnchor → ∀ a ∈ t.attributes.takeWhile fun a => !a.Named "href".toList,
    ¬ a.Feigns "href".toList
  /-- No attribute of an anchor is read as a target, unless another one is a target. -/
  target : t.IsAnchor → ∀ a ∈ t.attributes, a.Feigns "target".toList →
    ∃ b ∈ t.attributes, b.Named "target".toList
  /-- No anchor tag starts in a value of another tag. -/
  values : ¬ t.IsAnchor → ∀ a ∈ t.attributes, ¬ OpensAnchor a.value

instance (t : Tag) : Decidable t.IsClear :=
  decidable_of_iff
    ((StartsAnchor ('<' :: t.name) → t.IsAnchor) ∧
      (t.IsAnchor → ∀ a ∈ t.attributes.takeWhile fun a => !a.Named "href".toList,
        ¬ a.Feigns "href".toList) ∧
      (t.IsAnchor → ∀ a ∈ t.attributes, a.Feigns "target".toList →
        ∃ b ∈ t.attributes, b.Named "target".toList) ∧
      (¬ t.IsAnchor → ∀ a ∈ t.attributes, ¬ OpensAnchor a.value))
    ⟨fun ⟨anchor, href, target, values⟩ => ⟨anchor, href, target, values⟩,
      fun h => ⟨h.anchor, h.href, h.target, h.values⟩⟩

/-! ### Letters -/

/-- Names that are read the same whether letters of other alphabets count or not. -/
def IsPlain (name : List Char) : Prop :=
  name ≠ [] ∧ ∀ n ∈ name, ('a' ≤ n ∧ n ≤ 'z') ∧ n ≠ 'i' ∧ n ≠ 's' ∧ n ≠ 'k'

instance (name : List Char) : Decidable (IsPlain name) :=
  @instDecidableAnd (name ≠ []) _ inferInstance (List.decidableBAll _ _)

theorem isPlain_href : IsPlain "href".toList := by decide

theorem isPlain_target : IsPlain "target".toList := by decide

theorem isAsciiLetter_of_asciiLower (hn : 'a' ≤ n ∧ n ≤ 'z') (h : asciiLower c = n) :
    isAsciiLetter c = true := by
  rw [asciiLower] at h
  rw [isAsciiLetter, Bool.or_eq_true]
  split at h
  · next hcapital => exact .inr hcapital
  · rw [h]
    exact .inl (by simpa using hn)

/-- The letters of other alphabets stand for none of the letters of a plain name. -/
theorem letterIgnoringCase_eq_iff (hn : ('a' ≤ n ∧ n ≤ 'z') ∧ n ≠ 'i' ∧ n ≠ 's' ∧ n ≠ 'k') :
    letterIgnoringCase c = n ↔ asciiLower c = n := by
  obtain ⟨hletter, hi, hs, hk⟩ := hn
  unfold letterIgnoringCase
  by_cases hascii : asciiLower c = n
  · have hrange := isAsciiLetter_iff.mp (isAsciiLetter_of_asciiLower hletter hascii)
    rw [if_neg, if_neg, if_neg]
    · simp only [beq_iff_eq]
      omega
    · simp only [beq_iff_eq]
      omega
    · simp only [Bool.or_eq_true, beq_iff_eq]
      omega
  · refine iff_of_false ?_ hascii
    split
    · exact hi.symm
    · split
      · exact hs.symm
      · split
        · exact hk.symm
        · exact hascii

theorem map_letterIgnoringCase_eq_iff (hname : IsPlain name) :
    cs.map letterIgnoringCase = name ↔ cs.map asciiLower = name := by
  obtain ⟨-, hname⟩ := hname
  induction name generalizing cs with
  | nil => rw [List.map_eq_nil_iff, List.map_eq_nil_iff]
  | cons n name ih =>
    cases cs with
    | nil => simp
    | cons c cs =>
      rw [List.map_cons, List.map_cons, List.cons.injEq, List.cons.injEq,
        letterIgnoringCase_eq_iff (hname n List.mem_cons_self),
        ih fun n hn => hname n (List.mem_cons_of_mem _ hn)]

/-- A character that no name holds and no blank or equals sign is. -/
structure IsStop (c : Char) : Prop where
  isWord : isWord c = false
  isAsciiLetter : isAsciiLetter c = false
  isBlank : isBlank c = false
  ne_equals : c ≠ '='

theorem Attribute.isStop_quote (a : Attribute) : IsStop a.quote := by
  rcases a.isQuote with h | h
  · rw [h]
    exact ⟨by decide +kernel, by decide, by decide, by decide⟩
  · rw [h]
    exact ⟨by decide +kernel, by decide, by decide, by decide⟩

/-- A character that is no letter starts no name. -/
theorem afterName?_cons_of_neg (hname : IsPlain name) (hc : isAsciiLetter c = false) :
    afterName? name (c :: cs) = none := by
  obtain ⟨hne, hname⟩ := hname
  obtain ⟨n, ns, rfl⟩ := List.exists_cons_of_ne_nil hne
  have hn := hname n List.mem_cons_self
  rw [afterName?, if_neg]
  rw [beq_iff_eq, letterIgnoringCase_eq_iff hn]
  intro h
  rw [isAsciiLetter_of_asciiLower hn.1 h] at hc
  cases hc

/-- **No name reaches over a quote.** -/
theorem afterName?_append (hname : ∀ n ∈ name, ('a' ≤ n ∧ n ≤ 'z') ∧ n ≠ 'i' ∧ n ≠ 's' ∧ n ≠ 'k')
    (hc : IsStop c) (xs ys : List Char) :
    afterName? name (xs ++ c :: ys) = (afterName? name xs).map (· ++ c :: ys) := by
  induction name generalizing xs with
  | nil =>
    -- behind the name stand blanks and the equals sign, none of which is the character
    simp only [afterName?, trimStart_append_cons hc.isBlank]
    cases trimStart xs with
    | nil =>
      rw [List.nil_append]
      split
      · next h => exact absurd (List.cons.inj h).1 hc.ne_equals
      · rfl
    | cons x xs =>
      by_cases hx : x = '='
      · subst hx
        rfl
      · simp [hx]
  | cons n name ih =>
    cases xs with
    | nil => exact afterName?_cons_of_neg ⟨List.cons_ne_nil _ _, hname⟩ hc.isAsciiLetter
    | cons x xs =>
      rw [List.cons_append, afterName?, afterName?]
      split
      · exact ih (fun n hn => hname n (List.mem_cons_of_mem _ hn)) xs
      · rfl

theorem names_append (hname : IsPlain name) (hc : IsStop c) (xs ys : List Char) :
    names name inWord (xs ++ c :: ys) = (names name inWord xs || names name false ys) := by
  induction xs generalizing inWord with
  | nil =>
    have hnil : names name inWord [] = false := rfl
    rw [List.nil_append, hnil, names, afterName?_cons_of_neg hname hc.isAsciiLetter, hc.isWord,
      Option.isSome_none, Bool.and_false]
  | cons x xs ih =>
    have happend := afterName?_append hname.2 hc (x :: xs) ys
    rw [List.cons_append] at happend ⊢
    rw [names, names, happend, Option.isSome_map, ih, Bool.or_assoc]

theorem attribute?_append (hname : IsPlain name) (hc : IsStop c)
    (h : names name inWord xs = false) (ys : List Char) :
    attribute? name inWord (xs ++ c :: ys) = attribute? name false ys := by
  induction xs generalizing inWord with
  | nil =>
    rw [List.nil_append, attribute?, afterName?_cons_of_neg hname hc.isAsciiLetter, hc.isWord]
    cases inWord <;> rfl
  | cons x xs ih =>
    have happend := afterName?_append hname.2 hc (x :: xs) ys
    rw [names, Bool.or_eq_false_iff, Bool.and_eq_false_iff, Bool.not_eq_false'] at h
    obtain ⟨hhere, hrest⟩ := h
    rw [List.cons_append] at happend ⊢
    rw [attribute?, happend]
    cases inWord with
    | true => exact ih hrest
    | false =>
      rcases hhere with hhere | hhere
      · cases hhere
      · have hnone : afterName? name (x :: xs) = none := by simpa using hhere
        rw [hnone]
        exact ih hrest

/-! ### Blanks -/

theorem isAsciiLetter_of_isBlank (h : isBlank c = true) : isAsciiLetter c = false := by
  rw [← Bool.not_eq_true, isAsciiLetter_iff]
  simp only [isBlank, Bool.or_eq_true, Bool.and_eq_true, decide_eq_true_eq, beq_iff_eq] at h
  omega

theorem isAsciiLetter_of_isWord (h : isWord c = false) : isAsciiLetter c = false := by
  rw [← Bool.not_eq_true] at h ⊢
  intro hletter
  have hrange := isAsciiLetter_iff.mp hletter
  have hascii : isLetter c = true := by rw [isLetter, if_pos (by omega), hletter]
  exact h (by simp [isWord, hascii])

/-- The blanks as ranges. -/
def blanks : Ranges := [(9, 13), (28, 32), (0x85, 0x85), (0xA0, 0xA0), (0x1680, 0x1680),
  (0x2000, 0x200A), (0x2028, 0x2029), (0x202F, 0x202F), (0x205F, 0x205F), (0x3000, 0x3000)]

theorem has_blanks (h : isBlank c = true) : blanks.has c = true := by
  simp only [isBlank, Bool.or_eq_true, Bool.and_eq_true, decide_eq_true_eq, beq_iff_eq] at h
  simp only [Ranges.has, blanks, List.any_cons, List.any_nil, Bool.or_eq_true, Bool.and_eq_true,
    decide_eq_true_eq]
  omega

/-- No word goes on at a blank. -/
theorem isWord_of_isBlank (h : isBlank c = true) : isWord c = false := by
  have hascending : blanks.Ascending := by decide +kernel
  have hnumeric : Table.otherNumeric.Ascending := by decide +kernel
  have hrange := has_blanks h
  have hletter : Table.letter.has c = false :=
    hascending.has_of_apart ascending_letter (by decide +kernel) hrange
  have hdecimal : Table.decimal.has c = false :=
    hascending.has_of_apart ascending_decimal (by decide +kernel) hrange
  have hother : Table.otherNumeric.has c = false :=
    hascending.has_of_apart hnumeric (by decide +kernel) hrange
  have hdigit : isAsciiDigit c = false := by
    rw [← Bool.not_eq_true, isAsciiDigit_iff]
    simp only [isBlank, Bool.or_eq_true, Bool.and_eq_true, decide_eq_true_eq, beq_iff_eq] at h
    omega
  have hline : (c == '_') = false := by
    refine beq_false_of_ne ?_
    rintro rfl
    exact absurd h (by decide)
  simp [isWord, isLetter, isDecimal, hline, hletter, hdecimal, hother, hdigit,
    isAsciiLetter_of_isBlank h]

theorem names_blanks (hname : IsPlain name) (h : ∀ c ∈ xs, isBlank c = true) :
    names name false (xs ++ ys) = names name false ys := by
  induction xs with
  | nil => rfl
  | cons x xs ih =>
    obtain ⟨hx, hxs⟩ := List.forall_mem_cons.mp h
    rw [List.cons_append, names, afterName?_cons_of_neg hname (isAsciiLetter_of_isBlank hx),
      isWord_of_isBlank hx, ih hxs]
    rfl

theorem attribute?_blanks (hname : IsPlain name) (h : ∀ c ∈ xs, isBlank c = true) :
    attribute? name false (xs ++ ys) = attribute? name false ys := by
  induction xs with
  | nil => rfl
  | cons x xs ih =>
    obtain ⟨hx, hxs⟩ := List.forall_mem_cons.mp h
    rw [List.cons_append, attribute?, afterName?_cons_of_neg hname (isAsciiLetter_of_isBlank hx),
      isWord_of_isBlank hx, ih hxs]
    rfl

/-! ### What is found in the text of attributes -/

theorem Attribute.text_append (a : Attribute) (s : List Char) :
    a.text ++ s = a.gap ++ (a.name ++ ['='] ++ a.quote :: (a.value ++ a.quote :: s)) := by
  simp [text]

theorem Attribute.mentions_of_named {a : Attribute} (hname : IsPlain name) (h : a.Named name) :
    Mentions name false (a.name ++ ['=']) :=
  ⟨[], a.name ++ ['='], rfl, rfl, a.name, [], [], by simp,
    (map_letterIgnoringCase_eq_iff hname).mpr h, by simp⟩

/-- The names that an attribute is read as. -/
theorem names_text_append (hname : IsPlain name) (a : Attribute) (s : List Char) :
    names name false (a.text ++ s) = true ↔
      a.Named name ∨ a.Feigns name ∨ names name false s = true := by
  rw [a.text_append, names_blanks hname a.isBlank_gap, names_append hname a.isStop_quote,
    names_append hname a.isStop_quote, Bool.or_eq_true, Bool.or_eq_true, names_iff, names_iff,
    Attribute.Feigns]
  have hnamed := a.mentions_of_named hname
  tauto

/-- **What is found in the text of attributes**: a name that one of them has or feigns. -/
theorem names_written (hname : IsPlain name) (t : Tag) : names name false t.inner = true ↔
    ∃ a ∈ t.attributes, a.Named name ∨ a.Feigns name := by
  rw [Tag.inner]
  induction t.attributes with
  | nil =>
    have hblanks : names name false (t.trail ++ []) = names name false [] :=
      names_blanks hname t.isBlank_trail
    rw [List.append_nil] at hblanks
    rw [List.flatMap_nil, List.nil_append, hblanks]
    simp [names]
  | cons a as ih =>
    rw [List.flatMap_cons, List.append_assoc, names_text_append hname, ih, ← or_assoc]
    simp only [List.mem_cons, exists_eq_or_imp]

/-- An attribute that neither has nor feigns the name is passed over. -/
theorem attribute?_text_append {a : Attribute} (hname : IsPlain name) (hnamed : ¬ a.Named name)
    (hfeigns : ¬ a.Feigns name) (s : List Char) :
    attribute? name false (a.text ++ s) = attribute? name false s := by
  rw [Attribute.Feigns, not_or, not_and] at hfeigns
  rw [a.text_append, attribute?_blanks hname a.isBlank_gap,
    attribute?_append hname a.isStop_quote, attribute?_append hname a.isStop_quote]
  · rw [← Bool.not_eq_true, names_iff]
    exact hfeigns.2
  · rw [← Bool.not_eq_true, names_iff]
    exact hfeigns.1 hnamed

/-- An attribute of the name gives its value. -/
theorem attribute?_text_of_named {a : Attribute} (hname : IsPlain name) (h : a.Named name)
    (s : List Char) : attribute? name false (a.text ++ s) = some a.value := by
  have hafter : afterName? name (a.name ++ ['='] ++ a.quote :: (a.value ++ a.quote :: s)) =
      some (a.quote :: (a.value ++ a.quote :: s)) :=
    afterName?_eq_some_iff.mpr
      ⟨a.name, [], by simp, (map_letterIgnoringCase_eq_iff hname).mpr h, by simp⟩
  have hvalue : quotedValue? (a.quote :: (a.value ++ a.quote :: s)) = some a.value := by
    have hquote : (a.quote == '"' || a.quote == quotedValue?.apostrophe) = true := by
      simpa using a.isQuote
    have hvalue : ∀ c ∈ a.value, (c != a.quote) = true := by
      intro c hc
      rw [bne_iff_ne]
      rintro rfl
      exact a.quote_notMem hc
    have htrim : trimStart (a.quote :: (a.value ++ a.quote :: s)) =
        a.quote :: (a.value ++ a.quote :: s) :=
      trimStart_append_cons a.isStop_quote.isBlank [] _
    simp only [quotedValue?, htrim]
    rw [if_pos hquote, if_pos (by simp), List.takeWhile_append_of_pos hvalue]
    simp
  obtain ⟨c, cs, hcons⟩ := List.exists_cons_of_ne_nil a.name_ne_nil
  rw [a.text_append, attribute?_blanks hname a.isBlank_gap]
  rw [hcons, List.cons_append, List.cons_append] at hafter ⊢
  rw [attribute?, hafter]
  simp only [Option.bind_some, hvalue]
  rfl

/-- **The value that is found** is that of the first attribute with the name, if none in front of it
feigns the name. -/
theorem attribute?_written (hname : IsPlain name) (t : Tag)
    (h : ∀ a ∈ t.attributes.takeWhile fun a => !a.Named name, ¬ a.Feigns name) :
    attribute? name false t.inner =
      (t.attributes.find? (·.Named name)).map Attribute.value := by
  rw [Tag.inner]
  generalize t.attributes = as at h ⊢
  induction as with
  | nil =>
    have hblanks : attribute? name false (t.trail ++ []) = attribute? name false [] :=
      attribute?_blanks hname t.isBlank_trail
    rw [List.append_nil] at hblanks
    rw [List.flatMap_nil, List.nil_append, hblanks]
    rfl
  | cons a as ih =>
    rw [List.flatMap_cons, List.append_assoc]
    by_cases hnamed : a.Named name
    · rw [attribute?_text_of_named hname hnamed, List.find?_cons_of_pos (by simpa using hnamed)]
      rfl
    · rw [List.takeWhile_cons_of_pos (by simpa using hnamed), List.forall_mem_cons] at h
      rw [attribute?_text_append hname hnamed h.1, ih h.2,
        List.find?_cons_of_neg (by simpa using hnamed)]

/-! ### Addresses -/

theorem isAbsolute_iff {url : List Char} : isAbsolute url = true ↔ IsAddress url := by
  constructor
  · intro h
    cases url with
    | nil => cases h
    | cons c cs =>
      rw [isAbsolute, Bool.and_eq_true, Bool.and_eq_true, decide_eq_true_iff, decide_eq_true_iff,
        Option.isSome_iff_exists] at h
      obtain ⟨hc, rest, hrest⟩ := h
      refine ⟨c, cs.takeWhile isSchemeChar, rest, ?_, hc, fun x hx => List.mem_takeWhile_imp hx⟩
      rw [List.cons_append, List.cons_append, List.append_assoc, ← startsWith?_eq_some_iff.mp hrest,
        List.takeWhile_append_dropWhile]
  · rintro ⟨c, scheme, rest, rfl, hc, hscheme⟩
    have hdrop : (scheme ++ ("://".toList ++ rest)).dropWhile isSchemeChar =
        "://".toList ++ rest := by
      rw [List.dropWhile_append_of_pos hscheme]
      rfl
    rw [List.cons_append, List.cons_append, List.append_assoc, isAbsolute, hdrop,
      startsWith?_eq_some_iff.mpr rfl]
    simp [hc]

instance (url : List Char) : Decidable (IsAddress url) := decidable_of_iff _ isAbsolute_iff

instance (t : Tag) : Decidable t.IsExternal :=
  decidable_of_iff
    (t.IsAnchor ∧ (∃ a ∈ t.attributes.find? (·.Named "href".toList), IsAddress a.value) ∧
      ∀ a ∈ t.attributes, ¬ a.Named "target".toList)
    ⟨fun ⟨isAnchor, isAddress, noTarget⟩ => ⟨isAnchor, isAddress, noTarget⟩,
      fun h => ⟨h.isAnchor, h.isAddress, h.noTarget⟩⟩

/-! ### Anchor tags among tags -/

theorem opensAnchor_cons : OpensAnchor (c :: cs) ↔ StartsAnchor (c :: cs) ∨ OpensAnchor cs := by
  simp only [OpensAnchor, List.suffix_cons_iff, or_and_right, exists_or, exists_eq_left]

theorem not_opensAnchor_nil : ¬ OpensAnchor [] := by
  rintro ⟨back, hback, letter, rest, rfl, -⟩
  rw [List.suffix_nil] at hback
  cases hback

theorem opensAnchor_append_of_notMem (h : '<' ∉ xs) (ys : List Char) :
    OpensAnchor (xs ++ ys) ↔ OpensAnchor ys := by
  induction xs with
  | nil => rfl
  | cons x xs ih =>
    rw [List.mem_cons, not_or] at h
    rw [List.cons_append, opensAnchor_cons, ih h.2, or_iff_right]
    rintro ⟨letter, back, hcons, -⟩
    exact h.1 (List.cons.inj hcons).1.symm

/-- What starts an anchor tag does so up to any character behind the bracket that is no letter. -/
theorem StartsAnchor.of_append (hc : isAsciiLetter c = false)
    (h : StartsAnchor ('<' :: (xs ++ c :: ys))) : StartsAnchor ('<' :: xs) := by
  obtain ⟨letter, back, hcons, hletter, happart⟩ := h
  obtain ⟨-, hback⟩ := List.cons.inj hcons
  cases xs with
  | nil =>
    obtain ⟨rfl, -⟩ := List.cons.inj hback
    rcases hletter with rfl | rfl
    · exact absurd hc (by decide)
    · exact absurd hc (by decide)
  | cons x xs =>
    obtain ⟨rfl, rfl⟩ := List.cons.inj hback
    refine ⟨x, xs, rfl, hletter, ?_⟩
    cases xs with
    | nil => rfl
    | cons y xs => exact happart

/-- **No anchor tag starts across a quote.** -/
theorem opensAnchor_append (hc : isAsciiLetter c = false) (hbracket : c ≠ '<')
    (h : OpensAnchor (xs ++ c :: ys)) : OpensAnchor xs ∨ OpensAnchor ys := by
  induction xs with
  | nil =>
    rw [List.nil_append, opensAnchor_cons] at h
    refine .inr (h.resolve_left ?_)
    rintro ⟨letter, back, hcons, -⟩
    exact hbracket (List.cons.inj hcons).1
  | cons x xs ih =>
    rw [List.cons_append, opensAnchor_cons] at h
    rw [opensAnchor_cons]
    rcases h with hstart | h
    · obtain rfl : x = '<' := by
        obtain ⟨letter, back, hcons, -⟩ := hstart
        exact (List.cons.inj hcons).1
      exact .inl (.inl (hstart.of_append hc))
    · exact (ih h).imp_left .inr

theorem openExternal_of_not_opensAnchor (h : ¬ OpensAnchor cs) : openExternal cs = cs := by
  induction cs with
  | nil => exact openExternal_nil
  | cons c cs ih =>
    rw [opensAnchor_cons, not_or] at h
    rw [openExternal_cons (anchor?_eq_none_iff.mpr fun hstart => h.1 hstart.1), ih h.2]

/-! ### Tags -/

theorem Attribute.quote_ne (a : Attribute) (hc : c ≠ '"') (hc' : c ≠ quotedValue?.apostrophe) :
    a.quote ≠ c := by
  rintro rfl
  exact a.isQuote.elim hc hc'

/-- The attribute up to its value. -/
def Attribute.front (a : Attribute) : List Char := a.gap ++ a.name ++ ['=', a.quote]

/-- No angle bracket stands outside a value. -/
theorem Attribute.notMem_front (a : Attribute) (hc : c = '<' ∨ c = '>') : c ∉ a.front := by
  intro hmem
  simp only [Attribute.front, List.mem_append, List.mem_cons, List.not_mem_nil, or_false] at hmem
  rcases hmem with (hgap | hname) | heq | hquote
  · have hblank := a.isBlank_gap c hgap
    rcases hc with rfl | rfl <;> exact absurd hblank (by decide)
  · have hchar := a.isNameChar_name c hname
    rcases hc with rfl | rfl <;> exact absurd hchar (by decide)
  · rw [heq] at hc
    exact absurd hc (by decide)
  · rcases hc with rfl | rfl <;> exact a.quote_ne (by decide) (by decide) hquote.symm

theorem Attribute.text_eq (a : Attribute) : a.text = a.front ++ a.value ++ [a.quote] := by
  simp [text, front]

namespace Tag

variable {t : Tag}

theorem closed_inner (t : Tag) : '>' ∉ t.inner := by
  intro hmem
  rcases List.mem_append.mp hmem with hmem | hmem
  · obtain ⟨a, -, ha⟩ := List.mem_flatMap.mp hmem
    rw [a.text_eq, List.mem_append, List.mem_append, List.mem_singleton] at ha
    rcases ha with (hfront | hvalue) | hquote
    · exact a.notMem_front (.inr rfl) hfront
    · exact a.closed hvalue
    · exact a.quote_ne (by decide) (by decide) hquote.symm
  · exact absurd (t.isBlank_trail _ hmem) (by decide)

/-- Behind the name of a tag comes a blank or the end of the tag. -/
theorem head?_inner (t : Tag) : t.inner.head?.any isWord = false := by
  have hblank : ∀ cs : List Char, (∀ c ∈ cs, isBlank c = true) →
      cs.head?.any isWord = false := by
    intro cs hcs
    cases cs with
    | nil => rfl
    | cons c cs => exact isWord_of_isBlank (hcs c List.mem_cons_self)
  rw [inner]
  cases t.attributes with
  | nil => exact hblank _ t.isBlank_trail
  | cons a as =>
    obtain ⟨c, gap, hgap⟩ := List.exists_cons_of_ne_nil a.gap_ne_nil
    have hhead := hblank a.gap a.isBlank_gap
    rw [hgap] at hhead
    rw [List.flatMap_cons, a.text_eq, Attribute.front, hgap]
    exact hhead

/-- The name of an anchor is a letter. -/
theorem IsAnchor.exists_letter (h : t.IsAnchor) :
    ∃ letter, t.name = [letter] ∧ (letter = 'a' ∨ letter = 'A') := by
  obtain ⟨letter, hname, hlower⟩ := List.map_eq_singleton_iff.mp h
  refine ⟨letter, hname, ?_⟩
  rw [asciiLower] at hlower
  split at hlower
  · next hcapital =>
    have hrange : 65 ≤ letter.toNat ∧ letter.toNat < 65 + 26 := by
      simpa [Char.le_def, UInt32.le_iff_toNat_le, Nat.lt_succ_iff] using hcapital
    have hcapitals : ∀ n ∈ List.range' 65 26, Char.ofNat (n + 32) = 'a' → n = 65 := by decide
    rw [← Char.ofNat_toNat letter, hcapitals _ (List.mem_range'_1.mpr hrange) hlower]
    exact .inr rfl
  · exact .inl hlower

/-- An anchor among the tags is an anchor tag. -/
theorem IsAnchor.exists_anchor (h : t.IsAnchor) :
    ∃ a : Anchor, a.attributes = t.inner ∧ a.text = t.text := by
  obtain ⟨letter, hname, hletter⟩ := h.exists_letter
  refine ⟨⟨letter, t.inner, hletter, t.closed_inner, t.head?_inner⟩, rfl, ?_⟩
  rw [Anchor.text, Tag.text, hname]
  rfl

/-- What becomes of an anchor is read off the text of its attributes. -/
theorem IsAnchor.openExternal_text (h : t.IsAnchor) :
    openExternal t.text = if isExternal t.inner then t.marked else t.text := by
  obtain ⟨a, hattributes, htext⟩ := h.exists_anchor
  have hopened := openExternal_anchor a []
  rw [List.append_nil, openExternal_nil, List.append_nil, Anchor.opened] at hopened
  rw [← hattributes, ← htext, hopened]
  split
  · rw [a.text_marked, hattributes]
    rfl
  · rfl

/-- **An anchor that is read as one with a target stays**, whether or not it has one. -/
theorem IsAnchor.openExternal_of_feigns {a : Attribute} (h : t.IsAnchor) (ha : a ∈ t.attributes)
    (hfeigns : a.Feigns "target".toList) : openExternal t.text = t.text := by
  have htarget := (names_written isPlain_target t).mpr ⟨a, ha, .inr hfeigns⟩
  rw [h.openExternal_text, isExternal_of_mentions (names_iff.mp htarget),
    if_neg Bool.false_ne_true]

/-- The last attribute ends in its quote, and no tag closes itself behind it. -/
theorem getLast?_trimEnd_inner (h : t.attributes ≠ []) :
    (trimEnd t.inner).getLast? ≠ some '/' := by
  obtain ⟨as, a, hattributes⟩ := (List.eq_nil_or_concat t.attributes).resolve_left h
  have hinner : t.inner =
      as.flatMap Attribute.text ++ a.front ++ a.value ++ [a.quote] ++ t.trail := by
    simp [inner, hattributes, a.text_eq]
  have hquote : dropTrailing isBlank [a.quote] = [a.quote] := by
    refine dropTrailing_eq_self_iff.mpr ?_
    rintro c ⟨⟩
    exact a.isStop_quote.isBlank
  rw [hinner, trimEnd, dropTrailing_append_of_forall t.isBlank_trail,
    dropTrailing_append_of_eq_self (List.cons_ne_nil _ _) hquote,
    List.getLast?_concat, Ne, Option.some.injEq]
  exact a.quote_ne (by decide) (by decide)

/-- **What marking reads of an anchor is what its attributes say**, if nothing misleads. -/
theorem isExternal_inner (hanchor : t.IsAnchor) (h : t.IsClear) :
    isExternal t.inner = true ↔ t.IsExternal := by
  have htarget : names "target".toList false t.inner = true ↔
      ∃ a ∈ t.attributes, a.Named "target".toList := by
    rw [names_written isPlain_target]
    constructor
    · rintro ⟨a, ha, hnamed | hfeigns⟩
      · exact ⟨a, ha, hnamed⟩
      · exact h.target hanchor a ha hfeigns
    · rintro ⟨a, ha, hnamed⟩
      exact ⟨a, ha, .inl hnamed⟩
  rw [isExternal, attribute?_written isPlain_href t (h.href hanchor)]
  cases hhref : t.attributes.find? (·.Named "href".toList) with
  | none =>
    refine iff_of_false Bool.false_ne_true fun hexternal => ?_
    obtain ⟨a, ha, -⟩ := hexternal.isAddress
    rw [hhref] at ha
    cases ha
  | some a =>
    have hne : t.attributes ≠ [] := List.ne_nil_of_mem (List.mem_of_find?_eq_some hhref)
    have hslash := getLast?_trimEnd_inner hne
    simp only [Option.map_some, Bool.and_eq_true, Bool.not_eq_true', bne_iff_ne]
    rw [isAbsolute_iff, ← Bool.not_eq_true, htarget]
    constructor
    · rintro ⟨⟨haddress, hnone⟩, -⟩
      exact ⟨hanchor, ⟨a, hhref, haddress⟩, fun b hb hnamed => hnone ⟨b, hb, hnamed⟩⟩
    · intro hexternal
      obtain ⟨b, hb, haddress⟩ := hexternal.isAddress
      obtain rfl := Option.some.inj (hhref.symm.trans hb)
      refine ⟨⟨haddress, ?_⟩, hslash⟩
      rintro ⟨b, hb, hnamed⟩
      exact hexternal.noTarget b hb hnamed

/-- No anchor tag starts in a clear tag of another name. -/
theorem not_opensAnchor_text (hanchor : ¬ t.IsAnchor) (h : t.IsClear) : ¬ OpensAnchor t.text := by
  have hname : '<' ∉ t.name := fun hmem => absurd (t.isNameChar_name _ hmem) (by decide)
  have htrail : '<' ∉ t.trail ++ ['>'] := by
    intro hmem
    rcases List.mem_append.mp hmem with hmem | hmem
    · exact absurd (t.isBlank_trail _ hmem) (by decide)
    · exact absurd hmem (by decide)
  have hattributes : ∀ as : List Attribute, (∀ a ∈ as, ¬ OpensAnchor a.value) →
      ¬ OpensAnchor (as.flatMap Attribute.text ++ (t.trail ++ ['>'])) := by
    intro as
    induction as with
    | nil =>
      intro _ hopens
      have hnil := opensAnchor_append_of_notMem htrail []
      rw [List.append_nil] at hnil
      exact not_opensAnchor_nil (hnil.mp hopens)
    | cons a as ih =>
      intro hvalues hopens
      rw [List.forall_mem_cons] at hvalues
      rw [List.flatMap_cons, a.text_eq, List.append_assoc, List.append_assoc, List.append_assoc,
        opensAnchor_append_of_notMem (a.notMem_front (.inl rfl))] at hopens
      have hquote : a.quote ≠ '<' := a.quote_ne (by decide) (by decide)
      rcases opensAnchor_append a.isStop_quote.isAsciiLetter hquote hopens with hvalue | hrest
      · exact hvalues.1 hvalue
      · exact ih hvalues.2 hrest
  intro hopens
  rw [text, List.cons_append, List.cons_append, List.append_assoc, opensAnchor_cons,
    opensAnchor_append_of_notMem hname] at hopens
  rcases hopens with hstart | hopens
  · -- the name ends in front of a blank or of the closing bracket
    have hhead := t.head?_inner
    cases hinner : t.inner with
    | nil =>
      rw [hinner] at hstart
      exact hanchor (h.anchor (hstart.of_append (by decide)))
    | cons c cs =>
      rw [hinner] at hstart hhead
      exact hanchor (h.anchor (hstart.of_append (isAsciiLetter_of_isWord hhead)))
  · rw [inner, List.append_assoc] at hopens
    exact hattributes _ (h.values hanchor) hopens

/-- **A clear tag is marked if it is external, and stays if it is not.** -/
theorem openExternal_text (h : t.IsClear) :
    (t.IsExternal → openExternal t.text = t.marked) ∧
      (¬ t.IsExternal → openExternal t.text = t.text) := by
  by_cases hanchor : t.IsAnchor
  · rw [hanchor.openExternal_text, ← isExternal_inner hanchor h]
    exact ⟨fun hexternal => if_pos hexternal, fun hexternal => if_neg hexternal⟩
  · refine ⟨fun hexternal => absurd hexternal.isAnchor hanchor, fun _ => ?_⟩
    exact openExternal_of_not_opensAnchor (not_opensAnchor_text hanchor h)

end Tag

/-! ### Markups -/

theorem openExternal_written_append (p : Piece) (s : List Char) :
    openExternal (p.written ++ s) = openExternal p.written ++ openExternal s := by
  cases p with
  | text cs h => rw [Piece.written, openExternal_text_append h, openExternal_of_notMem h]
  | tag t =>
    refine openExternal_append ?_ s
    rw [Piece.written, Tag.text, List.getLast?_concat]

/-- **Exactly the external tags are marked.**  The pieces of a well-formed markup are marked one by
one, and its texts stay.  A clear tag gets a target if it is an anchor whose first `href` is an
absolute address and none of whose attributes is a target, and every other clear tag stays.  Clear
or not, an anchor with an attribute that is read as a target stays. -/
theorem openExternal_pieces (pieces : List Piece) :
    openExternal (pieces.flatMap Piece.written) =
      pieces.flatMap (fun p => openExternal p.written) ∧
    (∀ cs h, Piece.text cs h ∈ pieces → openExternal cs = cs) ∧
    (∀ t, Piece.tag t ∈ pieces → t.IsClear →
      (t.IsExternal → openExternal t.text = t.marked) ∧
      (¬ t.IsExternal → openExternal t.text = t.text)) ∧
    ∀ t, Piece.tag t ∈ pieces → t.IsAnchor → (∃ a ∈ t.attributes, a.Feigns "target".toList) →
      openExternal t.text = t.text := by
  refine ⟨?_, fun cs h _ => openExternal_of_notMem h, fun t _ h => t.openExternal_text h,
    fun t _ hanchor ⟨a, ha, hfeigns⟩ => hanchor.openExternal_of_feigns ha hfeigns⟩
  induction pieces with
  | nil => exact openExternal_nil
  | cons p pieces ih => rw [List.flatMap_cons, List.flatMap_cons, openExternal_written_append, ih]

/-- A name that ends in the one that is looked for misleads. -/
example : openExternal "<a data-href=\"https://x.org\" href=\"/local\">".toList =
    "<a data-href=\"https://x.org\" href=\"/local\" target=\"_blank\">".toList := by
  decide +kernel

/-- An attribute behind one blank, with its value in double quotes. -/
def Attribute.plain (name value : String) (hne : name.toList ≠ [])
    (hname : name.toList.all isNameChar = true)
    (hvalue : '"' ∉ value.toList ∧ '>' ∉ value.toList) : Attribute where
  gap := [' ']
  name := name.toList
  quote := '"'
  value := value.toList
  gap_ne_nil := List.cons_ne_nil _ _
  isBlank_gap := List.all_eq_true.mp (by decide)
  name_ne_nil := hne
  isNameChar_name := List.all_eq_true.mp hname
  isQuote := .inl rfl
  quote_notMem := hvalue.1
  closed := hvalue.2

/-- An anchor in capitals that leads out of the site. -/
def outbound : Tag where
  name := "A".toList
  attributes := [.plain "title" "1 < 2" (by decide) (by decide) (by decide),
    .plain "HREF" "https://x.org/" (by decide) (by decide) (by decide)]
  trail := " ".toList
  name_ne_nil := by decide
  isNameChar_name := List.all_eq_true.mp (by decide)
  isBlank_trail := List.all_eq_true.mp (by decide)

/-- An anchor within the site. -/
def inbound : Tag where
  name := "a".toList
  attributes := [.plain "href" "/b" (by decide) (by decide) (by decide),
    .plain "title" "see https://x.org/" (by decide) (by decide) (by decide)]
  trail := []
  name_ne_nil := by decide
  isNameChar_name := List.all_eq_true.mp (by decide)
  isBlank_trail := List.all_eq_true.mp (by decide)

/-- A picture from outside the site. -/
def picture : Tag where
  name := "img".toList
  attributes := [.plain "src" "https://x.org/i.png" (by decide) (by decide) (by decide)]
  trail := []
  name_ne_nil := by decide
  isNameChar_name := List.all_eq_true.mp (by decide)
  isBlank_trail := List.all_eq_true.mp (by decide)

/-- Of two anchors and a picture, one anchor gets a target. -/
theorem openExternal_pieces_outbound :
    outbound.IsClear ∧ inbound.IsClear ∧ picture.IsClear ∧
      openExternal ("<A title=\"1 < 2\" HREF=\"https://x.org/\" >x".toList ++
        "<a href=\"/b\" title=\"see https://x.org/\"><img src=\"https://x.org/i.png\">".toList) =
      "<a title=\"1 < 2\" HREF=\"https://x.org/\"  target=\"_blank\">x".toList ++
        "<a href=\"/b\" title=\"see https://x.org/\"><img src=\"https://x.org/i.png\">".toList := by
  have houtbound : outbound.IsClear := by decide +kernel
  have hinbound : inbound.IsClear := by decide +kernel
  have hpicture : picture.IsClear := by decide +kernel
  refine ⟨houtbound, hinbound, hpicture, ?_⟩
  let page : List Piece := [.tag outbound, .text ['x'] (by decide), .tag inbound, .tag picture]
  obtain ⟨hpieces, htexts, htags, -⟩ := openExternal_pieces page
  have hx := htexts ['x'] (by decide) (by simp [page])
  have hout := (htags outbound (by simp [page]) houtbound).1 (by decide +kernel)
  have hin := (htags inbound (by simp [page]) hinbound).2 (by decide +kernel)
  have hpic := (htags picture (by simp [page]) hpicture).2 (by decide +kernel)
  calc
    _ = openExternal (page.flatMap Piece.written) := congrArg openExternal (by decide +kernel)
    _ = page.flatMap fun p => openExternal p.written := hpieces
    _ = outbound.marked ++ (['x'] ++ (inbound.text ++ picture.text)) := by
      simp only [page, List.flatMap_cons, List.flatMap_nil, List.append_nil, Piece.written, hx,
        hout, hin, hpic]
    _ = _ := by decide +kernel

end Pageworks.Link
