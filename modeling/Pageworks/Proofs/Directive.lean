import Pageworks.Proofs.Header
import Pageworks.Proofs.Import

/-!
# Directives of import files

A line declares a name if it is a word of a small grammar: blanks, `@using`, blanks, and then the
name, which is as long as it can be.  A `static` with blanks and a further name behind it qualifies
that name; in any other place it is a name like others.

Scanning reads the lines of a text in turn and keeps what it has not kept before.  What this comes
to is said without the scan: `Import.Lists` tells which names stand in the result and, of any two of
them, which one stands first.  Only one list fits.

Two texts with a line feed between them are scanned one after the other.  The line feed may stand
behind a line boundary of its own, so that it makes an empty line, or behind a carriage return that
it completes, so that it makes none.  An empty line declares nothing.

## Main definitions

* `Import.IsMaximal` — a name stands in front of a text and cannot be made longer.
* `Import.Declares` — a line declares a name.
* `Import.Earlier`, `Import.Lists` — the order of declarations, and the names in that order.

## Main results

* `Text.exists_lines_append` — the lines of two texts with a line feed between them.
* `Import.directive?_eq_some_iff` — the lines that declare a name are the words of the grammar.
* `Import.Lists.unique`, `Import.Lists.append` — only one list fits; the names of lines in a row.
* `Import.scan_eq_iff` — **a scan lists the declared names in order of first declaration.**
* `Import.scan_append` — **two texts with a line feed between them are scanned one by one.**
* `Import.scan_accepts` — the scan with the shape of its names, and of two texts in a row.
-/

namespace Pageworks

namespace Text

/-! ### Lines of two texts -/

theorem linesFrom_cons_of_pos {c : Char} (hc : isLineBoundary c = true) {cs : List Char}
    (hpair : c = '\r' → cs.head? ≠ some '\n') (acc : List Char) :
    linesFrom acc (c :: cs) = acc.reverse :: linesFrom [] cs := by
  rw [linesFrom]
  · rw [if_pos hc]
  · rintro rest rfl rfl
    exact hpair rfl rfl

theorem linesFrom_cons_of_neg {c : Char} (hc : isLineBoundary c = false) (acc cs : List Char) :
    linesFrom acc (c :: cs) = linesFrom (c :: acc) cs := by
  rw [linesFrom]
  · simp [hc]
  · rintro rest rfl -
    exact absurd hc (by decide)

/-- **A line feed divides the lines of two texts.**  Where a line has ended in front of it, or none
has begun, it makes one empty line more, unless it only completes a carriage return. -/
theorem exists_linesFrom_append (acc a b : List Char) : ∃ gap, (gap = [] ∨ gap = [[]]) ∧
    linesFrom acc (a ++ '\n' :: b) = linesFrom acc a ++ gap ++ lines b := by
  -- the induction goes along the reading of the first text
  fun_induction linesFrom acc a with
  | case1 acc hempty =>
    have hacc : acc = [] := List.isEmpty_iff.mp hempty
    refine ⟨[[]], .inr rfl, ?_⟩
    rw [hacc]
    rfl
  | case2 acc hempty => exact ⟨[], .inl rfl, rfl⟩
  | case3 acc cs ih =>
    obtain ⟨gap, hgap, hlines⟩ := ih
    refine ⟨gap, hgap, ?_⟩
    simp [linesFrom, hlines]
  | case4 acc c cs hpair hc ih =>
    by_cases hreturn : c = '\r' ∧ cs = []
    · -- the line feed completes the carriage return
      obtain ⟨rfl, rfl⟩ := hreturn
      exact ⟨[], .inl rfl, rfl⟩
    · obtain ⟨gap, hgap, hlines⟩ := ih
      have hhead : c = '\r' → (cs ++ '\n' :: b).head? ≠ some '\n' := by
        rintro rfl hfeed
        cases cs with
        | nil => exact hreturn ⟨rfl, rfl⟩
        | cons x xs =>
          simp only [List.cons_append, List.head?_cons, Option.some.injEq] at hfeed
          exact hpair xs rfl (by rw [hfeed])
      refine ⟨gap, hgap, ?_⟩
      rw [List.cons_append, linesFrom_cons_of_pos hc hhead, hlines]
      simp
  | case5 acc c cs hpair hc ih =>
    obtain ⟨gap, hgap, hlines⟩ := ih
    refine ⟨gap, hgap, ?_⟩
    rw [List.cons_append, linesFrom_cons_of_neg (by simpa using hc), hlines]

theorem exists_lines_append (a b : List Char) : ∃ gap, (gap = [] ∨ gap = [[]]) ∧
    lines (a ++ '\n' :: b) = lines a ++ gap ++ lines b :=
  exists_linesFrom_append [] a b

end Text

namespace Import

open Pageworks.Text

variable {cs rest line gap token : List Char} {name : String}

/-! ### The grammar of directives -/

/-- A run of blanks, of which there is at least one. -/
structure IsGap (gap : List Char) : Prop where
  ne_nil : gap ≠ []
  blank : ∀ c ∈ gap, isBlank c = true

/-- A run of characters that are neither blanks nor the semicolon, of which there is at least
one. -/
structure IsToken (token : List Char) : Prop where
  ne_nil : token ≠ []
  plain : ∀ c ∈ token, isBlank c = false ∧ c ≠ ';'

/-- A token stands in front of a text and cannot be made longer. -/
structure IsMaximal (token cs : List Char) : Prop where
  isToken : IsToken token
  stops : ∃ tail, cs = token ++ tail ∧ ∀ c, tail.head? = some c → isBlank c = true ∨ c = ';'

/-- A `static` with blanks and a token behind it. -/
def Qualifies (token rest : List Char) : Prop :=
  ∃ gap cs, IsGap gap ∧ IsMaximal token cs ∧ rest = "static".toList ++ gap ++ cs

/-- What stands behind the keyword: a qualified token, or any other one. -/
inductive Declared (rest : List Char) : List Char → Prop
  | qualified {token : List Char} (h : Qualifies token rest) :
    Declared rest ("static ".toList ++ token)
  | plain {token : List Char} (hplain : ∀ other, ¬ Qualifies other rest)
    (h : IsMaximal token rest) : Declared rest token

/-- The line declares the name. -/
def Declares (line : List Char) (name : String) : Prop :=
  ∃ indent gap rest, (∀ c ∈ indent, isBlank c = true) ∧ IsGap gap ∧ Declared rest name.toList ∧
    line = indent ++ "@using".toList ++ gap ++ rest

theorem isNameChar_iff {c : Char} : isNameChar c = true ↔ isBlank c = false ∧ c ≠ ';' := by
  simp [isNameChar]

theorem isNameChar_eq_false_iff {c : Char} :
    isNameChar c = false ↔ isBlank c = true ∨ c = ';' := by
  rw [← Bool.not_eq_true, isNameChar_iff, not_and_or, Bool.not_eq_false, not_not]

theorem IsMaximal.head (h : IsMaximal token cs) : ∃ c tail, cs = c :: tail ∧ isBlank c = false := by
  obtain ⟨⟨hne, hplain⟩, tail, rfl, -⟩ := h
  obtain ⟨c, token, rfl⟩ := List.exists_cons_of_ne_nil hne
  exact ⟨c, token ++ tail, rfl, (hplain c List.mem_cons_self).1⟩

/-- The token in front of a text is as long as it can be. -/
theorem nameAt?_eq_some_iff : nameAt? cs = some token ↔ IsMaximal token cs := by
  have hnameAt : nameAt? cs = some token ↔ cs.takeWhile isNameChar = token ∧ token ≠ [] := by
    rw [nameAt?]
    split
    · next hnil =>
      rw [hnil]
      simp [eq_comm]
    · next hne =>
      rw [Option.some.injEq]
      exact ⟨fun h => ⟨h, fun hnil => hne (h.trans hnil)⟩, And.left⟩
  rw [hnameAt]
  constructor
  · rintro ⟨rfl, hne⟩
    refine ⟨⟨hne, fun c hc => isNameChar_iff.mp (List.mem_takeWhile_imp hc)⟩,
      cs.dropWhile isNameChar, List.takeWhile_append_dropWhile.symm, fun c hc => ?_⟩
    have hstop := List.head?_dropWhile_not isNameChar cs
    rw [hc] at hstop
    exact isNameChar_eq_false_iff.mp hstop
  · rintro ⟨⟨hne, hplain⟩, tail, rfl, hstops⟩
    -- the token ends where the tail begins
    have htail : tail.takeWhile isNameChar = [] := by
      cases tail with
      | nil => rfl
      | cons c tail =>
        have hc := isNameChar_eq_false_iff.mpr (hstops c rfl)
        exact List.takeWhile_cons_of_neg (by simp [hc])
    refine ⟨?_, hne⟩
    rw [List.takeWhile_append_of_pos fun c hc => isNameChar_iff.mpr (hplain c hc), htail,
      List.append_nil]

/-- What follows blanks is read behind all of them, if it cannot begin with one. -/
theorem afterBlanks?_bind_eq_some_iff {α : Type} {read : List Char → Option α} {a : α}
    (hread : ∀ rest, read rest = some a → ∃ c tail, rest = c :: tail ∧ isBlank c = false) :
    (afterBlanks? cs).bind read = some a ↔
      ∃ gap rest, IsGap gap ∧ read rest = some a ∧ cs = gap ++ rest := by
  constructor
  · intro h
    obtain ⟨rest, hafter, hrest⟩ := Option.bind_eq_some_iff.mp h
    cases cs with
    | nil => cases hafter
    | cons c cs =>
      obtain ⟨hc, hcs⟩ := Option.ite_none_right_eq_some.mp hafter
      have hgap : ∀ x ∈ c :: cs.takeWhile isBlank, isBlank x = true := by
        intro x hx
        rcases List.mem_cons.mp hx with rfl | hx
        · exact hc
        · exact List.mem_takeWhile_imp hx
      refine ⟨c :: cs.takeWhile isBlank, rest, ⟨List.cons_ne_nil _ _, hgap⟩, hrest, ?_⟩
      rw [← Option.some.inj hcs, trimStart, List.cons_append, List.takeWhile_append_dropWhile]
  · rintro ⟨gap, rest, ⟨hne, hblank⟩, hrest, rfl⟩
    obtain ⟨c, gap, rfl⟩ := List.exists_cons_of_ne_nil hne
    obtain ⟨x, tail, rfl, hx⟩ := hread rest hrest
    -- what is read has no blank in front, so the gap is all that is passed over
    have htrim : trimStart (gap ++ x :: tail) = x :: tail :=
      trimStart_blanks_append (fun y hy => hblank y (List.mem_cons_of_mem c hy)) hx
    rw [List.cons_append, afterBlanks?, if_pos (hblank c List.mem_cons_self), htrim]
    exact hrest

/-- A qualified token is read behind the blanks. -/
theorem qualified_eq_some_iff :
    ((startsWith? "static".toList rest).bind afterBlanks?).bind nameAt? = some token ↔
      Qualifies token rest := by
  rw [Option.bind_assoc, Option.bind_eq_some_iff]
  have hread : ∀ cs, nameAt? cs = some token → ∃ c tail, cs = c :: tail ∧ isBlank c = false :=
    fun cs h => (nameAt?_eq_some_iff.mp h).head
  constructor
  · rintro ⟨tail, hstarts, hbehind⟩
    obtain ⟨gap, cs, hgap, hname, rfl⟩ := (afterBlanks?_bind_eq_some_iff hread).mp hbehind
    refine ⟨gap, cs, hgap, nameAt?_eq_some_iff.mp hname, ?_⟩
    rw [startsWith?_eq_some_iff.mp hstarts, List.append_assoc]
  · rintro ⟨gap, cs, hgap, htoken, rfl⟩
    refine ⟨gap ++ cs, startsWith?_eq_some_iff.mpr (List.append_assoc ..), ?_⟩
    exact (afterBlanks?_bind_eq_some_iff hread).mpr
      ⟨gap, cs, hgap, nameAt?_eq_some_iff.mpr htoken, rfl⟩

/-- The name behind the keyword is the qualified one, if there is one, and else the one in front. -/
theorem declared?_eq_some_iff {n : List Char} : declared? rest = some n ↔ Declared rest n := by
  rw [declared?]
  -- the token in front is read only where no qualified one is
  cases hq : ((startsWith? "static".toList rest).bind afterBlanks?).bind nameAt? with
  | some token =>
    have hqualifies := qualified_eq_some_iff.mp hq
    simp only [Option.some.injEq]
    constructor
    · rintro rfl
      exact .qualified hqualifies
    · intro h
      cases h with
      | qualified h =>
        rw [Option.some.inj (hq.symm.trans (qualified_eq_some_iff.mpr h))]
      | plain hplain _ => exact absurd hqualifies (hplain token)
  | none =>
    have hplain : ∀ other, ¬ Qualifies other rest := by
      intro other h
      rw [qualified_eq_some_iff.mpr h] at hq
      cases hq
    simp only [nameAt?_eq_some_iff]
    constructor
    · exact .plain hplain
    · intro h
      cases h with
      | qualified h => exact absurd h (hplain _)
      | plain _ h => exact h

theorem Declared.head {n : List Char} (h : Declared rest n) :
    ∃ c tail, rest = c :: tail ∧ isBlank c = false := by
  cases h with
  | qualified h =>
    obtain ⟨gap, cs, -, -, rfl⟩ := h
    exact ⟨'s', _, rfl, by decide⟩
  | plain _ h => exact h.head

/-- **The lines that declare a name are the words of the grammar.** -/
theorem directive?_eq_some_iff : directive? line = some name.toList ↔ Declares line name := by
  rw [directive?, Option.bind_assoc, Option.bind_eq_some_iff]
  have hread : ∀ cs, declared? cs = some name.toList →
      ∃ c tail, cs = c :: tail ∧ isBlank c = false :=
    fun cs h => (declared?_eq_some_iff.mp h).head
  constructor
  · rintro ⟨tail, hstarts, hbehind⟩
    obtain ⟨gap, rest, hgap, hname, rfl⟩ := (afterBlanks?_bind_eq_some_iff hread).mp hbehind
    refine ⟨line.takeWhile isBlank, gap, rest, fun c hc => List.mem_takeWhile_imp hc, hgap,
      declared?_eq_some_iff.mp hname, ?_⟩
    rw [List.append_assoc, List.append_assoc, ← startsWith?_eq_some_iff.mp hstarts, trimStart,
      List.takeWhile_append_dropWhile]
  · rintro ⟨indent, gap, rest, hindent, hgap, hname, rfl⟩
    refine ⟨gap ++ rest, startsWith?_eq_some_iff.mpr ?_, ?_⟩
    · rw [List.append_assoc, List.append_assoc]
      exact trimStart_blanks_append hindent (by decide)
    · exact (afterBlanks?_bind_eq_some_iff hread).mpr
        ⟨gap, rest, hgap, declared?_eq_some_iff.mpr hname, rfl⟩

/-- An empty line declares nothing. -/
theorem directive?_nil : directive? [] = none := rfl

/-! ### The order of declarations -/

section Order

variable {ι α : Type} {R : ι → α → Prop} {ls ms : List ι} {as bs : List α} {a b : α}

/-- One of the lines declares `a`, and neither it nor any line in front of it declares `b`. -/
def Earlier (R : ι → α → Prop) (ls : List ι) (a b : α) : Prop :=
  ∃ front l back, ls = front ++ l :: back ∧ R l a ∧ ∀ x ∈ front ++ [l], ¬ R x b

/-- The list holds what the lines declare, and what is declared earlier stands in front. -/
structure Lists (R : ι → α → Prop) (ls : List ι) (as : List α) : Prop where
  mem_iff : ∀ a, a ∈ as ↔ ∃ l ∈ ls, R l a
  ordered : as.Pairwise (Earlier R ls)

theorem Earlier.ne (h : Earlier R ls a b) : a ≠ b := by
  rintro rfl
  obtain ⟨front, l, back, -, ha, hb⟩ := h
  exact hb l (by simp) ha

/-- Of two places in a list one is not behind the other one. -/
theorem mem_or_mem_of_append_cons_eq {front front' back back' : List ι} {l l' : ι}
    (h : front ++ l :: back = front' ++ l' :: back') : l ∈ front' ++ [l'] ∨ l' ∈ front ++ [l] := by
  rcases List.append_eq_append_iff.mp h with ⟨gap, hfront, hgap⟩ | ⟨gap, hfront, hgap⟩
  · cases gap with
    | nil =>
      obtain ⟨hl, -⟩ := List.cons.inj hgap
      simp [hl]
    | cons x gap =>
      obtain ⟨hl, -⟩ := List.cons.inj hgap
      simp [hfront, hl]
  · cases gap with
    | nil =>
      obtain ⟨hl, -⟩ := List.cons.inj hgap
      simp [hl]
    | cons x gap =>
      obtain ⟨hl, -⟩ := List.cons.inj hgap
      simp [hfront, hl]

/-- Of two first declarations only one is the earlier one. -/
theorem Earlier.asymm (h : Earlier R ls a b) : ¬ Earlier R ls b a := by
  intro h'
  obtain ⟨front, l, back, hls, ha, hb⟩ := h
  obtain ⟨front', l', back', hls', hb', ha'⟩ := h'
  rcases mem_or_mem_of_append_cons_eq (hls.symm.trans hls') with hl | hl'
  · exact ha' l hl ha
  · exact hb l' hl' hb'

/-- Further lines behind those that count do not matter. -/
theorem Earlier.append_right (h : Earlier R ls a b) (ms : List ι) : Earlier R (ls ++ ms) a b := by
  obtain ⟨front, l, back, rfl, ha, hb⟩ := h
  exact ⟨front, l, back ++ ms, by simp, ha, hb⟩

/-- Nor do lines in front of them that do not declare the later name. -/
theorem Earlier.append_left (h : Earlier R ms a b) (hb : ∀ l ∈ ls, ¬ R l b) :
    Earlier R (ls ++ ms) a b := by
  obtain ⟨front, l, back, rfl, ha, hfront⟩ := h
  refine ⟨ls ++ front, l, back, by simp, ha, ?_⟩
  intro x hx
  rw [List.append_assoc, List.mem_append] at hx
  exact hx.elim (hb x) (hfront x)

/-- What some lines declare is earlier than what they do not declare. -/
theorem earlier_of_mem (ha : ∃ l ∈ ls, R l a) (hb : ∀ l ∈ ls, ¬ R l b) (ms : List ι) :
    Earlier R (ls ++ ms) a b := by
  obtain ⟨l, hl, ha⟩ := ha
  obtain ⟨front, back, rfl⟩ := List.append_of_mem hl
  refine ⟨front, l, back ++ ms, by simp, ha, fun x hx => hb x ?_⟩
  rcases List.mem_append.mp hx with hx | hx
  · exact List.mem_append_left _ hx
  · rw [List.mem_singleton.mp hx]
    exact hl

theorem Lists.nodup (h : Lists R ls as) : as.Nodup := h.ordered.imp Earlier.ne

/-- **Only one list fits.** -/
theorem Lists.unique (has : Lists R ls as) (hbs : Lists R ls bs) : as = bs := by
  have hperm : as.Perm bs := by
    refine (List.perm_ext_iff_of_nodup has.nodup hbs.nodup).mpr fun a => ?_
    rw [has.mem_iff, hbs.mem_iff]
  exact hperm.eq_of_pairwise (fun _ _ _ _ hab hba => absurd hba hab.asymm) has.ordered hbs.ordered

/-- **The names of lines in a row** are those of the front ones, and behind them the further names
of the others. -/
theorem Lists.append [BEq α] [LawfulBEq α] (has : Lists R ls as) (hbs : Lists R ms bs) :
    Lists R (ls ++ ms) (as ++ bs.filter fun b => !as.contains b) := by
  have hnew : ∀ b, b ∈ bs.filter (fun b => !as.contains b) ↔ b ∈ bs ∧ ∀ l ∈ ls, ¬ R l b := by
    intro b
    have hnot : b ∉ as ↔ ∀ l ∈ ls, ¬ R l b := by
      rw [has.mem_iff]
      simp
    simp [hnot]
  constructor
  · intro a
    rw [List.mem_append, hnew, has.mem_iff, hbs.mem_iff]
    simp only [List.mem_append]
    constructor
    · rintro (⟨l, hl, ha⟩ | ⟨⟨l, hl, ha⟩, -⟩)
      · exact ⟨l, .inl hl, ha⟩
      · exact ⟨l, .inr hl, ha⟩
    · rintro ⟨l, hl | hl, ha⟩
      · exact .inl ⟨l, hl, ha⟩
      · by_cases hfront : ∃ l ∈ ls, R l a
        · exact .inl hfront
        · exact .inr ⟨⟨l, hl, ha⟩, by simpa using hfront⟩
  · refine List.pairwise_append.mpr ⟨?_, ?_, ?_⟩
    · exact has.ordered.imp fun h => h.append_right ms
    · refine (hbs.ordered.filter _).imp_of_mem fun _ hb h => ?_
      exact h.append_left ((hnew _).mp hb).2
    · intro a ha b hb
      exact earlier_of_mem ((has.mem_iff a).mp ha) ((hnew b).mp hb).2 ms

/-- What is kept of the readings of the lines stands in the order of declaration. -/
theorem pairwise_dedupFrom_filterMap [BEq α] [LawfulBEq α] {read : ι → Option α}
    (hread : ∀ l a, read l = some a ↔ R l a) (ls : List ι) :
    ∀ seen, (dedupFrom seen (ls.filterMap read)).Pairwise (Earlier R ls) := by
  induction ls with
  | nil => intro seen; exact List.Pairwise.nil
  | cons l ls ih =>
    intro seen
    -- what is kept has not been seen, so a line whose reading has been seen declares none of it
    have hkept : ∀ seen b, (∀ x, read l = some x → x ∈ seen) →
        b ∈ dedupFrom seen (ls.filterMap read) → ∀ m ∈ [l], ¬ R m b := by
      intro seen b hl hb m hm hR
      rw [List.mem_singleton.mp hm] at hR
      exact (mem_dedupFrom.mp hb).2 (hl b ((hread l b).mpr hR))
    have hbehind : ∀ seen, (∀ x, read l = some x → x ∈ seen) →
        (dedupFrom seen (ls.filterMap read)).Pairwise (Earlier R (l :: ls)) := by
      intro seen hl
      exact (ih seen).imp_of_mem fun _ hb h => h.append_left (hkept seen _ hl hb)
    cases hl : read l with
    | none =>
      rw [List.filterMap_cons_none hl]
      exact hbehind seen (by simp [hl])
    | some x =>
      rw [List.filterMap_cons_some hl, dedupFrom]
      split
      · next hx => exact hbehind seen (by simpa [hl] using hx)
      · have hseen : ∀ y, read l = some y → y ∈ x :: seen := by simp [hl]
        refine List.pairwise_cons.mpr ⟨fun b hb => ?_, hbehind (x :: seen) hseen⟩
        have hx : ∃ m ∈ [l], R m x := ⟨l, List.mem_singleton_self l, (hread l x).mp hl⟩
        exact earlier_of_mem hx (hkept (x :: seen) b hseen hb) ls

/-- **Reading line by line and leaving out later copies** lists what the lines declare. -/
theorem lists_dedupFrom [BEq α] [LawfulBEq α] {read : ι → Option α}
    (hread : ∀ l a, read l = some a ↔ R l a) (ls : List ι) :
    Lists R ls (dedupFrom [] (ls.filterMap read)) := by
  refine ⟨fun a => ?_, pairwise_dedupFrom_filterMap hread ls []⟩
  rw [mem_dedupFrom, List.mem_filterMap]
  simp [hread]

end Order

/-! ### Scans -/

/-- **A scan lists the names that the lines of a text declare**, and no other list does. -/
theorem scan_eq_iff {text : String} {names : List String} :
    scan text = names ↔ Lists Declares (lines text.toList) names := by
  have hread : ∀ l name, (directive? l).map String.ofList = some name ↔ Declares l name := by
    intro l name
    rw [← directive?_eq_some_iff, Option.map_eq_some_iff]
    constructor
    · rintro ⟨cs, hcs, rfl⟩
      rw [hcs, String.toList_ofList]
    · intro h
      exact ⟨name.toList, h, String.ofList_toList⟩
  have hscan : Lists Declares (lines text.toList) (scan text) := lists_dedupFrom hread _
  constructor
  · rintro rfl
    exact hscan
  · exact hscan.unique

/-- A name is not empty and has neither a semicolon nor a blank, other than the one that stands
behind its qualifier. -/
structure IsName (name : String) : Prop where
  ne_empty : name ≠ ""
  unended : ';' ∉ name.toList
  isToken : ∃ token, IsToken token ∧
    (name.toList = token ∨ name.toList = "static ".toList ++ token)

theorem Declared.isName (h : Declared rest name.toList) : IsName name := by
  have htoken : ∃ token, IsToken token ∧
      (name.toList = token ∨ name.toList = "static ".toList ++ token) := by
    generalize name.toList = n at h
    cases h with
    | qualified h =>
      obtain ⟨-, -, -, ⟨htoken, -⟩, -⟩ := h
      exact ⟨_, htoken, .inr rfl⟩
    | plain _ h => exact ⟨_, h.isToken, .inl rfl⟩
  obtain ⟨token, ⟨hne, hplain⟩, hname⟩ := htoken
  have hsemicolon : ';' ∉ token := fun h => (hplain ';' h).2 rfl
  refine ⟨?_, ?_, token, ⟨hne, hplain⟩, hname⟩
  · rintro rfl
    rcases hname with hname | hname
    · exact hne hname.symm
    · cases hname
  · rcases hname with hname | hname
    · rwa [hname]
    · rw [hname]
      intro h
      rcases List.mem_append.mp h with h | h
      · exact absurd h (by decide)
      · exact hsemicolon h

/-- A line feed between two texts declares nothing. -/
theorem lists_gap {gap : List (List Char)} (h : gap = [] ∨ gap = [[]]) :
    Lists Declares gap ([] : List String) := by
  have hnone : ∀ name, ¬ Declares [] name := by
    intro name
    rw [← directive?_eq_some_iff, directive?_nil]
    simp
  refine ⟨fun name => ?_, List.Pairwise.nil⟩
  rcases h with rfl | rfl
  · simp
  · simp [hnone]

/-- **Two texts with a line feed between them are scanned one after the other.** -/
theorem scan_append (a b : String) : scan (a ++ "\n" ++ b) =
    scan a ++ (scan b).filter fun name => !(scan a).contains name := by
  obtain ⟨gap, hgap, hlines⟩ := exists_lines_append a.toList b.toList
  have ha : Lists Declares (lines a.toList) (scan a) := scan_eq_iff.mp rfl
  have hb : Lists Declares (lines b.toList) (scan b) := scan_eq_iff.mp rfl
  -- three texts in a row, of which the one in the middle has no names
  have hrow := (ha.append (lists_gap hgap)).append hb
  rw [List.filter_nil, List.append_nil, ← hlines] at hrow
  refine scan_eq_iff.mpr ?_
  rw [String.toList_append, String.toList_append, List.append_assoc]
  exact hrow

/-- **A scan accepts the directives of the grammar and nothing else.**  It holds the names that the
lines of a text declare, each once, and of two names the one that is declared first stands in front;
no other list does.  A name has no blanks, apart from the one behind `static`, and no semicolon.
What a line feed divides is scanned part by part. -/
theorem scan_accepts (text a b : String) :
    (∀ names, scan text = names ↔ Lists Declares (lines text.toList) names) ∧
    (scan text).Nodup ∧
    (∀ name ∈ scan text, IsName name) ∧
    scan (a ++ "\n" ++ b) = scan a ++ (scan b).filter fun name => !(scan a).contains name := by
  have hlists : Lists Declares (lines text.toList) (scan text) := scan_eq_iff.mp rfl
  refine ⟨fun names => scan_eq_iff, hlists.nodup, fun name hname => ?_, scan_append a b⟩
  obtain ⟨l, -, indent, gap, rest, -, -, hdeclared, -⟩ := (hlists.mem_iff name).mp hname
  exact hdeclared.isName

/-- Directives with blanks and line boundaries of several kinds.  A comment follows the second one,
and the fourth and the fifth one have a `static` that qualifies nothing. -/
def mixedImports : String :=
  "@using A.B\n \t@using   C;  // c\r\n@using static\u00a0D\x0c@using static ;\r@using static" ++
    "\u2028@usingE\nx @using F\n@using ;\n@using static\x1fD;@using G\u0085@using A.B"

/-- Names are kept once, whatever stands around them, and a carriage return is completed by the line
feed behind it. -/
theorem scan_accepts_mixed :
    scan mixedImports = ["A.B", "C", "static D", "static"] ∧
    IsName "static D" ∧
    scan ("@using A\r" ++ "\n" ++ "@using static A\n@using A") = ["A", "static A"] := by
  obtain ⟨-, -, hname, happend⟩ :=
    scan_accepts mixedImports "@using A\r" "@using static A\n@using A"
  have hscan : scan mixedImports = ["A.B", "C", "static D", "static"] := by decide +kernel
  refine ⟨hscan, hname "static D" (by rw [hscan]; decide), happend.trans ?_⟩
  decide +kernel

end Import

end Pageworks
