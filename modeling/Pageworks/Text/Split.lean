/-!
# Splitting and joining

A text falls into fields at each character of a class, and into lines at each line boundary.

## Main definitions

* `fields`: the parts between separators, one more than there are separators.
* `lines`: the lines of a text without their boundaries.
* `unifyNewlines`: every line ending of a text file as a line feed.
* `startsWith?`: the rest after a given beginning.
-/

namespace Pageworks.Text

/-- The parts of a text between the characters of the class `p`. -/
def fields (p : Char → Bool) : List Char → List (List Char)
  | [] => [[]]
  | c :: cs =>
    if p c then [] :: fields p cs
    else match fields p cs with
      | [] => [[c]]
      | f :: fs => (c :: f) :: fs

@[simp] theorem fields_nil (p : Char → Bool) : fields p [] = [[]] := rfl

theorem fields_ne_nil (p : Char → Bool) (cs : List Char) : fields p cs ≠ [] := by
  cases cs with
  | nil => simp
  | cons c cs =>
    simp only [fields]
    split
    · simp
    · split <;> simp

/-- Line boundaries: the line feed and its kin U+000B–U+000D, the separators U+001C–U+001E, the
next-line control and the line and paragraph separators. -/
def isLineBoundary (c : Char) : Bool :=
  let n := c.toNat
  (10 ≤ n && n ≤ 13) || (28 ≤ n && n ≤ 30) || n == 0x85 || n == 0x2028 || n == 0x2029

/-- The lines of a text, after the reversed beginning of the first one. -/
def linesFrom : List Char → List Char → List (List Char)
  | acc, [] => if acc.isEmpty then [] else [acc.reverse]
  | acc, '\r' :: '\n' :: cs => acc.reverse :: linesFrom [] cs
  | acc, c :: cs =>
    if isLineBoundary c then acc.reverse :: linesFrom [] cs else linesFrom (c :: acc) cs

/-- The lines of a text; a boundary at the end opens no further line, and a carriage return
with its line feed is one boundary. -/
def lines (cs : List Char) : List (List Char) := linesFrom [] cs

/-- Every carriage return, alone or before a line feed, as a line feed. -/
def unifyNewlines : List Char → List Char
  | [] => []
  | '\r' :: '\n' :: cs => '\n' :: unifyNewlines cs
  | c :: cs => (if c == '\r' then '\n' else c) :: unifyNewlines cs

/-- What follows the given beginning, if the text starts with it. -/
def startsWith? : List Char → List Char → Option (List Char)
  | [], cs => some cs
  | _ :: _, [] => none
  | b :: bs, c :: cs => if b == c then startsWith? bs cs else none

/-- Every occurrence of a character replaced. -/
def replaceChar (a b : Char) (s : String) : String :=
  String.ofList (s.toList.map fun c => if c == a then b else c)

end Pageworks.Text
