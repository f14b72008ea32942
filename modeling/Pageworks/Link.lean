import Pageworks.Text.Blank
import Pageworks.Text.Category
import Pageworks.Text.Split

/-!
# External links

Links to an absolute address open in a browsing context of their own: their anchor tags get a
`target` attribute.  Anchors without an absolute address, anchors that name a target and anchors
that close themselves stay as they are.

## Main definitions

* `Link.isAbsolute`: a scheme, then `://`.
* `Link.attribute?`, `Link.names`: the value and the presence of an attribute in a tag.
* `Link.isExternal`: the attributes of an anchor ask for the target.
* `Link.anchor?`: the anchor tag that a markup starts with.
* `Link.openExternal`: a markup with its external anchors marked.
-/

namespace Pageworks.Link

open Pageworks.Text

/-- The characters of a scheme after its first letter. -/
def isSchemeChar (c : Char) : Bool :=
  ('a' ≤ c && c ≤ 'z') || isAsciiDigit c || c == '+' || c == '.' || c == '-'

/-- An absolute address: a scheme in small letters, then `://`. -/
def isAbsolute : List Char → Bool
  | [] => false
  | c :: cs =>
    ('a' ≤ c && c ≤ 'z') && (startsWith? "://".toList (cs.dropWhile isSchemeChar)).isSome

/-- What follows an attribute name and its equals sign, if the text starts with them.  Case is
ignored, and blanks may stand before the sign. -/
def afterName? : List Char → List Char → Option (List Char)
  | [], cs =>
    match trimStart cs with
    | '=' :: rest => some rest
    | _ => none
  | n :: ns, c :: cs => if letterIgnoringCase c == n then afterName? ns cs else none
  | _ :: _, [] => none

/-- A quoted value: the text up to the quote that it starts with. -/
def quotedValue? (cs : List Char) : Option (List Char) :=
  match trimStart cs with
  | q :: rest =>
    if q == '"' || q == apostrophe then
      if rest.contains q then some (rest.takeWhile (· != q)) else none
    else none
  | [] => none
where
  /-- The other quote. -/
  apostrophe : Char := Char.ofNat 39

/-- The value of the first attribute of that name with a quoted value.  A name starts where no
word goes on. -/
def attribute? (name : List Char) : Bool → List Char → Option (List Char)
  | _, [] => none
  | inWord, c :: cs =>
    let here := if inWord then none else (afterName? name (c :: cs)).bind quotedValue?
    match here with
    | some v => some v
    | none => attribute? name (isWord c) cs

/-- Some attribute has that name. -/
def names (name : List Char) : Bool → List Char → Bool
  | _, [] => false
  | inWord, c :: cs =>
    (!inWord && (afterName? name (c :: cs)).isSome) || names name (isWord c) cs

/-- The attributes of an anchor lead to an absolute address, name no target and do not end in the
slash of a tag that closes itself. -/
def isExternal (attributes : List Char) : Bool :=
  match attribute? "href".toList false attributes with
  | none => false
  | some url =>
    isAbsolute url && !names "target".toList false attributes &&
      (trimEnd attributes).getLast? != some '/'

/-- The attributes of the anchor tag that a markup starts with, and what follows the tag. -/
def anchor? : List Char → Option (List Char × List Char)
  | '<' :: a :: rest =>
    if (a == 'a' || a == 'A') && !(rest.head?.any isWord) && rest.contains '>' then
      some (rest.takeWhile (· != '>'), (rest.dropWhile (· != '>')).tail)
    else none
  | _ => none

theorem anchor?_length {s attributes after : List Char} (h : anchor? s = some (attributes, after)) :
    after.length < s.length := by
  unfold anchor? at h
  split at h
  · next a rest =>
    split at h
    · simp only [Option.some.injEq, Prod.mk.injEq] at h
      obtain ⟨_, rfl⟩ := h
      have := (List.dropWhile_sublist (l := rest) (· != '>')).length_le
      simp only [List.length_tail, List.length_cons]
      omega
    · simp at h
  · simp at h

/-- The attribute that marks an external anchor, with the end of its tag. -/
def targetBlank : List Char := " target=\"_blank\">".toList

/-- The markup with every external anchor marked. -/
def openExternal (s : List Char) : List Char :=
  match s with
  | [] => []
  | c :: cs =>
    match _h : anchor? (c :: cs) with
    | some (attributes, after) =>
      if isExternal attributes then
        '<' :: 'a' :: attributes ++ targetBlank ++ openExternal after
      else
        (c :: cs).take ((c :: cs).length - after.length) ++ openExternal after
    | none => c :: openExternal cs
termination_by s.length
decreasing_by
  all_goals first
    | exact anchor?_length _h
    | simp

end Pageworks.Link
