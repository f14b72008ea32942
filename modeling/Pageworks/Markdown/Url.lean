import Pageworks.Markdown.Url.Percent
import Pageworks.Markdown.Url.Punycode
import Pageworks.Text.Blank

/-!
# Addresses of links

An address is taken apart, its host name brought into ASCII and the whole percent-encoded, so that
it can stand in an attribute.  Addresses that run code are refused.

## Main definitions

* `Url`: the parts of an address.
* `Url.parse`, `Url.format`: between an address and its parts.
* `Url.normalized`: an address as it stands in an attribute.
* `Url.shown`: an address as it is shown to a reader.
* `Url.isSafe`: the addresses that links may have.
-/

namespace Pageworks.Markdown

open Pageworks.Text

/-- The parts of an address. -/
structure Url where
  /-- The scheme with its colon, empty if there is none. -/
  scheme : List Char
  /-- Two slashes follow the scheme. -/
  slashes : Bool
  /-- What stands before the at sign. -/
  user : List Char
  /-- The host name. -/
  host : List Char
  /-- The number after the host name and its colon. -/
  number : List Char
  /-- Everything from the path on. -/
  rest : List Char

namespace Url

/-- The scheme that an address starts with, its colon included, and the rest. -/
def splitScheme (cs : List Char) : List Char × List Char :=
  let isPart := fun (c : Char) =>
    isAsciiAlnum c || c == '.' || c == '+' || c == '-' || c.toNat == 0x17F || c.toNat == 0x212A ||
      c.toNat == 0x130 || c.toNat == 0x131
  let s := cs.takeWhile isPart
  match s, cs.drop s.length with
  | _ :: _, ':' :: rest => (s ++ [':'], rest)
  | _, _ => ([], cs)

/-- Schemes of addresses that have no host. -/
def isHostless (scheme : List Char) : Bool := scheme == "javascript:".toList

/-- Schemes whose host comes after two slashes. -/
def isSlashed (scheme : List Char) : Bool :=
  ["http:", "https:", "ftp:", "gopher:", "file:"].any fun s => scheme == s.toList

/-- The characters that end the part of an address with user and host. -/
def endsAuthority (c : Char) : Bool := c == '/' || c == '?' || c == '#'

/-- The characters that no host name holds. -/
def endsHost (c : Char) : Bool :=
  "%/?;#\x7b\x7d|\\^\x60<>\" \r\n\t".toList.contains c || c == Char.ofNat 39

/-- The user before the last at sign of the authority, and the rest. -/
def splitUser (cs : List Char) : List Char × List Char :=
  let authority := cs.takeWhile fun c => !endsAuthority c
  if authority.contains '@' then
    let n := (authority.reverse.dropWhile (· != '@')).length
    (cs.take (n - 1), cs.drop n)
  else ([], cs)

/-- The host with its number, and the rest.  A colon at its end belongs to the rest. -/
def splitHost (cs : List Char) : List Char × List Char :=
  let h := cs.takeWhile fun c => !endsHost c
  let n := if h.getLast? == some ':' then h.length - 1 else h.length
  (cs.take n, cs.drop n)

/-- The host and the number after its last colon. -/
def splitNumber (cs : List Char) : List Char × List Char :=
  let ds := (cs.reverse.takeWhile isAsciiDigit).reverse
  let before := cs.take (cs.length - ds.length)
  if before.getLast? == some ':' then (before.dropLast, ds) else (cs, [])

/-- The characters of a label of a host name. -/
def isLabelChar (c : Char) : Bool := isAsciiAlnum c || c == '+' || c == '_' || c == '-'

/-- A label that a host name may have: at most 63 of its characters, or any beyond ASCII. -/
def isLabel (s : List Char) : Bool :=
  s.length ≤ 63 && s.all fun c => isLabelChar c || 127 < c.toNat

/-- The labels that a host name may have, and the text from the first wrong character on. -/
def validLabels : List (List Char) → List (List Char) × Option (List Char)
  | [] => ([], none)
  | s :: ss =>
    if isLabel s then
      let (valid, wrong) := validLabels ss
      (s :: valid, wrong)
    else
      let start := (s.take 63).takeWhile isLabelChar
      ([start], some (['.'].intercalate (s.drop start.length :: ss)))

/-- A host in brackets is a number and no name. -/
def isBracketed (host : List Char) : Bool := host.head? == some '[' && host.getLast? == some ']'

/-- The host name as far as it is valid, and what goes before the rest instead. -/
def checkHost (host : List Char) : List Char × List Char :=
  if isBracketed host then
    (if 255 < host.length then [] else (host.drop 1).dropLast, [])
  else
    let (labels, wrong) := validLabels (fields (· == '.') host)
    let h := ['.'].intercalate labels
    (if 255 < h.length then [] else h, wrong.getD [])

/-- The parts of an address without blanks around it. -/
def parse (address : List Char) : Url :=
  let (scheme, cs) := splitScheme (trim address)
  let (slashes, cs) :=
    match cs with
    | '/' :: '/' :: rest => if isHostless scheme then (false, cs) else (true, rest)
    | _ => (false, cs)
  if !isHostless scheme && (slashes || (!scheme.isEmpty && !isSlashed scheme)) then
    let (user, cs) := splitUser cs
    let (numbered, cs) := splitHost cs
    let (host, number) := splitNumber numbered
    let (host, more) := checkHost host
    ⟨scheme, slashes, user, host, number, more ++ cs⟩
  else ⟨scheme, slashes, [], [], [], cs⟩

/-- An address of its parts. -/
def format (u : Url) : List Char :=
  u.scheme ++ (if u.slashes then ['/', '/'] else []) ++
    (if u.user.isEmpty then [] else u.user ++ ['@']) ++
    (if u.host.contains ':' then '[' :: u.host ++ [']'] else u.host) ++
    (if u.number.isEmpty then [] else ':' :: u.number) ++ u.rest

/-- The host of an address is a name that is looked up. -/
def hasName (u : Url) : Bool :=
  !u.host.isEmpty &&
    (u.scheme.isEmpty || ["http:", "https:", "mailto:"].any fun s => u.scheme == s.toList)

/-- An address as it stands in an attribute. -/
def normalized (address : List Char) : List Char :=
  let u := parse address
  Percent.encode (format (if u.hasName then { u with host := Punycode.toAscii u.host } else u))

/-- An address as it is shown to a reader. -/
def shown (address : List Char) : List Char :=
  let u := parse address
  Percent.decode <| format <|
    if u.hasName then { u with host := (Punycode.toUnicode? u.host).getD u.host } else u

/-- The address starts with the scheme, whatever its case. -/
def hasScheme (scheme : String) (address : List Char) : Bool :=
  (startsWith? scheme.toList (address.map asciiLower)).isSome

/-- The addresses that links may have: none that runs code, and of inline data only images. -/
def isSafe (address : List Char) : Bool :=
  let a := trim address
  if hasScheme "vbscript:" a || hasScheme "javascript:" a || hasScheme "file:" a then false
  else if hasScheme "data:" a then
    ["gif", "png", "jpeg", "webp"].any fun f => hasScheme ("data:image/" ++ f ++ ";") a
  else true

end Url

end Pageworks.Markdown
