import Pageworks.Yaml.Cursor
import Pageworks.Yaml.Fault
import Pageworks.Text.Category

/-!
# Tokens of YAML

The indicators, scalars and block boundaries of a text.  A block collection starts and ends where
the indentation says so, and a key on one line is known as one only at its colon: its key token
goes in front of what has been scanned since.

## Main definitions

* `Token`: the tokens.
* `Scanner`: the tokens so far, the indentation and the places where a key may have started.
* `Scanner.fetch`: the next token or tokens.
* `Token.ofText`: the tokens of a text, with the fault that cut them short.
-/

namespace Pageworks.Yaml

open Pageworks.Text

/-- The tokens. -/
inductive Token
  | streamEnd
  /-- A version directive with its major number. -/
  | version (major : Nat)
  /-- A tag directive: a handle and what it stands for. -/
  | tagHandle (handle start : String)
  /-- Another directive. -/
  | otherDirective
  | documentStart
  | documentEnd
  | blockSequenceStart
  | blockMappingStart
  | blockEnd
  | flowSequenceStart
  | flowSequenceEnd
  | flowMappingStart
  | flowMappingEnd
  | blockEntry
  | flowEntry
  | key
  | value
  | alias (name : String)
  | anchor (name : String)
  /-- A tag: its handle, unless written out, and its suffix. -/
  | tag (handle : Option String) (suffix : String)
  /-- A scalar, plain or quoted or in a block. -/
  | scalar (text : String) (plain : Bool)
  deriving DecidableEq, Repr

/-- A place where a key may have started. -/
structure KeyStart where
  /-- The flow level of the place. -/
  level : Nat
  /-- The number of the token that the key would start with. -/
  number : Nat
  /-- Whether nothing but a key can stand at the place. -/
  required : Bool
  /-- The characters before the place. -/
  index : Nat
  /-- The line of the place. -/
  line : Nat
  /-- The column of the place. -/
  column : Nat

/-- The state of the scanner. -/
structure Scanner where
  /-- Where the scanner stands. -/
  cursor : Cursor
  /-- The tokens so far. -/
  tokens : Array Token
  /-- Whether the stream has ended. -/
  done : Bool
  /-- The depth of flow collections. -/
  flow : Nat
  /-- The indentation of the innermost block collection. -/
  indent : Int
  /-- The indentations of the outer block collections. -/
  indents : List Int
  /-- Whether a key may start here. -/
  keyAllowed : Bool
  /-- The places where a key may have started, at most one for each flow level. -/
  keys : List KeyStart

/-- The characters of anchor names, directive names and tag handles. -/
def isNameChar (c : Char) : Bool := isAsciiAlnum c || c == '-' || c == '_'

/-- The characters of tags. -/
def isTagChar (c : Char) : Bool := isAsciiAlnum c || "-;/?:@&=+$,_.!~*'()[]%".toList.contains c

namespace Scanner

/-- The scanner at the start of a text. -/
def start (text : List Char) : Scanner :=
  ⟨Cursor.start text, #[], false, 0, -1, [], true, []⟩

/-- The column of the place. -/
def column (s : Scanner) : Int := s.cursor.column

/-- The token goes behind those so far. -/
def push (s : Scanner) (t : Token) : Scanner := { s with tokens := s.tokens.push t }

/-- The character here is passed. -/
def pass (s : Scanner) : Scanner := { s with cursor := s.cursor.next }

/-- Places that are on an earlier line or far behind no longer start a key; a required key must
not get lost. -/
def dropStale (s : Scanner) : Except Fault Scanner :=
  let stale := fun (k : KeyStart) =>
    k.line != s.cursor.line || k.index + 1024 < s.cursor.index
  if s.keys.any fun k => stale k && k.required then .error .malformed
  else .ok { s with keys := s.keys.filter fun k => !stale k }

/-- No key starts at the current flow level any more. -/
def dropKey (s : Scanner) : Except Fault Scanner :=
  if s.keys.any fun k => k.level == s.flow && k.required then .error .malformed
  else .ok { s with keys := s.keys.filter fun k => k.level != s.flow }

/-- A key may start with the next token. -/
def saveKey (s : Scanner) : Except Fault Scanner := do
  let required := s.flow == 0 && s.indent == s.column
  if s.keyAllowed then
    let s ← s.dropKey
    let k : KeyStart :=
      ⟨s.flow, s.tokens.size, required, s.cursor.index, s.cursor.line, s.cursor.column⟩
    return { s with keys := k :: s.keys }
  else return s

/-- The outer indentations, and how many block collections end at a column. -/
def unwindFrom (column : Int) : Int → List Int → Int × List Int × Nat
  | indent, [] => (indent, [], 0)
  | indent, outer :: rest =>
    if column < indent then
      let (i, is, n) := unwindFrom column outer rest
      (i, is, n + 1)
    else (indent, outer :: rest, 0)

/-- Outside flow collections, block collections further in than the column end. -/
def unwind (s : Scanner) (column : Int) : Scanner :=
  if s.flow != 0 then s
  else
    let (indent, indents, n) := unwindFrom column s.indent s.indents
    { s with
      indent := indent, indents := indents
      tokens := s.tokens ++ Array.replicate n Token.blockEnd }

/-- A block collection starts at the column unless the innermost one is there already. -/
def indentTo (s : Scanner) (column : Int) : Scanner × Bool :=
  if s.indent < column then
    ({ s with indents := s.indent :: s.indents, indent := column }, true)
  else (s, false)

/-- Spaces, comments and line breaks are passed; a new line allows a key. -/
def toNextToken : Nat → Scanner → Scanner
  | 0, s => s
  | fuel + 1, s =>
    let c := s.cursor.skipRun (· == ' ')
    let c := if c.here == '#' then c.skipLine else c
    match c.takeLineBreak with
    | (some _, c) =>
      toNextToken fuel { s with cursor := c, keyAllowed := s.keyAllowed || s.flow == 0 }
    | (none, c) => { s with cursor := c }

/-- The end of the stream closes every block collection. -/
def fetchEnd (s : Scanner) : Except Fault Scanner := do
  let s ← (s.unwind (-1)).dropKey
  return { s.push .streamEnd with keyAllowed := false, keys := [], done := true }

/-- What may follow a directive on its line. -/
def directiveEnd (c : Cursor) : Except Fault Cursor := do
  let c := c.skipRun (· == ' ')
  let c := if c.here == '#' then c.skipLine else c
  if !isBreakOrEnd c.here then throw .malformed
  return c.takeLineBreak.2

/-- A number of a version directive. -/
def versionNumber (c : Cursor) : Except Fault (Nat × Cursor) := do
  let (ds, c) := c.takeRun isAsciiDigit
  if ds.isEmpty then throw .malformed
  if digitLimit < ds.length then throw (.tooManyDigits ds.length)
  return (Moment.numberOf ds, c)

/-- A run of escaped bytes in a tag, decoded. -/
def escapedBytes : Nat → Cursor → List UInt8 → Except Fault (List UInt8 × Cursor)
  | 0, c, acc => .ok (acc.reverse, c)
  | fuel + 1, c, acc =>
    if c.here == '%' then
      if isHexDigit (c.peek 1) && isHexDigit (c.peek 2) then
        escapedBytes fuel (c.skip 3)
          (UInt8.ofNat (hexValue (c.peek 1) * 16 + hexValue (c.peek 2)) :: acc)
      else .error .malformed
    else .ok (acc.reverse, c)

/-- The text of a tag, its escapes decoded. -/
def tagText : Nat → Cursor → List Char → Except Fault (List Char × Cursor)
  | 0, c, acc => .ok (acc.reverse, c)
  | fuel + 1, c, acc =>
    if c.here == '%' then do
      let (bytes, c) ← escapedBytes (c.rest.length) c []
      match String.fromUTF8? ⟨bytes.toArray⟩ with
      | some s => tagText fuel c (s.toList.reverse ++ acc)
      | none => throw .malformed
    else if isTagChar c.here then tagText fuel c.next (c.here :: acc)
    else .ok (acc.reverse, c)

/-- The text of a tag, which must not be empty. -/
def tagUri (c : Cursor) : Except Fault (String × Cursor) := do
  let (cs, c') ← tagText (c.rest.length + 1) c []
  if c'.index == c.index then throw .malformed
  return (String.ofList cs, c')

/-- A tag handle: one exclamation mark, or a name between two. -/
def tagHandle (c : Cursor) : Except Fault (String × Cursor) := do
  if c.here != '!' then throw .malformed
  if c.peek 1 == ' ' then return ("!", c.next)
  let name := c.next.run isNameChar
  if c.peek (name.length + 1) != '!' then throw .malformed
  return (String.ofList ('!' :: name ++ ['!']), c.skip (name.length + 2))

/-- A directive and its line. -/
def directive (c : Cursor) : Except Fault (Token × Cursor) := do
  let (name, c) := c.next.takeRun isNameChar
  if name.isEmpty || !isSpaceOrEnd c.here then throw .malformed
  let (t, c) ←
    if name == "YAML".toList then do
      let (major, c) ← versionNumber (c.skipRun (· == ' '))
      if c.here != '.' then throw .malformed
      let (_, c) ← versionNumber c.next
      if !isSpaceOrEnd c.here then throw .malformed
      pure (Token.version major, c)
    else if name == "TAG".toList then do
      let (handle, c) ← tagHandle (c.skipRun (· == ' '))
      if c.here != ' ' then throw .malformed
      let (uri, c) ← tagUri (c.skipRun (· == ' '))
      if !isSpaceOrEnd c.here then throw .malformed
      pure (Token.tagHandle handle uri, c)
    else pure (Token.otherDirective, c.skipLine)
  return (t, ← directiveEnd c)

/-- A directive closes every block collection. -/
def fetchDirective (s : Scanner) : Except Fault Scanner := do
  let s ← (s.unwind (-1)).dropKey
  let (t, c) ← directive s.cursor
  return { s.push t with keyAllowed := false, cursor := c }

/-- A marker between documents closes every block collection. -/
def fetchMarker (s : Scanner) (t : Token) : Except Fault Scanner := do
  let s ← (s.unwind (-1)).dropKey
  return { s.push t with keyAllowed := false, cursor := s.cursor.skip 3 }

/-- The start of a flow collection may be the start of a key. -/
def fetchFlowStart (s : Scanner) (t : Token) : Except Fault Scanner := do
  let s ← s.saveKey
  return { s.pass.push t with flow := s.flow + 1, keyAllowed := true }

/-- The end of a flow collection. -/
def fetchFlowEnd (s : Scanner) (t : Token) : Except Fault Scanner := do
  let s ← s.dropKey
  return { s.pass.push t with flow := s.flow - 1, keyAllowed := false }

/-- A comma allows a key. -/
def fetchFlowEntry (s : Scanner) : Except Fault Scanner := do
  let s ← { s with keyAllowed := true }.dropKey
  return s.pass.push .flowEntry

/-- A dash outside flow collections may start a sequence. -/
def fetchBlockEntry (s : Scanner) : Except Fault Scanner := do
  let s ←
    if s.flow == 0 then
      if !s.keyAllowed then throw .malformed
      else match s.indentTo s.column with
        | (s, true) => pure (s.push .blockSequenceStart)
        | (s, false) => pure s
    else pure s
  let s ← { s with keyAllowed := true }.dropKey
  return s.pass.push .blockEntry

/-- A question mark outside flow collections may start a mapping. -/
def fetchKey (s : Scanner) : Except Fault Scanner := do
  let s ←
    if s.flow == 0 then
      if !s.keyAllowed then throw .malformed
      else match s.indentTo s.column with
        | (s, true) => pure (s.push .blockMappingStart)
        | (s, false) => pure s
    else pure s
  let s ← { s with keyAllowed := s.flow == 0 }.dropKey
  return s.pass.push .key

/-- Tokens with others put in front of the one with the given number. -/
def insertAt (tokens : Array Token) (number : Nat) (ts : List Token) : Array Token :=
  tokens.extract 0 number ++ ts.toArray ++ tokens.extract number tokens.size

/-- A colon makes a key of what started at the saved place, or else stands for itself. -/
def fetchValue (s : Scanner) : Except Fault Scanner := do
  match s.keys.find? fun k => k.level == s.flow with
  | some k =>
    let s := { s with keys := s.keys.filter fun k => k.level != s.flow, keyAllowed := false }
    let (s, starts) := if s.flow == 0 then s.indentTo k.column else (s, false)
    let ts := if starts then [Token.blockMappingStart, .key] else [.key]
    return { s with tokens := insertAt s.tokens k.number ts }.pass.push .value
  | none =>
    if s.flow == 0 && !s.keyAllowed then throw .malformed
    let (s, starts) := if s.flow == 0 then s.indentTo s.column else (s, false)
    let s := if starts then s.push .blockMappingStart else s
    let s ← { s with keyAllowed := s.flow == 0 }.dropKey
    return s.pass.push .value

/-- An alias or an anchor may start a key. -/
def fetchName (s : Scanner) (t : String → Token) : Except Fault Scanner := do
  let s ← s.saveKey
  let (name, c) := s.cursor.next.takeRun isNameChar
  if name.isEmpty then throw .malformed
  if !(isBlankOrEnd c.here || "?:,]\x7d%@\x60".toList.contains c.here) then throw .malformed
  return { s.push (t (String.ofList name)) with keyAllowed := false, cursor := c }

/-- The handle and suffix of a tag. -/
def tagParts (c : Cursor) : Except Fault (Token × Cursor) := do
  let x := c.peek 1
  if x == '<' then
    let (suffix, c) ← tagUri (c.skip 2)
    if c.here != '>' then throw .malformed
    return (.tag none suffix, c.next)
  else if isBlankOrEnd x then return (.tag none "!", c.next)
  else
    let written := c.next.run fun x => !isSpaceOrEnd x
    if written.contains '!' then
      let (handle, c) ← tagHandle c
      let (suffix, c) ← tagUri c
      return (.tag (some handle) suffix, c)
    else
      let (suffix, c) ← tagUri c.next
      return (.tag (some "!") suffix, c)

/-- A tag may start a key. -/
def fetchTag (s : Scanner) : Except Fault Scanner := do
  let s ← s.saveKey
  let (t, c) ← tagParts s.cursor
  if !isSpaceOrEnd c.here then throw .malformed
  return { s.push t with keyAllowed := false, cursor := c }

/-- How the line breaks at the end of a block scalar are kept. -/
inductive Chomping
  /-- One line break stays. -/
  | clip
  /-- No line break stays. -/
  | strip
  /-- All line breaks stay. -/
  | keep
  deriving DecidableEq

/-- The chomping that a sign asks for. -/
def chompingOf? (c : Char) : Option Chomping :=
  if c == '+' then some .keep else if c == '-' then some .strip else none

/-- The header of a block scalar: a sign and a digit in any order. -/
def blockHeader (c : Cursor) : Except Fault (Chomping × Option Nat × Cursor) := do
  let digit := fun (c : Cursor) =>
    if isAsciiDigit c.here then
      if c.here == '0' then Except.error Fault.malformed
      else .ok (some (hexValue c.here), c.next)
    else .ok (none, c)
  let (chomping, increment, c) ←
    match chompingOf? c.here with
    | some ch => do
      let (n, c) ← digit c.next
      pure (ch, n, c)
    | none => do
      let (n, c) ← digit c
      match if n.isSome then chompingOf? c.here else none with
      | some ch => pure (ch, n, c.next)
      | none => pure (.clip, n, c)
  if !isSpaceOrEnd c.here then throw .malformed
  let c := c.skipRun (· == ' ')
  let c := if c.here == '#' then c.skipLine else c
  if !isBreakOrEnd c.here then throw .malformed
  return (chomping, increment, c.takeLineBreak.2)

/-- The empty lines at the start of a block scalar, and the furthest column of their spaces. -/
def leadingLines : Nat → Cursor → List Char → Nat → List Char × Nat × Cursor
  | 0, c, acc, furthest => (acc.reverse, furthest, c)
  | fuel + 1, c, acc, furthest =>
    if c.here == ' ' then
      let c := c.next
      leadingLines fuel c acc (max furthest c.column)
    else match c.takeLineBreak with
      | (some b, c) => leadingLines fuel c (b :: acc) furthest
      | (none, c) => (acc.reverse, furthest, c)

/-- Spaces up to a column. -/
def skipIndent : Nat → Nat → Cursor → Cursor
  | 0, _, c => c
  | fuel + 1, indent, c =>
    if c.column < indent && c.here == ' ' then skipIndent fuel indent c.next else c

/-- Line breaks, with the indentation after each. -/
def breaksAt (indent : Nat) : Nat → Cursor → List Char → List Char × Cursor
  | 0, c, acc => (acc.reverse, c)
  | fuel + 1, c, acc =>
    match c.takeLineBreak with
    | (some b, c) => breaksAt indent fuel (skipIndent indent indent c) (b :: acc)
    | (none, c) => (acc.reverse, c)

/-- The lines of a block scalar: the text so far, the last line break and the breaks after it. -/
def blockLines (folded : Bool) (indent : Nat) :
    Nat → Cursor → List Char → List Char → List Char × List Char × List Char × Cursor
  | 0, c, text, breaks => (text, [], breaks, c)
  | fuel + 1, c, text, breaks =>
    let flush := c.here != ' ' && c.here != '\t'
    let (line, c) := c.takeRun fun x => !isBreakOrEnd x
    let text := text ++ breaks ++ line
    let (lineBreak, c) := c.takeLineBreak
    let last := lineBreak.toList
    let (breaks, c) := breaksAt indent (c.rest.length + 1) (skipIndent indent indent c) []
    if c.column == indent && c.here.toNat != 0 then
      let joint :=
        if folded && lineBreak == some '\n' && flush && c.here != ' ' && c.here != '\t' then
          if breaks.isEmpty then [' '] else []
        else last
      blockLines folded indent fuel c (text ++ joint) breaks
    else (text, last, breaks, c)

/-- A literal or folded block scalar. -/
def blockScalar (folded : Bool) (indent : Int) (c : Cursor) : Except Fault (String × Cursor) := do
  let (chomping, increment, c) ← blockHeader c.next
  let least := (max (indent + 1) 1).toNat
  let (breaks, indent, c) :=
    match increment with
    | none =>
      let (breaks, furthest, c) := leadingLines (c.rest.length + 1) c [] 0
      (breaks, max least furthest, c)
    | some n =>
      let indent := least + n - 1
      let (breaks, c) := breaksAt indent (c.rest.length + 1) (skipIndent indent indent c) []
      (breaks, indent, c)
  let (text, last, breaks, c) :=
    if c.column == indent && c.here.toNat != 0 then
      blockLines folded indent (c.rest.length + 1) c [] breaks
    else ([], [], breaks, c)
  let tail := match chomping with
    | .strip => []
    | .clip => last
    | .keep => last ++ breaks
  return (String.ofList (text ++ tail), c)

/-- A block scalar allows a key behind it. -/
def fetchBlockScalar (s : Scanner) (folded : Bool) : Except Fault Scanner := do
  let s ← { s with keyAllowed := true }.dropKey
  let (text, c) ← blockScalar folded s.indent s.cursor
  return { s.push (.scalar text false) with cursor := c }

/-- The characters that a short escape stands for. -/
def escapes : List (Char × Nat) := [
  ('0', 0), ('a', 7), ('b', 8), ('t', 9), ('\t', 9), ('n', 10), ('v', 11), ('f', 12), ('r', 13),
  ('e', 27), (' ', 32), ('"', 34), ('\\', 92), ('/', 47), ('N', 0x85), ('_', 0xA0),
  ('L', 0x2028), ('P', 0x2029)]

/-- How many digits a numeric escape has. -/
def escapeWidth? (c : Char) : Option Nat :=
  if c == 'x' then some 2 else if c == 'u' then some 4 else if c == 'U' then some 8 else none

/-- The number of hexadecimal digits. -/
def hexNumber (digits : List Char) : Nat := digits.foldl (fun n c => n * 16 + hexValue c) 0

/-- The character of a numeric escape.  Half of a surrogate pair is no character. -/
def escapedChar (n : Nat) : Except Fault Char :=
  if Nat.pow 2 31 ≤ n then .error .characterOverflow
  else if 0x110000 ≤ n then .error .noCharacter
  else .ok (if 0xD800 ≤ n && n ≤ 0xDFFF then Char.ofNat 0xFFFD else Char.ofNat n)

/-- The second half of a surrogate pair, if the text starts with an escape for one. -/
def lowSurrogate? : List Char → Option Nat
  | '\\' :: 'u' :: rest =>
    let ds := rest.take 4
    let n := hexNumber ds
    if ds.length == 4 && ds.all isHexDigit && 0xDC00 ≤ n && n ≤ 0xDFFF then some n else none
  | _ => none

/-- The character that a number and the escape behind it stand for as a surrogate pair. -/
def pairedChar? (n : Nat) (rest : List Char) : Option Char :=
  if 0xD800 ≤ n && n ≤ 0xDBFF then
    (lowSurrogate? rest).map fun low => Char.ofNat (0x10000 + (n - 0xD800) * 0x400 + (low - 0xDC00))
  else none

/-- Empty lines inside a quoted scalar; no document marker may start one. -/
def quotedBreaks : Nat → Cursor → List Char → Except Fault (List Char × Cursor)
  | 0, c, acc => .ok (acc.reverse, c)
  | fuel + 1, c, acc =>
    if c.atDocumentMarker then .error .malformed
    else
      let c := c.skipRun fun x => x == ' ' || x == '\t'
      match c.takeLineBreak with
      | (some b, c) => quotedBreaks fuel c (b :: acc)
      | (none, c) => .ok (acc.reverse, c)

/-- Blanks inside a quoted scalar: a single line break becomes a space. -/
def quotedSpaces (c : Cursor) : Except Fault (List Char × Cursor) := do
  let (blanks, c) := c.takeRun fun x => x == ' ' || x == '\t'
  if c.here.toNat == 0 then throw .malformed
  match c.takeLineBreak with
  | (some b, c) =>
    let (breaks, c) ← quotedBreaks (c.rest.length + 1) c []
    let first := if b != '\n' then [b] else if breaks.isEmpty then [' '] else []
    return (first ++ breaks, c)
  | (none, c) => return (blanks, c)

/-- Text without blanks inside a quoted scalar. -/
def quotedText (double : Bool) : Nat → Cursor → List Char → Except Fault (List Char × Cursor)
  | 0, c, acc => .ok (acc.reverse, c)
  | fuel + 1, c, acc => do
    let x := c.here
    let quote := Char.ofNat 39
    if !double && x == quote && c.peek 1 == quote then
      quotedText double fuel (c.skip 2) (quote :: acc)
    else if (double && x == quote) || (!double && (x == '"' || x == '\\')) then
      quotedText double fuel c.next (x :: acc)
    else if double && x == '\\' then
      let c := c.next
      match escapes.lookup c.here with
      | some n => quotedText double fuel c.next (Char.ofNat n :: acc)
      | none =>
        match escapeWidth? c.here with
        | some width =>
          let ds := c.next.rest.take width
          if ds.length == width && ds.all isHexDigit then
            let n := hexNumber ds
            let c := c.next.skip width
            match pairedChar? n c.rest with
            | some e => quotedText double fuel (c.skip 6) (e :: acc)
            | none => quotedText double fuel c ((← escapedChar n) :: acc)
          else throw .malformed
        | none =>
          match c.takeLineBreak with
          | (some _, c) =>
            let (breaks, c) ← quotedBreaks (c.rest.length + 1) c []
            quotedText double fuel c (breaks.reverse ++ acc)
          | (none, _) => throw .malformed
    else if x == '"' || x == quote || isBlankOrEnd x then return (acc.reverse, c)
    else quotedText double fuel c.next (x :: acc)

/-- The rest of a quoted scalar up to its closing quote. -/
def quotedParts (double : Bool) : Nat → Cursor → List Char → Except Fault (List Char × Cursor)
  | 0, _, _ => .error .malformed
  | fuel + 1, c, acc => do
    let (part, c) ← quotedText double (c.rest.length + 1) c []
    let acc := acc ++ part
    if c.here == (if double then '"' else Char.ofNat 39) then return (acc, c.next)
    let (blanks, c) ← quotedSpaces c
    quotedParts double fuel c (acc ++ blanks)

/-- A quoted scalar may be a key. -/
def fetchQuoted (s : Scanner) (double : Bool) : Except Fault Scanner := do
  let s ← s.saveKey
  let c := s.cursor.next
  let (text, c) ← quotedParts double (c.rest.length + 1) c []
  return { s.push (.scalar (String.ofList text) false) with keyAllowed := false, cursor := c }

/-- A plain scalar can start here. -/
def plainStarts (s : Scanner) : Bool :=
  let x := s.cursor.here
  !(isBlankOrEnd x || "-?:,[]\x7b\x7d#&*!|>'\"%@\x60".toList.contains x) ||
    (!isBlankOrEnd (s.cursor.peek 1) && (x == '-' || (s.flow == 0 && (x == '?' || x == ':'))))

/-- The length of a plain scalar's text without blanks. -/
def plainLength (flow : Bool) : List Char → Nat
  | [] => 0
  | x :: rest =>
    let y := rest.headD (Char.ofNat 0)
    if isBlankOrEnd x ||
      (x == ':' && (isBlankOrEnd y || (flow && ",[]\x7b\x7d".toList.contains y))) ||
      (flow && ",?[]\x7b\x7d".toList.contains x) then 0
    else plainLength flow rest + 1

/-- Spaces and empty lines after a line break in a plain scalar; nothing before a document
marker. -/
def plainBreaks : Nat → Cursor → List Char → Option (List Char) × Cursor
  | 0, c, acc => (some acc.reverse, c)
  | fuel + 1, c, acc =>
    if c.here == ' ' then plainBreaks fuel c.next acc
    else match c.takeLineBreak with
      | (some b, c) =>
        if c.atDocumentMarker then (none, c) else plainBreaks fuel c (b :: acc)
      | (none, c) => (some acc.reverse, c)

/-- The blanks after a part of a plain scalar, whether they hold a line break, and the place
behind them. -/
def plainSpaces (c : Cursor) : List Char × Bool × Cursor :=
  let (blanks, c) := c.takeRun (· == ' ')
  match c.takeLineBreak with
  | (some b, c) =>
    if c.atDocumentMarker then ([], true, c)
    else match plainBreaks (c.rest.length + 1) c [] with
      | (none, c) => ([], true, c)
      | (some breaks, c) =>
        let first := if b != '\n' then [b] else if breaks.isEmpty then [' '] else []
        (first ++ breaks, true, c)
  | (none, c) => (blanks, false, c)

/-- The text of a plain scalar, whether a key may follow it, and the place behind it. -/
def plainParts (flow : Bool) (indent : Int) :
    Nat → Cursor → List Char → List Char → Bool → List Char × Bool × Cursor
  | 0, c, acc, _, allowed => (acc, allowed, c)
  | fuel + 1, c, acc, blanks, allowed =>
    let n := if c.here == '#' then 0 else plainLength flow c.rest
    if n == 0 then (acc, allowed, c)
    else
      let acc := acc ++ blanks ++ c.rest.take n
      let (blanks, broken, c) := plainSpaces (c.skip n)
      if blanks.isEmpty || c.here == '#' || (!flow && (c.column : Int) < indent) then
        (acc, broken, c)
      else plainParts flow indent fuel c acc blanks broken

/-- A plain scalar may be a key. -/
def fetchPlain (s : Scanner) : Except Fault Scanner := do
  let s ← s.saveKey
  let (text, allowed, c) :=
    plainParts (s.flow != 0) (s.indent + 1) (s.cursor.rest.length + 1) s.cursor [] [] false
  return { s.push (.scalar (String.ofList text) true) with keyAllowed := allowed, cursor := c }

/-- The next token, with the block boundaries before it. -/
def fetch (s : Scanner) : Except Fault Scanner := do
  let c := s.cursor
  let c := if c.index == 0 && c.here.toNat == 0xFEFF then c.next else c
  let s := toNextToken (c.rest.length + 1) { s with cursor := c }
  let s ← s.dropStale
  let s := s.unwind s.column
  let c := s.cursor
  let x := c.here
  if x.toNat == 0 then s.fetchEnd
  else if x == '%' && c.column == 0 then s.fetchDirective
  else if c.column == 0 && c.atMarker '-' then s.fetchMarker .documentStart
  else if c.column == 0 && c.atMarker '.' then s.fetchMarker .documentEnd
  else if x == '[' then s.fetchFlowStart .flowSequenceStart
  else if x == '\x7b' then s.fetchFlowStart .flowMappingStart
  else if x == ']' then s.fetchFlowEnd .flowSequenceEnd
  else if x == '\x7d' then s.fetchFlowEnd .flowMappingEnd
  else if x == ',' then s.fetchFlowEntry
  else if x == '-' && isBlankOrEnd (c.peek 1) then s.fetchBlockEntry
  else if x == '?' && (s.flow != 0 || isBlankOrEnd (c.peek 1)) then s.fetchKey
  else if x == ':' && (s.flow != 0 || isBlankOrEnd (c.peek 1)) then s.fetchValue
  else if x == '*' then s.fetchName .alias
  else if x == '&' then s.fetchName .anchor
  else if x == '!' then s.fetchTag
  else if x == '|' && s.flow == 0 then s.fetchBlockScalar false
  else if x == '>' && s.flow == 0 then s.fetchBlockScalar true
  else if x == Char.ofNat 39 then s.fetchQuoted false
  else if x == '"' then s.fetchQuoted true
  else if s.plainStarts then s.fetchPlain
  else throw .malformed

/-- Tokens until the end of the stream or a fault. -/
def fetchAll : Nat → Scanner → Array Token × Option Fault
  | 0, s => (s.tokens, some .malformed)
  | fuel + 1, s =>
    if s.done then (s.tokens, none)
    else match s.fetch with
      | .ok s => fetchAll fuel s
      | .error e => (s.tokens, some e)

end Scanner

/-- The tokens of a text, and the fault that cut them short if there is one. -/
def Token.ofText (text : List Char) : List Token × Option Fault :=
  if text.all isPrintable then
    let (ts, fault) := Scanner.fetchAll (text.length + 2) (Scanner.start text)
    (ts.toList, fault)
  else ([], some .malformed)

end Pageworks.Yaml
