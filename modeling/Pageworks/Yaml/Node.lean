import Pageworks.Yaml.Token

/-!
# Nodes of YAML

A document is a graph of nodes: scalars with their text, sequences and mappings.  An alias is a
second way to the node of its anchor, so a collection may even hold itself.

## Main definitions

* `Node`: the nodes, with their tags; `none` where the text leaves the tag open.
* `Graph`: the nodes of a document by number.
* `Composer`: the tokens to come and the graph so far.
* `Graph.ofTokens`: the one document of a stream.
-/

namespace Pageworks.Yaml

open Pageworks.Text

/-- What a scalar's tag is decided by. -/
inductive ScalarTag
  /-- The tag that the document gives. -/
  | given (tag : String)
  /-- The look of a plain text. -/
  | byText
  /-- A text, as it was quoted. -/
  | quotedText
  deriving DecidableEq, Repr

/-- The nodes.  A collection without a tag of its own is a plain sequence or mapping. -/
inductive Node
  | scalar (tag : ScalarTag) (text : String)
  | sequence (tag : Option String) (items : List Nat)
  | mapping (tag : Option String) (entries : List (Nat × Nat))
  deriving DecidableEq, Repr, Inhabited

/-- The nodes of a document by number. -/
structure Graph where
  /-- The nodes. -/
  nodes : Array Node
  /-- The number of the outermost node. -/
  root : Nat

/-- The tokens to come and the graph so far. -/
structure Composer where
  /-- The tokens to come. -/
  tokens : List Token
  /-- What cut the tokens short. -/
  cut : Fault
  /-- The tag handles in force. -/
  handles : List (String × String)
  /-- The nodes so far. -/
  nodes : Array Node
  /-- The nodes that have anchors. -/
  anchors : List (String × Nat)

namespace Composer

/-- The next token. -/
def peek (p : Composer) : Except Fault Token :=
  match p.tokens with
  | t :: _ => .ok t
  | [] => .error p.cut

/-- The tokens behind the next one. -/
def advance (p : Composer) : Composer := { p with tokens := p.tokens.tail }

/-- A new node. -/
def add (p : Composer) (n : Node) : Nat × Composer :=
  (p.nodes.size, { p with nodes := p.nodes.push n })

/-- An empty scalar, where a node has been left out. -/
def addEmpty (p : Composer) : Nat × Composer := p.add (.scalar .byText "")

/-- The handles that need no directive. -/
def defaultHandles : List (String × String) := [("!", "!"), ("!!", "tag:yaml.org,2002:")]

/-- The properties of a node: its anchor and its tag, in any order. -/
def properties (p : Composer) : Except Fault (Option String × Option String × Composer) := do
  match ← p.peek with
  | .anchor a =>
    let p := p.advance
    match ← p.peek with
    | .tag h s => return (some a, some (← tagOf p h s), p.advance)
    | _ => return (some a, none, p)
  | .tag h s =>
    let t ← tagOf p h s
    let p := p.advance
    match ← p.peek with
    | .anchor a => return (some a, some t, p.advance)
    | _ => return (none, some t, p)
  | _ => return (none, none, p)
where
  /-- A tag with its handle resolved. -/
  tagOf (p : Composer) : Option String → String → Except Fault String
    | none, suffix => .ok suffix
    | some h, suffix =>
      match p.handles.lookup h with
      | some start => .ok (start ++ suffix)
      | none => .error .malformed

/-- The tag of a collection; a lone exclamation mark is none. -/
def collectionTag : Option String → Option String
  | some "!" => none
  | t => t

/-- How the tag of a scalar is decided. -/
def scalarTag (tag : Option String) (plain : Bool) : ScalarTag :=
  match tag with
  | some "!" => .byText
  | some t => .given t
  | none => if plain then .byText else .quotedText

/-- The anchor names a node; it must not name another already. -/
def bind (p : Composer) (anchor : Option String) (id : Nat) : Except Fault Composer :=
  match anchor with
  | none => .ok p
  | some a =>
    if (p.anchors.lookup a).isSome then .error .malformed
    else .ok { p with anchors := (a, id) :: p.anchors }

/-- A token after which a node has been left out. -/
def ends (stops : List Token) (p : Composer) : Except Fault Bool :=
  return stops.contains (← p.peek)

mutual

/-- A node.  In a block context block collections count, and where `dashes` is set also a
sequence without indentation. -/
def node (fuel : Nat) (block dashes : Bool) (p : Composer) : Except Fault (Nat × Composer) := do
  match fuel with
  | 0 => throw .malformed
  | fuel + 1 =>
    match ← p.peek with
    | .alias a =>
      match p.anchors.lookup a with
      | some id => return (id, p.advance)
      | none => throw .malformed
    | _ =>
      let (anchor, tag, p) ← properties p
      let sequence := fun (read : Composer → List Nat → Except Fault (List Nat × Composer))
          (p : Composer) => do
        let (id, p) := p.add (.sequence (collectionTag tag) [])
        let p ← p.bind anchor id
        let (items, p) ← read p []
        return (id, { p with nodes := p.nodes.set! id (.sequence (collectionTag tag) items) })
      let mapping := fun
          (read : Composer → List (Nat × Nat) → Except Fault (List (Nat × Nat) × Composer))
          (p : Composer) => do
        let (id, p) := p.add (.mapping (collectionTag tag) [])
        let p ← p.bind anchor id
        let (entries, p) ← read p []
        return (id, { p with nodes := p.nodes.set! id (.mapping (collectionTag tag) entries) })
      match ← p.peek with
      | .blockEntry =>
        if dashes then sequence (dashEntries fuel) p else empty anchor tag p
      | .scalar text plain =>
        let (id, p) := p.advance.add (.scalar (scalarTag tag plain) text)
        return (id, ← p.bind anchor id)
      | .flowSequenceStart => sequence (flowItems fuel true) p.advance
      | .flowMappingStart => mapping (flowEntries fuel true) p.advance
      | .blockSequenceStart =>
        if block then sequence (blockItems fuel) p.advance else empty anchor tag p
      | .blockMappingStart =>
        if block then mapping (blockEntries fuel) p.advance else empty anchor tag p
      | _ => empty anchor tag p

/-- A node with properties and nothing else. -/
def empty (anchor tag : Option String) (p : Composer) : Except Fault (Nat × Composer) := do
  if anchor.isNone && tag.isNone then throw .malformed
  let (id, p) := p.add (.scalar (scalarTag tag true) "")
  return (id, ← p.bind anchor id)

/-- A node unless one of the tokens comes next, or else an empty scalar. -/
def nodeUnless (fuel : Nat) (stops : List Token) (block dashes : Bool) (p : Composer) :
    Except Fault (Nat × Composer) := do
  match fuel with
  | 0 => throw .malformed
  | fuel + 1 => if ← p.ends stops then return p.addEmpty else node fuel block dashes p

/-- The items of a block sequence. -/
def blockItems (fuel : Nat) (p : Composer) (acc : List Nat) :
    Except Fault (List Nat × Composer) := do
  match fuel with
  | 0 => throw .malformed
  | fuel + 1 =>
    match ← p.peek with
    | .blockEntry =>
      let (id, p) ← nodeUnless fuel [.blockEntry, .blockEnd] true false p.advance
      blockItems fuel p (id :: acc)
    | .blockEnd => return (acc.reverse, p.advance)
    | _ => throw .malformed

/-- The items of a sequence without indentation. -/
def dashEntries (fuel : Nat) (p : Composer) (acc : List Nat) :
    Except Fault (List Nat × Composer) := do
  match fuel with
  | 0 => throw .malformed
  | fuel + 1 =>
    match ← p.peek with
    | .blockEntry =>
      let (id, p) ← nodeUnless fuel [.blockEntry, .key, .value, .blockEnd] true false p.advance
      dashEntries fuel p (id :: acc)
    | _ => return (acc.reverse, p)

/-- The entries of a block mapping. -/
def blockEntries (fuel : Nat) (p : Composer) (acc : List (Nat × Nat)) :
    Except Fault (List (Nat × Nat) × Composer) := do
  match fuel with
  | 0 => throw .malformed
  | fuel + 1 =>
    match ← p.peek with
    | .key =>
      let (k, p) ← nodeUnless fuel [.key, .value, .blockEnd] true true p.advance
      let (v, p) ← blockValue fuel p
      blockEntries fuel p ((k, v) :: acc)
    | .blockEnd => return (acc.reverse, p.advance)
    | _ => throw .malformed

/-- The value of an entry of a block mapping. -/
def blockValue (fuel : Nat) (p : Composer) : Except Fault (Nat × Composer) := do
  match fuel with
  | 0 => throw .malformed
  | fuel + 1 =>
    match ← p.peek with
    | .value => nodeUnless fuel [.key, .value, .blockEnd] true true p.advance
    | _ => return p.addEmpty

/-- The items of a flow sequence; a key makes an item a mapping of one entry. -/
def flowItems (fuel : Nat) (first : Bool) (p : Composer) (acc : List Nat) :
    Except Fault (List Nat × Composer) := do
  match fuel with
  | 0 => throw .malformed
  | fuel + 1 =>
    match ← p.peek with
    | .flowSequenceEnd => return (acc.reverse, p.advance)
    | t =>
      let p ← if first then pure p else if t == .flowEntry then pure p.advance
        else throw .malformed
      match ← p.peek with
      | .flowSequenceEnd => return (acc.reverse, p.advance)
      | .key =>
        let (id, p) := p.add (.mapping none [])
        let (k, p) ← nodeUnless fuel [.value, .flowEntry, .flowSequenceEnd] false false p.advance
        let (v, p) ← flowValue fuel .flowSequenceEnd p
        flowItems fuel false { p with nodes := p.nodes.set! id (.mapping none [(k, v)]) }
          (id :: acc)
      | _ =>
        let (id, p) ← node fuel false false p
        flowItems fuel false p (id :: acc)

/-- The value of an entry inside a flow collection with the given end. -/
def flowValue (fuel : Nat) (stop : Token) (p : Composer) : Except Fault (Nat × Composer) := do
  match fuel with
  | 0 => throw .malformed
  | fuel + 1 =>
    match ← p.peek with
    | .value => nodeUnless fuel [.flowEntry, stop] false false p.advance
    | _ => return p.addEmpty

/-- The entries of a flow mapping. -/
def flowEntries (fuel : Nat) (first : Bool) (p : Composer) (acc : List (Nat × Nat)) :
    Except Fault (List (Nat × Nat) × Composer) := do
  match fuel with
  | 0 => throw .malformed
  | fuel + 1 =>
    match ← p.peek with
    | .flowMappingEnd => return (acc.reverse, p.advance)
    | t =>
      let p ← if first then pure p else if t == .flowEntry then pure p.advance
        else throw .malformed
      match ← p.peek with
      | .flowMappingEnd => return (acc.reverse, p.advance)
      | .key =>
        let (k, p) ← nodeUnless fuel [.value, .flowEntry, .flowMappingEnd] false false p.advance
        let (v, p) ← flowValue fuel .flowMappingEnd p
        flowEntries fuel false p ((k, v) :: acc)
      | _ =>
        let (k, p) ← node fuel false false p
        let (v, p) := p.addEmpty
        flowEntries fuel false p ((k, v) :: acc)

end

/-- Directives in front of a document: at most one version, which must be 1, and distinct
handles. -/
def directives (versionSeen : Bool) (handles : List (String × String)) :
    List Token → Except Fault (List (String × String) × List Token)
  | .version major :: ts =>
    if versionSeen || major != 1 then .error .malformed else directives true handles ts
  | .tagHandle h s :: ts =>
    if (handles.lookup h).isSome then .error .malformed
    else directives versionSeen (handles ++ [(h, s)]) ts
  | .otherDirective :: ts => directives versionSeen handles ts
  | ts => .ok (handles ++ defaultHandles, ts)

/-- The tokens of a stream as a document, if there is one.  A second document is a fault. -/
def single (fuel : Nat) (p : Composer) : Except Fault (Option Nat × Composer) := do
  match ← p.peek with
  | .streamEnd => return (none, p)
  | .version _ | .tagHandle _ _ | .otherDirective | .documentStart => last (← explicit p)
  | _ => last (← node fuel true false { p with handles := defaultHandles })
where
  /-- Nothing may follow the document but end markers. -/
  last (r : Nat × Composer) : Except Fault (Option Nat × Composer) := do
    let p : Composer := { r.2 with tokens := r.2.tokens.dropWhile (· == .documentEnd) }
    match ← p.peek with
    | .streamEnd => return (some r.1, p)
    | _ => throw .malformed
  /-- A document behind its directives and its marker. -/
  explicit (p : Composer) : Except Fault (Nat × Composer) := do
    let (handles, ts) ← directives false [] p.tokens
    let p := { p with tokens := ts, handles := handles }
    match ← p.peek with
    | .documentStart =>
      let p := p.advance
      match ← p.peek with
      | .version _ | .tagHandle _ _ | .otherDirective | .documentStart | .documentEnd
      | .streamEnd => return p.addEmpty
      | _ => node fuel true false p
    | _ => throw .malformed

end Composer

/-- The one document of a stream of tokens; nothing for an empty stream. -/
def Graph.ofTokens (tokens : List Token) (cut : Option Fault) : Except Fault (Option Graph) := do
  let p : Composer := ⟨tokens, cut.getD .malformed, [], #[], []⟩
  let (root, p) ← p.single (4 * tokens.length + 8)
  return root.map fun r => ⟨p.nodes, r⟩

end Pageworks.Yaml
