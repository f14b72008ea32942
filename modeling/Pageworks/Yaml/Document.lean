import Pageworks.Yaml.Node
import Pageworks.Yaml.Scalar

/-!
# Documents of YAML

The value of a document.  Collections are opened one generation after the other from the outermost
one in, so of two faults the one nearer to the root is found first.  The value of a document that
holds itself has no end: it is unfolded as deep as asked for.

## Main definitions

* `Graph.tagOf`: the tag of a node.
* `Graph.merged`: the graph with the `<<` entries of a mapping replaced by what they refer to.
* `Graph.open`: the graph with every reachable collection checked.
* `Graph.value`: the value of a node, unfolded to a depth.
* `load`: the value of a text.
-/

namespace Pageworks.Yaml

namespace Graph

/-- The node with a number. -/
def get (g : Graph) (id : Nat) : Node := g.nodes.getD id default

/-- The graph with one node replaced. -/
def set (g : Graph) (id : Nat) (n : Node) : Graph := { g with nodes := g.nodes.setIfInBounds id n }

/-- The tag of a node. -/
def tagOf (g : Graph) (id : Nat) : Tag :=
  match g.get id with
  | .scalar (.given t) _ => Tag.ofName t
  | .scalar .byText s => Tag.ofText s
  | .scalar .quotedText _ => .text
  | .sequence t _ => t.elim .sequence Tag.ofName
  | .mapping t _ => t.elim .mapping Tag.ofName

/-- Tags whose values are opened after those around them. -/
def isCollectionTag : Tag → Bool
  | .sequence | .mapping | .set | .orderedMap | .pairs => true
  | _ => false

/-- The text of a node under the tag of a scalar.  A mapping stands for its `=` entry. -/
def textOf (g : Graph) : Nat → Nat → Except Fault String
  | 0, _ => .error .malformed
  | fuel + 1, id =>
    match g.get id with
    | .scalar _ s => .ok s
    | .sequence _ _ => .error .malformed
    | .mapping _ entries =>
      match entries.find? fun (k, _) => g.tagOf k == .default with
      | some (_, v) => g.textOf fuel v
      | none => .error .malformed

/-- The value of a node under the tag of a scalar. -/
def scalarValue (g : Graph) (id : Nat) : Except Fault Value := do
  let tag := g.tagOf id
  match tag with
  | .merge | .default | .unknown => throw .malformed
  | _ =>
    let s ← g.textOf (g.nodes.size + 1) id
    match tag, g.get id with
    | .timestamp, .mapping _ _ => throw .momentOfCollection
    | _, _ => Scalar.value tag s

/-- The entries of a mapping, or a fault for any other node. -/
def entriesOf (g : Graph) (id : Nat) : Except Fault (List (Nat × Nat)) :=
  match g.get id with
  | .mapping _ es => .ok es
  | _ => .error .malformed

/-- The graph with other entries in a mapping. -/
def setEntries (g : Graph) (id : Nat) (es : List (Nat × Nat)) : Graph :=
  match g.get id with
  | .mapping t _ => g.set id (.mapping t es)
  | _ => g

mutual

/-- The graph with the `<<` entries of a mapping replaced by the entries of the mappings they
refer to, which come first.  A `=` key counts as a text. -/
def merged (g : Graph) (fuel : Nat) (id : Nat) : Except Fault Graph := do
  match fuel with
  | 0 => throw .malformed
  | fuel + 1 =>
    let es ← g.entriesOf id
    let (g, inherited, own) ← mergedFrom g fuel id es [] []
    return if inherited.isEmpty then g.setEntries id own else g.setEntries id (inherited ++ own)

/-- The entries inherited through `<<` and the mapping's own entries. -/
def mergedFrom (g : Graph) (fuel : Nat) (id : Nat) (es inherited own : List (Nat × Nat)) :
    Except Fault (Graph × List (Nat × Nat) × List (Nat × Nat)) := do
  match fuel with
  | 0 => throw .malformed
  | fuel + 1 =>
    match es with
    | [] => return (g, inherited, own)
    | (k, v) :: rest =>
      match g.tagOf k with
      | .merge =>
        let g := g.setEntries id (own ++ rest)
        match g.get v with
        | .mapping _ _ =>
          let g ← merged g fuel v
          mergedFrom g fuel id rest (inherited ++ (← g.entriesOf v)) own
        | .sequence _ items =>
          let (g, lists) ← mergedItems g fuel items []
          mergedFrom g fuel id rest (inherited ++ lists.flatten) own
        | .scalar _ _ => throw .malformed
      | .default =>
        let g := match g.get k with
          | .scalar _ s => g.set k (.scalar .quotedText s)
          | _ => g
        mergedFrom g fuel id rest inherited (own ++ [(k, v)])
      | _ => mergedFrom g fuel id rest inherited (own ++ [(k, v)])

/-- The entries of a sequence of mappings, the last mapping first. -/
def mergedItems (g : Graph) (fuel : Nat) (items : List Nat) (acc : List (List (Nat × Nat))) :
    Except Fault (Graph × List (List (Nat × Nat))) := do
  match fuel with
  | 0 => throw .malformed
  | fuel + 1 =>
    match items with
    | [] => return (g, acc)
    | v :: rest =>
      match g.get v with
      | .mapping _ _ =>
        let g ← merged g fuel v
        mergedItems g fuel rest ((← g.entriesOf v) :: acc)
      | _ => throw .malformed

end

/-- How often a node can be entered while entries are merged. -/
def mergeFuel (g : Graph) : Nat :=
  let size := fun (n : Node) => match n with
    | .scalar _ _ => 1
    | .sequence _ is => is.length + 1
    | .mapping _ es => es.length + 1
  let total := g.nodes.foldl (fun k n => k + size n) 0
  (total + 2) * (total + 2)

/-- A node is met: a scalar must have a value, and a collection is to be opened once. -/
def meet (g : Graph) (seen : List Nat) (queue : List Nat) (id : Nat) :
    Except Fault (List Nat × List Nat) :=
  if isCollectionTag (g.tagOf id) then
    if seen.contains id then .ok (seen, queue) else .ok (id :: seen, id :: queue)
  else (g.scalarValue id).map fun _ => (seen, queue)

/-- The entries of a mapping are met in turn, each key before its value; a key must be a scalar. -/
def meetEntries (g : Graph) :
    List Nat → List Nat → List (Nat × Nat) → Except Fault (List Nat × List Nat)
  | seen, queue, [] => .ok (seen, queue)
  | seen, queue, (k, v) :: rest => do
    if isCollectionTag (g.tagOf k) then throw .malformed
    let _ ← g.scalarValue k
    let (seen, queue) ← g.meet seen queue v
    g.meetEntries seen queue rest

/-- Nodes are met in turn. -/
def meetItems (g : Graph) : List Nat → List Nat → List Nat → Except Fault (List Nat × List Nat)
  | seen, queue, [] => .ok (seen, queue)
  | seen, queue, id :: rest => do
    let (seen, queue) ← g.meet seen queue id
    g.meetItems seen queue rest

/-- The items of an ordered mapping: mappings of one entry, whose key and value are met. -/
def meetPairs (g : Graph) : List Nat → List Nat → List Nat → Except Fault (List Nat × List Nat)
  | seen, queue, [] => .ok (seen, queue)
  | seen, queue, id :: rest => do
    match g.get id with
    | .mapping _ [(k, v)] =>
      let (seen, queue) ← g.meetItems seen queue [k, v]
      g.meetPairs seen queue rest
    | _ => throw .malformed

/-- A collection is opened: its parts are met. -/
def openOne (g : Graph) (seen queue : List Nat) (id : Nat) :
    Except Fault (Graph × List Nat × List Nat) := do
  match g.tagOf id, g.get id with
  | .sequence, .sequence _ items => return (g, ← g.meetItems seen queue items)
  | .orderedMap, .sequence _ items | .pairs, .sequence _ items =>
    return (g, ← g.meetPairs seen queue items)
  | .mapping, .mapping _ _ | .set, .mapping _ _ =>
    let g ← g.merged g.mergeFuel id
    return (g, ← g.meetEntries seen queue (← g.entriesOf id))
  | _, _ => throw .malformed

/-- The collections of a generation are opened in turn, then those met inside them. -/
def openAll : Nat → Graph → List Nat → List Nat → List Nat → Except Fault Graph
  | 0, _, _, _, _ => .error .malformed
  | _ + 1, g, _, [], [] => .ok g
  | fuel + 1, g, seen, next, [] => openAll fuel g seen [] next.reverse
  | fuel + 1, g, seen, next, id :: rest => do
    let (g, seen, next) ← g.openOne seen next id
    openAll fuel g seen next rest

/-- The graph with every reachable collection checked and merged. -/
def opened (g : Graph) : Except Fault Graph := do
  let (seen, queue) ← g.meet [] [] g.root
  openAll (2 * g.nodes.size + 4) g seen queue []

/-- The value of a checked node; below the depth collections appear empty. -/
def value (g : Graph) : Nat → Nat → Value
  | depth, id =>
    match g.tagOf id, g.get id, depth with
    | .sequence, .sequence _ items, depth + 1 => .list (items.map (g.value depth))
    | .orderedMap, .sequence _ items, depth + 1 | .pairs, .sequence _ items, depth + 1 =>
      .list (items.map fun i =>
        match g.get i with
        | .mapping _ [(k, v)] => .list [g.value depth k, g.value depth v]
        | _ => .null)
    | .mapping, .mapping _ es, depth + 1 =>
      .mapping (es.map fun (k, v) => (g.value depth k, g.value depth v))
    | .set, .mapping _ es, depth + 1 => .set (distinct (es.map fun (k, _) => g.value depth k))
    | .sequence, _, _ | .orderedMap, _, _ | .pairs, _, _ => .list []
    | .mapping, _, _ => .mapping []
    | .set, _, _ => .set []
    | _, _, _ => (g.scalarValue id).toOption.getD .null
where
  /-- The members of a set, each once. -/
  distinct (vs : List Value) : List Value :=
    (vs.foldl (fun acc v => if acc.any (·.sameKey v) then acc else v :: acc) []).reverse

end Graph

/-- How deep a value is unfolded: a mapping, the lists in it, and what kind their items are. -/
def valueDepth : Nat := 3

/-- The value of a text; an empty text has the value null. -/
def load (text : String) : Except Fault Value := do
  let (tokens, cut) := Token.ofText text.toList
  match ← Graph.ofTokens tokens cut with
  | none => return .null
  | some g =>
    let g ← g.opened
    return g.value valueDepth g.root

end Pageworks.Yaml
