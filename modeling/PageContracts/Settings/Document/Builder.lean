import PageContracts.Settings.Document.Content
import PageContracts.Settings.Document.Node
import PageContracts.Settings.Document.ScalarValue

/-! # Building the content

How the nodes of a settings document become its content. A scalar is made into its value when it
is met. A collection is only noted then and filled later, in the order in which the collections
were met, so that it can be part of itself. Merging changes the nodes of the mappings involved.
-/
namespace PageContracts.Document

/-- How far the content is built: the nodes as merging has left them, the greatest number of
entries in them that say what is to be merged, the parts that nodes have been made into, the nodes
that are the one value which is no number, the filled collections, and the nodes of all
collections in the order in which they were met, with the number of those that are filled. -/
structure BuilderState where
  nodes : Array Node
  merges : Nat
  parts : Array (Option Part)
  notANumber : List Nat := []
  collections : Array Collection
  met : Array Nat := #[]
  filled : Nat := 0
  deriving Repr, Inhabited

/-- Building content, which may fail. -/
abbrev Builder (α : Type) : Type :=
  StateT BuilderState (Except Defect) α

namespace Builder

/-- Give up because a node cannot be made into what it should be. -/
def fail {α : Type} : Builder α := fun _ => .error .malformed

/-- The node of a number. -/
def node (number : Nat) : Builder Node := do
  match (← get).nodes[number]? with
  | some node => return node
  | none => fail

/-- Change the node of a number. -/
def change (number : Nat) (update : Node → Node) : Builder Unit :=
  modify fun state => { state with nodes := state.nodes.modify number update }

/-- The entries of a node that must be a mapping. -/
def entries (number : Nat) : Builder (List (Nat × Nat)) := do
  match (← node number).content with
  | .mapping entries => return entries
  | _ => fail

/-- The items of a node that must be a sequence. -/
def items (number : Nat) : Builder (List Nat) := do
  match (← node number).content with
  | .sequence items => return items
  | _ => fail

/-- Whether a node has a tag. -/
def hasTag (tag : NodeTag) (number : Nat) : Builder Bool := do
  return (← node number).tag = tag

/-- The entries in front of the first one to be merged, and the rest. -/
def splitAtMerge : List (Nat × Nat) → Builder (List (Nat × Nat) × List (Nat × Nat))
  | [] => return ([], [])
  | entry :: rest => do
    if ← hasTag .merge entry.1 then return ([], entry :: rest)
    let (before, behind) ← splitAtMerge rest
    return (entry :: before, behind)

/-- Let the keys of entries that stand for a mapping as a whole be ordinary texts. -/
def plainKeys (entries : List (Nat × Nat)) : Builder Unit :=
  entries.forM fun entry => do
    if ← hasTag .whole entry.1 then change entry.1 fun node => { node with tag := .text }

/-- Merge into a mapping what its entries from a place on say. What is merged stands in front of
the mapping's own entries; `merged` has been collected already. The fuel is the number of entries
that say so, of which every step takes one away. -/
def flatten (number place : Nat) (merged : List (Nat × Nat)) : Nat → Builder Unit
  | 0 => finish number place merged
  | fuel + 1 => do
    let own ← entries number
    let (before, behind) ← splitAtMerge (own.drop place)
    match behind with
    | [] => finish number place merged
    | (_, source) :: after =>
      plainKeys before
      change number fun node =>
        { node with content := .mapping (own.take place ++ before ++ after) }
      let more ←
        match (← node source).content with
        | .mapping _ => do
          flatten source 0 [] fuel
          entries source
        | .sequence items => do
          let all ← items.mapM fun item => do
            let _ ← entries item
            flatten item 0 [] fuel
            entries item
          pure all.reverse.flatten
        | .scalar _ => fail
      flatten number (place + before.length) (merged ++ more) fuel
where
  /-- Put what has been collected in front of the mapping's own entries. -/
  finish (number place : Nat) (merged : List (Nat × Nat)) : Builder Unit := do
    let own ← entries number
    plainKeys (own.drop place)
    if !merged.isEmpty then
      change number fun node => { node with content := .mapping (merged ++ own) }

/-- The number of entries in all mappings that say what is to be merged. -/
def mergeCount (nodes : Array Node) : Nat :=
  let isMerge (entry : Nat × Nat) : Bool := (nodes[entry.1]?.map Node.tag) = some .merge
  (nodes.toList.map fun node =>
    match node.content with
    | .mapping entries => entries.countP isMerge
    | _ => 0).foldl Nat.add 0

/-- The text of a node: that of a scalar, or of the value under the key that stands for a mapping
as a whole. A mapping that stands for itself has no end. -/
def textOf (number : Nat) : Nat → Builder String
  | 0 => throw .tooDeep
  | fuel + 1 => do
    match (← node number).content with
    | .scalar text => return text
    | .sequence _ => fail
    | .mapping entries =>
      match ← entries.findM? fun entry => hasTag .whole entry.1 with
      | some entry => textOf entry.2 fuel
      | none => fail

/-- The value of a node that is made into a plain one. -/
def plainValue (number : Nat) (node : Node) : Builder Value := do
  let text ← textOf number ((← get).nodes.size + 1)
  match node.tag, node.content with
  | .moment, .mapping _ => throw .mappedMoment
  | tag, _ =>
    if tag = .double && ScalarValue.isNotANumber text then
      modify fun state => { state with notANumber := number :: state.notANumber }
    ScalarValue.ofText tag text

/-- Whether a tag is that of a collection. -/
def isCollectionTag (tag : NodeTag) : Bool :=
  [NodeTag.sequence, .mapping, .pairs, .set].contains tag

/-- Whether a tag is that of a plain value. -/
def isPlainTag (tag : NodeTag) : Bool :=
  [NodeTag.nothing, .truth, .integer, .double, .text, .bytes, .moment].contains tag

/-- The part that a node is made into. It is made only once. -/
def make (number : Nat) : Builder Part := do
  match ((← get).parts[number]?).join with
  | some part => return part
  | none =>
    let node ← node number
    let part ←
      if isCollectionTag node.tag then do
        modify fun state => { state with met := state.met.push number }
        pure (Part.collection number)
      else if isPlainTag node.tag then Part.plain <$> plainValue number node
      else fail
    modify fun state => { state with parts := state.parts.modify number fun _ => some part }
    return part

/-- A key as a value, which must be a plain one. -/
def makeKey (number : Nat) : Builder Value := do
  match ← make number with
  | .plain value => return value
  | _ => fail

/-- Whether two nodes are the same key: they are one node, or both the one value that is no
number, or their values are the same key. -/
def isSameKey (notANumber : List Nat) (a b : Nat × Value) : Bool :=
  a.1 = b.1 || (notANumber.contains a.1 && notANumber.contains b.1) || a.2.sameKey b.2

/-- Entries with one of them set: a key that is there keeps its place and its form. -/
def setEntry (notANumber : List Nat) (key : Nat × Value) (part : Part) :
    List ((Nat × Value) × Part) → List ((Nat × Value) × Part)
  | [] => [(key, part)]
  | (known, old) :: rest =>
    if isSameKey notANumber known key then (known, part) :: rest
    else (known, old) :: setEntry notANumber key part rest

/-- The entries of a mapping after others. Of entries with the same key the last one counts, in
the place of the first. -/
def makeEntries : List (Nat × Nat) → List ((Nat × Value) × Part) →
    Builder (List ((Nat × Value) × Part))
  | [], made => return made
  | (keyNumber, number) :: rest, made => do
    let key ← makeKey keyNumber
    let part ← make number
    makeEntries rest (setEntry (← get).notANumber (keyNumber, key) part made)

/-- The entries of a node that must be a mapping, once everything is merged. -/
def makeMapping (number : Nat) : Builder (List (Value × Part)) := do
  let _ ← entries number
  flatten number 0 [] (← get).merges
  let made ← makeEntries (← entries number) []
  return made.map fun entry => (entry.1.2, entry.2)

/-- The pair of a node that must be a mapping of one entry. -/
def makePair (number : Nat) : Builder Part := do
  match ← entries number with
  | [(keyNumber, valueNumber)] =>
    let key ← make keyNumber
    let value ← make valueNumber
    return .pair key value
  | _ => fail

/-- What a collection is filled with. -/
def fill (number : Nat) : Builder Collection := do
  match (← node number).tag with
  | .sequence => return .list (← (← items number).mapM make)
  | .pairs => return .list (← (← items number).mapM makePair)
  | .set => return .set ((← makeMapping number).map Prod.fst)
  | _ => return .map (← makeMapping number)

/-- Fill the collections that are not filled yet, and those that are met while doing so. The fuel
is the number of nodes, each of which is met at most once. -/
def fillAll : Nat → Builder Unit
  | 0 => return ()
  | fuel + 1 => do
    match (← get).met[(← get).filled]? with
    | none => return ()
    | some number =>
      modify fun state => { state with filled := state.filled + 1 }
      let collection ← fill number
      modify fun state =>
        { state with collections := state.collections.modify number fun _ => collection }
      fillAll fuel

end Builder

/-- The content of the nodes of a document. -/
def Content.ofNodes (graph : NodeGraph) : Except Defect Content := do
  let count := graph.nodes.size
  let start : BuilderState :=
    { nodes := graph.nodes
      merges := Builder.mergeCount graph.nodes
      parts := Array.replicate count none
      collections := Array.replicate count (.list []) }
  let build : Builder Part := do
    let root ← Builder.make graph.root
    Builder.fillAll count
    return root
  let (root, state) ← build.run start
  return { collections := state.collections, root }

end PageContracts.Document
