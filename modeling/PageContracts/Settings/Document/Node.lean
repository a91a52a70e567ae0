import PageContracts.Settings.Document.NodeTag
import PageContracts.Settings.Document.TokenRow

/-! # Nodes

The nodes that a token row spells out. They are numbered and refer to each other by number, so
that a node can be part of several others, and even of itself.
-/
namespace PageContracts.Document

/-- What a node is written as. The parts of a collection are given by their numbers. -/
inductive NodeContent where
  | scalar (text : String)
  | sequence (items : List Nat)
  | mapping (entries : List (Nat × Nat))
  deriving DecidableEq, Repr, Inhabited

/-- A part of a document: what it is to be made into, and what it is written as. -/
structure Node where
  tag : NodeTag
  content : NodeContent
  deriving DecidableEq, Repr, Inhabited

/-- The nodes of a document, each at the place of its number, and the one that holds all. -/
structure NodeGraph where
  nodes : Array Node
  root : Nat
  deriving Repr, Inhabited

/-- The tokens ahead, the defect behind them, the nodes so far, the numbers of those that have a
name, and what the tag handles mean. -/
structure NodeState where
  tokens : List Token
  defect : Option Defect := none
  nodes : Array Node := #[]
  named : List (String × Nat) := []
  handles : List (String × String) := []
  deriving Repr, Inhabited

/-- Reading nodes, which may fail. -/
abbrev NodeReader (α : Type) : Type :=
  StateT NodeState (Except Defect) α

namespace NodeReader

/-- Give up because the text is no document. -/
def fail {α : Type} : NodeReader α := fun _ => .error .malformed

/-- Go on only if a condition holds. -/
def require (condition : Bool) : NodeReader Unit :=
  if condition then pure () else fail

/-- The next token, left where it is. Where the tokens end, the defect behind them counts. -/
def peek : NodeReader Token := fun state =>
  match state.tokens, state.defect with
  | [], some defect => .error defect
  | tokens, _ => .ok (tokens.headD .streamEnd, state)

/-- Pass over a token. -/
def skip : NodeReader Unit :=
  modify fun state => { state with tokens := state.tokens.tail }

/-- Whether one of some tokens is next. -/
def atAny (tokens : List Token) : NodeReader Bool := do
  return tokens.contains (← peek)

/-- Pass over a token that must be next. -/
def expect (token : Token) : NodeReader Unit := do
  require (token = (← peek))
  skip

/-- Add a node; the result is its number. -/
def add (node : Node) : NodeReader Nat :=
  modifyGet fun state => (state.nodes.size, { state with nodes := state.nodes.push node })

/-- The number of the node behind a name. -/
def refer (name : String) : NodeReader Nat := do
  match (← get).named.lookup name with
  | some number => return number
  | none => fail

/-- Give a node a name, which must be new. -/
def giveName (name : String) (number : Nat) : NodeReader Unit := do
  let state ← get
  require (state.named.lookup name).isNone
  set { state with named := (name, number) :: state.named }

/-- What stands before the content of a node: a name and a full tag. -/
structure Properties where
  anchor : Option String := none
  tag : Option String := none
  deriving DecidableEq, Repr, Inhabited

namespace Properties

/-- Whether nothing stands before the content. -/
def isEmpty (properties : Properties) : Bool :=
  properties.anchor.isNone && properties.tag.isNone

/-- The tag, unless it leaves the choice open. -/
def chosen? (properties : Properties) : Option NodeTag :=
  (properties.tag.filter (· ≠ "!")).map NodeTag.ofName

/-- A scalar with these properties. Without a tag a plain text is made into what it spells, and
so is any text whose tag leaves the choice open. -/
def scalar (properties : Properties) (text : String) (plain : Bool) : Node :=
  let tag :=
    match properties.chosen? with
    | some tag => tag
    | none => if plain || properties.tag.isSome then .ofPlain text else .text
  { tag, content := .scalar text }

end Properties

/-- The full text of a tag. -/
def fullTag (handle : Option String) (suffix : String) : NodeReader String := do
  match handle with
  | none => return suffix
  | some handle =>
    match (← get).handles.lookup handle with
    | some meaning => return meaning ++ suffix
    | none => fail

/-- Read a name, if one is next. -/
def anchor? : NodeReader (Option String) := do
  match ← peek with
  | .anchor name =>
    skip
    return some name
  | _ => return none

/-- Read a tag, if one is next. -/
def tag? : NodeReader (Option String) := do
  match ← peek with
  | .tag handle suffix =>
    skip
    return some (← fullTag handle suffix)
  | _ => return none

/-- Read a name and a tag, in either order. -/
def properties : NodeReader Properties := do
  let before ← anchor?
  let tag ← tag?
  let anchor ← if before.isNone && tag.isSome then anchor? else pure before
  return { anchor, tag }

/-- Add a node that is not written: nothing. -/
def absent : NodeReader Nat :=
  add (Properties.scalar {} "" true)

/-- Add a node with its properties. -/
def addWith (properties : Properties) (node : Node) : NodeReader Nat := do
  let number ← add node
  match properties.anchor with
  | some name => giveName name number
  | none => pure ()
  return number

/-- Add a collection. It has its number and its name before its parts are read, so that they can
refer to it. -/
def collection (properties : Properties) (standard : NodeTag) (parts : NodeReader NodeContent) :
    NodeReader Nat := do
  let tag := properties.chosen?.getD standard
  let number ← addWith properties { tag, content := .scalar "" }
  let content ← parts
  modify fun state => { state with nodes := state.nodes.modify number fun _ => { tag, content } }
  return number

/-- Add a sequence. -/
def sequence (properties : Properties) (items : NodeReader (List Nat)) : NodeReader Nat :=
  collection properties .sequence (NodeContent.sequence <$> items)

/-- Add a mapping. -/
def mapping (properties : Properties) (entries : NodeReader (List (Nat × Nat))) :
    NodeReader Nat :=
  collection properties .mapping (NodeContent.mapping <$> entries)

/-- Read a node unless one of some tokens is next, which means that it is absent. -/
def nodeUnless (ends : List Token) (reader : NodeReader Nat) : NodeReader Nat := do
  if ← atAny ends then absent else reader

/-- Read the value behind a key, if its colon is next. -/
def valuePart (ends : List Token) (reader : NodeReader Nat) : NodeReader Nat := do
  if ← atAny [.value] then
    skip
    nodeUnless ends reader
  else absent

/-- Pass over a comma, which only the first part of a bracket does without. -/
def separator (first : Bool) : NodeReader Unit :=
  if first then pure () else expect .flowEntry

/-- How deeply nodes may be nested. -/
def deepest : Nat := 487

/-- The depth of the parts of a node, which must not be too great. -/
def deeper (depth : Nat) : NodeReader Nat :=
  if depth < deepest then return depth + 1 else throw .tooDeep

mutual

/-- Read a node: a reference, or properties and content. Blocks are read only if `block`, and the
dashes of a sequence that is not indented only if `dashes`. -/
def node (block dashes : Bool) (depth : Nat) : Nat → NodeReader Nat
  | 0 => fail
  | fuel + 1 => do
    let depth ← deeper depth
    match ← peek with
    | .reference name =>
      skip
      refer name
    | _ => content block dashes (← properties) depth fuel
termination_by structural fuel => fuel

/-- Read the content of a node with the given properties. -/
def content (block dashes : Bool) (properties : Properties) (depth : Nat) :
    Nat → NodeReader Nat
  | 0 => fail
  | fuel + 1 => do
    match ← peek, block, dashes with
    | .blockEntry, _, true => sequence properties (dashedItems depth fuel)
    | .scalar text plain, _, _ =>
      skip
      addWith properties (properties.scalar text plain)
    | .sequenceStart, _, _ =>
      skip
      sequence properties (flowItems true depth fuel)
    | .mappingStart, _, _ =>
      skip
      mapping properties (flowEntries true depth fuel)
    | .blockSequenceStart, true, _ =>
      skip
      sequence properties (blockItems depth fuel)
    | .blockMappingStart, true, _ =>
      skip
      mapping properties (blockEntries depth fuel)
    | _, _, _ =>
      require (!properties.isEmpty)
      addWith properties (properties.scalar "" true)
termination_by structural fuel => fuel

/-- Read the items of an indented sequence and its end. -/
def blockItems (depth : Nat) : Nat → NodeReader (List Nat)
  | 0 => fail
  | fuel + 1 => do
    if ← atAny [.blockEntry] then
      skip
      let item ← nodeUnless [.blockEntry, .blockEnd] (node true false depth fuel)
      return item :: (← blockItems depth fuel)
    else
      expect .blockEnd
      return []
termination_by structural fuel => fuel

/-- Read the items of a sequence that is indented no deeper than the key before it. -/
def dashedItems (depth : Nat) : Nat → NodeReader (List Nat)
  | 0 => fail
  | fuel + 1 => do
    if ← atAny [.blockEntry] then
      skip
      let item ← nodeUnless [.blockEntry, .key, .value, .blockEnd] (node true false depth fuel)
      return item :: (← dashedItems depth fuel)
    else return []
termination_by structural fuel => fuel

/-- Read the entries of an indented mapping and its end. -/
def blockEntries (depth : Nat) : Nat → NodeReader (List (Nat × Nat))
  | 0 => fail
  | fuel + 1 => do
    let ends : List Token := [.key, .value, .blockEnd]
    if ← atAny [.key] then
      skip
      let key ← nodeUnless ends (node true true depth fuel)
      let value ← valuePart ends (node true true depth fuel)
      return (key, value) :: (← blockEntries depth fuel)
    else
      expect .blockEnd
      return []
termination_by structural fuel => fuel

/-- Read the items between square brackets and the closing one. A key among them makes its item
a mapping of one entry. -/
def flowItems (first : Bool) (depth : Nat) : Nat → NodeReader (List Nat)
  | 0 => fail
  | fuel + 1 => do
    if ← atAny [.sequenceEnd] then
      skip
      return []
    else
      separator first
      if ← atAny [.sequenceEnd] then
        skip
        return []
      else
        let item ←
          if ← atAny [.key] then flowPair depth fuel else node false false depth fuel
        return item :: (← flowItems false depth fuel)
termination_by structural fuel => fuel

/-- Read a key and its value between square brackets as a mapping of one entry. -/
def flowPair (depth : Nat) : Nat → NodeReader Nat
  | 0 => fail
  | fuel + 1 => do
    let depth ← deeper depth
    skip
    mapping {} do
      let key ← nodeUnless [.value, .flowEntry, .sequenceEnd] (node false false depth fuel)
      let value ← valuePart [.flowEntry, .sequenceEnd] (node false false depth fuel)
      return [(key, value)]
termination_by structural fuel => fuel

/-- Read the entries between braces and the closing one. A node without a colon is a key whose
value is absent. -/
def flowEntries (first : Bool) (depth : Nat) : Nat → NodeReader (List (Nat × Nat))
  | 0 => fail
  | fuel + 1 => do
    if ← atAny [.mappingEnd] then
      skip
      return []
    else
      separator first
      if ← atAny [.mappingEnd] then
        skip
        return []
      else
        let entry ← flowEntry depth fuel
        return entry :: (← flowEntries false depth fuel)
termination_by structural fuel => fuel

/-- Read an entry between braces. -/
def flowEntry (depth : Nat) : Nat → NodeReader (Nat × Nat)
  | 0 => fail
  | fuel + 1 => do
    if ← atAny [.key] then
      skip
      let key ← nodeUnless [.value, .flowEntry, .mappingEnd] (node false false depth fuel)
      let value ← valuePart [.flowEntry, .mappingEnd] (node false false depth fuel)
      return (key, value)
    else
      let key ← node false false depth fuel
      return (key, ← absent)
termination_by structural fuel => fuel

end

/-- Read a node. No token takes more than four steps. -/
def anyNode : NodeReader Nat := do
  node true false 0 (4 * ((← get).tokens.length + 1))

/-- Pass over the marks that end documents. -/
def skipEnds : NodeReader Unit :=
  modify fun state => { state with tokens := state.tokens.dropWhile (· = .documentEnd) }

/-- What the tag handles mean when no directive says otherwise. -/
def standardHandles : List (String × String) :=
  [("!", "!"), ("!!", NodeTag.standardStart)]

/-- The handles that directives define; `none` when they define one twice, give two versions or
give a version that is not known. -/
def handlesOf? : List Token → Bool → List (String × String) → Option (List (String × String))
  | [], _, handles => some handles
  | .versionDirective major :: rest, versioned, handles =>
    if versioned || major ≠ 1 then none else handlesOf? rest true handles
  | .tagDirective handle meaning :: rest, versioned, handles =>
    if (handles.lookup handle).isSome then none
    else handlesOf? rest versioned (handles ++ [(handle, meaning)])
  | _ :: rest, versioned, handles => handlesOf? rest versioned handles

/-- Read directives. -/
def directives : NodeReader Unit := do
  let state ← get
  match handlesOf? (state.tokens.takeWhile Token.isDirective) false [] with
  | some handles =>
    set { state with
      tokens := state.tokens.dropWhile Token.isDirective
      handles := handles ++ standardHandles }
  | none => fail

/-- Read a document behind its start, or behind the directives and marks before it; `none` when
there is no document at all. -/
def document : NodeReader (Option Nat) := do
  let first ← peek
  if first.isDirective || first = .documentStart || first = .streamEnd then
    if ← atAny [.streamEnd] then return none
    directives
    expect .documentStart
    let next ← peek
    if next.isDirective || [.documentStart, .documentEnd, .streamEnd].contains next then
      return some (← absent)
    else return some (← anyNode)
  else
    modify fun state => { state with handles := standardHandles }
    return some (← anyNode)

/-- Read a document and the end of the row, so that there is no second document. -/
def wholeRow : NodeReader (Option Nat) := do
  let root ← document
  skipEnds
  require ((← peek) = .streamEnd)
  return root

end NodeReader

/-- The nodes that a token row spells out; `none` when it holds no document. -/
def NodeGraph.ofRow (row : TokenRow) : Except Defect (Option NodeGraph) := do
  let (root, state) ← NodeReader.wholeRow.run { tokens := row.tokens, defect := row.defect }
  return root.map fun root => { nodes := state.nodes, root }

end PageContracts.Document
