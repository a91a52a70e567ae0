import PageContracts.Settings.Document.Scalar

/-! # Token rows

A whole text as a row of tokens. Outside brackets the indentation opens and closes blocks, and a
key is recognised only by the colon behind it, so that the place of its token is filled in later.
A text that cannot be turned into tokens to its end still has those in front of its defect.
-/
namespace PageContracts.Document

/-- A place that may turn out to start a key: how many tokens precede it, whether it must become
one, and where in the text it stands. -/
structure PossibleKey where
  tokensBefore : Nat
  required : Bool
  index : Nat
  line : Nat
  column : Nat
  deriving DecidableEq, Repr, Inhabited

/-- How far a text has been turned into tokens: the row so far, how many of its tokens no later
key can change, the depth of brackets, the indentation of the blocks that are open, whether a key
may start here, and the possible keys at each depth of brackets. -/
structure RowState where
  cursor : Cursor
  tokens : Array Token := #[]
  settled : Nat := 0
  depth : Nat := 0
  indent : Int := -1
  outerIndents : List Int := []
  keyAllowed : Bool := true
  possibleKeys : List (Nat × PossibleKey) := []
  deriving DecidableEq, Repr, Inhabited

/-- Building a token row, which may fail and then leaves what it has built. -/
abbrev RowBuilder (α : Type) : Type :=
  EStateM Defect RowState α

namespace RowBuilder

/-- Give up because the text is no document. -/
def fail {α : Type} : RowBuilder α := throw .malformed

/-- Go on only if a condition holds. -/
def require (condition : Bool) : RowBuilder Unit :=
  if condition then pure () else fail

/-- Read from the text. -/
def read {α : Type} (reader : Reader α) : RowBuilder α := fun state =>
  match reader state.cursor with
  | .ok (result, cursor) => .ok result { state with cursor }
  | .error defect => .error defect state

/-- Add a token. -/
def emit (token : Token) : RowBuilder Unit :=
  modify fun state => { state with tokens := state.tokens.push token }

/-- Put a token in front of those behind a place. -/
def insert (place : Nat) (token : Token) : RowBuilder Unit :=
  modify fun state =>
    { state with tokens := state.tokens.insertIdxIfInBounds place token }

/-- Set whether a key may start here. -/
def allowKey (allowed : Bool) : RowBuilder Unit :=
  modify fun state => { state with keyAllowed := allowed }

/-- Whether a possible key can no longer become one: it has to end on its line, and soon. -/
def isStale (cursor : Cursor) (key : PossibleKey) : Bool :=
  key.line ≠ cursor.line || 1024 < cursor.index - key.index

/-- Settle the tokens in front of the first possible key that may still become one. -/
def settle : RowBuilder Unit :=
  modify fun state =>
    let pending := state.possibleKeys.filter fun entry => !isStale state.cursor entry.2
    { state with
      settled := (pending.map fun entry => entry.2.tokensBefore).foldl min state.tokens.size }

/-- Give up the possible keys that can no longer become keys, unless one is required. -/
def dropStale : RowBuilder Unit := do
  let state ← get
  let stale := state.possibleKeys.filter fun entry => isStale state.cursor entry.2
  require (stale.all fun entry => !entry.2.required)
  set { state with
    possibleKeys := state.possibleKeys.filter fun entry => !isStale state.cursor entry.2 }

/-- Give up the possible key at the present depth, unless it is required. -/
def dropKey : RowBuilder Unit := do
  let state ← get
  match state.possibleKeys.lookup state.depth with
  | none => return ()
  | some key =>
    require (!key.required)
    set { state with
      possibleKeys := state.possibleKeys.filter fun entry => entry.1 ≠ state.depth }

/-- Note that a key may start here. -/
def noteKey : RowBuilder Unit := do
  let state ← get
  if state.keyAllowed then
    dropKey
    let cursor := state.cursor
    let key : PossibleKey :=
      { tokensBefore := state.tokens.size
        required := state.depth = 0 && state.indent = (cursor.column : Int)
        index := cursor.index
        line := cursor.line
        column := cursor.column }
    modify fun state => { state with possibleKeys := (state.depth, key) :: state.possibleKeys }

/-- Close the blocks that are indented deeper than a column. -/
def closeBlocks (column : Int) : RowBuilder Unit := do
  let state ← get
  if state.depth = 0 then
    let open_ := state.indent :: state.outerIndents
    let closed := open_.takeWhile fun indent => column < indent
    let left := open_.drop closed.length
    set { state with
      indent := left.headD (-1)
      outerIndents := left.tail
      tokens := state.tokens ++ closed.map fun _ => Token.blockEnd }

/-- Open a block at a column, unless one as deep is open. -/
def openBlock (column : Nat) : RowBuilder Bool := do
  let state ← get
  if state.indent < (column : Int) then
    set { state with indent := column, outerIndents := state.indent :: state.outerIndents }
    return true
  return false

/-- Pass over blanks, comments and line ends in front of the next token. The fuel is the number
of characters ahead. -/
def toNextToken : Nat → RowBuilder Unit
  | 0 => return ()
  | fuel + 1 => do
    read (Reader.skipWhile (· = ' '))
    if (← get).cursor.atChar '#' then read (Reader.skipWhile fun c => !isBreak c)
    match ← read Reader.lineBreak with
    | [] => return ()
    | _ =>
      if (← get).depth = 0 then allowKey true
      toNextToken fuel

/-- Start anew: close all blocks, and let no key start. -/
def closeAll : RowBuilder Unit := do
  closeBlocks (-1)
  dropKey
  allowKey false

/-- Add a token that is an indicator of some characters. -/
def indicator (length : Nat) (token : Token) : RowBuilder Unit := do
  read (Reader.skip length)
  emit token

/-- Add the end of the row. -/
def finish : RowBuilder Unit := do
  closeAll
  modify fun state => { state with possibleKeys := [] }
  emit .streamEnd

/-- Add an opening bracket. -/
def openBracket (token : Token) : RowBuilder Unit := do
  noteKey
  modify fun state => { state with depth := state.depth + 1 }
  allowKey true
  indicator 1 token

/-- Add a closing bracket, which must have been opened. -/
def closeBracket (token : Token) : RowBuilder Unit := do
  dropKey
  require ((← get).depth ≠ 0)
  modify fun state => { state with depth := state.depth - 1 }
  allowKey false
  indicator 1 token

/-- Require that a block may start here, and open it with a token if it is a new one. -/
def startBlock (token : Token) : RowBuilder Unit := do
  let state ← get
  if state.depth = 0 then
    require state.keyAllowed
    if ← openBlock state.cursor.column then emit token

/-- Add a comma. -/
def addFlowEntry : RowBuilder Unit := do
  allowKey true
  dropKey
  indicator 1 .flowEntry

/-- Add a dash. -/
def addBlockEntry : RowBuilder Unit := do
  startBlock .blockSequenceStart
  allowKey true
  dropKey
  indicator 1 .blockEntry

/-- Add a question mark. -/
def addKey : RowBuilder Unit := do
  startBlock .blockMappingStart
  allowKey ((← get).depth = 0)
  dropKey
  indicator 1 .key

/-- Turn a possible key into one. -/
def settleKey (key : PossibleKey) : RowBuilder Unit := do
  modify fun state =>
    { state with possibleKeys := state.possibleKeys.filter fun entry => entry.1 ≠ state.depth }
  insert key.tokensBefore .key
  if (← get).depth = 0 then
    if ← openBlock key.column then insert key.tokensBefore .blockMappingStart
  allowKey false

/-- Add a colon. -/
def addValue : RowBuilder Unit := do
  let state ← get
  match state.possibleKeys.lookup state.depth with
  | some key => settleKey key
  | none =>
    startBlock .blockMappingStart
    allowKey (state.depth = 0)
    dropKey
  indicator 1 .value

/-- Add a token that may start a key. -/
def addNode (reader : Reader Token) : RowBuilder Unit := do
  noteKey
  allowKey false
  emit (← read reader)

/-- Add a block of text. -/
def addBlock : RowBuilder Unit := do
  allowKey true
  dropKey
  emit (← read (Scalar.block (← get).indent))

/-- Add a plain text. A key may start behind it when it ended behind a line end. -/
def addPlain : RowBuilder Unit := do
  noteKey
  allowKey false
  let state ← get
  let (token, crossedLine) ← read (Scalar.plain (state.depth ≠ 0) state.indent)
  allowKey crossedLine
  emit token

/-- The characters that no plain text starts with. -/
def indicators : List Char :=
  "-?:,[]\x7b\x7d#&*!|>'\"%@`".toList

/-- Whether a plain text starts here. -/
def startsPlain (cursor : Cursor) (depth : Nat) (c : Char) : Bool :=
  (!isSpace c && !isBreak c && !indicators.contains c) ||
    (!endsWord (cursor.peek 1) && (c = '-' || (depth = 0 && (c = '?' || c = ':'))))

/-- Add the token that starts with a character. -/
def addToken (c : Char) : RowBuilder Unit := do
  let state ← get
  let cursor := state.cursor
  let alone := endsWord (cursor.peek 1)
  if c = '%' && cursor.column = 0 then
    closeAll
    emit (← read Token.readDirective)
  else if cursor.column = 0 && cursor.atMarker '-' then
    closeAll
    indicator 3 .documentStart
  else if cursor.column = 0 && cursor.atMarker '.' then
    closeAll
    indicator 3 .documentEnd
  else if c = '[' then openBracket .sequenceStart
  else if c = '\x7b' then openBracket .mappingStart
  else if c = ']' then closeBracket .sequenceEnd
  else if c = '\x7d' then closeBracket .mappingEnd
  else if c = ',' then addFlowEntry
  else if c = '-' && alone then addBlockEntry
  else if c = '?' && (state.depth ≠ 0 || alone) then addKey
  else if c = ':' && (state.depth ≠ 0 || alone) then addValue
  else if c = '*' then addNode (Token.anchorName.map .reference)
  else if c = '&' then addNode (Token.anchorName.map .anchor)
  else if c = '!' then addNode Token.readTag
  else if (c = '|' || c = '>') && state.depth = 0 then addBlock
  else if c = '\'' || c = '"' then addNode (Scalar.quoted c)
  else
    require (startsPlain cursor state.depth c)
    addPlain

/-- Add tokens up to the end of the text. The fuel is the number of characters ahead, of which
every token but the last takes one. -/
def addAll : Nat → RowBuilder Unit
  | 0 => fail
  | fuel + 1 => do
    settle
    toNextToken ((← get).cursor.ahead + 1)
    dropStale
    closeBlocks (← get).cursor.column
    match (← get).cursor.peek 0 with
    | none => finish
    | some c =>
      addToken c
      addAll fuel

end RowBuilder

/-- A row of tokens, and the defect of the text behind them if it has one. -/
structure TokenRow where
  tokens : List Token
  defect : Option Defect := none
  deriving DecidableEq, Repr, Inhabited

/-- The token row of a text. A text with characters that no document has is defective from its
start; a byte order mark there is passed over. -/
def TokenRow.ofText (text : List Char) : TokenRow :=
  if text.all isAllowed then
    let start := Cursor.start text
    let cursor := if (text.head?.map Char.toNat) = some 0xFEFF then start.next else start
    match (RowBuilder.addAll (text.length + 1)).run { cursor } with
    | .ok _ state => { tokens := state.tokens.toList }
    | .error defect state =>
      { tokens := state.tokens.toList.take state.settled, defect := some defect }
  else { tokens := [], defect := some .malformed }

end PageContracts.Document
