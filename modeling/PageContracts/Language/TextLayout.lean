import PageContracts.Language.Arguments
import PageContracts.Language.Subscript
import PageContracts.Text.Cases
import PageContracts.Value.Layout

/-! # Laying out texts

A text with fields in braces, each of which names an argument, or a part of one, and says how it is
written. Fields are numbered, named, or counted from left to right.
-/
namespace PageContracts.Language.TextLayout

/-- A part of a text with fields. -/
inductive Segment where
  | literal (c : Char)
  /-- A field: what it names, how that is converted, and the layout of it. -/
  | field (name : List Char) (conversion : Option Char) (layout : List Char)
  /-- Something that makes no sense, and all that follows it. -/
  | flaw (failure : Failure)
  deriving Repr, Inhabited

/-- The failure of a text whose braces or fields make no sense. -/
def malformed {α : Type} (message : String) : Except Failure α :=
  .error (.valueBreach message)

/-- What a field names, and what follows that. -/
def nameEnd (inBrackets : Bool) (name : List Char) : List Char →
    Except Failure (List Char × List Char)
  | [] => malformed "expected '\x7d' before end of string"
  | c :: rest =>
    if inBrackets then nameEnd (c ≠ ']') (c :: name) rest
    else if c = '\x7b' then malformed "unexpected '\x7b' in field name"
    else if c = '\x7d' || c = ':' || c = '!' then .ok (name.reverse, c :: rest)
    else nameEnd (c = '[') (c :: name) rest

/-- The layout of a field, up to the brace that closes the field, and what follows it. -/
def layoutEnd (depth : Nat) (layout : List Char) : List Char →
    Except Failure (List Char × List Char)
  | [] => malformed "expected '\x7d' before end of string"
  | '\x7d' :: rest =>
    if depth = 0 then .ok (layout.reverse, rest)
    else layoutEnd (depth - 1) ('\x7d' :: layout) rest
  | '\x7b' :: rest => layoutEnd (depth + 1) ('\x7b' :: layout) rest
  | c :: rest => layoutEnd depth (c :: layout) rest

/-- A field behind its opening brace, and what follows it. -/
def fieldAt (input : List Char) : Except Failure (Segment × List Char) := do
  let (name, rest) ← nameEnd false [] input
  match rest with
  | '!' :: c :: ':' :: rest =>
    let (layout, rest) ← layoutEnd 0 [] rest
    return (.field name (some c) layout, rest)
  | '!' :: c :: '\x7d' :: rest =>
    if c = '\x7d' then malformed "unmatched '\x7b' in format spec"
    else return (.field name (some c) [], rest)
  | '!' :: _ => malformed "expected ':' after conversion specifier"
  | ':' :: rest =>
    let (layout, rest) ← layoutEnd 0 [] rest
    return (.field name none layout, rest)
  | rest => return (.field name none [], rest.tail)

/-- The flaw of a brace that stands alone. -/
def alone (brace : String) : Segment :=
  .flaw (.valueBreach ("Single '" ++ brace ++ "' encountered in format string"))

/-- The parts of a text with fields. The fuel is more than the length of the text. -/
def segments : Nat → List Char → List Segment
  | 0, _ => []
  | _, [] => []
  | fuel + 1, '\x7b' :: '\x7b' :: rest => .literal '\x7b' :: segments fuel rest
  | fuel + 1, '\x7d' :: '\x7d' :: rest => .literal '\x7d' :: segments fuel rest
  | _, '\x7d' :: _ => [alone "\x7d"]
  | _, ['\x7b'] => [alone "\x7b"]
  | fuel + 1, '\x7b' :: rest =>
    match fieldAt rest with
    | .ok (field, rest) => field :: segments fuel rest
    | .error failure => [.flaw failure]
  | fuel + 1, c :: rest => .literal c :: segments fuel rest

/-- How fields without a name are counted: not yet, by their own numbers, or up to a number. -/
inductive Counting where
  | open
  | byNumber
  | upTo (next : Nat)
  deriving DecidableEq, Repr

/-- The number that a text of digits spells. -/
def numberOf? (text : List Char) : Option Nat :=
  if !text.isEmpty && text.all Characters.isDecimal then
    some (text.foldl (fun n c => 10 * n + (Characters.digitValue? c).getD 0) 0)
  else none

/-- A number of two parts written by a layout. Without a letter the first part may be left out, and
what is written stands in parentheses otherwise. -/
def writeComplex (re im : Binary64) (layout : Layout) : Except Failure String := do
  if layout.zero then malformed "Zero padding is not allowed in complex format specifier"
  if layout.align = some '=' then malformed "'=' alignment flag is not allowed"
  let known : List Char := ['e', 'E', 'f', 'F', 'g', 'G', 'n']
  if (layout.letter.map fun c => !known.contains c).getD false then
    malformed "Unknown format code"
  let part (x : Binary64) (sign : Option Char) : Except Failure String :=
    let bare := { layout with fill := none, align := none, width := 0, sign }
    if layout.letter.isNone && layout.precision.isNone then
      let shown := Meaning.shownPart x
      let shown :=
        if layout.alternate then String.ofList (Layout.pointed shown.toList) else shown
      .ok (if sign = some '+' && !shown.startsWith "-" then "+" ++ shown
        else if sign = some ' ' && !shown.startsWith "-" then " " ++ shown
        else shown)
    else ({ bare with letter := some (layout.letter.getD 'g') }).ofDouble x
  let isBare := layout.letter.isNone && re.isZero && !re.isNegative
  let written ←
    if isBare then do pure ((← part im layout.sign) ++ "j")
    else do
      let both := (← part re layout.sign) ++ (← part im (some '+')) ++ "j"
      pure (if layout.letter.isNone then "(" ++ both ++ ")" else both)
  layout.filled '>' [] written.toList

/-- A value written by a layout. -/
def write (item : Meaning) (layout : String) : Except Failure String :=
  match item.core with
  | .complex re im =>
    if layout.isEmpty then item.spoken else do writeComplex re im (← Layout.read layout)
  | _ =>
    match item.bare with
    | .thing _ _ attributes =>
      if (attributes.lookup Meaning.valueLabel).isSome then do
        Layout.write (.text (← item.spoken)) layout
      else Layout.write item.toValue layout
    | _ => Layout.write item.toValue layout

/-- Where a text with fields finds what its fields name: among arguments, or in a map. -/
inductive Supply where
  | given (arguments : Arguments)
  | entries (whole : Meaning)
  deriving Repr, Inhabited

variable (machine : Machine)

/-- The argument at a place. -/
def position (supply : Supply) (n : Nat) : Except Failure Meaning :=
  match supply with
  | .given arguments =>
    match arguments.positions[n]? with
    | some item => .ok item
    | none => .error (.breach .outOfBounds "Replacement index out of range for positional args tuple")
  | .entries _ => malformed "Format string contains positional fields"

/-- The argument that the first part of a field names. -/
def argument (supply : Supply) (counting : Counting) (name : List Char) :
    Eval (Meaning × Counting) := do
  if name.isEmpty then
    match counting with
    | .byNumber =>
      throw (.valueBreach "cannot switch from manual field specification to automatic field numbering")
    | .open => return (← position supply 0, .upTo 1)
    | .upTo n => return (← position supply n, .upTo (n + 1))
  else
    match numberOf? name, counting, supply with
    | some _, .upTo _, _ =>
      throw (.valueBreach "cannot switch from automatic field numbering to manual field specification")
    | some n, _, supply => return (← position supply n, .byNumber)
    | none, _, .entries whole =>
      return (← Subscript.of machine (← Eval.fresh whole) (.text (String.ofList name)), counting)
    | none, _, .given arguments =>
      match arguments.named.lookup (String.ofList name) with
      | some item => return (item, counting)
      | none => throw (.breach .missingKey (String.ofList name))

/-- The part of something that the rest of a field names. The fuel is more than the length of the
rest. -/
def partOf : Nat → Meaning → List Char → Eval Meaning
  | 0, item, _ => return item
  | _, item, [] => return item
  | fuel + 1, item, '.' :: rest => do
    let name := rest.takeWhile fun c => c ≠ '.' && c ≠ '['
    if name.isEmpty then throw (.valueBreach "Empty attribute in format string")
    partOf fuel (← machine.access (← Eval.fresh item) (String.ofList name)) (rest.drop name.length)
  | fuel + 1, item, '[' :: rest => do
    let index := rest.takeWhile (· ≠ ']')
    if index.isEmpty then throw (.valueBreach "Empty attribute in format string")
    match rest.drop index.length with
    | [] => throw (.valueBreach "Missing ']' in format string")
    | _ :: after =>
      let key :=
        match numberOf? index with
        | some n => Meaning.int n
        | none => Meaning.text (String.ofList index)
      partOf fuel (← Subscript.of machine (← Eval.fresh item) key) after
  | _, _, _ => throw (.valueBreach "Only '.' or '[' may follow ']' in format field specifier")

/-- Something converted before it is laid out. -/
def converted (conversion : Option Char) (item : Meaning) : Eval Meaning :=
  match conversion with
  | none => return item
  | some 's' => machine.call (.type .text) [item] []
  | some 'r' => machine.call (.function "repr") [item] []
  | some 'a' => machine.call (.function "ascii") [item] []
  | some _ => throw (.valueBreach "Unknown conversion specifier")

/-- What is filled in for something, by its conversion and its layout. -/
def filled (item : Meaning) (conversion : Option Char) (layout : String) : Eval Meaning := do
  let item ← converted machine conversion item
  if layout.isEmpty && (← Access.own? item "__format__").isNone then
    machine.call (.type .text) [item] []
  else machine.call (.function "format") [item, .text layout] []

/-- A text with its fields filled in. Fields stand inside the layouts of others as often as the first
number says. -/
def fill (supply : Supply) : Nat → Counting → List Char → Eval (List Char × Counting)
  | 0, _, _ => throw (.valueBreach "Max string recursion exceeded")
  | depth + 1, counting, spelled =>
    (segments (spelled.length + 1) spelled).foldlM (fun (done, counting) segment => do
      match segment with
      | .flaw failure => throw failure
      | .literal c => return (done ++ [c], counting)
      | .field name conversion layout =>
        let first := name.takeWhile fun c => c ≠ '.' && c ≠ '['
        let (item, counting) ← argument machine supply counting first
        let item ← partOf machine (name.length + 1) item (name.drop first.length)
        let item ← converted machine conversion item
        let (layout, counting) ←
          if layout.contains '\x7b' then fill supply depth counting layout
          else pure (layout, counting)
        let written ← filled machine item none (String.ofList layout)
        return (done ++ (written.text?.getD "").toList, counting)) ([], counting)

/-- A text with its fields filled in. -/
def format (spelled : List Char) (supply : Supply) : Eval Meaning := do
  let (done, _) ← fill machine supply 2 .open spelled
  return .text (String.ofList done)

end PageContracts.Language.TextLayout
