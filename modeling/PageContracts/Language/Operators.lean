import PageContracts.Language.Complex
import PageContracts.Language.SetOrder
import PageContracts.Language.Union
import PageContracts.Template.Fill
import PageContracts.Value.Conversion

/-! # Operators

What the signs between and in front of operands do: calculate with numbers, join and repeat rows and
texts, combine sets and maps, fill texts, compare, and join types.
-/
namespace PageContracts.Language.Meaning

/-- The failure of operands that a sign has no meaning for. -/
def unsupported {α : Type} (sign : String) : Except Failure α :=
  misuse ("unsupported operand type(s) for " ++ sign)

/-- The items of a set, or of the part of a map that is like one. -/
def setItems? (item : Meaning) : Option (List Meaning) :=
  match item.core with
  | .set _ items => some items
  | .view "dict_keys" _ items => some items
  | .view "dict_items" _ items => some items
  | _ => none

/-- Whether some items are all among others. -/
def covers (whole part : List Meaning) : Bool :=
  part.all fun item => whole.any (same item)

/-- The items that are not among others. -/
def without (items others : List Meaning) : List Meaning :=
  items.filter fun item => !others.any (same item)

/-- The items that are among others. -/
def shared (items others : List Meaning) : List Meaning :=
  items.filter fun item => others.any (same item)

/-- The combination of two sets by a sign. -/
def combineSets? (sign : String) (left right : List Meaning) : Option (List Meaning) :=
  match sign with
  | "|" => some (setUnion left right)
  | "&" => some (setItems (if left.length < right.length then shared left right else shared right left))
  | "-" => some (setItems (without left right))
  | "^" => some (setItems (without right left ++ without left right))
  | _ => none

/-- A comparison of two sets: one holds the other. -/
def compareSets? (sign : String) (left right : List Meaning) : Option Bool :=
  match sign with
  | "<" => some (covers right left && left.length < right.length)
  | "<=" => some (covers right left)
  | ">" => some (covers left right && right.length < left.length)
  | ">=" => some (covers left right)
  | _ => none

/-- Whether a sign compares. -/
def isComparison (sign : String) : Bool :=
  ["<", "<=", ">", ">="].contains sign

/-- A row repeated as often as a whole number says; `none` when this is no row. -/
def times? (row : Meaning) (count : Int) : Option (Except Failure Meaning) :=
  match row with
  | .constant (.text text) =>
    some do return .constant (.text (String.ofList (← Arithmetic.repeated text.toList count)))
  | .constant (.bytes bytes) => some do return .constant (.bytes (← Arithmetic.repeated bytes count))
  | .bytearray bytes => some do return .bytearray (← Arithmetic.repeated bytes count)
  | .tuple items => some do return .tuple (← Arithmetic.repeated items count)
  | .list items => some do return .list (← Arithmetic.repeated items count)
  | _ => none

/-- The key that a conversion names, and what follows its parentheses. -/
def conversionKey (depth : Nat) (key : List Char) : List Char → Option (List Char × List Char)
  | [] => none
  | ')' :: rest =>
    if depth = 0 then some (key.reverse, rest) else conversionKey (depth - 1) (')' :: key) rest
  | '(' :: rest => conversionKey (depth + 1) ('(' :: key) rest
  | c :: rest => conversionKey depth (c :: key) rest

/-- A text to be filled from a map, as one to be filled from a row, and the keys of what goes into
it. The fuel is the length of the text. -/
def keysOut : Nat → List Char → Except Failure (List Char × List (List Char))
  | 0, text => .ok (text, [])
  | _, [] => .ok ([], [])
  | fuel + 1, '%' :: '(' :: rest =>
    match conversionKey 0 [] rest with
    | none => .error (.valueBreach "incomplete format key")
    | some (key, rest) => do
      let (text, keys) ← keysOut fuel rest
      return ('%' :: text, key :: keys)
  | fuel + 1, '%' :: c :: rest => do
    let (text, keys) ← keysOut fuel rest
    return ('%' :: c :: text, keys)
  | fuel + 1, c :: rest => do
    let (text, keys) ← keysOut fuel rest
    return (c :: text, keys)

/-- Whether a text that is filled may leave something unused: whatever chooses its items by an
index. -/
def maySpare (item : Meaning) : Bool :=
  match item.bare with
  | .bytearray _ | .memoryview _ => true
  | .wrapped "mappingproxy" _ => true
  | .map _ | .list _ | .range .. => true
  | .generic .. | .union _ | .choice _ | .former _ => true
  | .constant value =>
    match value.core with
    | .bytes _ | .list _ | .map _ => true
    | _ => false
  | _ => false

/-- What a text is filled with: things and instances as such, unless their items are what goes into the
text. -/
def filling (item : Meaning) : Meaning :=
  match item.bare, item.content with
  | _, .tuple items => .tuple items
  | _, .map entries => .map entries
  | .thing typeName look attributes, _ => .thing typeName look attributes
  | .instanceOf ofClass attributes traits inner, _ => .instanceOf ofClass attributes traits inner
  | _, content => content

/-- A text filled with one thing. -/
def fillWith (text : String) (filling : Meaning) : Except Failure String :=
  match Template.fill text [filling.toValue], Template.fill text [] with
  | .error failure, .ok filled => if filling.maySpare then .ok filled else .error failure
  | result, _ => result

/-- A text filled by the sign for that. -/
def fillText (text : String) (filling : Meaning) : Except Failure Meaning := do
  match filling with
  | .tuple items => return .constant (.text (← Template.fill text (toValues items)))
  | .map entries =>
    let (plain, keys) ← keysOut text.length text.toList
    if keys.isEmpty then return .constant (.text (← fillWith text filling))
    else
      let values ← keys.mapM fun key =>
        match lookup? (.constant (.text (String.ofList key))) entries with
        | some value => Except.ok value.toValue
        | none => .error (.breach .missingKey (String.ofList key))
      return .constant (.text (← Template.fill (String.ofList plain) values))
  | other => return .constant (.text (← fillWith text other))

/-- What fills bytes by a conversion, with the letter of the conversion that fills a text in the same way:
bytes by one to texts, the look of anything by one that writes in ASCII, and numbers as they are. -/
def byteArgument (letter : Char) (item : Meaning) : Except Failure (Char × Value) :=
  match letter, item.bytes?, item.integer? with
  | 's', some bytes, _ | 'b', some bytes, _ => .ok ('s', .text (Conversion.characters bytes))
  | 's', none, _ | 'b', none, _ => misuse "%b requires a bytes-like object"
  | 'a', _, _ | 'r', _, _ => .ok ('a', item.toValue)
  | 'c', some [byte], _ => .ok ('c', .int byte.toNat)
  | 'c', _, some i =>
    if 0 ≤ i && i < 0x100 then .ok ('c', .int i)
    else .error (.breach .overflow "%c arg not in range(256)")
  | 'c', _, none => misuse "%c requires an integer in range(256) or a single byte"
  | letter, _, _ => .ok (letter, item.toValue)

/-- Fill pieces of a template of bytes with arguments; the arguments left over are given back. -/
def fillBytePieces : List Template.Piece → List Meaning → Except Failure (List Char × List Meaning)
  | [], given => .ok ([], given)
  | .literal c :: rest, given => do
    let (filled, left) ← fillBytePieces rest given
    return (c :: filled, left)
  | .named :: _, _ => misuse "format requires a mapping"
  | .conversion conversion :: rest, given => do
    let amounts := ([conversion.width, conversion.precision].filter (· = .fromArgument)).length
    match conversion.letter, given.drop amounts with
    | some (letter, index), item :: behind => do
      let amounts := toValues (given.take amounts)
      let _ ← Template.applyConversion { conversion with letter := some ('s', index) }
        (amounts ++ [.text ""])
      let (letter, value) ← byteArgument letter item
      let (front, _) ← Template.applyConversion { conversion with letter := some (letter, index) }
        (amounts ++ [value])
      let (filled, left) ← fillBytePieces rest behind
      return (front ++ filled, left)
    | _, _ => do
      let (front, _) ← Template.applyConversion conversion (toValues given)
      return (front, [])

/-- Bytes filled by the sign for that. -/
def fillBytes (bytes : List UInt8) (whole : Meaning) : Except Failure (List UInt8) := do
  let spelled := Conversion.characters bytes
  let (pieces, given) ←
    match whole with
    | .tuple items => pure (Template.pieces spelled, items)
    | .map entries => do
      let (plain, keys) ← keysOut spelled.length spelled.toList
      if keys.isEmpty then pure (Template.pieces spelled, [whole])
      else
        let values ← keys.mapM fun key =>
          match lookup? (.constant (.bytes (key.map fun c => UInt8.ofNat c.toNat))) entries with
          | some value => Except.ok value
          | none => .error (.breach .missingKey (String.ofList key))
        pure (Template.pieces (String.ofList plain), values)
    | item => pure (Template.pieces spelled, [item])
  let (filled, left) ← fillBytePieces pieces given
  let isSpared := whole.maySpare && (whole.bytes?.isNone || whole.core matches .memoryview _)
  if !left.isEmpty && !isSpared then
    misuse "not all arguments converted during bytes formatting"
  return filled.map fun c => UInt8.ofNat c.toNat

/-- Whether something is the keys or the entries of a map. -/
def isMapPart (item : Meaning) : Bool :=
  match item with
  | .view kind _ _ => kind ≠ "dict_values"
  | _ => false

/-- The combination of the keys or entries of a map with what something holds, by a sign for sets;
`none` for other signs. What both share is taken from the other one, unless that is a larger set. -/
def combinePart? (sign : String) (left right : Meaning) : Option (Except Failure Meaning) :=
  let whole (items : List Meaning) : Except Failure Meaning := .ok (.set false items)
  match sign with
  | "|" => some do whole (setUnion (setItems (← hashableItems left)) (← hashableItems right))
  | "-" => some do whole (setItems (without (← hashableItems left) (← hashableItems right)))
  | "^" => some do
    let as ← hashableItems left
    let bs ← hashableItems right
    whole (setItems (without as bs ++ without bs as))
  | "&" => some do
    let (part, other) := if left.isMapPart then (left, right) else (right, left)
    let items ← part.heldItems
    let others ← hashableItems other
    let isSmaller :=
      match other with
      | .set false _ => decide (items.length ≤ others.length)
      | other => other.isMapPart && decide (items.length < others.length)
    whole (setItems (if isSmaller then shared items others else shared others items))
  | _ => none
where
  /-- The items of something, all of which may be keys. -/
  hashableItems (item : Meaning) : Except Failure (List Meaning) := do
    let items ← item.heldItems
    if areHashable items then return items else misuse "unhashable type"

/-- What a sign says about two values of which it is known whether one is below the other. -/
def ordered (sign : String) (below above : Bool) : Except Failure Bool :=
  match sign with
  | "<" => .ok below
  | "<=" => .ok !above
  | ">" => .ok above
  | ">=" => .ok !below
  | sign => unsupported sign

mutual

/-- A comparison of two values by order. -/
def compare (sign : String) (left right : Meaning) : Except Failure Bool :=
  match left, right.core with
  | .held _ left, right => compare sign left right
  | .instanceOf _ _ _ (some left), right => compare sign left right
  | .memoryview whole, .bytearray b =>
    match whole.bytes? with
    | some a => ordered sign (decide (a < b)) (decide (b < a))
    | none => unsupported sign
  | .memoryview _, _ => unsupported sign
  | .bytearray a, right =>
    match right.bytes? with
    | some b => ordered sign (decide (a < b)) (decide (b < a))
    | none => unsupported sign
  | .constant a, .bytearray b =>
    match a.core with
    | .bytes a => ordered sign (decide (a < b)) (decide (b < a))
    | _ => unsupported sign
  | .constant a, .constant b =>
    match a.core, b.core with
    | .text a, .text b => ordered sign (decide (a < b)) (decide (b < a))
    | .bytes a, .bytes b => ordered sign (decide (a < b)) (decide (b < a))
    | a, b =>
      match Arithmetic.onNumbers sign a b with
      | some (.ok (.bool holds)) => .ok holds
      | _ => unsupported sign
  | .tuple as, .tuple bs => compareRows sign as bs
  | .list as, .list bs => compareRows sign as bs
  | .slice a b c, .slice d e f =>
    if !same a d then compare sign a d
    else if !same b e then compare sign b e
    else if !same c f then compare sign c f
    else .ok (sign = "<=" || sign = ">=")
  | left, right =>
    match left.setItems?, right.setItems? with
    | some as, some bs => .ok ((compareSets? sign as bs).getD false)
    | _, _ => unsupported sign
termination_by structural left

/-- A comparison of two rows: the first items that differ decide. -/
def compareRows (sign : String) : List Meaning → List Meaning → Except Failure Bool
  | [], [] => .ok (sign = "<=" || sign = ">=")
  | [], _ :: _ => .ok (sign = "<" || sign = "<=")
  | _ :: _, [] => .ok (sign = ">" || sign = ">=")
  | a :: as, b :: bs => if same a b then compareRows sign as bs else compare sign a b
termination_by structural items => items

end

/-- An operation on two values of the language. -/
def calculate (sign : String) (left right : Meaning) : Except Failure Meaning := do
  if isComparison sign then return bool (← compare sign left right)
  match sign, left, right with
  | "%", .constant (.text text), filling => fillText text filling
  | "%", .constant (.bytes bytes), filling => return .constant (.bytes (← fillBytes bytes filling))
  | "%", .bytearray bytes, filling => return .bytearray (← fillBytes bytes filling)
  | "+", .constant (.text a), .constant (.text b) => return text (a ++ b)
  | "+", .constant (.bytes a), right =>
    match right.bytes? with
    | some b => return .constant (.bytes (a ++ b))
    | none => unsupported sign
  | "+", .bytearray a, right =>
    match right.bytes? with
    | some b => return .bytearray (a ++ b)
    | none => unsupported sign
  | "+", .tuple as, .tuple bs => return .tuple (as ++ bs)
  | "+", .list as, .list bs => return .list (as ++ bs)
  | "|", .map as, .map bs => return .map (keyedOnce (as ++ bs))
  | sign, left, right =>
    let sets :=
      match left, right with
      | .set isFrozen as, .set _ bs =>
        (combineSets? sign as bs).map fun items => .ok (.set isFrozen items)
      | left, right =>
        if left.isMapPart || right.isMapPart then combinePart? sign left right else none
    match sets with
    | some result => result
    | none =>
      let rows :=
        if sign = "*" then
          match left.integer?, right.integer? with
          | _, some count => times? left count
          | some count, _ => times? right count
          | none, none => none
        else none
      match rows with
      | some row => row
      | none =>
        match left, right with
        | .constant a, .constant b =>
          match if sign = "**" then Complex.realPower? a b else none, Arithmetic.onNumbers sign a b with
          | some item, _ => return item
          | none, some result => return .constant (← result)
          | none, none => other sign left right
        | _, _ => other sign left right
where
  /-- An operation on what is neither a row nor made of plain numbers. -/
  other (sign : String) (left right : Meaning) : Except Failure Meaning :=
    match left, right, Complex.operate? sign left right with
    | .complex .., _, some result => result
    | _, .complex .., some result => result
    | _, _, _ => if sign = "|" then join left right else unsupported sign

/-- An operation on two operands. -/
def operate (sign : String) (left right : Meaning) : Except Failure Meaning :=
  let isFilled := sign = "%" && left.text?.isSome
  calculate sign left.content (if isFilled then right.filling else right.content)

/-- Whether two meanings are one thing: equal, of one type, and nothing that is made anew each
time. -/
def isOne (left right : Meaning) : Bool :=
  match left, right with
  | .held a _, .held b _ => a = b
  | .held .., _ => false
  | _, .held .. => false
  | left, right => same left right && left.typeOf = right.typeOf && !isMadeAnew left
where
  /-- Whether something is made anew each time it is written. -/
  isMadeAnew : Meaning → Bool
    | .list _ => true
    | .set .. => true
    | .map _ => true
    | .range .. => true
    | .slice .. => true
    | .generic .. => true
    | .union _ => true
    | .method .. => true
    | .bound .. => true
    | .declared _ (some _) => true
    | .memoryview _ => true
    | .view .. => true
    | _ => false

/-- Whether two operands are equal: what is no number is not equal to itself. -/
def equal (left right : Meaning) : Bool :=
  match left.core, right.core with
  | .constant (.float x), .constant (.float y) => x.same y
  | _, _ => same left right

/-- Whether something is in something that holds items. -/
def contains (whole item : Meaning) : Except Failure Bool :=
  match whole.content, item.core with
  | .constant (.text whole), .constant (.text part) =>
    .ok (Characters.occursIn part.toList whole.toList)
  | .constant (.text _), _ => misuse "'in <string>' requires string as left operand"
  | .constant (.bytes whole), item => amongBytes whole item
  | .bytearray whole, item => amongBytes whole item
  | .map entries, _ =>
    if item.hashable then .ok (lookup? item entries).isSome else misuse "unhashable type"
  | .set _ items, _ =>
    match item.bare with
    | .set false _ => .ok (items.any (same item))
    | _ => if item.hashable then .ok (items.any (same item)) else misuse "unhashable type"
  | .view "dict_keys" _ items, _ =>
    if item.hashable then .ok (items.any (same item)) else misuse "unhashable type"
  | .view "dict_items" _ items, item =>
    match item with
    | .tuple [key, _] =>
      if key.hashable then .ok (items.any (same item)) else misuse "unhashable type"
    | _ => .ok false
  | .range start stop step, _ =>
    match item.integer? with
    | some i =>
      let offset := (i - start).fdiv step
      .ok (start + offset * step = i && 0 ≤ offset && offset < rangeLength start stop step)
    | none => do return (← heldItems (.range start stop step)).any (same item)
  | whole, _ => do return (← heldItems whole).any (same item)
where
  /-- Whether a byte, or a row of them, is in bytes. -/
  amongBytes (whole : List UInt8) (item : Meaning) : Except Failure Bool :=
    match item.bytes?, item.integer? with
    | some part, _ =>
      .ok ((List.range (whole.length + 1)).any fun i => part.isPrefixOf (whole.drop i))
    | none, some i =>
      if 0 ≤ i && i < 256 then .ok (whole.any fun b => (b.toNat : Int) = i)
      else .error (.valueBreach "byte must be in range(0, 256)")
    | none, none => misuse "a bytes-like object is required"

/-- An operation on one operand. -/
def operateOne (sign : String) (operand : Meaning) : Except Failure Meaning :=
  match sign, operand.core with
  | "not", _ => .ok (bool !operand.truthy)
  | "-", .complex re im => .ok (.complex re.opposite im.opposite)
  | "+", .complex re im => .ok (.complex re im)
  | "-", .constant (.float x) => .ok (.constant (.float x.opposite))
  | "+", .constant (.float x) => .ok (.constant (.float x))
  | sign, operand =>
    match operand.integer? with
    | some i =>
      match sign with
      | "-" => .ok (int (-i))
      | "+" => .ok (int i)
      | "~" => .ok (int (-i - 1))
      | sign => unsupported sign
    | none => unsupported sign

end PageContracts.Language.Meaning
