import PageContracts.Language.Flaws
import PageContracts.Language.NumberMethods
import PageContracts.Language.RowMethods
import PageContracts.Language.SetOrder
import PageContracts.Language.TextLayout

/-! # Functions of the language

The functions that are there for every expression, as far as they call no others, and what the types
of the language make when they are called.
-/
namespace PageContracts.Language.Functions

open Meaning

/-- Whether a type descends from another. -/
def descends (table : ClassTable) (type ancestor : TypeRef) : Bool :=
  (Access.lineage table type).contains ancestor

/-- Whether a type descends from one of those that something stands for. The fuel bounds how deep
rows of types stand inside one another. -/
def isAmong (table : ClassTable) (type : TypeRef) : Nat → Meaning → Except Failure Bool
  | 0, _ => .error (.breach .tooDeep "maximum recursion depth exceeded")
  | _, .type (.optional of) => .ok (descends table type of || type = .nothing)
  | _, .type ancestor => .ok (descends table type ancestor)
  | fuel + 1, .tuple items => anyAmong fuel items
  | fuel + 1, .union members => anyAmong fuel members
  | fuel + 1, .choice members => anyAmong fuel members
  | _, _ => misuse "arg 2 must be a type, a tuple of types, or a union"
where
  /-- Whether a type descends from one of several. -/
  anyAmong (fuel : Nat) : List Meaning → Except Failure Bool
    | [] => .ok false
    | first :: rest => do
      if ← isAmong table type fuel first then return true
      anyAmong fuel rest

/-- How deep rows of types stand inside one another at most. -/
def rowDepth : Nat := 200

/-- Whether something is of a type. -/
def isOf (memory : Memory) (item wanted : Meaning) : Except Failure Bool :=
  match wanted with
  | .type .anything => misuse "typing.Any cannot be used with isinstance()"
  | wanted => isAmong memory.table (Access.typeOf memory item) rowDepth wanted

/-- Whether something can be called. -/
def isCallable (memory : Memory) (item : Meaning) : Bool :=
  match item.bare with
  | .type _ => true
  | .choice _ => true
  | .former _ => true
  | .generic .. => true
  | .function _ => true
  | .member _ _ kind => !kind.isData
  | .method .. => true
  | .declared .. => true
  | .closure .. => true
  | .bound .. => true
  | .wrapped kind _ => kind = "staticmethod"
  | .instanceOf ofClass _ _ _ => (Access.member? memory (.defined ofClass) "__call__").isSome
  | _ => false

/-- A row with an item put in front of the first one it comes before. -/
def insertBy (item : Meaning × Meaning) :
    List (Meaning × Meaning) → Except Failure (List (Meaning × Meaning))
  | [] => .ok [item]
  | first :: rest => do
    if ← compare "<" item.1.core first.1.core then return item :: first :: rest
    return first :: (← insertBy item rest)

/-- Items in the order of their keys; items with equal keys stay in their order. -/
def sortBy (isReversed : Bool) (keyed : List (Meaning × Meaning)) : Except Failure (List Meaning) := do
  let row := if isReversed then keyed.reverse else keyed
  let ordered ← row.foldlM (fun done item => insertBy item done) []
  return (if isReversed then ordered.reverse else ordered).map Prod.snd

/-- The first item with the greatest or the least key. -/
def extreme (sign : String) : List (Meaning × Meaning) → Except Failure (Option Meaning)
  | [] => .ok none
  | first :: rest => do
    let best ← rest.foldlM (fun best item => do
      return if ← compare sign item.1.core best.1.core then item else best) first
    return some best.2

/-- The sum of some items. -/
def total (items : List Meaning) (start : Meaning) : Except Failure Meaning :=
  match start.core with
  | .constant (.text _) => misuse "sum() can't sum strings"
  | .constant (.bytes _) => misuse "sum() can't sum bytes"
  | _ => items.foldlM (operate "+") start

/-- The size of a number. -/
def magnitude (item : Meaning) : Except Failure Meaning :=
  match item.core with
  | .constant (.float x) => .ok (.constant (.float x.size))
  | .complex re im =>
    match re.hypotenuse im, re, im with
    | .infinity _, .finite .., .finite .. =>
      .error (.breach .overflow "absolute value too large")
    | length, _, _ => .ok (.constant (.float length))
  | item =>
    match item.integer? with
    | some i => .ok (int i.natAbs)
    | none => misuse "bad operand type for abs()"

/-- A whole number in a base, with the mark of the base. -/
def inBase (base : Nat) (mark : String) (item : Meaning) : Except Failure Meaning := do
  let i ← Arguments.integer item
  let sign := if i < 0 then "-" else ""
  return text (sign ++ mark ++ String.ofList (Nat.toDigits base i.natAbs))

/-- A whole number to a power, reduced by a third one after every step; the fuel is the number of
binary digits of the exponent. -/
def powerModulo (modulus : Nat) : Nat → Nat → Nat → Nat
  | 0, _, _ => 1 % modulus
  | fuel + 1, base, exponent =>
    let half := powerModulo modulus fuel (base * base % modulus) (exponent / 2)
    if exponent % 2 = 1 then base * half % modulus else half

/-- The number whose product with another is one when it is reduced by a modulus: the steps of the
division of one by the other, for as long as the fuel allows. -/
def inverse? (modulus : Int) : Nat → Int → Int → Int → Int → Option Int
  | 0, _, _, _, _ => none
  | fuel + 1, a, b, x, y =>
    if b = 0 then if a = 1 then some (x.emod modulus) else none
    else inverse? modulus fuel b (a % b) y (x - a / b * y)

/-- A power, reduced by a third number if there is one. With a negative exponent it is one of what
the base is the inverse of. -/
def power (base exponent : Meaning) (modulus : Option Meaning) : Except Failure Meaning :=
  match modulus with
  | none => operate "**" base exponent
  | some (.constant .none) => operate "**" base exponent
  | some modulus => do
    if base matches .complex .. || exponent matches .complex .. then
      let _ ← operate "+" base exponent
      throw (.valueBreach "complex modulo")
    let b ← Arguments.integer base
    let e ← Arguments.integer exponent
    let m ← Arguments.integer modulus
    if m = 0 then throw (.valueBreach "pow() 3rd argument cannot be 0")
    let residue := b.emod m.natAbs
    let root :=
      if e < 0 then inverse? m.natAbs (2 * m.natAbs.log2 + 4) m.natAbs residue 0 1
      else some residue
    match root with
    | none => throw (.valueBreach "base is not invertible for the given modulus")
    | some root =>
      let n : Int := powerModulo m.natAbs (e.natAbs.log2 + 1) root.toNat e.natAbs
      return int (n.fmod m)

/-- A number for a text, which is another one for most other texts. -/
def textNumber (s : String) : Int :=
  let number : Nat :=
    s.toList.foldl (fun n c => (n * 1000003 + c.toNat) % (Nat.pow 2 61 - 1)) s.length
  number

mutual

/-- The number by which something is found among the keys of a map: what has no number of its own has one
for its items, for its look, or for its place in the memory. -/
def keyNumber : Meaning → Int
  | .held number (.instanceOf _ _ { compares := false, .. } none) => (number : Int) + 1
  | .instanceOf _ _ { compares := false, .. } (some inner) => keyNumber inner
  | .held _ content => keyNumber content
  | .tuple items =>
    ((SetOrder.key? (.tuple items)).getD ((keyNumbers items).foldl (fun n i => n * 1000003 + i) 7))
  | .set isFrozen items =>
    ((SetOrder.key? (.set isFrozen items)).getD ((keyNumbers items).foldl (· + ·) 11))
  | .union members => (keyNumbers members).foldl (· + ·) 13
  | .choice members => (keyNumbers members).foldl (· + ·) 13
  | .range start stop step =>
    let n := rangeLength start stop step
    let parts := [int n, if n = 0 then nothing else int start, if n ≤ 1 then nothing else int step]
    (SetOrder.key? (.tuple parts)).getD (textNumber (Meaning.tuple parts).shown)
  | item => (SetOrder.key? item).getD (textNumber item.core.shown)

/-- The numbers by which several things are found. -/
def keyNumbers : List Meaning → List Int
  | [] => []
  | first :: rest => keyNumber first :: keyNumbers rest

end

/-- The number by which something is found among the keys of a map, if it may be one. -/
def hash (item : Meaning) : Except Failure Meaning := do
  if !item.hashable then misuse "unhashable type"
  let key := keyNumber item
  return int (if key = -1 then -2 else key)

/-- What a function gives that calls no others. -/
def call (memory : Memory) (name : String) (given : Arguments) : Except Failure Meaning := do
  let table := memory.table
  if name = "round" then
    let given ← given.byName ["number", "ndigits"]
    match given.lookup "number" with
    | some number => return ← NumberMethod.rounded number (given.lookup "ndigits")
    | none => Arguments.refused
  if name = "pow" then
    let given ← given.byName ["base", "exp", "mod"]
    match given.lookup "base", given.lookup "exp" with
    | some base, some exponent => return ← power base exponent (given.lookup "mod")
    | _, _ => Arguments.refused
  if name = "sum" then
    given.onlyNamed ["start"]
    match given.positions ++ given.named.map Prod.snd with
    | [items] => return ← total (← items.core.heldItems) (int 0)
    | [items, start] => return ← total (← items.core.heldItems) start
    | _ => Arguments.refused
  match name, ← given.unnamed with
  | "abs", [item] => magnitude item
  | "all", [items] => return bool ((← items.core.heldItems).all truthy)
  | "any", [items] => return bool ((← items.core.heldItems).any truthy)
  | "ascii", [item] => return text (Quoted.asciiOnly (← item.quoted))
  | "repr", [item] => return text (← item.quoted)
  | "bin", [item] => inBase 2 "0b" item
  | "oct", [item] => inBase 8 "0o" item
  | "hex", [item] => inBase 16 "0x" item
  | "callable", [item] => return bool (isCallable memory item)
  | "chr", [item] =>
    let i ← Arguments.integer item
    if Nat.pow 2 31 ≤ i.natAbs then throw (.breach .overflow "int too large to convert")
    if i < 0 || 0x110000 ≤ i then throw (.valueBreach "chr() arg not in range(0x110000)")
    return text (String.ofList [Char.ofNat i.toNat])
  | "ord", [item] =>
    match item.core with
    | .constant (.text s) =>
      match s.toList with
      | [c] => return int c.toNat
      | _ => misuse "ord() expected a character"
    | item =>
      match item.bytes? with
      | some [byte] => return int byte.toNat
      | _ => misuse "ord() expected string of length 1"
  | "divmod", [a, b] => return .tuple [← operate "//" a b, ← operate "%" a b]
  | "format", [item] => return text (← item.spoken)
  | "format", [item, layout] =>
    return text (← TextLayout.write item (← Arguments.textual layout))
  | "len", [item] =>
    match Things.constantsOf? item with
    | some members => return int members.length
    | none => return int (← item.size)
  | "isinstance", [item, wanted] => return bool (← isOf memory item wanted)
  | "issubclass", [.type ref, wanted] => return bool (← isAmong table ref rowDepth wanted)
  | "issubclass", [.generic origin _, wanted] => do
    let found ← (Access.bases table origin).mapM fun type => isAmong table type rowDepth wanted
    return bool (found.contains true)
  | "issubclass", [_, .tuple []] => return bool false
  | "issubclass", _ => misuse "issubclass() arg 1 must be a class"
  | "hash", [item] => hash item
  | "id", [.held number _] => return int (number + 1)
  | "id", [_] => return int 0
  | _, _ => Arguments.refused

/-- A range. -/
def rangeOf : List Meaning → Except Failure Meaning
  | [stop] => do return .range 0 (← Arguments.integer stop) 1
  | [start, stop] => do return .range (← Arguments.integer start) (← Arguments.integer stop) 1
  | [start, stop, step] => do
    let step ← Arguments.integer step
    if step = 0 then throw (.valueBreach "range() arg 3 must not be zero")
    return .range (← Arguments.integer start) (← Arguments.integer stop) step
  | _ => Arguments.refused

/-- A number that a number of two parts is made of: its parts, if it has two. -/
def complexPart (name : String) (item : Option Meaning) :
    Except Failure (Binary64 × Option Binary64) :=
  match item with
  | none => .ok (Binary64.zero false, none)
  | some item =>
    match item.core, Complex.parts? item, item.text?, name with
    | .complex re im, _, _, _ => .ok (re, some im)
    | _, some parts, _, _ => parts.map fun (re, _) => (re, none)
    | _, none, some spelled, "real" =>
      match Complex.ofText? spelled with
      | some (re, im) => .ok (re, some im)
      | none => .error (.valueBreach "complex() arg is a malformed string")
    | _, none, _, _ => misuse "complex() argument must be a string or a number"

/-- A number of two parts. -/
def complexOf (given : Arguments) : Except Failure Meaning := do
  let given ← given.byName ["real", "imag"]
  let isSpelled := ((given.lookup "real").map fun item => item.text?.isSome).getD false
  if isSpelled && (given.lookup "imag").isSome then
    misuse "complex() can't take second arg if first is a string"
  let (a, b) ← complexPart "real" (given.lookup "real")
  if isSpelled then return .complex a (b.getD (Binary64.zero false))
  let (c, d) ← complexPart "imag" (given.lookup "imag")
  let re := (d.map (Complex.minus a)).getD a
  let im := (b.map (·.add c)).getD c
  return .complex re im

/-- A row that is no list, as a list of its items; bytes that may change as bytes; anything else as it
is. -/
def listed (item : Meaning) : Except Failure Meaning :=
  match item.core with
  | .set .. => item.heldItems.map .list
  | .view .. => item.heldItems.map .list
  | .range .. => item.heldItems.map .list
  | .bytearray bytes => .ok (.constant (.bytes bytes))
  | .memoryview _ => .ok ((item.bytes?.map fun bytes => .constant (.bytes bytes)).getD item)
  | _ => .ok item

/-- A function with something around it that says how it is called. -/
def wrappedOf (kind : String) (given : Arguments) : Except Failure Meaning := do
  if kind = "property" then
    let parts := ["fget", "fset", "fdel", "doc"]
    let given ← given.byName parts
    return .wrapped kind (parts.map fun part => (given.lookup part).getD nothing)
  else
    match ← given.unnamed with
    | [f] => return .wrapped kind [f]
    | _ => Arguments.refused

/-- What a type of the language makes of some arguments. -/
def make (name : String) (given : Arguments) : Except Failure Meaning := do
  if name = "complex" then return ← complexOf given
  if name = "dict" then return ← RowMethod.updated [] given
  if isFailureType name then return ← Flaws.made name given
  if name = Things.locatorType then
    let given ← given.byName (Things.locatorFields.map Field.name)
    match given.lookup "kind", given.lookup "template" with
    | some kind, some template =>
      return Things.locatorOf kind template ((given.lookup "attribute").getD nothing)
    | _, _ => Arguments.refused
  if ["property", "staticmethod", "classmethod"].contains name then return ← wrappedOf name given
  match name, given.positions, given.named with
  | "str", [item], [] => return text (← item.spoken)
  | "bool", [item], [] => return bool item.truthy
  | _, _, _ => pure ()
  if ["int", "float", "str", "bytes", "bool"].contains name then
    let named := given.named.map fun (label, item) => (label, item.toValue)
    let positions ← given.positions.mapM listed
    return ofValue (← ClassTable.makeBuiltin name (toValues positions) named)
  match name, ← given.unnamed with
  | "list", [] => return .list []
  | "list", [items] => return .list (← items.core.heldItems)
  | "tuple", [] => return .tuple []
  | "tuple", [items] => return .tuple (← items.core.heldItems)
  | "set", [] => return .set false []
  | "set", [items] => setOf false (← items.core.heldItems)
  | "frozenset", [] => return .set true []
  | "frozenset", [items] => setOf true (← items.core.heldItems)
  | "range", given => rangeOf given
  | "slice", [stop] => return .slice nothing stop nothing
  | "slice", [start, stop] => return .slice start stop nothing
  | "slice", [start, stop, step] => return .slice start stop step
  | "object", [] => return .thing name "<object object>" []
  | "type", [item] => return .type item.typeOf
  | "NoneType", [] => return nothing
  | "ellipsis", [] => return .constant (.other "ellipsis" "Ellipsis")
  | "NotImplementedType", [] => return .constant (.other name "NotImplemented")
  | "bytearray", given => do
    return .bytearray (← Conversion.bytesOf (toValues (← given.mapM listed)) [])
  | "memoryview", [whole] =>
    if whole.bytes?.isSome then return .memoryview whole
    else misuse "memoryview: a bytes-like object is required"
  | "mappingproxy", [whole] =>
    if whole.core matches .map _ then return .wrapped name [whole]
    else misuse "mappingproxy() argument must be a mapping"
  | "LocatorKind", [value] => Things.kindOfValue value
  | "super", [] => throw (.breach .outOfTurn "super(): no arguments")
  | _, _ =>
    misuse "cannot create instances"

end PageContracts.Language.Functions
