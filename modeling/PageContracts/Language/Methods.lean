import PageContracts.Language.Instances
import PageContracts.Language.Presenting
import PageContracts.Language.Rows
import PageContracts.Language.Special
import PageContracts.Language.TextMethods

/-! # Methods

What the methods of values, types, rows and functions give. The methods behind the signs do what the
signs do, and know when a sign has no meaning for them.
-/
namespace PageContracts.Language

namespace Methods

open Meaning

variable (machine : Machine)

/-- What a special function of a value gives. -/
def special (item : Meaning) (name : String) (given : List Meaning) : Eval Meaning := do
  match name, given with
  | "__getitem__", [index] => Subscript.of machine item index
  | "__contains__", [other] => return bool (← contains item other)
  | "__format__", [layout] =>
    return text (← TextLayout.write item (← Arguments.textual layout))
  | "__pow__", [exponent, modulus] => return ← Special.power item item exponent modulus
  | "__rpow__", [base, modulus] => return ← Special.power item base item modulus
  | "__getattribute__", [label] => Access.plainGet machine item (← Arguments.textual label)
  | "__setattr__", [label, value] =>
    Classes.setAttribute machine item (← Arguments.textual label) value true
    return nothing
  | "__delattr__", [label] =>
    Classes.removeAttribute machine item (← Arguments.textual label) true
    return nothing
  | "__dir__", [] => return .list ((Access.allNames (← get) item).eraseDups.map text)
  | "__round__", [decimals] =>
    if item.integer?.isSome then
      let _ ← Arguments.integer decimals
    return ← NumberMethod.rounded item (some decimals)
  | name, [] => return ← Special.alone item name
  | name, [other] => return ← (Special.binary? item name other).getD Arguments.refused
  | _, _ => Arguments.refused

/-- What a method of a type gives. -/
def onType (type : TypeRef) (name : String) (given : Arguments) : Eval Meaning := do
  let table := (← get).table
  match name, given.positions with
  | "mro", [] => return .list ((Access.lineage table type).map .type)
  | "__subclasses__", [] =>
    return .list ((table.classes.filter fun info => info.bases.contains type).map fun info =>
      .type (.defined info.ref))
  | "fromkeys", items :: standard =>
    let value := standard.head?.getD nothing
    match type with
    | .defined _ =>
      let made ← Eval.fresh (← machine.call (.type type) [] [])
      (← machine.items items).forM fun key => do
        let f ← machine.access made "__setitem__"
        let _ ← machine.call f [key, value] []
      return made
    | _ => return ← mapOf ((← machine.items items).map fun key => (key, value))
  | "from_bytes", items :: rest =>
    let n ← NumberMethod.ofBytes { given with positions := (← machine.settled items) :: rest }
    return if type = .builtin "bool" then bool n.truthy else n
  | "fromhex", [spelled] =>
    let spelled := (← Arguments.textual spelled).toList
    if type = .builtin "float" then return .constant (.float (← NumberMethod.ofHexadecimal spelled))
    let bytes ← NumberMethod.ofHexadecimalPairs spelled
    return if type = .builtin "bytearray" then .bytearray bytes else .constant (.bytes bytes)
  | "__instancecheck__", [item] => return bool (← Functions.isOf (← get) item (.type type))
  | "__subclasscheck__", [.type other] => return bool (Functions.descends table other type)
  | "__class_getitem__", [index] => Subscript.of machine (.type type) index
  | "__init_subclass__", [] => return nothing
  | "__subclasshook__", [_] => return Special.notImplemented
  | "__or__", [other] => return ← operate "|" (.type type) other
  | "__ror__", [other] => return ← operate "|" other (.type type)
  | "__call__", positions => machine.call (.type type) positions given.named
  | name, positions => special machine (.type type) name positions

/-- The kind of failure that an instance of a type of failures, or the type itself, stands for. -/
def failureOf (item : Meaning) : Except Failure Failure :=
  let named (name : String) : Except Failure Failure :=
    if isFailureType name then
      .ok (.breach ((FailureKind.ofTypeName? name).getD (.raised name)) name)
    else misuse "exceptions must derive from BaseException"
  match item.bare with
  | .flaw name _ _ => named name
  | .type (.builtin name) => named name
  | _ => misuse "exceptions must derive from BaseException"

/-- What a method of a row gives that makes its items one by one. -/
def onRow (kind : String) (number : Nat) (name : String) (given : List Meaning) :
    Eval Meaning := do
  match name, given with
  | "__iter__", [] => return .iterator kind number
  | "__next__", [] | "send", [.constant .none] =>
    match ← machine.next number with
    | some item => return item
    | none => throw (.breach .noMore "")
  | "close", [] =>
    Eval.setSource number (.row [])
    return nothing
  | "throw", failure :: _ =>
    Eval.setSource number (.row [])
    throw (← failureOf failure)
  | name, given => special machine (.iterator kind number) name given

/-- A row with an item put in front of the first one it comes before, as the functions of their classes
say. -/
def insertBy (item : Meaning × Meaning) : List (Meaning × Meaning) → Eval (List (Meaning × Meaning))
  | [] => return [item]
  | first :: rest => do
    if ← machine.compares "<" item.1 first.1 then return item :: first :: rest
    return first :: (← insertBy item rest)

/-- Items in the order of their keys, which the functions of their classes may tell. -/
def sortBy (isReversed : Bool) (keyed : List (Meaning × Meaning)) : Eval (List Meaning) := do
  let memory ← get
  if keyed.any fun entry => Access.hasOwn memory Access.ordering Access.lookDepth entry.1 then
    let row := if isReversed then keyed.reverse else keyed
    let ordered ← row.foldlM (fun done item => insertBy machine item done) []
    return (if isReversed then ordered.reverse else ordered).map Prod.snd
  else return ← Functions.sortBy isReversed keyed

/-- What a function that sorts by a key gives, and what it is given by name. -/
def sorted (items : List Meaning) (named : List (String × Meaning)) : Eval (List Meaning) := do
  let given : Arguments := { positions := [], named }
  given.onlyNamed ["key", "reverse"]
  let isReversed := ((named.lookup "reverse").map truthy).getD false
  let keyed ←
    match named.lookup "key" with
    | none | some (.constant .none) => pure (items.map fun item => (item, item))
    | some key => items.mapM fun item => do return (← machine.call key [item] [], item)
  sortBy machine isReversed keyed

/-- Whether a method goes through what it is given. -/
def goesThrough (name : String) : Bool :=
  ["join", "extend", "__iadd__", "update", "union", "intersection", "difference",
    "symmetric_difference", "isdisjoint", "issubset", "issuperset", "intersection_update",
    "difference_update", "symmetric_difference_update"].contains name

/-- A part of bytes that may change, as such. -/
def changeable : Meaning → Meaning
  | .constant (.bytes bytes) => .bytearray bytes
  | .list items => .list (items.map one)
  | .tuple items => .tuple (items.map one)
  | item => item
where
  /-- Bytes as such that may change. -/
  one : Meaning → Meaning
    | .constant (.bytes bytes) => .bytearray bytes
    | item => item

/-- What something chooses by the numbers of characters; it may have nothing to choose for some. -/
def replacements (table : Meaning) : List Char → Eval (List (Meaning × Meaning))
  | [] => return []
  | c :: rest => fun memory =>
    let key := int c.toNat
    match Subscript.of machine table key memory with
    | .ok found memory =>
      match replacements table rest memory with
      | .ok more memory => .ok ((key, found.bare) :: more) memory
      | .error failure memory => .error failure memory
    | .error failure memory =>
      if failure.kind = .missingKey || failure.kind = .outOfBounds then replacements table rest memory
      else .error failure memory

/-- What a method of a text or of bytes gives. -/
def onText (item : Meaning) (isBytes : Bool) (characters : List Char) (name : String)
    (given : Arguments) : Eval Meaning := do
  let result ←
    match name, given.bare.positions with
    | "format", _ => TextLayout.format machine characters (.given given)
    | "format_map", [_] => do
      let whole ← (given.unnamed : Except Failure _)
      TextLayout.format machine characters (.entries (whole.head?.getD nothing))
    | "translate", [.map _] => do
      pure (← TextMethod.call item isBytes characters name given.bare)
    | "translate", [_] =>
      if isBytes then do pure (← TextMethod.call item isBytes characters name given.bare)
      else do
        let table ← replacements machine (given.positions.head?.getD nothing) characters.eraseDups
        pure (← TextMethod.call item isBytes characters name { positions := [.map table] })
    | "maketrans", positions =>
      if isBytes then pure (← TextMethod.byteTable positions)
      else pure (← TextMethod.table positions)
    | "join", [items] => do
      let items := Meaning.list (← machine.items items)
      pure (← TextMethod.call item isBytes characters name { given with positions := [items] })
    | name, _ => do pure (← TextMethod.call item isBytes characters name given.bare)
  return if item.core matches .bytearray _ then changeable result else result

/-- The special functions by which something changes. -/
def changes : List String :=
  ["__setitem__", "__delitem__", "__iadd__", "__imul__", "__ior__", "__iand__", "__isub__", "__ixor__"]

/-- The special functions that give what they are called on. -/
def givesItself : List String :=
  ["__iadd__", "__imul__", "__ior__", "__iand__", "__isub__", "__ixor__"]

/-- Whether a set has no answer to a function that changes it. -/
def declines (item : Meaning) (name : String) (given : List Meaning) : Bool :=
  match item.core, given with
  | .set .., [other] => givesItself.contains name && !(other.core matches .set ..)
  | _, _ => false

/-- The methods that look for an item in a row. -/
def seeks : List String := ["index", "count", "remove"]

/-- The places of a row at which an item stands, as the functions of their classes say. -/
def placesOf (items : List Meaning) (wanted : Meaning) : Eval (List Nat) :=
  items.zipIdx.filterMapM fun (item, i) => do
    return if isOne item wanted || (← machine.compares "==" item wanted) then some i else none

/-- What a method gives that looks for an item in a row, when classes have a say in what is equal. -/
def seeking? (item : Meaning) (name : String) (positions : List Meaning) :
    Eval (Option Meaning) := do
  let memory ← get
  let asks (item : Meaning) : Bool := Access.hasOwn memory Access.equating Access.lookDepth item
  match seeks.contains name, item.core, positions with
  | true, .list items, [wanted] | true, .tuple items, [wanted] =>
    if !(asks item || asks wanted) then return none
    let places ← placesOf machine items wanted
    match name, places with
    | "count", places => return some (int places.length)
    | _, [] => throw (.valueBreach "is not in list")
    | "index", place :: _ => return some (int place)
    | _, place :: _ =>
      Eval.rewrite item (.list (items.eraseIdx place))
      return some nothing
  | _, _, _ => return none

/-- The methods that take a place or a count. -/
def counts : List String :=
  ["insert", "pop", "__setitem__", "__delitem__", "center", "ljust", "rjust", "zfill", "expandtabs",
    "split", "rsplit", "replace", "to_bytes", "indices", "__mul__", "__rmul__", "__imul__"]

/-- What is given to a method, with the whole numbers that it stands for where a place or a count is
taken. -/
def countedGiven (item : Meaning) (name : String) (given : Arguments) : Eval Arguments := do
  if !counts.contains name || item.core matches .map _ then return given
  match given.positions with
  | first :: rest =>
    let first ← Access.asIndex machine first
    let rest ← if name = "insert" then pure rest else rest.mapM (Access.asIndex machine)
    return { given with positions := first :: rest }
  | [] => return given

/-- What a method of a row, set, map or number gives; what it changes is changed. -/
def onRows (item : Meaning) (name : String) (given : Arguments) : Eval Meaning := do
  if let some found ← seeking? machine item name given.positions then return found
  let positions ←
    if goesThrough name then given.positions.mapM machine.settled else pure given.positions
  if declines item name positions then return Special.notImplemented
  match item.core, ["keys", "values", "items"].contains name && positions.isEmpty with
  | .map entries, true =>
    let _ ← given.unnamed
    let kind := "dict_" ++ name
    return .view kind item (viewed kind entries)
  | _, _ => pure ()
  match RowMethod.call? item.core name { given with positions }, item.core.integer? with
  | some result, _ =>
    let change ← result
    Eval.rewrite item change.receiver
    if givesItself.contains name then return item
    return change.result
  | none, some i => return ← NumberMethod.onInteger i name given
  | none, none => special machine item name positions

/-- What a method of a value gives. -/
def onValue (item : Meaning) (name : String) (given : Arguments) : Eval Meaning := do
  let given ← countedGiven machine item name given
  if name = "__init__" then
    match item with
    | .held _ content =>
      if Instances.isFilledLater content.typeName then
        Instances.refill machine item given.positions given.named
    | _ => return nothing
    return nothing
  if Special.isSpecial name && !changes.contains name then
    match name, given.positions with
    | "__iter__", [] => return .iterator (Rows.kindFor item) (← machine.openRow item)
    | "__reversed__", [] => machine.call (.type (.builtin "reversed")) [item] []
    | name, positions => special machine item name positions
  else if name = "sort" then
    match item.core with
    | .list items =>
      if !given.positions.isEmpty then Arguments.refused (α := Unit)
      Eval.rewrite item (.list (← sorted machine items given.named))
      return nothing
    | _ => Arguments.refused
  else if item.core matches .bytearray _ && RowMethod.byteChanges.contains name then
    onRows machine item name given
  else
    match TextMethod.characters? item, item.core with
    | some (isBytes, characters), _ => onText machine item isBytes characters name given
    | none, .constant (.float x) => return ← NumberMethod.onDouble x name (← given.unnamed)
    | none, .complex re im =>
      match name, given.positions with
      | "conjugate", [] => return .complex re im.opposite
      | _, _ => Arguments.refused
    | none, .slice start stop step =>
      match name, given.positions with
      | "indices", [length] => do
        let length ← Arguments.integer length
        if length < 0 then throw (.valueBreach "length should not be negative")
        let (first, last, stride) ← sliceBounds length.toNat start stop step
        return .tuple [int first, int last, int stride]
      | _, _ => Arguments.refused
    | none, _ => onRows machine item name given

/-- What a method of the keys, values or entries of a map gives. -/
def onView (item : Meaning) (kind : String) (of : Meaning) (name : String) (given : Arguments) :
    Eval Meaning := do
  match name, given.positions with
  | "__class_getitem__", _ | "__getitem__", _ => Arguments.refused
  | "__reversed__", [] => machine.call (.type (.builtin "reversed")) [item] []
  | "mapping", [] => return .wrapped "mappingproxy" [of]
  | "isdisjoint", [other] =>
    if kind = "dict_values" then Arguments.refused
    else onValue machine item name { given with positions := [.list (← machine.items other)] }
  | name, positions =>
    let settled ← positions.mapM machine.settled
    onValue machine item name { given with positions := settled }

/-- What a method of a view of bytes gives. -/
def onMemory (item whole : Meaning) (name : String) (given : Arguments) : Eval Meaning := do
  let bytes := whole.bytes?.getD []
  let positions := given.positions
  match name, positions with
  | "tolist", [] => return .list (bytes.map fun b => int b.toNat)
  | "tobytes", [] => return .constant (.bytes bytes)
  | "tobytes", [.constant .none] => return .constant (.bytes bytes)
  | "tobytes", [order] =>
    if ["A", "C", "F"].contains (← Arguments.textual order) then return .constant (.bytes bytes)
    else throw (.valueBreach "order must be 'C', 'F' or 'A'")
  | "release", [] => return nothing
  | "toreadonly", [] => return .memoryview (.constant (.bytes bytes))
  | "__enter__", [] => return item
  | "__exit__", _ => return nothing
  | "cast", format :: _ =>
    match ← Arguments.textual format with
    | "B" | "b" | "c" | "@B" => return item
    | _ => throw (.valueBreach "memoryview: destination format must be a native single character")
  | "hex", _ => onText machine item true (bytes.map TextMethod.ofByte) name given
  | name, _ => if Special.isSpecial name then special machine item name positions else Arguments.refused

/-- A function with something around it, or part of something, that is taken from something else. -/
def takenBy (item receiver : Meaning) (rest : List Meaning) : Eval Meaning := do
  let isNone := receiver.bare matches .constant .none
  let owner ←
    match rest with
    | [] => pure nothing
    | [holder] => pure holder
    | _ => Arguments.refused
  if isNone && owner.bare matches .constant .none then misuse "__get__(None, None) is invalid"
  match item.bare with
  | .member owner name kind =>
    if isNone then return item
    let memory ← get
    if !Functions.descends memory.table receiver.typeOf (.builtin owner) then
      misuse "descriptor doesn't apply to this object"
    if kind.isData then machine.access receiver name
    else return .method receiver name
  | .closure .. | .declared _ none => return if isNone then item else .bound item receiver
  | _ => return item

/-- What a function of the language gives that has something around it. -/
def onWrapped (item : Meaning) (kind : String) (parts : List Meaning) (name : String)
    (given : Arguments) : Eval Meaning := do
  let part (i : Nat) : Meaning := parts[i]?.getD nothing
  let isThere (f : Meaning) : Bool := !(f.bare matches .constant .none)
  match kind, name, given.positions with
  | "property", "__get__", receiver :: _ =>
    if isThere receiver then
      if isThere (part 0) then machine.call (part 0) [receiver] [] else throw (.missing "getter")
    else return item
  | "property", "__set__", [receiver, value] =>
    if isThere (part 1) then machine.call (part 1) [receiver, value] [] else throw (.missing "setter")
  | "property", "__delete__", [receiver] =>
    if isThere (part 2) then machine.call (part 2) [receiver] [] else throw (.missing "deleter")
  | "property", "__set_name__", [_, _] => return nothing
  | "property", "getter", [f] => return .wrapped kind (parts.set 0 f)
  | "property", "setter", [f] => return .wrapped kind (parts.set 1 f)
  | "property", "deleter", [f] => return .wrapped kind (parts.set 2 f)
  | "staticmethod", "__call__", positions => machine.call (part 0) positions given.named
  | "staticmethod", "__get__", _ :: _ => return part 0
  | "classmethod", "__get__", receiver :: rest =>
    let type := rest.head?.getD (.type receiver.typeOf)
    takenBy machine (part 0) type []
  | "mappingproxy", "__or__", [other] => return ← operate "|" item other
  | "mappingproxy", "__ror__", [other] => return ← operate "|" other item
  | "mappingproxy", "__ior__", _ => misuse "'|=' is not supported by mappingproxy; use '|' instead"
  | _, name, positions => special machine item name positions

/-- What a method of a failure gives that is a value. -/
def onFlaw (item : Meaning) (flawName : String) (arguments : List Meaning)
    (attributes : List (String × Meaning)) (name : String) (given : List Meaning) : Eval Meaning := do
  match name, given with
  | "add_note", [note] =>
    let note := Meaning.text (← Arguments.textual note)
    let notes ←
      match attributes.lookup "__notes__" with
      | some notes => notes.heldItems
      | none => pure []
    let attributes := assign "__notes__" (.list (notes ++ [note])) attributes
    Eval.rewrite item (← Eval.ownedContent (.flaw flawName arguments attributes))
    return nothing
  | "with_traceback", [.constant .none] => return item
  | "with_traceback", [_] => misuse "__traceback__ must be a traceback or None"
  | name, given => special machine item name given

/-- What a method of a form that makes types of others, or of a choice between types, gives. -/
def onForm (item : Meaning) (name : String) (given : List Meaning) : Eval Meaning := do
  let table := (← get).table
  match name, given with
  | "copy_with", [members] =>
    match members.core with
    | .tuple members => return ← choose members
    | other => return ← choose [other]
  | "__instancecheck__", [other] => return bool (← Functions.isOf (← get) other item)
  | "__subclasscheck__", [.type other] =>
    return bool (← Functions.isAmong table other Functions.rowDepth item)
  | "__subclasscheck__", [_] => misuse "issubclass() arg 1 must be a class"
  | "__getitem__", [index] => Subscript.of machine item index
  | "__or__", [other] => return ← choose [item, other]
  | "__ror__", [other] => return ← choose [other, item]
  | "__call__", _ => misuse "Cannot instantiate it"
  | "__mro_entries__", [_] => misuse "Cannot subclass it"
  | name, given => special machine item name given

/-- What a method of a thing gives. -/
def onThing (item : Meaning) (name : String) (given : Arguments) : Eval Meaning := do
  match Things.locator? item with
  | some descriptor =>
    if Things.locatorMethods.contains name then
      given.onlyNamed [if name = "format" then "args" else "suffix"]
      return ← Things.callLocator descriptor name
        (← (given.positions ++ given.named.map Prod.snd).mapM machine.settled)
    else special machine item name given.positions
  | none => onValue machine item name given

/-- The look of an instance with the value it is besides, whatever its class has to say about that. -/
def lookOf (ofClass : ClassRef) (attributes : List (String × Meaning)) (traits : RecordTraits)
    (inner : Meaning) : Eval Meaning := do
  let inner ← Presenting.shownInside machine inner
  let traits := { traits with look := none, unshown := none, byFields := false }
  return text (← (Meaning.instanceOf ofClass attributes traits (some inner)).quoted)

/-- What a method of an instance gives that is a value of the language besides. Most methods are those of
that value. -/
def onInstance (item : Meaning) (ofClass : ClassRef) (attributes : List (String × Meaning))
    (traits : RecordTraits) (inner : Meaning) (name : String) (given : Arguments) : Eval Meaning := do
  match name, given.positions with
  | "__getattribute__", _ | "__setattr__", _ | "__delattr__", _ => special machine item name given.positions
  | "__init__", positions =>
    if Instances.isFilledLater inner.core.typeName then
      Instances.refill machine inner positions given.named
    return nothing
  | "__getitem__", [index] => Subscript.ofInner machine item inner index
  | "__repr__", [] => lookOf machine ofClass attributes traits inner
  | "__str__", [] =>
    match inner.core with
    | .flaw .. => return text (← (← Presenting.presented machine inner).spoken)
    | .constant (.text s) => return text s
    | _ => machine.call (.function "repr") [item] []
  | "__format__", [layout] =>
    match inner.core with
    | .constant _ | .complex .. => special machine inner name [layout]
    | _ =>
      if (← (Arguments.textual layout : Except Failure _)).isEmpty then
        machine.call (.type .text) [item] []
      else misuse "unsupported format string passed to object.__format__"
  | name, positions =>
    let result ← machine.method inner name positions given.named
    return if givesItself.contains name && isOne result inner then item else result

/-- What a method gives; what it changes is changed. -/
def method (item : Meaning) (name : String) (positions : List Meaning)
    (named : List (String × Meaning)) : Eval Meaning := do
  let item ← Eval.fresh item
  let given : Arguments :=
    { positions := ← Eval.freshAll positions, named := ← Eval.freshNamed named }
  match item.bare with
  | .type ref => onType machine ref name given
  | .iterator kind number => onRow machine kind number name given.positions
  | .declared .. | .closure .. | .function _ | .member .. | .method .. | .generic .. | .bound .. =>
    match name, given.positions with
    | "__call__", positions => machine.call item positions given.named
    | "__get__", receiver :: rest => takenBy machine item receiver rest
    | "__mro_entries__", [_] =>
      match item.bare with
      | .generic origin _ => return .tuple [.type origin]
      | _ => Arguments.refused
    | name, positions => special machine item name positions
  | .former _ | .choice _ => onForm machine item name given.positions
  | .wrapped kind parts => onWrapped machine item kind parts name given
  | .flaw flawName arguments attributes =>
    onFlaw machine item flawName arguments attributes name given.positions
  | .memoryview whole => onMemory machine item whole name given
  | .view kind of _ => onView machine item kind of name given
  | .thing .. => onThing machine item name given
  | .instanceOf ofClass attributes traits (some inner) =>
    onInstance machine item ofClass attributes traits inner name given
  | .instanceOf _ _ _ none =>
    match name, given.positions with
    | "__init__", positions =>
      let memory ← get
      let has (label : String) : Bool :=
        ((Access.holderOf? memory item).bind fun ofClass =>
          Access.member? memory (.defined ofClass) label).isSome
      if !(positions.isEmpty && given.named.isEmpty) && (has "__init__" || !has "__new__") then
        misuse "object.__init__() takes exactly one argument"
      return nothing
    | "__str__", [] => machine.call (.function "repr") [item] []
    | _, _ => onValue machine item name given
  | _ => onValue machine item name given

end Methods
end PageContracts.Language
