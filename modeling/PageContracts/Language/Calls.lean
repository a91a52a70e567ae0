import PageContracts.Language.Instances
import PageContracts.Language.Methods
import PageContracts.Language.Presenting

/-! # Calls

What calling something gives: functions without a name are evaluated, functions of an author take
their arguments and give nothing, types make values, and the functions of the language do their work.
-/
namespace PageContracts.Language.Calls

open Meaning

/-- The parameter of a function without a name, with its default. -/
abbrev Slot : Type := String × ParameterKind × Option Meaning

/-- Whether a parameter can be given by name. -/
def takesName (slot : Slot) : Bool :=
  slot.2.1 = .positional || slot.2.1 = .keywordOnly

/-- The parameters that can be given by position, with what they are given, and what is left over. -/
def fillPositions (named : List (String × Meaning)) :
    List Slot → List Meaning → Except Failure (List (String × Meaning) × List Meaning)
  | [], positions => .ok ([], positions)
  | slot :: rest, positions =>
    if slot.2.1 ≠ .positional && slot.2.1 ≠ .positionalOnly then fillPositions named rest positions
    else
      match positions with
      | position :: positions => do
        if takesName slot && (named.lookup slot.1).isSome then
          misuse "got multiple values for argument"
        let (filled, left) ← fillPositions named rest positions
        return ((slot.1, position) :: filled, left)
      | [] => do
        let (filled, left) ← fillPositions named rest []
        match if takesName slot then named.lookup slot.1 else none, slot.2.2 with
        | some item, _ => return ((slot.1, item) :: filled, left)
        | none, some item => return ((slot.1, item) :: filled, left)
        | none, none => misuse "missing a required positional argument"

/-- The parameters that can only be given by name, with what they are given. -/
def fillNames (named : List (String × Meaning)) (slots : List Slot) :
    Except Failure (List (String × Meaning)) :=
  (slots.filter fun slot => slot.2.1 = .keywordOnly).mapM fun slot =>
    match named.lookup slot.1, slot.2.2 with
    | some item, _ => .ok (slot.1, item)
    | none, some item => .ok (slot.1, item)
    | none, none => misuse "missing a required keyword-only argument"

/-- The names that a function without a name has when its body is evaluated. -/
def bindSlots (slots : List Slot) (positions : List Meaning) (named : List (String × Meaning)) :
    Except Failure (List (String × Meaning)) := do
  let (filled, left) ← fillPositions named slots positions
  let surplus := slots.filter fun slot => slot.2.1 = .surplusPositions
  if !left.isEmpty && surplus.isEmpty then misuse "takes fewer positional arguments"
  let unknown := named.filter fun entry =>
    !(slots.any fun slot => takesName slot && slot.1 = entry.1)
  let rest := slots.filter fun slot => slot.2.1 = .surplusNames
  if !unknown.isEmpty && rest.isEmpty then misuse "got an unexpected keyword argument"
  let byName ← fillNames named slots
  return filled ++ byName ++ surplus.map (fun slot => (slot.1, .tuple left)) ++
    rest.map fun slot => (slot.1, .map (unknown.map fun (name, item) => (text name, item)))

variable (machine : Machine)

/-- Call a function of an author. -/
def callDeclared (f : DeclaredFunction) (of : Option Meaning) (positions : List Meaning)
    (named : List (String × Meaning)) : Except Failure Meaning :=
  let named := named.map fun (name, item) => (name, item.toValue)
  (ClassTable.callFunction f (toValues (of.toList ++ positions)) named).map ofValue

/-- What the functions of the language ask the class of an instance for, first and otherwise. -/
def askedFor : List (String × List String) :=
  [("abs", ["__abs__"]), ("bin", ["__index__"]), ("chr", ["__index__"]), ("hash", ["__hash__"]), ("hex", ["__index__"]), ("len", ["__len__"]), ("next", ["__next__"]),
    ("oct", ["__index__"]), ("repr", ["__repr__"]), ("reversed", ["__reversed__"]),
    ("round", ["__round__"]), ("bool", ["__bool__", "__len__"]), ("bytes", ["__bytes__"]),
    ("complex", ["__complex__", "__float__", "__index__"]), ("float", ["__float__", "__index__"]),
    ("format", ["__format__"]), ("int", ["__int__", "__index__", "__trunc__"]),
    ("str", ["__str__", "__repr__"])]

/-- Whether what the function behind a function of the language gives may be its result. -/
def fits (name : String) (result : Meaning) : Except Failure Meaning :=
  match name with
  | "repr" | "str" | "format" =>
    if result.text?.isSome then .ok result else misuse "returned non-string"
  | "len" | "hash" | "int" | "bin" | "oct" | "hex" | "chr" =>
    match result.integer? with
    | none => misuse "returned non-int"
    | some i =>
      if name = "len" && i < 0 then .error (.valueBreach "__len__() should return >= 0")
      else if name = "hash" then Functions.hash (int i)
      else if name = "int" || name = "len" then .ok (int i)
      else Functions.call {} name { positions := [int i] }
  | "bool" =>
    match result.bare with
    | .constant (.bool b) => .ok (bool b)
    | _ => misuse "__bool__ should return bool"
  | "float" =>
    match result.core with
    | .constant (.float x) => .ok (.constant (.float x))
    | _ => misuse "returned non-float"
  | "complex" => if result.core matches .complex .. then .ok result else misuse "returned non-complex"
  | "bytes" => if result.bytes?.isSome then .ok result else misuse "returned non-bytes"
  | _ => .ok result

/-- The names of the functions that a conversion asks for: a number is converted by what its type has for
that rather than by another function of its class. -/
def labelsFor (name : String) (item : Meaning) (labels : List String) : List String :=
  match Special.family? item with
  | some "int" =>
    if ["bin", "chr", "hex", "oct"].contains name then []
    else if ["bool", "float", "int"].contains name then labels.take 1
    else if name = "complex" then labels.take 2
    else labels
  | some "float" =>
    if ["bool", "float", "int"].contains name then labels.take 1
    else if name = "complex" then labels.take 2
    else labels
  | some "complex" => if name = "bool" || name = "complex" then labels.take 1 else labels
  | _ => labels

/-- What a function of the language gives for an instance whose class has a function for that. -/
def asked? (name : String) (positions : List Meaning) : Eval (Option Meaning) := do
  match askedFor.lookup name, positions with
  | some labels, item :: rest =>
    let found ← (labelsFor name item labels).findSomeM? fun label => do
      return (← Access.own? item label).map fun f => (label, f)
    match found with
    | some (label, f) =>
      let rest := if name = "format" && rest.isEmpty then [text ""] else rest
      let rest :=
        if name = "format" then rest
        else if name = "round" then rest.filter fun item => !item.isNothing
        else []
      let result ← Eval.fresh (← machine.call f rest [])
      if label = "__index__" && (name = "float" || name = "complex") then
        return some (← Functions.make name { positions := [int (← Arguments.integer result)] })
      if label = "__float__" && name = "complex" then
        return some (← Functions.make name { positions := [← (fits "float" result : Except Failure _)] })
      if label = "__len__" && name = "bool" then
        return some (bool ((← (fits "len" result : Except Failure _)).truthy))
      return some (← (fits name result : Except Failure _))
    | none => return none
  | _, _ => return none

/-- The first item with the greatest or the least key, which the functions of classes may tell. -/
def foremost (sign : String) (keyed : List (Meaning × Meaning)) : Eval (Option Meaning) := do
  let memory ← get
  match keyed with
  | [] => return none
  | first :: rest =>
    if keyed.any fun entry => Access.hasOwn memory Access.ordering Access.lookDepth entry.1 then
      let best ← rest.foldlM (fun best item => do
        return if ← machine.compares sign item.1 best.1 then item else best) first
      return some best.2
    else return ← Functions.extreme sign keyed

/-- The sum of some items, as the functions of their classes say. -/
def total (items : List Meaning) (start : Meaning) : Eval Meaning := do
  let memory ← get
  let isOwn (item : Meaning) : Bool := (Access.holderOf? memory item).isSome
  if !(start :: items).any isOwn || start.text?.isSome || start.bytes?.isSome then
    return ← Functions.total items start
  items.foldlM (machine.operate "+") start

/-- The least or the greatest of some items. -/
def extreme (sign : String) (positions : List Meaning) (named : List (String × Meaning)) :
    Eval Meaning := do
  let given : Arguments := { positions, named }
  given.onlyNamed ["key", "default"]
  let items ←
    match positions with
    | [] => Arguments.refused
    | [items] => machine.items items
    | items =>
      if (named.lookup "default").isSome then Arguments.refused (α := Unit)
      pure items
  let keyed ←
    match named.lookup "key" with
    | none | some (.constant .none) => pure (items.map fun item => (item, item))
    | some key => items.mapM fun item => do
      return (← Eval.fresh (← machine.call key [item] []), item)
  match ← foremost machine sign keyed, named.lookup "default" with
  | some item, _ => return item
  | none, some standard => return standard
  | none, none => throw (.valueBreach "arg is an empty sequence")

/-- Whether a function of the language goes through what it is given. -/
def goesThrough (name : String) : Bool :=
  ["all", "any", "sum"].contains name

/-- What something has under a name, called for by the function that does so. -/
def reach (positions : List Meaning) : Eval Meaning := do
  match positions with
  | [item, label] => machine.access item (← Arguments.textual label)
  | [item, label, standard] =>
    return (← Access.get? machine item (← Arguments.textual label)).getD standard
  | _ => Arguments.refused

/-- The first item of a row that holds, or that does not; what comes behind it is not looked at. -/
def untilHolds (wanted : Bool) (row : Nat) : Eval (Option Meaning) :=
  Eval.untilSome (do
    match ← machine.next row with
    | none => return some none
    | some item =>
      return if (← machine.holds item) == wanted then some (some item) else none) Eval.itemLimit

/-- Call a function of the language that is given nothing by name. -/
def callPlain (name : String) (positions : List Meaning) : Eval Meaning := do
  match name, positions with
  | "iter", [item] =>
    match ← Access.own? item "__iter__" with
    | some f =>
      let row ← Eval.fresh (← machine.call f [] [])
      if !(row.bare matches .iterator ..) && (← Access.own? row "__next__").isNone then
        misuse "iter() returned non-iterator"
      return row
    | none => return .iterator (Rows.kindFor item) (← machine.openRow item)
  | "iter", [f, last] =>
    if !Functions.isCallable (← get) f then misuse "iter(v, w): v must be callable"
    Rows.rowOf "callable_iterator" (.called f last)
  | "next", item :: standard =>
    match item.bare with
    | .iterator _ number =>
      if 1 < standard.length then Arguments.refused (α := Unit)
      match ← machine.next number, standard with
      | some item, _ => return item
      | none, [item] => return item
      | none, _ => throw (.breach .noMore "")
    | _ => misuse "object is not an iterator"
  | "all", [items] => return bool (← untilHolds machine false (← machine.openRow items)).isNone
  | "any", [items] => return bool (← untilHolds machine true (← machine.openRow items)).isSome
  | "getattr", positions => reach machine positions
  | "hasattr", [item, label] =>
    return bool (← Access.get? machine item (← Arguments.textual label)).isSome
  | "setattr", [item, label, value] =>
    Classes.setAttribute machine item (← Arguments.textual label) value false
    return nothing
  | "delattr", [item, label] =>
    Classes.removeAttribute machine item (← Arguments.textual label) false
    return nothing
  | "dir", [item] =>
    let names ←
      match ← Access.own? item "__dir__" with
      | some f => machine.items (← machine.call f [] [])
      | none => pure ((Access.allNames (← get) item).eraseDups.map text)
    return .list (← Functions.sortBy false (names.map fun name => (name, name)))
  | "vars", [item] =>
    match ← Access.get? machine item "__dict__" with
    | some found => return found
    | none => misuse "vars() argument must have __dict__ attribute"
  | "__import__", label :: _ =>
    let label ← Arguments.textual label
    if label.isEmpty then throw (.valueBreach "Empty module name")
    match Things.module? label with
    | some found => return found
    | none => throw (.breach (.raised "ModuleNotFoundError") ("No module named " ++ label))
  | name, positions => return ← Functions.call (← get) name { positions }

/-- What the function of a class gives that is behind a function of the language for two operands. -/
def ownOperation? (name : String) (positions : List Meaning) : Eval (Option Meaning) := do
  let ask (item : Meaning) (label : String) (given : List Meaning) : Eval (Option Meaning) := do
    match ← Access.own? item label with
    | some f =>
      let answer ← Eval.fresh (← machine.call f given [])
      return if Special.isNotImplemented answer then none else some answer
    | none => return none
  match name, positions with
  | "divmod", [left, right] =>
    return (← ask left "__divmod__" [right]).or (← ask right "__rdivmod__" [left])
  | "pow", [left, right] =>
    return (← ask left "__pow__" [right]).or (← ask right "__rpow__" [left])
  | "pow", left :: rest => ask left "__pow__" rest
  | "isinstance", [item, wanted] =>
    if wanted.core matches .tuple _ then return none
    return (← ask wanted "__instancecheck__" [item]).map fun answer => bool answer.truthy
  | "issubclass", [item, wanted] =>
    if wanted.core matches .tuple _ then return none
    return (← ask wanted "__subclasscheck__" [item]).map fun answer => bool answer.truthy
  | _, _ => return none

/-- Call a function of the language. -/
def callFunction (name : String) (positions : List Meaning) (named : List (String × Meaning)) :
    Eval Meaning := do
  let own ← ownOperation? machine name positions
  let found ← if own.isSome then pure own else asked? machine name positions
  match found with
  | some result => return result
  | none =>
    let positions ←
      if ["repr", "ascii"].contains name then positions.mapM (Presenting.shownInside machine)
      else if name = "format" then positions.mapM (Presenting.presented machine)
      else pure positions
    match name, positions with
    | "print", positions => do
      positions.forM fun item => do
        let _ ← machine.call (.type .text) [item] []
      ({ positions := [], named } : Arguments).onlyNamed ["sep", "end", "file", "flush"]
      for label in ["sep", "end"] do
        match named.lookup label with
        | none | some (.constant .none) => pure ()
        | some item =>
          let _ ← (Arguments.textual item : Except Failure _)
      return nothing
    | "max", positions => extreme machine ">" positions named
    | "min", positions => extreme machine "<" positions named
    | "sorted", [items] =>
      return .list (← Methods.sorted machine (← Eval.freshAll (← machine.items items)) named)
    | name, positions =>
      if named.isEmpty && !(["sum", "pow", "round"].contains name) then
        callPlain machine name positions
      else
        let positions ←
          if goesThrough name then
            match positions with
            | items :: rest => do
              pure (.list (← Eval.freshAll (← machine.items items)) :: rest)
            | [] => pure []
          else pure positions
        match name, positions, named with
        | "sum", [.list items], [] => total machine items (int 0)
        | "sum", [.list items, start], [] | "sum", [.list items], [("start", start)] =>
          total machine items start
        | name, positions, named => return ← Functions.call (← get) name { positions, named }

/-- The row that a type of rows makes. -/
def makeRow (name : String) (positions : List Meaning) (named : List (String × Meaning)) :
    Eval Meaning := do
  let given : Arguments := { positions, named }
  match name, positions with
  | "map", f :: first :: rest =>
    let _ ← given.unnamed
    Rows.rowOf name (.mapped f (← (first :: rest).mapM machine.openRow))
  | "filter", [f, items] =>
    let _ ← given.unnamed
    Rows.rowOf name (.filtered f (← machine.openRow items))
  | "zip", rows =>
    given.onlyNamed ["strict"]
    let isStrict := ((named.lookup "strict").map truthy).getD false
    Rows.rowOf name (.zipped isStrict (← rows.mapM machine.openRow))
  | "enumerate", _ =>
    let given ← given.byName ["iterable", "start"]
    let start ← Arguments.integerOr 0 (given.lookup "start")
    match given.lookup "iterable" with
    | some items => Rows.rowOf name (.numbered start (← machine.openRow items))
    | none => Arguments.refused
  | "reversed", [items] =>
    let _ ← given.unnamed
    if let some f ← Access.own? items "__getitem__" then
      let n ← Arguments.integer (← machine.call (.function "len") [items] [])
      return ← Rows.rowOf name (.indexed f (n - 1) (some n.toNat))
    match items.core with
    | .set .. => misuse "object is not reversible"
    | .iterator .. => misuse "object is not reversible"
    | .generic .. => misuse "object is not reversible"
    | core =>
      let kind :=
        match core with
        | .list _ => "list_reverseiterator"
        | .range .. => "range_iterator"
        | .map _ | .view "dict_keys" _ _ => "dict_reversekeyiterator"
        | .view "dict_values" _ _ => "dict_reversevalueiterator"
        | .view "dict_items" _ _ => "dict_reverseitemiterator"
        | .wrapped "mappingproxy" _ => "dict_reversekeyiterator"
        | _ => name
      Rows.rowOf kind (.row (← machine.items items).reverse)
  | _, _ => Arguments.refused

/-- A new class over bases: if one of them is an instance of a class of classes, so is the new one, and
that class makes it. -/
def defineOver (label : Meaning) (bases : List Meaning) (entries : List (Meaning × Meaning))
    (named : List (String × Meaning)) : Eval Meaning := do
  let memory ← get
  let kind := bases.findSome? fun base =>
    match base.bare with
    | .type ref => Access.kindOf? memory ref
    | _ => none
  match kind with
  | some kind => Instances.instantiate machine kind [label, .tuple bases, .map entries] named
  | none => Classes.define machine none label bases entries named

/-- What a map or bytes are made of: the entries or the items of an instance whose class has functions for
giving them. -/
def gone (item : Meaning) : Eval Meaning := do
  match ← Access.entriesOf? machine item, item.bare with
  | some entries, _ => return .map entries
  | none, .instanceOf _ _ _ none => do
    let isRow := (← Access.own? item "__iter__").isSome || (← Access.own? item "__getitem__").isSome
    if isRow then return .list (← machine.items item) else return item
  | none, _ => machine.settled item

/-- Make a value of a type of the language. -/
def makeBuiltin (name : String) (positions : List Meaning) (named : List (String × Meaning)) :
    Eval Meaning := do
  let positions ←
    if ["range", "bytes", "bytearray", "enumerate", "int"].contains name &&
        !(name = "bytes" && (← positions.anyM fun item => do
          return (← Access.own? item "__bytes__").isSome)) then
      match name, positions with
      | "int", first :: rest => do pure (first :: (← rest.mapM (Access.asIndex machine)))
      | "enumerate", first :: rest => do pure (first :: (← rest.mapM (Access.asIndex machine)))
      | _, positions => positions.mapM (Access.asIndex machine)
    else pure positions
  if ["map", "filter", "zip", "enumerate", "reversed"].contains name then
    match ← asked? machine name positions with
    | some result => return result
    | none => makeRow machine name positions named
  else if name = "super" && !positions.isEmpty then
    match positions with
    | [start, receiver] =>
      let memory ← get
      let descends (ref : TypeRef) : Bool :=
        match start.bare with
        | .type start => (Access.lineage memory.table ref).contains start
        | _ => false
      let isBehind :=
        match receiver.bare with
        | .type ref => descends ref || descends (Access.typeOf memory receiver)
        | _ => descends (Access.typeOf memory receiver)
      if !isBehind then misuse "super(type, obj): obj must be an instance or subtype of type"
      return .wrapped name [start.bare, receiver]
    | [start] =>
      if start.bare matches .type _ then return .wrapped name [start.bare] else Arguments.refused
    | _ => Arguments.refused
  else if name = "type" then
    match positions with
    | [item] =>
      if !named.isEmpty then Arguments.refused (α := Unit)
      return .type (Access.typeOf (← get) item)
    | [label, bases, entries] =>
      match bases.bare, entries.core with
      | .tuple bases, .map entries => defineOver machine label bases entries named
      | _, _ => Arguments.refused
    | _ => Arguments.refused
  else
    let result ← if named.isEmpty then asked? machine name positions else pure none
    match result with
    | some result => return result
    | none =>
      let walks := ["list", "tuple", "set", "frozenset"].contains name && positions.length = 1
      let positions ←
        if isFailureType name then pure positions
        else if name = "str" then positions.mapM (Presenting.presented machine)
        else if walks then positions.mapM fun item => do return .list (← machine.items item)
        else if ["dict", "bytes", "bytearray"].contains name then positions.mapM (gone machine)
        else positions.mapM machine.settled
      return ← Functions.make name { positions, named }

/-- Make a value of a type. -/
def make (type : TypeRef) (positions : List Meaning) (named : List (String × Meaning)) :
    Eval Meaning := do
  match type with
  | .builtin name => makeBuiltin machine name positions named
  | .defined ref =>
    Instances.instantiate machine ref positions named
  | .page | .panel =>
    if positions.isEmpty && named.isEmpty then
      return .thing type.name ("<" ++ type.fullName ++ " object>") []
    else misuse "takes no arguments"
  | .anything => misuse "Any cannot be instantiated"
  | .optional _ => misuse "Cannot instantiate typing.Union"
  | .other .. => misuse "cannot create instances"

/-- Call a function without a name. One that gives its results one by one makes a row of them. -/
def callClosure (slots : List Slot) (body : Expression) (outer : Option Nat)
    (positions : List Meaning) (named : List (String × Meaning)) : Eval Meaning := do
  let names ← bindSlots slots positions named
  let own := names.map Prod.fst ++ body.binds
  let frame ← Eval.openFrame { names, own, outer }
  if body.yields then Rows.rowOf "generator" (.body frame body)
  else Eval.inCall (machine.evaluate (some frame) body)

/-- Call a function that every object has from the type that all types descend from. -/
def common? (receiver : Meaning) (name : String) (given : List Meaning) : Option (Eval Meaning) :=
  match name, given with
  | "__eq__", [other] => some do
    return if Access.comparesFields receiver then Special.equality receiver other true
      else if isOne receiver other then bool true
      else Special.notImplemented
  | "__ne__", [other] => some do
    let answer ← machine.call (← machine.access receiver "__eq__") [other] []
    return if Special.isNotImplemented answer then answer else bool !answer.truthy
  | "__lt__", [_] | "__le__", [_] | "__gt__", [_] | "__ge__", [_] => some (return Special.notImplemented)
  | "__str__", [] => some (machine.call (.function "repr") [receiver] [])
  | "__format__", [layout] => some do
    if !(← (Arguments.textual layout : Except Failure _)).isEmpty then
      misuse "unsupported format string passed to object.__format__"
    machine.call (.type .text) [receiver] []
  | _, _ => none

/-- Call a member of a type of the language. -/
def callMember (owner name : String) (kind : MemberKind) (positions : List Meaning)
    (named : List (String × Meaning)) : Eval Meaning := do
  match kind, positions with
  | .attribute, _ | .field, _ => misuse "object is not callable"
  | .free, positions =>
    match name, positions with
    | "maketrans", positions =>
      if owner = "bytes" || owner = "bytearray" then return ← TextMethod.byteTable (positions.map bare)
      else return ← TextMethod.table (positions.map bare)
    | "__new__", .type ref :: positions => Instances.makeBy machine owner ref positions named
    | _, _ => Arguments.refused
  | _, [] => misuse "unbound method needs an argument"
  | _, receiver :: positions =>
    let memory ← get
    if !Functions.descends memory.table (Access.typeOf memory receiver) (.builtin owner) then
      misuse "descriptor requires another object"
    if let .type ref := receiver.bare then
      if owner = "type" && name = "__call__" then return ← make machine ref positions named
    match if owner = commonType then common? machine receiver name positions else none with
    | some run => run
    | none => machine.method receiver name positions named

/-- Call something. -/
def call (f : Meaning) (positions : List Meaning) (named : List (String × Meaning)) :
    Eval Meaning := do
  let f ← Eval.fresh f
  let positions ← Eval.freshAll positions
  let named ← Eval.freshNamed named
  match f.bare with
  | .closure slots body outer => callClosure machine slots body outer positions named
  | .declared f of => return ← callDeclared f of positions named
  | .bound f receiver => machine.call f (receiver :: positions) named
  | .wrapped "staticmethod" (f :: _) => machine.call f positions named
  | .function name => callFunction machine name positions named
  | .type ref =>
    match ← Access.own? f "__call__" with
    | some own => machine.call own positions named
    | none => make machine ref positions named
  | .generic origin _ => machine.call (.type origin) positions named
  | .member owner name kind => callMember machine owner name kind positions named
  | .method of name =>
    match of.bare, name with
    | .type ref, "__call__" => make machine ref positions named
    | _, _ => machine.method of name positions named
  | .instanceOf .. =>
    match ← Access.own? f "__call__" with
    | some g => machine.call g positions named
    | none => misuse "object is not callable"
  | _ => misuse "object is not callable"

end PageContracts.Language.Calls
