import PageContracts.Language.Execution

/-! # Evaluation

What expressions mean. A name means what has been bound to it, then a class of the program or what is
there for every program, then what the language itself means by it.
-/
namespace PageContracts.Language

namespace Names

/-- The constants of the language that may be named. -/
def constants : List (String × Value) :=
  [("Ellipsis", .other "ellipsis" "Ellipsis"),
    ("NotImplemented", .other "NotImplementedType" "NotImplemented"), ("__debug__", .bool true),
    ("__name__", .text "builtins"), ("__package__", .text ""),
    ("__doc__", .text "Built-in functions, types, exceptions, and other objects."),
    ("__spec__", .other "ModuleSpec" ("ModuleSpec(name='builtins', " ++
      "loader=<class '_frozen_importlib.BuiltinImporter'>, origin='built-in')")),
    ("exit", .other "Quitter" "Use exit() or Ctrl-D (i.e. EOF) to exit"),
    ("quit", .other "Quitter" "Use quit() or Ctrl-D (i.e. EOF) to exit"),
    ("help", .other "_Helper" ("Type help() for interactive help, or help(object) for help " ++
      "about object."))]

/-- What the language itself means by a name. -/
def builtin? (name : String) : Option Meaning :=
  if isType name then some (.type (.builtin name))
  else if functions.contains name then some (.function name)
  else
    match otherTypeNames.lookup name with
    | some other => some (.type (.builtin other))
    | none => (constants.lookup name).map .constant

/-- What is there for every program. -/
def provided : List (String × Meaning) :=
  [("Any", .type .anything), ("Optional", .former "Optional"), ("Page", .type .page),
    ("Panel", .type .panel)]

/-- What a program means by a name. -/
def ofProgram? (table : ClassTable) (name : String) : Option Meaning :=
  match table.named? name with
  | some ref => some (.type (.defined ref))
  | none => provided.lookup name

/-- The failure of a name without meaning. -/
def undefined (name : String) : Failure :=
  .breach .unknownName ("name " ++ Quoted.quoted name ++ " is not defined")

/-- What a name means in a frame, or outside of all. -/
def resolve (memory : Memory) (frame : Option Nat) (name : String) : Except Failure Meaning :=
  let orElse (found : Option Meaning) : Except Failure Meaning :=
    match found with
    | some item => .ok item
    | none => .error (undefined name)
  let viewed (view : Option NameView) : Option Meaning :=
    view.bind fun view => (memory.changedIn view).lookup name
  match memory.find frame name with
  | .bound item => .ok item
  | .unbound message => .error (.breach .unknownName message)
  | .absent true => orElse (builtin? name)
  | .absent false =>
    let local' :=
      if frame.isNone then (viewed memory.localsView).or (memory.locals.lookup name) else none
    let global := (viewed memory.globalsView).or (memory.globals.lookup name)
    orElse ((local'.or global).or ((ofProgram? memory.table name).or (builtin? name)))

/-- The names of a program, with what they mean. -/
def program (memory : Memory) : List (String × Meaning) :=
  let found := memory.table.classes.filter fun info => info.key ≠ Classes.hiddenKey
  let classes := found.map fun info => (info.key, Meaning.type (.defined info.ref))
  let all := provided ++ classes ++ memory.globals
  all.foldl (fun known (name, item) => assign name item known) []

end Names

namespace Evaluation

open Meaning

variable (machine : Machine)

/-- Whether the class of something descends from that of something else, and is not the same. -/
def descendsFrom (memory : Memory) (item other : Meaning) : Bool :=
  let type := Access.typeOf memory item
  let ancestor := Access.typeOf memory other
  type ≠ ancestor && Functions.descends memory.table type ancestor

/-- Whether the class of something has a function of one of some names. -/
def hasOne (item : Meaning) (names : List String) : Eval Bool :=
  names.anyM fun name => do return (← Access.own? item name).isSome

/-- The first answer that some attempts give. -/
def firstAnswer : List (Eval (Option Meaning)) → Eval (Option Meaning)
  | [] => return none
  | first :: rest => do
    match ← first with
    | some answer => return some answer
    | none => firstAnswer rest

/-- What a function gives for something, unless that stands for no answer. -/
def answerOf? (f other : Meaning) : Eval (Option Meaning) := do
  let answer ← Eval.fresh (← machine.call f [other] [])
  return if Special.isNotImplemented answer then none else some answer

/-- The names of the functions behind the signs of comparisons, and of those that are asked with the
operands exchanged. -/
def comparing : List (String × String × String) :=
  [("<", "__lt__", "__gt__"), ("<=", "__le__", "__ge__"), (">", "__gt__", "__lt__"),
    (">=", "__ge__", "__le__"), ("==", "__eq__", "__eq__"), ("!=", "__ne__", "__ne__")]

/-- What a text is filled with, with the look of everything in it. -/
def filling (item : Meaning) : Eval Meaning := do
  match item.bare with
  | .tuple items => return .tuple (← items.mapM (Presenting.presented machine))
  | .map entries => return .map (← entries.mapM fun (key, value) => do
    return (key, ← Presenting.presented machine value))
  | _ => Presenting.presented machine item

/-- The entries that a text is filled with that names them, when the class of what they are taken from has
a say in what they are. -/
def chosenFor (spelled : String) (item : Meaning) : Eval Meaning := do
  let isOwn := (← Access.own? item "__getitem__").isSome || (← Access.own? item "__missing__").isSome
  if !isOwn then return item
  let (_, keys) ← (keysOut spelled.length spelled.toList : Except Failure _)
  if keys.isEmpty then return item
  let entries ← keys.mapM fun key => do
    let key := text (String.ofList key)
    return (key, ← Eval.fresh (← Subscript.of machine item key))
  return .map entries

/-- Whether something is a row that can be joined with others and repeated. -/
def isRow (item : Meaning) : Bool :=
  match item.core with
  | .constant (.text _) | .constant (.bytes _) | .bytearray _ | .list _ | .tuple _ => true
  | _ => false

/-- Whether something stands for a type, or for one of several. -/
def isTypeLike (item : Meaning) : Bool :=
  match item.bare with
  | .type _ | .union _ | .choice _ | .generic .. | .constant .none => true
  | _ => false

/-- An operation of the language on two operands, whatever their classes say. -/
def plainBinary (sign : String) (left right : Meaning) : Eval Meaning := do
  if sign = "%" && (left.text?.isSome || left.bytes?.isSome) then
    return ← operate sign left (← filling machine (← chosenFor machine (left.text?.getD "") right))
  if left.core.isMapPart || right.core.isMapPart then
    return ← operate sign (← machine.settled left) (← machine.settled right)
  if sign = "*" && isRow left then return ← operate sign left (← Access.asIndex machine right)
  if sign = "*" && isRow right then return ← operate sign (← Access.asIndex machine left) right
  return ← operate sign left right

/-- Whether the type of the language that an operand is of has an answer for a sign between it and
another one. -/
def answers (sign : String) (item other : Meaning) (isLeft : Bool) : Bool :=
  let ofSets := ["-", "&", "^", "|"]
  let ofComplex := ["+", "-", "*", "/", "**"]
  match Special.family? item with
  | some "int" => sign ≠ "@" && Special.reckonsWith item other
  | some "float" => (["//", "%"] ++ ofComplex).contains sign && Special.reckonsWith item other
  | some "complex" => ofComplex.contains sign && Special.reckonsWith item other
  | some "set" => ofSets.contains sign && Special.family? other = some "set"
  | some "view" => ofSets.contains sign
  | some "dict" => sign = "|" && Special.family? other = some "dict"
  | some "str" | some "bytes" | some "bytearray" => sign = "%" && isLeft
  | _ => sign = "|" && isTypeLike item && isTypeLike other

/-- What an operand gives for a sign: by the function of its class, or else by the operation of the
language for the type that its class descends from; nothing when it has no answer. -/
def sideAnswer? (sign label : String) (isOwn isLeft : Bool) (left right : Meaning) :
    Eval (Option Meaning) := do
  let (item, other) := if isLeft then (left, right) else (right, left)
  match ← Access.own? item label with
  | some f => answerOf? machine f other
  | none =>
    let joins := isOwn && isRow item && (sign = "*" || (sign = "+" && isLeft))
    if joins || answers sign item other isLeft then return some (← plainBinary machine sign left right)
    else return none

/-- Whether two operands have the same function of a name. -/
def shareFunction (memory : Memory) (left right : Meaning) (name : String) : Bool :=
  let owner (item : Meaning) : Option TypeRef :=
    (Access.holderOf? memory item).bind fun ofClass =>
      (Access.member? memory (.defined ofClass) name).map Prod.fst
  owner left = owner right

/-- What the classes of two operands give for a sign, at least one of which has a function for it. -/
def ownBinary (sign name exchanged : String) (isOwnLeft isOwnRight : Bool) (left right : Meaning) :
    Eval Meaning := do
  let memory ← get
  let isSame := Access.typeOf memory left = Access.typeOf memory right
  let isBelow := descendsFrom memory right left
  let straight := sideAnswer? machine sign name isOwnLeft true left right
  let turned := sideAnswer? machine sign exchanged isOwnRight false left right
  let isFirst := isBelow && !(isOwnLeft && shareFunction memory left right exchanged)
  let attempts :=
    if isSame then [straight] else if isFirst then [turned, straight] else [straight, turned]
  match ← firstAnswer attempts with
  | some answer => return answer
  | none =>
    let repeats (item : Meaning) : Eval Bool := do
      return isRow item && !(← hasOne item [name, exchanged])
    let joins ←
      if sign = "+" then do pure (isRow left && !(← hasOne left [name]))
      else if sign = "*" then do pure ((← repeats left) || (← repeats right))
      else pure false
    if joins then plainBinary machine sign left right else unsupported sign

/-- An operation on two operands. -/
def binary (sign : String) (left right : Meaning) : Eval Meaning := do
  match Special.functionsOf sign with
  | none => plainBinary machine sign left right
  | some (name, exchanged) =>
    let isOwnLeft ← hasOne left [name, exchanged]
    let isOwnRight ← hasOne right [name, exchanged]
    if isOwnLeft || isOwnRight then
      ownBinary machine sign name exchanged isOwnLeft isOwnRight left right
    else plainBinary machine sign left right

/-- Whether the items of two rows are equal, one by one. -/
def pairwise (as bs : List Meaning) : Eval Bool := do
  if as.length ≠ bs.length then return false
  (as.zip bs).allM fun (a, b) => do
    if isOne a b then return true
    machine.compares "==" a b

/-- Whether two operands are equal, whatever functions their own classes have for that; rows of instances
whose classes have such functions are compared item by item. -/
def plainEquality (left right : Meaning) : Eval Bool := do
  let memory ← get
  let asks (item : Meaning) : Bool := Access.hasOwn memory Access.equating Access.lookDepth item
  if !(asks left || asks right) then return equal left right
  match left.core, right.core with
  | .list as, .list bs | .tuple as, .tuple bs => pairwise machine as bs
  | .map as, .map bs =>
    let chosen := as.map fun (key, _) => (lookup? key bs).getD .nothing
    if as.length ≠ bs.length || as.any (fun (key, _) => (lookup? key bs).isNone) then return false
    pairwise machine (as.map Prod.snd) chosen
  | _, _ => return equal left right

/-- Attempts at a comparison of two operands: the class of the right one comes first if it descends from
that of the left one. -/
def attempts (left right : Meaning) (straight turned : Eval (Option Meaning)) :
    Eval (Option Meaning) := do
  let memory ← get
  firstAnswer (if descendsFrom memory right left then [turned, straight] else [straight, turned])

/-- Whether two operands are equal, as their classes say. -/
def equality (left right : Meaning) : Eval Meaning := do
  if !((← hasOne left ["__eq__"]) || (← hasOne right ["__eq__"])) then
    return bool (← plainEquality machine left right)
  let side (item other : Meaning) : Eval (Option Meaning) := do
    match ← Access.own? item "__eq__" with
    | some f => answerOf? machine f other
    | none =>
      if Special.equates item other then return some (bool (← plainEquality machine left right))
      else return none
  return (← attempts left right (side left right) (side right left)).getD (bool (isOne left right))

/-- Whether two operands differ, as their classes say: a class that only has a function for equality
denies what that gives, unless it descends from a type of the language that has one of its own. -/
def difference (left right : Meaning) : Eval Meaning := do
  let names := ["__eq__", "__ne__"]
  if !((← hasOne left names) || (← hasOne right names)) then
    return bool !(← plainEquality machine left right)
  let side (item other : Meaning) : Eval (Option Meaning) := do
    match ← Access.own? item "__ne__", ← Access.own? item "__eq__" with
    | some f, _ => answerOf? machine f other
    | none, some f =>
      if (Special.family? item).isSome && !Access.comparesFields item then
        if Special.equates item other then return some (bool !(← plainEquality machine left right))
        else return none
      else
        match ← answerOf? machine f other with
        | some answer => return some (bool !(← machine.holds answer))
        | none => return none
    | none, none =>
      if Special.equates item other then return some (bool !(← plainEquality machine left right))
      else return none
  return (← attempts left right (side left right) (side right left)).getD (bool !(isOne left right))

/-- The comparison by order of two rows of instances whose classes have functions for that: it is settled
by the first items that differ. -/
def inOrder (sign : String) : List Meaning → List Meaning → Eval Meaning
  | [], bs => return bool (if bs.isEmpty then sign.endsWith "=" else sign.startsWith "<")
  | _ :: _, [] => return bool (sign.startsWith ">")
  | a :: as, b :: bs => do
    if ← (if isOne a b then pure true else machine.compares "==" a b) then inOrder sign as bs
    else machine.operate sign a b

/-- The comparison by order of two operands, whatever functions their own classes have for that. -/
def plainOrder (sign : String) (left right : Meaning) : Eval Meaning := do
  let memory ← get
  let asks (item : Meaning) : Bool :=
    Access.hasOwn memory (Access.equating ++ Access.ordering) Access.lookDepth item
  match asks left || asks right, left.core, right.core with
  | true, .list as, .list bs | true, .tuple as, .tuple bs => inOrder machine sign as bs
  | _, _, _ => return ← operate sign left right

/-- The comparison by order of two operands, as their classes say. -/
def order (sign : String) (left right : Meaning) : Eval Meaning := do
  match comparing.lookup sign with
  | none => unsupported sign
  | some (name, exchanged) =>
    if !((← hasOne left [name]) || (← hasOne right [exchanged])) then
      return ← plainOrder machine sign left right
    let side (item other : Meaning) (label : String) : Eval (Option Meaning) := do
      match ← Access.own? item label with
      | some f => answerOf? machine f other
      | none =>
        if Special.orders item other then return some (← plainOrder machine sign left right)
        else return none
    match ← attempts left right (side left right name) (side right left exchanged) with
    | some answer => return answer
    | none => unsupported sign

/-- Whether something is among the items of a row, in the order in which they come. -/
def isAmong (item : Meaning) (row : Nat) : Eval Bool :=
  Eval.untilSome (do
    match ← machine.next row with
    | none => return some false
    | some found =>
      let found ← Eval.fresh found
      if isOne item found then return some true
      if ← machine.holds (← equality machine found item) then return some true
      return none) Eval.itemLimit

/-- Whether something is in something else. -/
def isIn (item whole : Meaning) : Eval Bool := do
  match ← Access.own? whole "__contains__", whole.core with
  | some f, _ => machine.holds (← machine.call f [item] [])
  | none, .list items | none, .tuple items =>
    let row := if ← hasOne whole ["__iter__"] then .tuple items else whole
    isAmong machine item (← machine.openRow row)
  | none, .iterator .. | none, .instanceOf .. => isAmong machine item (← machine.openRow whole)
  | none, .type _ =>
    match Things.constantsOf? whole with
    | some members =>
      if item.typeOf ≠ .builtin Things.kindType then misuse "unsupported operand for 'in'"
      return members.any fun (_, known) => same known item
    | none => misuse "argument is not iterable"
  | none, core =>
    let searches := (Language.member? core.typeName "__contains__").isSome
    if !searches && (← hasOne whole ["__iter__", "__getitem__"]) then
      isAmong machine item (← machine.openRow whole)
    else return ← contains whole item

/-- A comparison of two operands. -/
def comparison (sign : String) (left right : Meaning) : Eval Meaning := do
  let left ← Eval.fresh left
  let right ← Eval.fresh right
  match sign with
  | "is" => return bool (isOne left right)
  | "is not" => return bool !(isOne left right)
  | "in" => return bool (← isIn machine left right)
  | "not in" => return bool !(← isIn machine left right)
  | "==" => equality machine left right
  | "!=" => difference machine left right
  | sign => order machine sign left right

/-- What a sign between two operands gives, of an operation or of a comparison. -/
def between (sign : String) (left right : Meaning) : Eval Meaning := do
  if (comparing.lookup sign).isSome then comparison machine sign left right
  else binary machine sign left right

/-- The names of the functions behind the signs in front of operands. -/
def unaries : List (String × String) :=
  [("-", "__neg__"), ("+", "__pos__"), ("~", "__invert__")]

/-- An operation on one operand. -/
def unary (sign : String) (operand : Meaning) : Eval Meaning := do
  if sign = "not" then return bool !(← machine.holds operand)
  let operand ← Eval.fresh operand
  let own ← (unaries.lookup sign).mapM fun name => Access.own? operand name
  match own with
  | some (some f) => machine.call f [] []
  | _ => return ← operateOne sign operand

/-- The items that expressions mean, those of spread ones included. -/
def items (frame : Option Nat) : List Expression → Eval (List Meaning)
  | [] => return []
  | .spread row :: rest => do
    let row ← machine.items (← machine.evaluate frame row)
    return row ++ (← items frame rest)
  | first :: rest => do
    let first ← machine.evaluate frame first
    return first :: (← items frame rest)

/-- The entries of something that is spread out among entries. -/
def spreadEntries (item : Meaning) : Eval (List (Meaning × Meaning)) := do
  let item ← Eval.fresh item
  match ← Access.entriesOf? machine item, item.content with
  | some entries, _ => return entries
  | none, .map entries => return entries
  | none, _ => misuse "object is not a mapping"

/-- The entries that expressions mean. -/
def entries (frame : Option Nat) :
    List (Expression × Expression) → Eval (List (Meaning × Meaning))
  | [] => return []
  | (.spreadEntries all, _) :: rest => do
    let all ← spreadEntries machine (← machine.evaluate frame all)
    return all ++ (← entries frame rest)
  | (key, value) :: rest => do
    let key ← machine.evaluate frame key
    let value ← machine.evaluate frame value
    return (← Eval.fresh key, value) :: (← entries frame rest)

/-- What is given to a function: by position and by name, each name once. -/
def arguments (frame : Option Nat) :
    List Expression → List Meaning → List (String × Meaning) →
      Eval (List Meaning × List (String × Meaning))
  | [], positions, named => return (positions, named)
  | .spread row :: rest, positions, named => do
    let row ← machine.items (← machine.evaluate frame row)
    arguments frame rest (positions ++ row) named
  | .spreadEntries all :: rest, positions, named => do
    let all ← spreadEntries machine (← machine.evaluate frame all)
    let more ← all.mapM fun (key, value) =>
      match key.text? with
      | some label => pure (label, value)
      | none => misuse "keywords must be strings"
    requireNew named more
    arguments frame rest positions (named ++ more)
  | .named label value :: rest, positions, named => do
    let value ← machine.evaluate frame value
    requireNew named [(label, value)]
    arguments frame rest positions (named ++ [(label, value)])
  | first :: rest, positions, named => do
    let first ← machine.evaluate frame first
    arguments frame rest (positions ++ [first]) named
where
  /-- Require that names are not given yet. -/
  requireNew (named more : List (String × Meaning)) : Eval Unit :=
    if more.any fun entry => (named.lookup entry.1).isSome then
      misuse "got multiple values for keyword argument"
    else return ()

/-- A row of comparisons, which ends with the first one that does not hold. -/
def comparisons (frame : Option Nat) (first : Expression) (left : Meaning) :
    List (String × Expression) → Eval Meaning
  | [] => return left
  | (sign, operand) :: rest => do
    let right ← machine.evaluate frame operand
    let isOneName :=
      match first, operand with
      | .name a, .name b => a = b
      | _, _ => false
    let result ←
      if sign = "is" && isOneName then pure (bool true)
      else if sign = "is not" && isOneName then pure (bool false)
      else comparison machine sign left right
    match rest with
    | [] => return result
    | rest =>
      if ← machine.holds result then comparisons frame operand right rest else return result

/-- The texts of the parts that a text is put together from. -/
def parts (frame : Option Nat) : List Expression → Eval (List String)
  | [] => return []
  | first :: rest => do
    let part ← Arguments.textual (← machine.evaluate frame first)
    return part :: (← parts frame rest)

/-- Whether the meaning of an expression is known from the start. -/
def isKnown : Expression → Bool
  | .constant _ => true
  | .imaginary _ => true
  | .unary "-" operand => isKnown operand
  | .tuple row => areKnown row
  | _ => false
where
  /-- Whether the meanings of all of some expressions are known from the start. -/
  areKnown : List Expression → Bool
    | [] => true
    | first :: rest => isKnown first && areKnown rest

/-- Whether a set is put together from one that is made from the start. -/
def isPrepared (row : List Expression) : Bool :=
  3 ≤ row.length && row.all isKnown

/-- Something put together from the items of a row that is made item by item. -/
def gathered (form : String) (row : List Meaning) : Eval Meaning := do
  match form with
  | "list" => return .list row
  | "set" => return ← setOf false (← Eval.freshAll row)
  | _ =>
    return ← mapOf (← row.mapM fun
      | .tuple [key, value] => do return (← Eval.fresh key, value)
      | _ => misuse "not an entry")

/-- A row that is made item by item. What the first loop goes through belongs to what is around the
row. -/
def made (frame : Option Nat) (form : String) (item : Expression) (loops : List Expression) :
    Eval Meaning := do
  match loops with
  | .each target source conditions :: inner =>
    let row ← machine.openRow (← machine.evaluate frame source)
    let own := loops.flatMap fun
      | .each target _ _ => target.targets
      | _ => []
    let place ← Eval.openFrame { own, outer := frame, isRow := true }
    let first := (row, Expression.each target source conditions)
    let number ← Eval.start (.made item place [first] inner)
    if form = "" then return .iterator "generator" number
    gathered form (← Eval.collect (machine.next number) Eval.itemLimit [])
  | _ => misuse "a row without loops"

/-- The names bound where a function is called. -/
def ownNames (frame : Option Nat) : Eval Meaning := do
  let memory ← get
  match frame with
  | none =>
    let names := memory.merged memory.locals memory.localsView
    let (item, asMap, memory) := memory.viewOf names memory.localsView
    set { memory with locals := names, localsView := some asMap }
    return item
  | some number =>
    let names := ((memory.frames[number]?).map Frame.names).getD []
    return .map (names.map fun (label, item) => (text label, item))

/-- The names bound for everything. -/
def allNames : Eval Meaning := do
  let memory ← get
  let memory := { memory with globals := memory.merged memory.globals memory.globalsView }
  let (item, asMap, memory) := memory.viewOf (Names.program memory) memory.globalsView
  set { memory with globalsView := some asMap }
  return item

/-- Where a text is evaluated or carried out that is met in a frame: with the names of that frame, and
those bound for everything. -/
def placeFor (frame : Option Nat) : Eval (Option Nat) := do
  match frame with
  | none => return none
  | some number =>
    let names := (((← get).frames[number]?).map Frame.names).getD []
    return some (← Eval.openFrame { names })

/-- Call a function that depends on where it is called; `none` for any other. -/
def scoped? (frame : Option Nat) (name : String) (positions : List Meaning) :
    Option (Eval Meaning) :=
  let isExpression := name = "eval"
  match name, positions with
  | "eval", [spelled] | "exec", [spelled] | "eval", [spelled, .constant .none]
  | "exec", [spelled, .constant .none] => some do
    Execution.evaluated machine (← placeFor frame) isExpression (← Eval.fresh spelled)
  | "eval", [spelled, globals] | "exec", [spelled, globals]
  | "eval", [spelled, globals, .constant .none] | "exec", [spelled, globals, .constant .none] =>
    some do
      Execution.evaluatedWith machine isExpression (← Eval.fresh spelled) (← Eval.fresh globals) none
  | "eval", [spelled, globals, names] | "exec", [spelled, globals, names] => some do
    Execution.evaluatedWith machine isExpression (← Eval.fresh spelled) (← Eval.fresh globals)
      (some (← Eval.fresh names))
  | "compile", positions => some do
    return ← Execution.compiled (← Eval.freshAll positions)
  | "globals", [] => some allNames
  | "locals", [] => some (ownNames frame)
  | "vars", [] => some (ownNames frame)
  | "dir", [] => some do
    match ← ownNames frame with
    | .map entries | .held _ (.map entries) =>
      return .list (← Functions.sortBy false (entries.map fun e => (e.1, e.1)))
    | item => return item
  | _, _ => none

/-- Call something with what expressions mean. -/
def callWith (frame : Option Nat) (f : Expression) (given : List Expression) : Eval Meaning := do
  let f ← machine.evaluate frame f
  let (positions, named) ← arguments machine frame given [] []
  match f with
  | .function name =>
    match if named.isEmpty then scoped? machine frame name positions else none with
    | some run => run
    | none => machine.call f positions named
  | f => machine.call f positions named

/-- Give something before the body of a function goes on. -/
def give (frame : Option Nat) (given : List Meaning) : Eval Meaning := do
  match frame with
  | none => misuse "nothing is given outside of a function"
  | some number =>
    modify fun memory =>
      { memory with
        frames := memory.frames.modify number fun frame =>
          { frame with yielded := frame.yielded ++ given } }
    return nothing

/-- What an expression means in a frame, or outside of all. -/
def evaluate (frame : Option Nat) (expression : Expression) : Eval Meaning := do
  match expression with
  | .name label => return ← Names.resolve (← get) frame label
  | .constant value => return ofValue value
  | .imaginary x => return .complex (Binary64.zero false) x
  | .tuple row => return .tuple (← items machine frame row)
  | .list row => return .list (← items machine frame row)
  | .set row =>
    let set ← setOf false (← Eval.freshAll (← items machine frame row))
    match set with
    | .set _ items =>
      return if isPrepared row then .set false (setUnion [] items) else set
    | set => return set
  | .map row => return ← mapOf (← entries machine frame row)
  | .template row => return text (String.join (← parts machine frame row))
  | .field of conversion layout =>
    let item ← machine.evaluate frame of
    let layout ←
      match layout with
      | some layout => do Arguments.textual (← machine.evaluate frame layout)
      | none => pure ""
    TextLayout.filled machine item conversion layout
  | .item base index =>
    let base ← machine.evaluate frame base
    let index ← Eval.fresh (← machine.evaluate frame index)
    Subscript.of machine (← Eval.fresh base) index
  | .slice start stop step =>
    let bound (part : Option Expression) : Eval Meaning :=
      match part with
      | some part => machine.evaluate frame part
      | none => return nothing
    return .slice (← bound start) (← bound stop) (← bound step)
  | .dotted base label => machine.access (← Eval.fresh (← machine.evaluate frame base)) label
  | .call f given => callWith machine frame f given
  | .spread _ | .spreadEntries _ | .named .. | .each .. =>
    misuse "can't use starred expression here"
  | .bound label value =>
    let item ← machine.evaluate frame value
    modify fun memory => memory.bind frame label item
    return item
  | .both left right =>
    let item ← machine.evaluate frame left
    if ← machine.holds item then machine.evaluate frame right else return item
  | .either left right =>
    let item ← machine.evaluate frame left
    if ← machine.holds item then return item else machine.evaluate frame right
  | .binary sign left right =>
    let left ← machine.evaluate frame left
    let right ← Eval.fresh (← machine.evaluate frame right)
    binary machine sign (← Eval.fresh left) right
  | .comparison first others =>
    comparisons machine frame first (← machine.evaluate frame first) others
  | .unary sign operand => unary machine sign (← machine.evaluate frame operand)
  | .conditional condition ifTrue ifFalse =>
    if ← machine.holds (← machine.evaluate frame condition) then machine.evaluate frame ifTrue
    else machine.evaluate frame ifFalse
  | .anonymous parameters body =>
    return .closure (← Execution.slots machine frame parameters) body frame
  | .given none => give frame [nothing]
  | .given (some value) => give frame [← machine.evaluate frame value]
  | .givenFrom row => give frame (← machine.items (← machine.evaluate frame row))
  | .made form item loops => made machine frame form item loops

end Evaluation

/-- A machine that goes as deep as the fuel says. Each part of it goes on with the machine of one
level less, and holds what it gives in the memory. -/
def machine : Nat → Machine
  | 0 => Machine.exhausted
  | fuel + 1 =>
    { evaluate := fun frame expression => do
        Eval.owned (← Evaluation.evaluate (machine fuel) frame expression)
      call := fun f positions named => do
        Eval.owned (← Calls.call (machine fuel) f positions named)
      method := fun item name positions named => do
        Eval.owned (← Methods.method (machine fuel) item name positions named)
      access := fun item name => do Eval.owned (← Access.get (machine fuel) item name)
      openRow := fun item => Rows.openRow (machine fuel) item
      next := fun number => do
        match ← Rows.next (machine fuel) number with
        | some item => return some (← Eval.owned item)
        | none => return none
      operate := fun sign left right => do
        let left ← Eval.fresh left
        let right ← Eval.fresh right
        Eval.owned (← Evaluation.between (machine fuel) sign left right) }

/-- How deep an evaluation goes. -/
def depthLimit : Nat := 10000

/-- What an expression means outside of all frames, as it is in the end. -/
def Expression.evaluate (expression : Expression) : Eval Meaning := do
  let machine := machine depthLimit
  Presenting.shownInside machine (← machine.evaluate none expression)

end PageContracts.Language
