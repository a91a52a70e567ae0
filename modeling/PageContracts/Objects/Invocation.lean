import PageContracts.Objects.Access
import PageContracts.Objects.Contents
import PageContracts.Objects.Running

/-! # Invocation

Calling whatever a live object has under a name: an operation, a service, one of the methods behind
the operations, a member of its contract, or what every object can be asked for.
-/
namespace PageContracts.LiveObject

variable {β : Type}

/-- What every object offers beside its operations. -/
inductive Service where
  | currentUrl
  | pageSource
  | makePanel
  | navigateTo
  | describe
  | ownText
  deriving DecidableEq, Repr

/-- The service of a name; only audited objects describe themselves. -/
def service? (base : BaseClass) (name : String) : Option Service :=
  if name = "current_url" then some .currentUrl
  else if name = "page_source" then some .pageSource
  else if name = "make_panel" then some .makePanel
  else if name = "navigate_to" then some .navigateTo
  else if name = "describe" && base = .audited then some .describe
  else if name = "__repr__" then some .ownText
  else none

/-- The parameters of a service. -/
def Service.parameters : Service → List Parameter
  | .makePanel => [{ name := "panel_contract" }]
  | .navigateTo => [{ name := "page_contract" }]
  | _ => []

/-- The methods behind the operations with their parameters. -/
def innerMethods : List (String × List Parameter) :=
  let method (name : String) (required : List String) (optional : List String) :
      String × List Parameter :=
    (name, required.map (fun name => { name := name : Parameter }) ++
      optional.map fun name => { name := name, default := some .none })
  [method "__init__" ["session", "actions", "factory"] ["logger", "name", "scope_stack"],
    method "run_plan" ["plan", "args"] [], method "_value_for" ["call", "args"] [],
    method "_epilogue" ["plan"] [], method "_log" ["action", "locator"] [],
    method "click" ["locator"] [], method "fill" ["locator", "value"] [],
    method "get_text" ["locator"] [], method "get_attribute" ["locator", "name"] []]

/-- What an object is given by arguments in the order of the parameters. -/
def Equipment.ofArguments? : List Value → Option Equipment
  | [session, actions, factory, logger, name, place] => some {
      session := .stray session
      actions := .stray actions
      factory := .stray factory
      logger
      name
      nesting :=
        match place with
        | .none => .proper .outermost
        | place => .stray place }
  | _ => none

/-- Change the object of a number. -/
def store (number : Nat) (object : LiveObject) : Run β Unit :=
  modify fun world => { world with objects := world.objects.set number object }

/-- What is chosen out of something by a place or a key. -/
def chosen (whole index : Value) : Except Failure Value :=
  ((Language.Meaning.ofValue whole).chosen (Language.Meaning.ofValue index)).map
    Language.Meaning.toValue

/-- The ending of something that passes for a plan: it is none of the known ones. -/
def endOffered (table : ClassTable) (plan : Value) : Except Failure Value := do
  let kind ← table.memberOf plan "epilogue"
  throw (.valueStated ("unknown return kind: " ++ (← kind.spoken)))

/-- Run something that passes for a plan: without calls it only ends. -/
def runOffered (table : ClassTable) (plan arguments : Value) : Except Failure Value := do
  let start ← table.memberOf plan "slice_at"
  match arguments.core with
  | .list _ | .tuple _ | .text _ | .bytes _ =>
    if start.toInt?.isNone && !(start matches .none) then
      throw (.typeBreach "slice indices must be integers")
  | _ => throw (.typeBreach "object is not subscriptable")
  match ← ClassTable.itemsOf (← table.memberOf plan "calls") with
  | call :: _ =>
    let _ ← table.memberOf call "locator"
    throw (.missing "format")
  | [] =>
    if (← table.memberOf plan "returns_result").truthy then return .none
    else endOffered table plan

/-- What something that passes for a call takes from its arguments. -/
def valueOffered (object : LiveObject) (world : World β) (call arguments : Value) :
    Except Failure Value := do
  let value ← chosen arguments (← world.classes.memberOf call "argument")
  match ← world.classes.memberOf call "field" with
  | .none => return value
  | .text field => object.fieldOf world value field
  | _ => do
    let _ ← object.fieldOf world value ""
    throw (.typeBreach "attribute name must be string")

variable [Remote β]

/-- The text with which an audited object describes itself. -/
def description (object : LiveObject) : Run β String := do
  let name ← Run.ofExcept (object.shownName (← get).classes)
  return name ++ " @ " ++ (← Run.ofExcept (← object.currentUrl).spoken)

/-- Run a service. -/
def runService (object : LiveObject) (service : Service) (positions : List Value)
    (named : List (String × Value)) : Run β Outcome := do
  let arguments ← Run.ofExcept (Binding.enter service.parameters positions named)
  match service with
  | .currentUrl => return .ofValue (← object.currentUrl)
  | .pageSource => return .ofValue (← object.pageSource)
  | .describe => return .value (.text (← object.description))
  | .ownText => return .value (.text (← Run.ofExcept (object.display (← get).classes)))
  | .makePanel => object.makePanel (arguments.headD .none)
  | .navigateTo => object.navigateTo (arguments.headD .none)

/-- Set an object up anew, and announce it again. -/
def setUpAgain (object : LiveObject) (number : Nat) (given : Equipment) : Run β Outcome := do
  match (setUp (← get).classes given).run object with
  | .ok _ object => do
    store number object
    ((← get).refreshed object).announce
    return .value .none
  | .error failure object => do
    store number object
    throw failure

/-- Call one of the methods behind the operations with plain values. Most of them fail once they
need a plan or a locator; what they log before that is logged. -/
def callInner (object : LiveObject) (number : Nat) (name : String)
    (parameters : List Parameter) (positions : List Value) (named : List (String × Value)) :
    Run β Outcome := do
  let arguments ← Run.ofExcept (Binding.enter parameters positions named)
  let table := (← get).classes
  match name, arguments with
  | "_log", [action, locator] => do
    object.logAction action (.offered locator)
    return .value .none
  | "click", [locator] => do
    object.click (.offered locator)
    return .value .none
  | "fill", [locator, text] => do
    object.fill (.offered locator) text
    return .value .none
  | "get_text", [locator] => return .ofValue (← object.readText (.offered locator))
  | "get_attribute", [locator, wanted] =>
    return .ofValue (← object.readAttribute (.offered locator) wanted)
  | "run_plan", [plan, arguments] =>
    return .ofValue (← Run.ofExcept (runOffered table plan arguments))
  | "_value_for", [call, arguments] =>
    return .ofValue (← Run.ofExcept (object.valueOffered (← get) call arguments))
  | "_epilogue", [plan] => return .ofValue (← Run.ofExcept (endOffered table plan))
  | _, arguments =>
    match Equipment.ofArguments? arguments with
    | some given => object.setUpAgain number given
    | none => throw (.typeBreach "wrong arguments")

/-- Make another object of the same implementation. -/
def another (object : LiveObject) (positions : List Value) (named : List (String × Value)) :
    Run β Outcome := do
  let table := (← get).classes
  let contract : TypeRef := .defined object.contract
  match table.callMaker? contract positions named with
  | some made => do
    Run.ofExcept made
    return .value .none
  | none =>
    let parameters := (innerMethods.lookup "__init__").getD []
    let arguments ← Run.ofExcept (Binding.enter parameters positions named)
    match Equipment.ofArguments? arguments with
    | none => throw (.typeBreach "wrong arguments")
    | some given =>
      let made : LiveObject :=
        { implementation := object.implementation
          contents := Factory.emptyContents table object.contract }
      return .object (← Factory.enroll (← made.equip given))

/-- What every object can be asked for, with the number of arguments it takes. -/
def innateArities : List (String × Nat) :=
  [("__delattr__", 1), ("__dir__", 0), ("__eq__", 1), ("__format__", 1), ("__ge__", 1),
    ("__getattribute__", 1), ("__getstate__", 0), ("__gt__", 1), ("__hash__", 0),
    ("__init_subclass__", 0), ("__le__", 1), ("__lt__", 1), ("__ne__", 1), ("__reduce__", 0),
    ("__reduce_ex__", 1), ("__setattr__", 2), ("__sizeof__", 0), ("__str__", 0),
    ("__subclasshook__", 1)]

/-- What every object has beside its methods; none of it can be called. -/
def innateAttributes : List String :=
  ["__annotations__", "__dict__", "__doc__", "__module__", "__weakref__"]

/-- Ask an object for what every object can tell or do, as far as the contract says nothing about
it. -/
def callInnate (object : LiveObject) (number : Nat) (name : String) (positions : List Value)
    (named : List (String × Value)) : Run β Outcome := do
  let world ← get
  let table := world.classes
  match innateArities.lookup name with
  | none =>
    if name = "__new__" && !makesInstance positions then
      throw (.typeBreach "object.__new__ takes a class")
    else throw (.missing name)
  | some arity =>
    if arity ≠ positions.length || !named.isEmpty then throw (.typeBreach "wrong arguments")
    match name, positions with
    | "__str__", _ => said world
    | "__format__", [.text ""] => said world
    | "__format__", _ => throw (.typeBreach "unsupported format string")
    | "__eq__", [.object other] => same name (other.number = number)
    | "__ne__", [.object other] => same name (other.number = number)
    | "__init_subclass__", _ => return .value .none
    | "__sizeof__", _ =>
      if object.contents.isNone then return .value (.int plainSize) else throw (.missing name)
    | "__getattribute__", [wanted] =>
      return .ofValue (← Run.ofExcept (object.readMember table wanted))
    | "__setattr__", [wanted, value] => do
      store number (← Run.ofExcept (object.setAttribute table wanted value))
      return .value .none
    | "__delattr__", [wanted] => do
      store number (← Run.ofExcept (object.removeAttribute table wanted))
      return .value .none
    | "__reduce_ex__", [.int _] => throw (.missing name)
    | "__reduce_ex__", _ => throw (.typeBreach "an integer is required")
    | _, _ => throw (.missing name)
where
  /-- Whether arguments are a class that leaves the making of its instances to others. -/
  makesInstance : List Value → Bool
    | [.type (.defined _)] | [.type .page] | [.type .panel] | [.type (.builtin "object")] => true
    | _ => false
  /-- The number of bytes an object takes by itself. -/
  plainSize : Int := 24
  /-- The text of the object. -/
  said (world : World β) : Run β Outcome := do
    match world.refTo number with
    | some ref => return .value (.text (← Run.ofExcept (Value.object ref).spoken))
    | none => throw (.missing name)
  /-- Whether the object is the one it is compared with; of any other object it cannot tell. -/
  same (name : String) (isIt : Bool) : Run β Outcome :=
    if isIt then return .value (.bool (name = "__eq__")) else throw (.missing name)

/-- Call a method of what an object holds, and keep what has become of that. -/
def callContents (object : LiveObject) (number : Nat) (contents : Value) (name : String)
    (positions : List Value) (named : List (String × Value)) : Run β Outcome := do
  let world ← get
  let positions :=
    if goingThrough.contains name then positions.map (contentsBehind world) else positions
  let (result, after) ← Run.ofExcept (ofContents world.classes contents name positions named)
  store number { object with contents := some after }
  if givingItself.contains name then return .object number
  return .ofValue result

/-- Call a member of an object that neither the object itself nor its base has. -/
def callDeclared (object : LiveObject) (number : Nat) (name : String) (positions : List Value)
    (named : List (String × Value)) : Run β Outcome := do
  let table := (← get).classes
  let type : TypeRef := .defined object.contract
  match table.member? type name with
  | some found =>
    return .ofValue (← Run.ofExcept (table.callOn found .none positions named))
  | none =>
    if name = "__hash__" && !table.instancesHash type then throw ClassTable.notCallable
    let held := object.contents.filter fun contents => offers contents name
    if let some contents := held then
      return ← object.callContents number contents name positions named
    if name = "__class__" then object.another positions named
    else if name = contractMember then
      return .ofValue (← Run.ofExcept (table.callValue object.claimedContract positions named))
    else if (innateArities.lookup name).isNone && (table.member? type "__getattr__").isSome then
      throw (.typeBreach "object is not callable")
    else object.callInnate number name positions named

/-- Call whatever an object has under a name. What the object itself holds comes before what its
class has, unless its contract answers for the name. -/
def call (object : LiveObject) (number : Nat) (name : String) (positions : List Value)
    (named : List (String × Value)) : Run β Outcome := do
  let world ← get
  let object := world.refreshed object
  let own := if object.answersFor world.classes name then none else object.own? name
  match own, object.implementation.methods.lookup name with
  | some value, _ =>
    return .ofValue (← Run.ofExcept (world.classes.callValue value positions named))
  | none, some method => object.runMethod number method positions named
  | none, none =>
    match service? object.implementation.base name, innerMethods.lookup name with
    | some service, _ => object.runService service positions named
    | none, some parameters => object.callInner number name parameters positions named
    | none, none =>
      if innateAttributes.contains name then throw (.typeBreach "object is not callable")
      object.callDeclared number name positions named

end PageContracts.LiveObject
