import PageContracts.Objects.Attributes
import PageContracts.Objects.Compilation

/-! # Creation

Making live objects. A page stands outside of all panels; a panel stands in the place it is
created in, with its own scope innermost.
-/
namespace PageContracts

namespace Session

variable {β : Type} [Remote β]

/-- The address the tab shows. -/
def currentUrl (session : Session) : Run β Value :=
  Run.ask (.url session.page)

/-- The document the tab shows. -/
def pageSource (session : Session) : Run β Value :=
  Run.ask (.content session.page)

end Session

namespace LiveObject

/-- The member that tells which contract an object implements. -/
def contractMember : String := "__contract__"

/-- What an object takes for its contract. -/
def claimedContract (object : LiveObject) : Value :=
  (object.attributes.lookup contractMember).getD (.type (.defined object.contract))

/-- What a new object is given: what it works with, a name of its own or none, and its place. A
logger counts only if there is something to it. -/
structure Equipment where
  session : Held Session
  actions : Held Actions
  factory : Held Factory
  logger : Value := .none
  name : Value := .none
  nesting : Held Nesting

/-- Give an object one of its attributes, as far as its contract allows that. -/
def assign (table : ClassTable) (name : String) (change : LiveObject → LiveObject) :
    EStateM Failure LiveObject Unit := do
  let object ← get
  match table.assigning (.defined object.contract) name with
  | .ok stays => if stays then set (change object)
  | .error failure => throw failure

/-- The name an object gets: the one it is given, or that of its contract. -/
def nameFor (object : LiveObject) (given : Value) : Except Failure Value :=
  if given.truthy then .ok given
  else
    match object.claimedContract with
    | .type type => .ok (.text type.name)
    | _ => .error (.missing "__name__")

/-- What an object logs with: a logger bound to its name. -/
def loggerFor (object : LiveObject) (table : ClassTable) (given : Value) :
    Except Failure (Held Value) := do
  let name ← object.rawName table
  if given.truthy then return .stray (← table.callMember given "bind" [] [("panel", name)])
  else return .proper name

/-- Set an object up, one attribute after the other. An attribute that its contract does not allow
leaves it with those in front. -/
def setUp (table : ClassTable) (given : Equipment) : EStateM Failure LiveObject Unit := do
  assign table "session" fun object => { object with session := given.session }
  assign table "actions" fun object => { object with actions := given.actions }
  assign table "factory" fun object => { object with factory := given.factory }
  let name ← ofExcept ((← get).nameFor given.name)
  assign table "name" fun object => { object with name := some name }
  let logger ← ofExcept ((← get).loggerFor table given.logger)
  assign table "logger" fun object => { object with logger }
  assign table "scope_stack" fun object => { object with nesting := given.nesting }
where
  /-- The result of a computation that may fail. -/
  ofExcept {α : Type} (result : Except Failure α) : EStateM Failure LiveObject α :=
    match result with
    | .ok value => pure value
    | .error failure => throw failure

variable {β : Type}

/-- Log a message of an object. What was put in the place of its logger is looked at before the
message is. -/
def log (object : LiveObject) (message : Run β String) : Run β Unit := do
  let table := (← get).classes
  match ← Run.ofExcept (object.heldAt table "logger" object.logger) with
  | .inl panel => do Run.logAbout panel (← message)
  | .inr value => do
    let _ ← Run.ofExcept (table.memberOf value "info")
    let _ ← Run.ofExcept (table.callMember value "info" [.text (← message)] [])

variable [Remote β]

/-- Ask the tab of an object something, or what was put in the place of its session. -/
def askSession (object : LiveObject) (name : String) (ask : Session → Run β Value) :
    Run β Value := do
  let world ← get
  match object.attributes.lookup name with
  | some value => Run.ofExcept (world.classes.callValue value [] [])
  | none =>
    match ← Run.ofExcept (world.sessionBehind (world.objects.length + 2) object) with
    | .inl session => ask session
    | .inr value => Run.ofExcept (world.classes.callMember value name [] [])

/-- The address the tab of an object shows. -/
def currentUrl (object : LiveObject) : Run β Value :=
  object.askSession "current_url" Session.currentUrl

/-- The document the tab of an object shows. -/
def pageSource (object : LiveObject) : Run β Value :=
  object.askSession "page_source" Session.pageSource

/-- Whether an object takes itself for a page. -/
def isPage (object : LiveObject) (table : ClassTable) : Except Failure Bool :=
  match object.claimedContract with
  | .type type => (table.capability type).map (· = some .page)
  | _ => .ok false

/-- Announce a new object; a page also tells where it is. -/
def announce (object : LiveObject) : Run β Unit := do
  let table := (← get).classes
  object.log do return "[" ++ (← Run.ofExcept (object.shownName table)) ++ "] created"
  if ← Run.ofExcept (object.isPage table) then
    object.log do return "url is " ++ (← Run.ofExcept (← object.currentUrl).spoken)

/-- Equip a new object and announce it; the result is the object as it is then. -/
def equip (object : LiveObject) (given : Equipment) : Run β LiveObject := do
  match (setUp (← get).classes given).run object with
  | .ok _ object =>
    ((← get).refreshed object).announce
    return object
  | .error failure _ => throw failure

end LiveObject

namespace Factory

/-- The scope of a panel that declares none: an identifier fragment without text. -/
def emptyScope : LocatorDescriptor := { kind := .id, template := "" }

/-- The scope a contract gives to its objects, unless what it has in the place of one counts as
false. -/
def ownScope (table : ClassTable) (contract : TypeRef) : Except Failure Scope := do
  return ((← table.scopeOf contract).filter Scope.truthy).getD (.locator emptyScope)

/-- The place of a new object: the outermost one for a page, and otherwise one panel inside the
given place, with the contract's scope. -/
def placeFor (table : ClassTable) (contract : TypeRef) (outer : Nesting) :
    Except Failure Nesting := do
  if (← table.capability contract) = some .page then return .outermost
  else return outer.enter (← ownScope table contract)

/-- The place of a new object when something else may stand for the place it is created in. -/
def placeIn (table : ClassTable) (contract : TypeRef) (outer : Nesting ⊕ Value) :
    Except Failure (Held Nesting) := do
  match outer with
  | .inl outer => return .proper (← placeFor table contract outer)
  | .inr .none => return .proper (← placeFor table contract .outermost)
  | .inr value =>
    if (← table.capability contract) = some .page then return .proper .outermost
    else
      let scope : Value := .other "LocatorDescriptor" (← ownScope table contract).display
      match ← table.callMember value "push" [scope] [] with
      | .none => return .proper .outermost
      | value => return .stray value

/-- The attributes that every object gets when it is made, in this order. -/
def givenAttributes : List String :=
  ["session", "actions", "factory", "name", "logger", "scope_stack"]

/-- Whether objects of a contract can be values of a type of the language besides: those types that
leave it to others to fill their values. -/
def admitsCore (core : Option TypeRef) : Bool :=
  core = none || core = some (.builtin "list") || core = some (.builtin "dict")

/-- Require that objects of a contract can be made: what its author has put in the place of members
that every class has must let them be made and get their attributes. -/
def requireMakeable (table : ClassTable) (contract : TypeRef) : Except Failure Unit := do
  let named := ["logger", "name", "scope_stack"].map fun name => (name, Value.none)
  match table.callMaker? contract [.none, .none, .none] named with
  | some result => result
  | none =>
    if !admitsCore (table.coreType? contract) then throw (.typeBreach "too many arguments")
  givenAttributes.forM fun name => (table.assigning contract name).map fun _ => ()
  match table.callSpecial? contract "__getattribute__" [.none] [] with
  | some (.error failure) => throw failure
  | some (.ok _) => throw (.missing "info")
  | none => return ()

/-- What an object is besides before anything is done to it. -/
def emptyContents (table : ClassTable) (contract : ClassRef) : Option Value :=
  match table.coreType? (.defined contract) with
  | some (.builtin "list") => some (.list [])
  | some (.builtin "dict") => some (.map [])
  | _ => none

variable {β : Type} [Remote β]

/-- Add an object to those there are; the result is its number. -/
def enroll (object : LiveObject) : Run β Nat := do
  let number := (← get).objects.length
  modify fun world => { world with objects := world.objects ++ [object] }
  return number

/-- Create an object of a contract in a place, or where something else stands for the place; the
result is its number. -/
def createIn (factory : Factory) (contract : TypeRef) (outer : Nesting ⊕ Value) : Run β Nat := do
  let implementation ← Compilation.implement contract factory.base
  let nesting ← Run.ofExcept (placeIn (← get).classes contract outer)
  Run.ofExcept (requireMakeable (← get).classes contract)
  let made : LiveObject :=
    { implementation, contents := emptyContents (← get).classes implementation.contract }
  enroll (← made.equip {
    session := .proper factory.session
    actions := .proper factory.actions
    factory := .proper factory
    name := .text contract.name
    nesting })

/-- Create an object of a contract in a place; the result is its number. -/
def create (factory : Factory) (contract : TypeRef) (outer : Nesting) : Run β Nat :=
  factory.createIn contract (.inl outer)

/-- Create an object of whatever is offered as a contract. -/
def createOffered (factory : Factory) (offered : Value) (outer : Nesting ⊕ Value) : Run β Nat :=
  match offered with
  | .type contract => factory.createIn contract outer
  | value => do
    if value.hashable then
      let shown ← Run.ofExcept (value.written Value.quoted)
      throw { kind := .contractShape, message := shown ++ " is not a Page or Panel contract" }
    else throw (.typeBreach ("unhashable type: " ++ Quoted.quoted value.typeName))

end Factory
end PageContracts
