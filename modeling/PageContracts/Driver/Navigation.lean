import PageContracts.Driver.Lifecycle
import PageContracts.Driver.Url
import PageContracts.Objects.Creation

/-! # Navigation

Going to a page: its address is the base of the driver, without trailing slashes, followed by the
page's own template.
-/
namespace PageContracts.PageDriver

variable {β : Type}

/-- The address of a template and arguments; arguments that have no place in one are logged. -/
def makeUrl (template : String) (arguments : List Value) : Run β String := do
  (arguments.filter Url.isSenseless).forM fun argument => do
    Run.log .error (← Run.ofExcept (Url.senselessMessage argument))
  Run.ofExcept (Url.make template arguments)

/-- The base of a driver without trailing slashes. -/
def trimmedBase (baseUrl : Value) : Except Failure String :=
  match baseUrl.core with
  | .text base => .ok (Characters.dropTrailing '/' base)
  | .bytes _ => .error (.typeBreach "a bytes-like object is required")
  | _ => .error (.missing "rstrip")

/-- The address template of a page that can be navigated to. -/
def addressOf (table : ClassTable) (type : TypeRef) : Except Failure Value := do
  if (← table.capability type) ≠ some .page then throw noAddress
  match ← table.urlOf type with
  | .none => throw noAddress
  | url => return url
where
  /-- The failure of a type that is no page, or a page without address. -/
  noAddress : Failure :=
    .own .navigation (type.name ++ " needs a url() to be navigated to")

/-- An address template behind a base; only texts can stand there. -/
def joinAddress (base : String) (address : Value) : Except Failure String :=
  match address.core with
  | .text template => .ok (base ++ template)
  | _ => .error (.typeBreach "can only concatenate texts")

variable [Remote β]

/-- Go to a page and create an object of it; the result is the object's number. -/
def goTo (number : Nat) (type : TypeRef) (arguments : List Value) : Run β Nat := do
  let address ← Run.ofExcept (addressOf (← get).classes type)
  let base ← Run.ofExcept (trimmedBase (← find number).baseUrl)
  let target ← makeUrl (← Run.ofExcept (joinAddress base address)) arguments
  Run.inStep ("Navigate to " ++ target) do
    let session ← sessionOf number
    session.goTo (.text target) (.text "load")
  let factory ← factoryOf number
  factory.create type Nesting.outermost

/-- Create an object with the factory of a driver; the result is the object's number. -/
def createObject (number : Nat) (type : TypeRef) : Run β Nat := do
  let factory ← factoryOf number
  factory.create type Nesting.outermost

end PageContracts.PageDriver
