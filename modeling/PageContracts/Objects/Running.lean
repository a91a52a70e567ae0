import PageContracts.Objects.Access
import PageContracts.Objects.Acting

/-! # Running plans

An operation slices its arguments, resolves each locator in the place of the object, carries out
its primitive calls in order and then ends in its way.
-/
namespace PageContracts

/-- What a call gives back. -/
inductive Outcome where
  | object (number : Nat)
  | value (value : Value)
  deriving Repr, Inhabited

namespace Outcome

/-- The outcome that a value is. -/
def ofValue : Value → Outcome
  | .object ref => .object ref.number
  | plain => .value plain

end Outcome

namespace LiveObject

variable {β : Type}

/-- The failure of an argument that should have been a model. -/
def notModel (object : LiveObject) (table : ClassTable) (value : Value) : Failure :=
  match object.shownName table with
  | .ok name =>
    .typeStated ("[" ++ name ++ "] expected a model instance, got " ++ value.typeName)
  | .error failure => failure

/-- A field of the model that is given as an argument. -/
def fieldOf (object : LiveObject) (world : World β) (value : Value) (field : String) :
    Except Failure Value :=
  let table := world.classes
  match value with
  | .record ofClass attributes _ _ =>
    if table.isRecordType (.defined ofClass) then table.attributeOf ofClass attributes field
    else .error (object.notModel table value)
  | .object ref =>
    match world.objects[ref.number]? with
    | none => .error (object.notModel table value)
    | some model =>
      if table.isRecordType (.defined model.contract) then model.attributeNow table field
      else .error (object.notModel table value)
  | value => .error (object.notModel table value)

/-- The value a call types: an argument, or the field of the model that is given as one. -/
def valueFor (object : LiveObject) (world : World β) (arguments : List Value)
    (argument : Nat) (field : Option String) : Except Failure Value :=
  match arguments[argument]?, field with
  | none, _ => .error (.breach .outOfBounds "tuple index out of range")
  | some value, none => .ok value
  | some value, some field => object.fieldOf world value field

/-- Resolve a locator in the place of an object, or by what was put in its place. -/
def resolve (object : LiveObject) (table : ClassTable) (descriptor : LocatorDescriptor)
    (arguments : List Value) : Except Failure Target := do
  match ← object.heldAt table "scope_stack" object.nesting with
  | .inl nesting => return .located (← nesting.resolve descriptor arguments)
  | .inr value =>
    let offered : Value := .other "LocatorDescriptor" descriptor.display
    return .offered (← table.callMember value "resolve" [offered, .tuple arguments] [])

variable [Remote β]

/-- Carry out one primitive call; the result is what it reads, or what was read before. -/
def runCall (object : LiveObject) (arguments : List Value) (sliceAt : Nat) (last : Value)
    (call : PrimitiveCall) : Run β Value := do
  let target ← Run.ofExcept
    (object.resolve (← get).classes call.locator (arguments.drop sliceAt))
  let aimed := target.toValue
  match call with
  | .click _ =>
    object.orInstead "click" [aimed] (fun _ => ()) (object.click target)
    return last
  | .setText _ argument field =>
    let world ← get
    let value ← object.orInstead "_value_for" [.none, .tuple arguments] id
      (Run.ofExcept (object.valueFor world arguments argument field))
    match value with
    | .none => return last
    | value =>
      let text : Value := .text (← Run.ofExcept value.spoken)
      object.orInstead "fill" [aimed, text] (fun _ => ()) (object.fill target text)
      return last
  | .readText _ => object.orInstead "get_text" [aimed] id (object.readText target)
  | .readAttribute _ name =>
    object.orInstead "get_attribute" [aimed, .text name] id
      (object.readAttribute target (.text name))

/-- Carry out primitive calls in order. -/
def runCalls (object : LiveObject) (arguments : List Value) (sliceAt : Nat) :
    Value → List PrimitiveCall → Run β Value
  | last, [] => return last
  | last, call :: rest => do
    let next ← object.runCall arguments sliceAt last call
    runCalls object arguments sliceAt next rest

/-- Create an object through the factory of an object, or through what was put in its place. -/
def createThrough (object : LiveObject) (contract : Value) (inside : Bool) : Run β Outcome := do
  let table := (← get).classes
  match ← Run.ofExcept (object.heldAt table "factory" object.factory) with
  | .inl factory =>
    let outer ←
      if inside then Run.ofExcept (object.heldAt table "scope_stack" object.nesting)
      else pure (.inl Nesting.outermost)
    return .object (← factory.createOffered contract outer)
  | .inr value =>
    let _ ← Run.ofExcept (table.memberOf value "create")
    let outer : List Value ←
      if inside then
        match ← Run.ofExcept (object.heldAt table "scope_stack" object.nesting) with
        | .inl nesting => pure [.other "ScopeStack" nesting.display]
        | .inr value => pure [value]
      else pure []
    return .ofValue (← Run.ofExcept (table.callMember value "create" (contract :: outer) []))

/-- Create a panel inside an object. -/
def makePanel (object : LiveObject) (contract : Value) : Run β Outcome :=
  object.createThrough contract true

/-- Create a page on its own. -/
def navigateTo (object : LiveObject) (contract : Value) : Run β Outcome :=
  object.createThrough contract false

/-- End an operation: with the object itself, with a panel inside it, or with a new page. -/
def finish (object : LiveObject) (number : Nat) (plan : CallPlan) (result : Value) :
    Run β Outcome :=
  match plan.ending with
  | none => return .ofValue result
  | some kind =>
    object.orInstead "_epilogue" [.other "CallPlan" ""] Outcome.ofValue do
      let target : Value := .type (plan.target.getD .nothing)
      match kind with
      | .void | .self => return .object number
      | .panel =>
        object.orInstead "make_panel" [target] Outcome.ofValue (object.makePanel target)
      | .page =>
        object.orInstead "navigate_to" [target] Outcome.ofValue (object.navigateTo target)

/-- Run a plan on an object. -/
def runPlan (object : LiveObject) (number : Nat) (plan : CallPlan) (arguments : List Value) :
    Run β Outcome := do
  let result ← object.runCalls arguments plan.sliceAt .none plan.calls
  object.finish number plan result

/-- Call a method of the implementation: bind the arguments, then run the plan. -/
def runMethod (object : LiveObject) (number : Nat) (method : Method) (positions : List Value)
    (named : List (String × Value)) : Run β Outcome := do
  if (named.lookup DeclaredFunction.receiverName).isSome then
    throw (.typeBreach "multiple values for argument 'self'")
  let bound ← Run.ofExcept (Binding.bind method.signature (.none :: positions) named)
  let arguments := (bound.drop 1).map (← get).refresh
  object.orInstead "run_plan" [.other "CallPlan" "", .tuple arguments] Outcome.ofValue
    (object.runPlan number method.plan arguments)

end LiveObject
end PageContracts
