import PageContracts.Contract.Operation

/-! # Call plans

What running an operation amounts to: a row of primitive calls and the way it ends.
-/
namespace PageContracts

/-- A primitive call, with what it takes from the arguments of the operation. -/
inductive PrimitiveCall where
  | click (locator : LocatorDescriptor)
  /-- Type the argument at a position, or one field of the model given there. -/
  | setText (locator : LocatorDescriptor) (argument : Nat) (field : Option String)
  | readText (locator : LocatorDescriptor)
  | readAttribute (locator : LocatorDescriptor) (name : String)
  deriving DecidableEq, Repr, Inhabited

namespace PrimitiveCall

/-- The name of the primitive action. -/
def action : PrimitiveCall → String
  | .click _ => "click"
  | .setText .. => "set_text"
  | .readText _ => "read_text"
  | .readAttribute .. => "read_attribute"

/-- The locator of a call. -/
def locator : PrimitiveCall → LocatorDescriptor
  | .click locator => locator
  | .setText locator _ _ => locator
  | .readText locator => locator
  | .readAttribute locator _ => locator

end PrimitiveCall

/-- The implementation of an operation. Arguments from `sliceAt` on fill the locators. An absent
ending means that the result of the last call is returned. -/
structure CallPlan where
  operation : Operation
  sliceAt : Nat
  calls : List PrimitiveCall
  ending : Option ReturnKind
  deriving DecidableEq, Repr, Inhabited

namespace CallPlan

/-- Whether the plan returns what its last call read. -/
def returnsResult (plan : CallPlan) : Bool :=
  plan.ending.isNone

/-- The contract that a panel or page ending creates. -/
def target (plan : CallPlan) : Option TypeRef :=
  plan.operation.returnType

end CallPlan
end PageContracts
