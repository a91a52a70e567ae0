import PageContracts.Plan.CallPlan
import PageContracts.Browser.Command
import PageContracts.Retry.Budget
import PageContracts.Nesting

/-! # Factories and objects

What a live object consists of: the implementation of its contract, the tab and the action surface
it works on, the factory that made it and the panels around it. No operation changes any of it; only
a program that reaches for the attributes of an object can.
-/
namespace PageContracts

/-- A browser tab, with the context that is closed along with it when there is one. -/
structure Session where
  page : Nat
  context : Option ContextRef := none
  deriving DecidableEq, Repr, Inhabited

/-- How an element is waited for: once, or again and again within a budget. The timeout of one
wait is in milliseconds. -/
inductive Finder where
  | impatient (timeout : Value)
  | patient (timeout : Value) (budget : RetryBudget Value)
  deriving Repr, Inhabited

namespace Finder

/-- The timeout that is used unless another is given. -/
def standardTimeout : Value := .int 5000

/-- The finder that is used unless another is given. -/
def standard : Finder := .impatient standardTimeout

/-- The timeout of one wait. -/
def timeout : Finder → Value
  | .impatient timeout => timeout
  | .patient timeout _ => timeout

/-- The number of attempts, for a finder that makes several. -/
def attempts? : Finder → Option Value
  | .impatient _ => none
  | .patient _ budget => some budget.maxAttempts

/-- The name of a finder's kind. -/
def label : Finder → String
  | .impatient _ => "ImpatientElementFinder"
  | .patient .. => "PatientElementFinder"

end Finder

/-- The action surface of a factory: rehearsed, which only notes the actions and reads prepared
texts, or live in a browser tab. -/
inductive Actions where
  | rehearsed (texts : List (String × Value)) (attributes : List ((String × String) × Value))
  | live (session : Session) (finder : Finder)
  deriving Repr, Inhabited

/-- The bases of implementations: the plain one, one whose objects can describe themselves, and
those that an author derives from the plain one without putting anything in the place of what that
has. The number tells one of these from another of the same name. -/
inductive BaseClass where
  | plain
  | audited
  | derived (number : Nat) (name : String)
  deriving DecidableEq, Repr, Inhabited

namespace BaseClass

/-- The name of a base. -/
def label : BaseClass → String
  | .plain => "PanelBase"
  | .audited => "AuditedPanel"
  | .derived _ name => name

/-- The base among what may be offered as one; anything else is refused. -/
def require (offered : BaseClass ⊕ Value) : Except Failure BaseClass :=
  match offered with
  | .inl base => .ok base
  | .inr value =>
    .error (.typeStated ("panel_base must be a PanelBase subclass, got " ++ value.quoted))

end BaseClass

/-- What makes objects: the tab and the action surface they work on, and the base they are built
over. -/
structure Factory where
  session : Session
  actions : Actions
  base : BaseClass := .plain
  deriving Repr, Inhabited

/-- A compiled contract: the plan of each operation, and the member that is found under the
operation's name. The number tells it from any other compilation. -/
structure CompiledContract where
  number : Nat
  contract : ClassRef
  plans : List (String × CallPlan)
  members : List (String × Member)
  deriving Repr, Inhabited

/-- A method of an implementation: the plan it runs and the parameters it takes, the object it is
called on included. -/
structure Method where
  plan : CallPlan
  signature : List Parameter
  deriving Repr, Inhabited

/-- The implementation of a contract over a base, under the name it got when it was built. The
number tells it from any other. -/
structure Implementation where
  number : Nat
  name : String
  contract : ClassRef
  base : BaseClass
  methods : List (String × Method)
  deriving Repr, Inhabited

/-- What an object holds in one of its places: what belongs there, something else that was put
there, or nothing, once it has been taken away. -/
inductive Held (α : Type) where
  | proper (thing : α)
  | stray (value : Value)
  | gone
  deriving Repr, Inhabited

/-- A live object: what it works with, the name it goes by and the one its log records carry, the
place it stands in, whatever else was attached to it, and the row or map it is besides when its
contract descends from one. -/
structure LiveObject where
  implementation : Implementation
  session : Held Session := .gone
  actions : Held Actions := .gone
  factory : Held Factory := .gone
  name : Option Value := none
  logger : Held Value := .gone
  nesting : Held Nesting := .gone
  attributes : List (String × Value) := []
  contents : Option Value := none
  deriving Repr, Inhabited

namespace LiveObject

/-- The contract of an object. -/
def contract (object : LiveObject) : ClassRef :=
  object.implementation.contract

end LiveObject
end PageContracts
