import PageContracts.ScopeStack

/-! # Nesting

Where an object stands: the scopes of the panels around it, outermost first. A panel's scope is
a locator, unless its author has put something else in the place of it. A fragment that reaches
such a scope cannot be resolved; all others are resolved as if it were not there.
-/
namespace PageContracts

/-- What a panel has as its scope. -/
inductive Scope where
  | locator (descriptor : LocatorDescriptor)
  /-- Something that is no locator. -/
  | stray (value : Value)
  deriving Repr, Inhabited

namespace Scope

/-- The locator a scope is. -/
def descriptor : Scope → Except Failure LocatorDescriptor
  | .locator descriptor => .ok descriptor
  | .stray _ => .error (.missing "kind")

/-- Whether a condition on a scope holds. -/
def truthy : Scope → Bool
  | .locator _ => true
  | .stray value => value.truthy

/-- A scope as messages show it. -/
def display : Scope → String
  | .locator descriptor => descriptor.display
  | .stray value => value.display

/-- Whether two scopes are the same. -/
def same : Scope → Scope → Bool
  | .locator a, .locator b => a = b
  | .stray a, .stray b => a.sameKey b
  | _, _ => false

end Scope

/-- The scopes around an object and its own, outermost first. -/
structure Nesting where
  scopes : List Scope := []
  deriving Repr, Inhabited

namespace Nesting

/-- The place of a top-level screen. -/
def outermost : Nesting := {}

/-- The place that a stack of locators describes. -/
def ofStack (stack : ScopeStack) : Nesting :=
  ⟨stack.entries.map .locator⟩

/-- The place one panel further inside. -/
def enter (nesting : Nesting) (scope : Scope) : Nesting :=
  ⟨nesting.scopes ++ [scope]⟩

/-- The number of panels. -/
def depth (nesting : Nesting) : Nat :=
  nesting.scopes.length

/-- The locators among scopes given innermost first, up to the first scope that is none. -/
def locatorsFrom : List Scope → List LocatorDescriptor
  | .locator descriptor :: outer => descriptor :: locatorsFrom outer
  | _ => []

/-- The locators inside the innermost scope that is none. -/
def readable (nesting : Nesting) : ScopeStack :=
  ⟨(locatorsFrom nesting.scopes.reverse).reverse⟩

/-- Whether fragments of a kind reach a scope that is no locator. -/
def obstructs (nesting : Nesting) (kind : LocatorKind) : Bool :=
  nesting.readable.depth < nesting.depth &&
    !nesting.readable.entries.any (ScopeStack.blocks kind)

/-- Fill a descriptor's template and, when it is a fragment, compose it with the scopes around
it. -/
def resolve (nesting : Nesting) (descriptor : LocatorDescriptor) (arguments : List Value) :
    Except Failure ResolvedLocator := do
  let resolved ← nesting.readable.resolve descriptor arguments
  if descriptor.isFragment && nesting.obstructs descriptor.kind then
    throw (.missing "needs_scope_resolution")
  return resolved

/-- All scopes as locators. -/
def locators (nesting : Nesting) : Except Failure (List LocatorDescriptor) :=
  nesting.scopes.mapM Scope.descriptor

/-- Whether two places are the same. -/
def same (a b : Nesting) : Bool :=
  a.depth = b.depth && (a.scopes.zip b.scopes).all fun pair => pair.1.same pair.2

/-- The place as messages show it. -/
def display (nesting : Nesting) : String :=
  "ScopeStack(" ++ String.intercalate ", " (nesting.scopes.map Scope.display) ++ ")"

end Nesting
end PageContracts
