import PageContracts.Locator

/-! # Scope stacks

The locators of the panels an object is nested in, outermost first. A fragment locator is
prefixed with the templates of the panels around it, from the inside out, as far as they are
fragments of its own kind.
-/
namespace PageContracts

/-- A stack of panel locators, outermost first. -/
structure ScopeStack where
  entries : List LocatorDescriptor := []
  deriving DecidableEq, Repr, Inhabited

namespace ScopeStack

/-- The stack of a top-level screen. -/
def empty : ScopeStack := {}

/-- The stack with one more panel inside. -/
def push (stack : ScopeStack) (descriptor : LocatorDescriptor) : ScopeStack :=
  ⟨stack.entries ++ [descriptor]⟩

/-- The number of panels. -/
def depth (stack : ScopeStack) : Nat :=
  stack.entries.length

/-- Prefix a value with ancestors given innermost first. An absolute ancestor or one of the
other fragment kind ends the walk, but an ancestor without a template of its own is passed
over. Templates are used as declared, never filled. -/
def prefixFrom (kind : LocatorKind) : List LocatorDescriptor → String → String
  | [], value => value
  | ancestor :: outer, value =>
    if !ancestor.isFragment then value
    else if ancestor.template.isEmpty then prefixFrom kind outer value
    else if ancestor.kind ≠ kind then value
    else prefixFrom kind outer (ancestor.template ++ value)

/-- Fill a descriptor's template and, when it is a fragment, compose it with the stack. -/
def resolve (stack : ScopeStack) (descriptor : LocatorDescriptor) (arguments : List Value) :
    Except Failure ResolvedLocator := do
  let value ← descriptor.format arguments
  if descriptor.isFragment then
    return ⟨descriptor.kind, prefixFrom descriptor.kind stack.entries.reverse value⟩
  else
    return ⟨descriptor.kind, value⟩

/-- Whether an entry ends the composition of fragments of a kind. -/
def blocks (kind : LocatorKind) (entry : LocatorDescriptor) : Bool :=
  !entry.isFragment || (!entry.template.isEmpty && entry.kind ≠ kind)

/-- The entries inside the innermost blocking one, outermost first. -/
def unblocked (kind : LocatorKind) (stack : ScopeStack) : List LocatorDescriptor :=
  (stack.entries.reverse.takeWhile fun entry => !blocks kind entry).reverse

/-- The templates of the unblocked entries, joined: what the stack puts in front of every
fragment of a kind. -/
def scopePrefix (kind : LocatorKind) (stack : ScopeStack) : String :=
  String.join ((stack.unblocked kind).map LocatorDescriptor.template)

/-- The stack as messages show it. -/
def display (stack : ScopeStack) : String :=
  "ScopeStack(" ++ String.intercalate ", " (stack.entries.map LocatorDescriptor.display) ++ ")"

end ScopeStack
end PageContracts
