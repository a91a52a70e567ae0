import PageContracts.Language.Access

/-! # Presenting

Before something is shown, the functions are asked that classes of instances in it have for how these
are shown; what they give stays with the instances.
-/
namespace PageContracts.Language.Presenting

open Meaning

variable (machine : Machine)

/-- The text that a function of the class of something gives, if the class has that function. -/
def told? (item : Meaning) (name : String) : Eval (Option String) := do
  match ← Access.own? item name with
  | none => return none
  | some f =>
    match (← Eval.fresh (← machine.call f [] [])).text? with
    | some s => return some s
    | none => misuse (name ++ " returned non-string")

/-- The fields by which an instance is shown, with what it has there now: its own, or what its class has. -/
def currentFields (item : Meaning) (ofClass : ClassRef) (attributes : List (String × Meaning))
    (traits : RecordTraits) : Eval (List (String × Meaning)) := do
  let fields := (← get).table.shownFields (.defined ofClass)
  if !traits.byFields || traits.unshown.isSome || traits.look.isSome || fields.isEmpty then
    return attributes
  fields.mapM fun name => do
    match attributes.lookup name with
    | some value => return (name, value)
    | none => return (name, ← machine.access item name)

/-- An instance with its look, and with what it gives when it is asked for a text, if its class has
functions for that. -/
def presentedInstance (item : Meaning) (ofClass : ClassRef) (attributes : List (String × Meaning))
    (traits : RecordTraits) (inner : Option Meaning) (isOuter : Bool) : Eval Meaning := do
  let said ← if isOuter then told? machine item "__str__" else pure none
  let look ←
    if said.isSome then pure traits.look
    else do pure ((← told? machine item "__repr__").or traits.look)
  return .instanceOf ofClass attributes { traits with look, said := said.or traits.said } inner

/-- Something with the look of everything in it. The fuel bounds how deep things stand inside one
another; what stands inside something else gives no text of its own. -/
def within : Nat → Bool → Meaning → Eval Meaning
  | 0, _, item => return item
  | fuel + 1, isOuter, item => do
    let one := within fuel false
    match item with
    | .held number content =>
      match content with
      | .instanceOf ofClass attributes traits inner => do
        let attributes ← currentFields machine item ofClass attributes traits
        let attributes ← attributes.mapM fun (label, value) => do return (label, ← one value)
        return .held number (← presentedInstance machine item ofClass attributes traits inner isOuter)
      | content => return .held number (← within fuel isOuter content)
    | .instanceOf ofClass attributes traits inner => do
      let attributes ← currentFields machine item ofClass attributes traits
      let attributes ← attributes.mapM fun (label, value) => do return (label, ← one value)
      presentedInstance machine item ofClass attributes traits inner isOuter
    | .tuple items => return .tuple (← items.mapM one)
    | .list items => return .list (← items.mapM one)
    | .set isFrozen items => return .set isFrozen (← items.mapM one)
    | .view kind of items => return .view kind of (← items.mapM one)
    | .map entries => return .map (← entries.mapM fun (key, value) => do
      return (← one key, ← one value))
    | .generic origin arguments => return .generic origin (← arguments.mapM one)
    | .choice members => return .choice (← members.mapM one)
    | .slice start stop step => return .slice (← one start) (← one stop) (← one step)
    | .bound f receiver => return .bound f (← one receiver)
    | .wrapped kind parts => return .wrapped kind (← parts.mapM one)
    | .flaw name [only] attributes =>
      return .flaw name [← within fuel isOuter only] attributes
    | .flaw name arguments attributes => return .flaw name (← arguments.mapM one) attributes
    | item => return item

/-- How deep things that are shown stand inside one another at most. -/
def depth : Nat := 1000

/-- Something with the look of everything in it, and with the text that it gives itself. -/
def presented (item : Meaning) : Eval Meaning := do
  within machine depth true (← Eval.fresh item)

/-- Something with the look of everything in it. -/
def shownInside (item : Meaning) : Eval Meaning := do
  within machine depth false (← Eval.fresh item)

end PageContracts.Language.Presenting
