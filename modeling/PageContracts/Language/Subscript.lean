import PageContracts.Language.Access
import PageContracts.Language.Operators
import PageContracts.Language.Slice

/-! # Brackets

What is chosen out of something by brackets behind it: items of rows, values of maps, and types with
others in brackets.
-/
namespace PageContracts.Language

namespace Subscript

open Meaning

variable (machine : Machine)

/-- A class with something in brackets behind it: a function of its author may say what that means,
and a class that descends from a type of containers can be followed by types. -/
def ofClass (type : TypeRef) (index : Meaning) : Eval Meaning := do
  let memory ← get
  match Access.member? memory type "__class_getitem__", memory.table.coreType? type with
  | some _, _ => machine.call (← machine.access (.type type) "__class_getitem__") [index] []
  | none, some (.builtin core) =>
    if genericNames.contains core then return applied type index
    else misuse "type is not subscriptable"
  | none, _ => misuse "type is not subscriptable"

/-- Several things in brackets. -/
def several (index : Meaning) : List Meaning :=
  match index with
  | .tuple items => items
  | item => [item]

/-- A form that makes types of others, with others in brackets behind it. -/
def ofFormer (name : String) (index : Meaning) : Except Failure Meaning := do
  match name, several index with
  | "Optional", _ => choose [← asType index, nothing]
  | "Union", [] => misuse "Cannot take a Union of no types."
  | "Union", items => choose items
  | name, items => return .generic (.other (some name) ("typing." ++ name) true) items

/-- What an index chooses out of the value that an instance is besides; its class may have a function
that is asked for what is missing in a map. -/
def ofInner (item inner index : Meaning) : Eval Meaning := do
  let index ← if inner.core matches .map _ then pure index else Access.asIndex machine index
  match ← Access.own? item "__missing__", inner.chosen index with
  | some f, .error failure =>
    if failure.kind = .missingKey then machine.call f [index] [] else throw failure
  | _, result => return ← result

/-- What stands in brackets behind something. -/
def of (base index : Meaning) : Eval Meaning := do
  match base.bare with
  | .former name => return ← ofFormer name index
  | .type (.builtin name) =>
    if let some members := Things.constantsOf? base then
      match index.text?.bind (fun label => members.lookup label) with
      | some found => return found
      | none => throw (.breach .missingKey index.shown)
    if genericNames.contains name then return applied (.builtin name) index
    else misuse "type is not subscriptable"
  | .type (.other called shown hashable) =>
    if shown.startsWith "typing." then return applied (.other called shown hashable) index
    else misuse "type is not subscriptable"
  | .type ref =>
    match ← Access.own? base "__getitem__" with
    | some f => machine.call f [index] []
    | none => ofClass machine ref index
  | .wrapped "mappingproxy" [whole] => return ← whole.chosen index
  | .instanceOf _ _ _ inner =>
    match ← Access.own? base "__getitem__", inner with
    | some f, _ => machine.call f [index] []
    | none, some inner => ofInner machine base inner index
    | none, none => misuse "object is not subscriptable"
  | .map _ => return ← base.chosen index
  | _ => return ← base.chosen (← Access.asIndex machine index)

end Subscript

end PageContracts.Language
