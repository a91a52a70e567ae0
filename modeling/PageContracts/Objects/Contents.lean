import PageContracts.Language.Evaluation
import PageContracts.Objects.Access

/-! # Contents

An object of a contract that descends from the type of lists or maps is a list or a map besides, empty
at first. Its methods work on what it holds.
-/
namespace PageContracts.LiveObject

open PageContracts.Language

/-- The methods that leave the object itself as their result. -/
def givingItself : List String := ["__iadd__", "__imul__", "__ior__"]

/-- The methods that go through what they are given, or compare with it. -/
def goingThrough : List String :=
  ["extend", "update", "__add__", "__eq__", "__ge__", "__gt__", "__iadd__", "__ior__", "__le__",
    "__lt__", "__ne__", "__or__", "__ror__"]

/-- What is known by other means than the contents. -/
def apartFromContents : List String :=
  ["__delattr__", "__dir__", "__getattribute__", "__init__", "__repr__", "__setattr__", "__str__"]

/-- Whether what an object holds has a method of a name. -/
def offers (contents : Value) (name : String) : Bool :=
  match member? contents.typeName name with
  | some (owner, kind) =>
    owner ≠ commonType && (kind = .method || kind = .operation) && !apartFromContents.contains name
  | none => false

variable {β : Type}

/-- A value in which an object stands for what it holds. -/
def contentsBehind (world : World β) (value : Value) : Value :=
  match value with
  | .object ref => ((world.objects[ref.number]?).bind LiveObject.contents).getD value
  | value => value

/-- What a method of the contents gives, and what has become of them. -/
def ofContents (table : ClassTable) (contents : Value) (name : String) (positions : List Value)
    (named : List (String × Value)) : Except Failure (Value × Value) :=
  let named := named.map fun (label, value) => (label, Meaning.ofValue value)
  let (item, cells) := Memory.own (Meaning.ofValue contents) #[]
  let run : Eval (Value × Value) := do
    let result ← (machine depthLimit).method item name (Meaning.ofValues positions) named
    return ((← Eval.fresh result).toValue, (← Eval.fresh item).toValue)
  match run { table, cells } with
  | .ok found _ => .ok found
  | .error failure _ => .error failure

end PageContracts.LiveObject
