import PageContracts.Plan.Rule

/-! # Registries

A registry is a row of rules. It implements an operation only when exactly one of its places
accepts it.
-/
namespace PageContracts

/-- A row of rules. -/
structure Registry where
  rules : List Rule := Rule.standard
  deriving DecidableEq, Repr, Inhabited

namespace Registry

/-- What trying the rules one after the other has come to: the rules that accept the operation,
and the first complaint of a rule whose shape fits. -/
structure Trial where
  accepted : List Rule := []
  complaint : Option Failure := none
  deriving Repr, Inhabited

/-- Try one more rule. -/
def tryRule (table : ClassTable) (operation : Operation) (trial : Trial) (rule : Rule) :
    Trial :=
  if rule.matchesShape table operation then
    match rule.checkArguments operation with
    | .ok _ => { trial with accepted := trial.accepted ++ [rule] }
    | .error failure => { trial with complaint := trial.complaint.or (some failure) }
  else trial

/-- Try all rules of a registry. -/
def tryAll (registry : Registry) (table : ClassTable) (operation : Operation) : Trial :=
  registry.rules.foldl (tryRule table operation) {}

/-- How a return type appears in messages. -/
def returnName (operation : Operation) : String :=
  match operation.returnType with
  | none => "None"
  | some type => type.name

/-- The failure of an operation no rule has the shape of. -/
def unmatched (operation : Operation) : Failure :=
  Operation.shapeFailure .unsupportedShape operation.owner operation.name
    ("no generator matches " ++ operation.qualifiedName ++
      Quoted.quotedRow (operation.parameterTypes.map TypeRef.name) ++ " -> " ++
      returnName operation)

/-- The failure of an operation that several places of a registry accept. -/
def ambiguous (operation : Operation) (rules : List Rule) : Failure :=
  Operation.shapeFailure .ambiguousOperation operation.owner operation.name
    (operation.qualifiedName ++ " is matched by several generators: " ++
      String.intercalate ", " (rules.map Rule.label))

/-- The rule that implements an operation. A complaint is reported for the declaration it
arose at. -/
def select (registry : Registry) (table : ClassTable) (operation : Operation) :
    Except Failure Rule :=
  let trial := registry.tryAll table operation
  match trial.accepted with
  | [rule] => .ok rule
  | [] =>
    match trial.complaint with
    | some failure =>
      .error { failure with
        contract := some operation.owner, operation := some operation.name }
    | none => .error (unmatched operation)
  | rules => .error (ambiguous operation rules)

end Registry
end PageContracts
