import PageContracts.Contract.Class

/-! # Binding

Matching the arguments of a call with the parameters of a function. A call binds only when every
parameter gets exactly one value and every argument has a parameter.
-/
namespace PageContracts.Binding

/-- Whether a parameter can be given by name. -/
def takesName (parameter : Parameter) : Bool :=
  parameter.kind = .positional || parameter.kind = .keywordOnly

/-- Whether a parameter can be given by position. -/
def takesPosition (parameter : Parameter) : Bool :=
  parameter.kind = .positional || parameter.kind = .positionalOnly

/-- The value of a parameter that got no position: given by name, or its default. -/
def namedValue (parameter : Parameter) (named : List (String × Value)) :
    Except Failure Value :=
  match if takesName parameter then named.lookup parameter.name else none with
  | some value => .ok value
  | none =>
    match parameter.default with
    | some value => .ok value
    | none => .error (.typeBreach ("missing a required argument: " ++
        Quoted.quoted parameter.name))

/-- The values of the parameters that can be given by position, in order, and the positions left
over. -/
def bindPositions (named : List (String × Value)) : List Parameter → List Value →
    Except Failure (List Value × List Value)
  | [], positions => .ok ([], positions)
  | parameter :: rest, position :: positions =>
    if takesName parameter && (named.lookup parameter.name).isSome then
      .error (.typeBreach ("multiple values for argument " ++ Quoted.quoted parameter.name))
    else do
      let (values, left) ← bindPositions named rest positions
      return (position :: values, left)
  | parameter :: rest, [] => do
    let value ← namedValue parameter named
    let (values, left) ← bindPositions named rest []
    return (value :: values, left)

/-- Whether a named argument has a parameter to go to. -/
def hasTarget (parameters : List Parameter) (name : String) : Bool :=
  parameters.any fun parameter =>
    parameter.kind = .surplusNames || (takesName parameter && parameter.name = name)

/-- Enter a function with the arguments of a call: the result is the row of values given by
position, defaults filled in and surplus positions at its end. A surplus name may be that of a
parameter given by position alone. -/
def enter (parameters : List Parameter) (positions : List Value)
    (named : List (String × Value)) : Except Failure (List Value) := do
  let (values, surplus) ← bindPositions named (parameters.filter takesPosition) positions
  let takesSurplus := parameters.any fun parameter => parameter.kind = .surplusPositions
  if !surplus.isEmpty && !takesSurplus then throw (.typeBreach "too many positional arguments")
  match named.find? fun entry => !hasTarget parameters entry.1 with
  | some (name, _) =>
    throw (.typeBreach ("got an unexpected keyword argument " ++ Quoted.quoted name))
  | none =>
    let keywordOnly := parameters.filter fun parameter => parameter.kind = .keywordOnly
    keywordOnly.forM fun parameter => (namedValue parameter named).map fun _ => ()
    return values ++ surplus

/-- The parameters given by position alone that get no position. -/
def unfilled (parameters : List Parameter) (positions : List Value) : List Parameter :=
  ((parameters.filter takesPosition).drop positions.length).filter fun parameter =>
    parameter.kind = .positionalOnly

/-- Bind the arguments of a call before the call is made, which is stricter than making it: the
name of a parameter given by position alone must not be used while the parameter has no value. -/
def bind (parameters : List Parameter) (positions : List Value)
    (named : List (String × Value)) : Except Failure (List Value) := do
  match (unfilled parameters positions).find? fun p => (named.lookup p.name).isSome with
  | some parameter =>
    throw (.typeBreach (Quoted.quoted parameter.name ++ " parameter is positional only"))
  | none => enter parameters positions named

theorem namedValue_onlyMishaps (parameter : Parameter) (named : List (String × Value)) :
    OnlyMishaps (namedValue parameter named) := by
  unfold namedValue
  split
  · exact .ok _
  · split
    · exact .ok _
    · exact .typeBreach _

theorem bindPositions_onlyMishaps (named : List (String × Value)) (parameters : List Parameter)
    (positions : List Value) : OnlyMishaps (bindPositions named parameters positions) := by
  induction parameters generalizing positions with
  | nil => exact .ok _
  | cons parameter rest ih =>
    cases positions with
    | nil =>
      exact (namedValue_onlyMishaps _ _).bind fun _ _ => (ih _).bind fun _ _ => .ok _
    | cons position positions =>
      exact .ite (.typeBreach _) ((ih _).bind fun _ _ => .ok _)

theorem enter_onlyMishaps (parameters : List Parameter) (positions : List Value)
    (named : List (String × Value)) : OnlyMishaps (enter parameters positions named) := by
  refine (bindPositions_onlyMishaps _ _ _).bind fun bound _ => ?_
  refine .ite (.typeBreach _) ?_
  split
  · exact .typeBreach _
  · refine (OnlyMishaps.forM (fun parameter => ?_) _).bind fun _ _ => .ok _
    exact (namedValue_onlyMishaps _ _).map _

theorem bind_onlyMishaps (parameters : List Parameter) (positions : List Value)
    (named : List (String × Value)) : OnlyMishaps (bind parameters positions named) := by
  unfold bind
  split
  · exact .typeBreach _
  · exact enter_onlyMishaps _ _ _

end PageContracts.Binding
