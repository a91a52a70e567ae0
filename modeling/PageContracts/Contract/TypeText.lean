import PageContracts.Language.Evaluation

/-! # Types as text

The types that a function is annotated with are written as texts. Each is read as an expression, and
what it means is a type or something in the place of one; what is still written as a text inside it
is read in turn. The annotations of one function are evaluated one after the other, and see the names
that those before them have bound.
-/
namespace PageContracts.TypeText

open PageContracts.Language

/-- A meaning in which everything that is written out as a text has got its own meaning. A text inside
its own meaning stays as it is. Texts stand inside one another as often as the fuel says. -/
def settle : Nat → List String → Meaning → Eval Meaning
  | 0, _, _ => throw (.breach .tooDeep "maximum recursion depth exceeded")
  | fuel + 1, chain, item =>
    match item with
    | .later text expression => do
      if chain.contains text then return item
      let meaning ← expression.evaluate
      settle fuel (text :: chain) (← meaning.asType)
    | .generic origin arguments => do
      let read ← arguments.mapM fun argument => do
        match argument.text? with
        | some _ => return ← argument.asType
        | none => return argument
      return .generic origin (← read.mapM (settle fuel chain))
    | .union members => do
      let settled ← members.mapM (settle fuel chain)
      if Meaning.sameAll settled members then return item
      match settled with
      | [] => return item
      | first :: rest => return ← (rest.foldlM Meaning.join first : Except Failure Meaning)
    | .choice members => do
      let settled ← members.mapM (settle fuel chain)
      if Meaning.sameAll settled members then return item
      return ← Meaning.choose settled
    | item => return item

/-- How often texts stand inside one another at most. -/
def depthLimit : Nat := 900

/-- What something is called, if it has a name of its own that is a text. -/
def nameOf? (item : Meaning) : Eval (Option String) := do
  return (← Access.get? (machine Language.depthLimit) item "__name__").bind Meaning.text?

/-- The type a meaning stands for once everything in it has its meaning. -/
def toType (item : Meaning) : Eval TypeRef := do
  match item with
  | .type ref => return ref
  | .choice [.type of, .type (.builtin "NoneType")] => return .optional of
  | .choice [.type (.builtin "NoneType"), .type of] => return .optional of
  | item => return .other (← nameOf? item) item.shown item.hashable

/-- The type that a text names. -/
def resolve (text : String) : Eval TypeRef := do
  let item ← (Meaning.text text).asType
  toType (← Eval.fresh (← settle depthLimit [] item))

/-- The memory in which the annotations of a function of a contract are evaluated: the contract is
known by its own name. -/
def inside (contract : ClassRef) (memory : Memory) : Memory :=
  { memory with
    locals := [(contract.name, .type (.defined contract))]
    localsView := none
    depth := 0 }

end PageContracts.TypeText
