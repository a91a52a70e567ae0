import PageContracts.Contract.ClassBody
import PageContracts.Objects.Reading
import PageContracts.Plan.Registry

/-! # Compilation

Contracts are compiled at most once, and an implementation is built at most once for a contract
and a base, until what is cached is forgotten. A contract that does not compile leaves no trace
in the caches.
-/
namespace PageContracts.Compilation

variable {β : Type}

/-- How the ending of a plan appears in the log. -/
def endingName (plan : CallPlan) : String :=
  match plan.ending with
  | some kind => kind.label
  | none => "result"

/-- What is logged about a compiled operation. -/
def operationMessage (rule : Rule) (plan : CallPlan) : String :=
  "Compiled " ++ plan.operation.qualifiedName ++ " with " ++ rule.label ++ ": " ++
    Quoted.quotedList (plan.calls.map PrimitiveCall.action) ++ " -> " ++ endingName plan

/-- Compile one operation. -/
def compileOperation (registry : Registry) (operation : Operation) : Run β CallPlan := do
  let table := (← get).classes
  registry.rules.forM fun rule => Run.ofExcept (rule.requireMark table operation)
  let rule ← Run.ofExcept (registry.select table operation)
  Run.ofExcept (rule.requireFields table operation)
  let plan := rule.plan table operation
  Run.log .debug (operationMessage rule plan)
  return plan

/-- Compile operations in order; of two with one name the later plan holds, in the place of the
earlier. -/
def compileOperations (registry : Registry) :
    List Operation → List (String × CallPlan) → Run β (List (String × CallPlan))
  | [], plans => return plans
  | operation :: rest, plans => do
    let plan ← compileOperation registry operation
    compileOperations registry rest (assign operation.name plan plans)

/-- The nearest member of a name, which must exist. -/
def exposedMember (table : ClassTable) (contract : ClassRef) (name : String) :
    Except Failure (String × Member) :=
  match table.member? (.defined contract) name with
  | some found => .ok (name, found)
  | none => .error (.missing name)

/-- The failure of a contract without operations. -/
def noOperations (contract : ClassRef) : Failure :=
  { kind := .contractShape
    message := contract.name ++ " declares no operations"
    contract := some contract.name }

/-- Compile a class that is not in the cache. -/
def compileAfresh (contract : ClassRef) : Run β CompiledContract := do
  let operations ← Run.reading (Operation.declared (.defined contract))
  let table := (← get).classes
  let contract := table.current contract
  if operations.isEmpty then throw (noOperations contract)
  let plans ← compileOperations {} operations []
  let members ← Run.ofExcept (plans.mapM fun entry => exposedMember table contract entry.1)
  Run.log .debug ("Compiled contract " ++ contract.name ++ ": " ++ toString plans.length ++
    " operation(s)")
  return { number := (← get).made, contract, plans, members }

/-- The cached compilation of a contract. -/
def cached? (world : World β) (contract : ClassRef) : Option CompiledContract :=
  world.compiled.find? fun compiled => compiled.contract = contract

/-- Compile a contract, unless that has been done. -/
def compile (type : TypeRef) : Run β CompiledContract := do
  match type with
  | .defined contract =>
    match cached? (← get) contract with
    | some compiled => return compiled
    | none =>
      let compiled ← compileAfresh contract
      modify fun world =>
        { world with compiled := world.compiled ++ [compiled], made := world.made + 1 }
      return compiled
  | _ => throw (Operation.notContract type)

/-- The parameters with which a type of the language makes its values, as far as they can be
told. -/
def builtinSignature (name : String) : Except Failure (List Parameter) :=
  if name = "object" then .ok []
  else if name = "float" then
    .ok [{ name := "x", kind := .positionalOnly, default := some (.int 0) }]
  else if name = "list" then
    .ok [{ name := "iterable", kind := .positionalOnly, default := some (.list []) }]
  else .error (.valueBreach "no signature found")

/-- The parameters with which a class makes its instances. -/
def classSignature (table : ClassTable) (type : TypeRef) : Except Failure (List Parameter) :=
  match (table.lineage type).find? fun info =>
      info.fields.isSome || (info.members.lookup "__init__").isSome with
  | none => .ok []
  | some info =>
    match info.members.lookup "__init__" with
    | none => .ok ((info.fields.getD []).map fun field =>
        { name := field.name, default := field.default })
    | some (.function f) => .ok f.parameters
    | some (.wrapped .static f) => .ok f.parameters
    | some _ => .error (.typeBreach "not a callable object")

/-- The parameters that a method takes, the object it is called on included: those of a plain
function, of one that is static, or of a class. -/
def signatureOf (table : ClassTable) : Member → Except Failure (List Parameter)
  | .function f => .ok f.signature
  | .wrapped .static f => .ok f.signature
  | .constant (.type type) =>
    match type with
    | .builtin name => builtinSignature name
    | .anything | .optional _ =>
      .ok [{ name := "args", kind := .surplusPositions },
        { name := "kwds", kind := .surplusNames }]
    | type => classSignature table type
  | found =>
    match table.sayOf? found "__call__" with
    | some (.function f) | some (.wrapped .static f) => .ok f.parameters
    | some (.wrapped .onClass f) => behindFirst f.parameters
    | _ => .error (.typeBreach "not a callable object")
where
  /-- The parameters of a method behind the one for what it is called on. -/
  behindFirst : List Parameter → Except Failure (List Parameter)
    | [] => .error (.valueBreach "invalid method signature")
    | first :: rest =>
      match first.kind with
      | .surplusPositions => .ok (first :: rest)
      | .positional | .positionalOnly => .ok rest
      | _ => .error (.valueBreach "invalid method signature")

/-- The method that runs a plan. -/
def methodOf (table : ClassTable) (compiled : CompiledContract) (entry : String × CallPlan) :
    Except Failure (String × Method) := do
  match compiled.members.lookup entry.1 with
  | none => throw (.missing entry.1)
  | some found =>
    let signature ← signatureOf table found
    return (entry.1, { plan := entry.2, signature })

/-- The cached implementation of a contract over a base. -/
def implemented? (world : World β) (contract : TypeRef) (base : BaseClass) :
    Option Implementation :=
  world.implementations.find? fun implementation =>
    .defined implementation.contract = contract && implementation.base = base

/-- The implementation of a contract over a base, built unless that has been done. -/
def implement (type : TypeRef) (base : BaseClass) : Run β Implementation := do
  match implemented? (← get) type base with
  | some implementation => return implementation
  | none =>
    let compiled ← compile type
    let table := (← get).classes
    if !compiled.contract.knowsPlace then throw (.missing "__module__")
    let methods ← Run.ofExcept (compiled.plans.mapM (methodOf table compiled))
    Run.ofExcept (ClassBody.requireDescent (table.member? type ClassBody.descentMember))
    let implementation : Implementation :=
      { number := (← get).made, name := compiled.contract.name ++ "Impl"
        contract := compiled.contract, base, methods }
    modify fun world =>
      { world with
        implementations := world.implementations ++ [implementation], made := world.made + 1 }
    return implementation

/-- Forget everything that is cached. -/
def forget : Run β Unit :=
  modify fun world => { world with compiled := [], implementations := [] }

end PageContracts.Compilation
