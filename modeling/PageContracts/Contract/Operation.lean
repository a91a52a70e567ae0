import PageContracts.Contract.TypeText

/-! # Operations

What a contract declares, read off its functions: for every operation its name, the types of its
parameters, what it returns and its locator.
-/
namespace PageContracts

/-- How an operation ends after its primitive calls. -/
inductive ReturnKind where
  | void
  | self
  | panel
  | page
  deriving DecidableEq, Repr, Inhabited

namespace ReturnKind

/-- The name of a return kind. -/
def label : ReturnKind → String
  | .void => "void"
  | .self => "self"
  | .panel => "panel"
  | .page => "page"

end ReturnKind

/-- A declared operation. A return type that is absent and one that is nothing both mean that
the operation returns nothing; the return kind is absent when the return type is no standard
one. -/
structure Operation where
  owner : String
  name : String
  parameterTypes : List TypeRef := []
  returnType : Option TypeRef := none
  returnKind : Option ReturnKind := none
  locator : Option LocatorDescriptor := none
  deriving DecidableEq, Repr, Inhabited

namespace Operation

/-- The name of an operation with that of its contract. -/
def qualifiedName (operation : Operation) : String :=
  operation.owner ++ "." ++ operation.name

/-- An operation in which every class has been replaced. -/
def mapClasses (change : ClassRef → ClassRef) (operation : Operation) : Operation :=
  { operation with
    parameterTypes := operation.parameterTypes.map (TypeRef.mapClasses change)
    returnType := operation.returnType.map (TypeRef.mapClasses change) }

/-- Whether the operation ends in one of the standard ways. -/
def returnsStandard (operation : Operation) : Bool :=
  operation.returnKind.isSome

/-- The return kind of an operation declared on a contract. -/
def classifyReturn (table : ClassTable) (contract : TypeRef) (returned : Option TypeRef) :
    Except Failure (Option ReturnKind) :=
  match returned with
  | none => .ok (some .void)
  | some type =>
    if type = .nothing then .ok (some .void)
    else if type = contract then .ok (some .self)
    else do
      if !(← table.isContract type) then return none
      match ← table.capability type with
      | some .page => return some .page
      | some .panel => return some .panel
      | none => return none

/-- A failure of a contract's own shape, at one of its operations. -/
def shapeFailure (kind : FailureKind) (contract operation message : String) : Failure :=
  { kind, message, contract := some contract, operation := some operation }

/-- The type of a parameter; one without annotation takes anything. -/
def parameterType (parameter : Parameter) : Language.Eval TypeRef :=
  match parameter.typeText with
  | none => return .anything
  | some text => do
    let type ← TypeText.resolve text
    return if parameter.typed then type else .anything

/-- The declared return type. -/
def declaredReturn (f : DeclaredFunction) : Language.Eval (Option TypeRef) :=
  match f.returns with
  | none => return none
  | some text => do return some (← TypeText.resolve text)

/-- The types that a function is annotated with: those of its parameters, and what it returns. -/
def annotatedTypes (f : DeclaredFunction) :
    Language.Eval (List TypeRef × Option TypeRef) := do
  let parameterTypes ← f.parameters.mapM parameterType
  return (parameterTypes, ← declaredReturn f)

/-- The failure of annotations as the failure of a contract: a name without meaning among them is a
flaw of the contract. -/
def annotationFailure (contract : ClassRef) (f : DeclaredFunction) (failure : Failure) : Failure :=
  if failure.kind = .unknownName then
    shapeFailure .contractShape contract.name f.name
      (contract.name ++ "." ++ f.name ++ ": cannot resolve annotation (" ++ failure.message ++ ")")
  else failure

/-- The types of a function of a contract. -/
def typesOf (contract : ClassRef) (f : DeclaredFunction) :
    Language.Eval (List TypeRef × Option TypeRef) := fun memory =>
  match annotatedTypes f (TypeText.inside contract memory) with
  | .ok types memory => .ok types memory
  | .error failure memory => .error (annotationFailure contract f failure) memory

/-- Require that a parameter takes its argument by position. -/
def requirePositional (contract : ClassRef) (name : String) (parameter : Parameter) :
    Except Failure Unit :=
  match parameter.kind with
  | .positional | .positionalOnly => .ok ()
  | _ =>
    .error (shapeFailure .unsupportedShape contract.name name
      (contract.name ++ "." ++ name ++ ": parameter '" ++ parameter.name ++
        "' must be positional"))

/-- Read the declaration of a function. All annotations get their meaning before the parameters
are looked at. -/
def read (contract : ClassRef) (f : DeclaredFunction) : Language.Eval Operation := do
  let contract := (← get).table.current contract
  let (parameterTypes, returnType) ← typesOf contract f
  (f.parameters.forM (requirePositional contract f.name) : Except Failure Unit)
  let table := (← get).table
  let returnKind ← (classifyReturn table (.defined (table.current contract)) returnType :
    Except Failure (Option ReturnKind))
  return {
    owner := contract.name
    name := f.name
    parameterTypes
    returnType
    returnKind
    locator := f.locator }

/-- Whether a member's name is public. -/
def isPublic (name : String) : Bool :=
  name.toList.head? ≠ some '_'

/-- The plain functions among members, with the names they are found under. -/
def functionsIn (members : List (String × Member)) : List (String × DeclaredFunction) :=
  members.filterMap fun
    | (name, .function f) => if isPublic name then some (name, f) else none
    | _ => none

/-- The functions that are operations, met in order; a name that was met before is passed
over. -/
def collect (seen : List String) : List (String × DeclaredFunction) → List DeclaredFunction
  | [] => []
  | (name, f) :: rest =>
    if seen.contains name then collect seen rest else f :: collect (name :: seen) rest

/-- The functions a contract declares or inherits, nearest first. A member that is no function
hides none it overrides. -/
def declaredFunctions (table : ClassTable) (contract : ClassRef) : List DeclaredFunction :=
  collect [] ((table.lineage (.defined contract)).flatMap fun info => functionsIn info.members)

/-- The failure of a type that is no contract. -/
def notContract (type : TypeRef) : Failure :=
  { kind := .contractShape
    message := Quoted.quoted type.name ++ " is not a Page or Panel contract"
    contract := some type.name }

/-- The function that a class has under a name now. -/
def functionOf? (table : ClassTable) (owner : ClassRef) (name : String) :
    Option DeclaredFunction :=
  (functionsIn (table.ownMembers (.defined owner))).lookup name

/-- Require that a class has as many members as when the reading of them began. -/
def requireSize (owner : ClassRef) (count : Nat) : Language.Eval Unit := do
  if ((← get).table.ownMembers (.defined owner)).length ≠ count then
    throw (.breach .outOfTurn "dictionary changed size during iteration")

/-- Read the operations among the members of a class that have some names; names that were met before
are passed over. What is read may change the members that are still to be read, but not their
number. The result is all names met, and the operations. -/
def readMembers (contract owner : ClassRef) (count : Nat) :
    List String → List String → Language.Eval (List String × List Operation)
  | [], seen => return (seen, [])
  | name :: rest, seen => do
    let found := functionOf? (← get).table owner name
    match if seen.contains name then none else found with
    | none => readMembers contract owner count rest seen
    | some f =>
      let operation ← read contract f
      requireSize owner count
      let (seen, operations) ← readMembers contract owner count rest (name :: seen)
      return (seen, operation :: operations)

/-- Read the operations of classes, nearest first. -/
def readClasses (contract : ClassRef) :
    List ClassRef → List String → Language.Eval (List Operation)
  | [], _ => return []
  | owner :: rest, seen => do
    let members := (← get).table.ownMembers (.defined owner)
    let (seen, own) ← readMembers contract owner members.length (members.map Prod.fst) seen
    return own ++ (← readClasses contract rest seen)

/-- Read every operation of a contract. When nothing that is read changes a class, these are the
declared functions, read one after the other. -/
def declared (type : TypeRef) : Language.Eval (List Operation) := do
  let table := (← get).table
  match type with
  | .defined contract =>
    if ← (table.isContract type : Except Failure Bool) then
      let operations ← readClasses contract ((table.lineage type).map ClassInfo.ref) []
      let table := (← get).table
      return operations.map (mapClasses table.current)
    else throw (notContract type)
  | _ => throw (notContract type)

end Operation
end PageContracts
