import PageContracts.Language.Classes
import PageContracts.Language.Functions

/-! # Instances made by expressions

An instance of a class is made by the function that its class has for that, and filled by another one.
Either may be an author's. Where the class descends from a type of the language, the instance is a value
of that type besides: some of these are made whole, others are filled when they are there.
-/
namespace PageContracts.Language.Instances

open Meaning

/-- The type of the language whose values the instances of a class are besides. -/
def coreOf? (table : ClassTable) (type : TypeRef) : Option String :=
  match table.coreType? type with
  | some (.builtin name) => some name
  | _ => none

/-- Whether the values of a type of the language are filled after they have been made. -/
def isFilledLater (core : String) : Bool :=
  ["list", "dict", "set", "bytearray"].contains core || isFailureType core

/-- A value of a type of the language before it is filled. -/
def unfilled (core : String) (positions : List Meaning) : Meaning :=
  match core with
  | "list" => .list []
  | "dict" => .map []
  | "set" => .set false []
  | "bytearray" => .bytearray []
  | name => .flaw name positions []

/-- The attributes of a new instance as they were given, so that they stay what they are. -/
def givenAttributes (memory : Memory) (ref : ClassRef) (positions : List Meaning)
    (named : List (String × Meaning)) (attributes : List (String × Meaning)) :
    List (String × Meaning) :=
  let fields := ((memory.table.lineage (.defined ref)).findSome? ClassInfo.fields).getD []
  let given := (fields.map Field.name).zip positions ++ named
  attributes.map fun (name, value) => (name, (given.lookup name).getD value)

variable (machine : Machine)

/-- An instance of a class, with the value it is besides, that nothing else has been done to. -/
def withInner (ref : ClassRef) (inner : Option Meaning) : Eval Meaning := do
  let type : TypeRef := .defined ref
  Eval.owned (.instanceOf ref [] ((← get).table.traitsOf type [] []) inner)

/-- An instance of a class that nothing has been done to but making it. What is filled later is filled
at once when `isWhole` says so. -/
def blank (ref : ClassRef) (positions : List Meaning) (named : List (String × Meaning))
    (isWhole : Bool) : Eval Meaning := do
  let table := (← get).table
  let type : TypeRef := .defined ref
  match coreOf? table type with
  | some core =>
    if isFilledLater core && !isWhole then withInner ref (some (unfilled core positions))
    else do withInner ref (some (← machine.call (.type (.builtin core)) positions named))
  | none => do
    let named := named.map fun (name, item) => (name, item.toValue)
    let inner ← (table.madeCore type (toValues positions) named : Except Failure _)
    withInner ref (inner.map ofValue)

/-- Fill the value that an instance is besides. -/
def refill (inner : Meaning) (positions : List Meaning) (named : List (String × Meaning)) :
    Eval Unit := do
  let content ← machine.call (.type inner.core.typeOf) positions named
  Eval.rewrite inner (← Eval.fresh content).bare

/-- Fill an instance that has been made, by the author's function if its class has one. -/
def initialize? (item : Meaning) (ref : ClassRef) (positions : List Meaning)
    (named : List (String × Meaning)) (isWhole : Bool) : Eval Unit := do
  let memory ← get
  match Access.functionOn? memory item (.defined ref) "__init__" with
  | some f =>
    match (← machine.call f positions named).bare with
    | .constant .none => return ()
    | _ => misuse "__init__() should return None"
  | none =>
    match item.bare with
    | .instanceOf _ _ _ (some inner) =>
      if !isWhole && isFilledLater inner.core.typeName then refill machine inner positions named
    | _ => return ()

/-- Whether something is an instance of a class. -/
def isInstance (memory : Memory) (item : Meaning) (ref : ClassRef) : Bool :=
  (Access.lineage memory.table (Access.typeOf memory item)).contains (.defined ref)

/-- Make an instance of a class that makes classes. -/
def makeClass (kind : ClassRef) (positions : List Meaning) (named : List (String × Meaning)) :
    Eval Meaning := do
  match positions with
  | [label, bases, entries] =>
    match bases.bare, entries.core with
    | .tuple bases, .map entries => Classes.define machine (some kind) label bases entries named
    | _, _ => Arguments.refused
  | _ => Arguments.refused

/-- Make an instance of a class. -/
def instantiate (ref : ClassRef) (positions : List Meaning) (named : List (String × Meaning)) :
    Eval Meaning := do
  let memory ← get
  let type : TypeRef := .defined ref
  let core := coreOf? memory.table type
  match Access.member? memory type "__new__", Access.member? memory type "__init__" with
  | some (_, .inl maker), _ =>
    let f := if let .wrapped _ (f :: _) := maker.bare then f else maker
    let item ← Eval.fresh (← machine.call f (.type type :: positions) named)
    if isInstance (← get) item ref then initialize? machine item ref positions named false
    Eval.fresh item
  | none, initializer =>
    let isOwn := (initializer.map fun (_, found) => found matches .inl _).getD false
    if core = some "type" then do
      let item ← makeClass machine ref positions named
      if isOwn then initialize? machine item ref positions named true
      return item
    else if isOwn || (core.isSome && !memory.table.isRecordType type) then do
      let item ← blank machine ref positions named initializer.isNone
      initialize? machine item ref positions named true
      Eval.fresh item
    else do
      let values := named.map fun (name, item) => (name, item.toValue)
      let made ← (memory.table.instantiate ref (toValues positions) values : Except Failure _)
      match ofValue made with
      | .instanceOf ofClass attributes traits inner =>
        return .instanceOf ofClass (givenAttributes memory ref positions named attributes) traits inner
      | item => return item
  | _, _ => do
    let values := named.map fun (name, item) => (name, item.toValue)
    return ofValue (← (memory.table.instantiate ref (toValues positions) values : Except Failure _))

/-- What the function of a type of the language makes that makes its values, when it is called for a type
that may descend from it. -/
def makeBy (owner : String) (type : TypeRef) (positions : List Meaning)
    (named : List (String × Meaning)) : Eval Meaning := do
  let memory ← get
  let descends := (Access.lineage memory.table type).contains (.builtin owner)
  if !descends then misuse "is not a subtype"
  match type with
  | .defined ref =>
    let core := coreOf? memory.table type
    if core = some "type" then makeClass machine ref positions named
    else if owner = commonType then do
      if core.isSome then misuse "object.__new__() is not safe"
      let has (name : String) : Bool := (Access.member? memory type name).isSome
      if !(positions.isEmpty && named.isEmpty) && (has "__new__" || !has "__init__") then
        misuse "object.__new__() takes exactly one argument"
      blank machine ref [] [] false
    else blank machine ref positions named false
  | .builtin name =>
    if name ≠ owner && !isFailureType name then misuse "__new__() is not safe"
    if isFilledLater name then return unfilled name positions
    else machine.call (.type type) positions named
  | type => machine.call (.type type) [] []

end PageContracts.Language.Instances
