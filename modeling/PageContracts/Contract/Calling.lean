import PageContracts.Contract.Instance

/-! # Calling values

What comes of calling a value, or a member of it, as far as a program can tell: functions of the
author take their arguments and give nothing, and classes make instances.
-/
namespace PageContracts
namespace ClassTable

/-- Something that cannot be called. -/
def uncallable {α : Type} : Except Failure α :=
  .error (.typeBreach "object is not callable")

/-- Call a function of the author: it takes its arguments and gives nothing. -/
def callFunction (f : DeclaredFunction) (positions : List Value) (named : List (String × Value)) :
    Except Failure Value :=
  (Binding.enter f.signature positions named).map fun _ => .none

/-- Make a value of a type of the language. -/
def makeBuiltin (name : String) (positions : List Value) (named : List (String × Value)) :
    Except Failure Value :=
  match name with
  | "str" => do return .text (← Conversion.textOf positions named)
  | "int" => do return .int (← Conversion.integerOf positions named)
  | "bytes" => do return .bytes (← Conversion.bytesOf positions named)
  | "list" | "dict" => do return (← filledCore name false positions named).getD .none
  | "float" | "bool" =>
    match positions, named with
    | [], [] => .ok (if name = "bool" then .bool false else .float (Binary64.zero false))
    | [value], [] =>
      if name = "bool" then .ok (.bool value.truthy)
      else do return .float (← Conversion.double value)
    | _, _ => Conversion.misused "wrong arguments"
  | "NoneType" =>
    if positions.isEmpty && named.isEmpty then .ok .none
    else Conversion.misused "NoneType takes no arguments"
  | _ => uncallable

/-- Call a value. -/
def callValue (table : ClassTable) (value : Value) (positions : List Value)
    (named : List (String × Value)) : Except Failure Value :=
  match value with
  | .type (.defined ref) => table.instantiate ref positions named
  | .type (.builtin name) => makeBuiltin name positions named
  | .record ofClass _ _ _ => callInstance ofClass
  | .object ref => callInstance ref.contract
  | _ => uncallable
where
  /-- Call an instance of a class, if its author says what that does. -/
  callInstance (ofClass : ClassRef) : Except Failure Value :=
    match table.member? (.defined ofClass) "__call__" with
    | some (.function f) => callFunction f (value :: positions) named
    | _ => uncallable

/-- Call a member of a class on one of its instances. What is no function is called as it is; a
property gives nothing, which cannot be called. -/
def callOn (table : ClassTable) (found : Member) (instanceValue : Value) (positions : List Value)
    (named : List (String × Value)) : Except Failure Value :=
  match found with
  | .function f => callFunction f (instanceValue :: positions) named
  | .wrapped .onClass f => callFunction f (instanceValue :: positions) named
  | .wrapped .static f => callFunction f positions named
  | .wrapped .property _ => uncallable
  | found => do table.callValue (← table.taken found) positions named

/-- Call what a value has under a name. -/
def callMember (table : ClassTable) (value : Value) (name : String) (positions : List Value)
    (named : List (String × Value)) : Except Failure Value :=
  match value with
  | .record ofClass attributes _ _ =>
    match attributes.lookup name, table.member? (.defined ofClass) name with
    | some own, _ => table.callValue own positions named
    | none, some found => table.callOn found value positions named
    | none, none => .error (.missing name)
  | .type type =>
    match table.member? type name with
    | some (.function f) => callFunction f positions named
    | some found => table.callOn found value positions named
    | none => .error (.missing name)
  | _ => .error (.missing name)

/-- The value that a value has under a name. -/
def memberOf (table : ClassTable) (value : Value) (name : String) : Except Failure Value :=
  match value with
  | .record ofClass attributes _ _ => table.attributeOf ofClass attributes name
  | .type type =>
    match table.member? type name with
    | some found => table.taken found
    | none => .error (.missing name)
  | _ => .error (.missing name)

section Mishaps

variable (table : ClassTable) (positions : List Value) (named : List (String × Value))

theorem callFunction_onlyMishaps (f : DeclaredFunction) :
    OnlyMishaps (callFunction f positions named) :=
  (Binding.enter_onlyMishaps _ _ _).map _

theorem makeBuiltin_onlyMishaps (name : String) :
    OnlyMishaps (makeBuiltin name positions named) := by
  unfold makeBuiltin
  split
  · exact (Conversion.textOf_onlyMishaps _ _).bind fun _ _ => .ok _
  · exact (Conversion.integerOf_onlyMishaps _ _).bind fun _ _ => .ok _
  · exact (Conversion.bytesOf_onlyMishaps _ _).bind fun _ _ => .ok _
  · exact (filledCore_onlyMishaps _ _ _ _).bind fun _ _ => .ok _
  · exact (filledCore_onlyMishaps _ _ _ _).bind fun _ _ => .ok _
  · split
    · exact .ok _
    · exact .ite (.ok _) ((Conversion.double_onlyMishaps _).bind fun _ _ => .ok _)
    · exact .typeBreach _
  · split
    · exact .ok _
    · exact .ite (.ok _) ((Conversion.double_onlyMishaps _).bind fun _ _ => .ok _)
    · exact .typeBreach _
  · exact .ite (.ok _) (.typeBreach _)
  · exact .typeBreach _

theorem callValue_onlyMishaps (value : Value) :
    OnlyMishaps (table.callValue value positions named) := by
  have calling (ofClass : ClassRef) :
      OnlyMishaps (callValue.callInstance table value positions named ofClass) := by
    unfold callValue.callInstance
    split
    · exact callFunction_onlyMishaps _ _ _
    · exact .typeBreach _
  unfold callValue
  split
  · exact table.instantiate_onlyMishaps _ _ _
  · exact makeBuiltin_onlyMishaps _ _ _
  · exact calling _
  · exact calling _
  · exact .typeBreach _

theorem callOn_onlyMishaps (found : Member) (instanceValue : Value) :
    OnlyMishaps (table.callOn found instanceValue positions named) := by
  unfold callOn
  split
  · exact callFunction_onlyMishaps _ _ _
  · exact callFunction_onlyMishaps _ _ _
  · exact callFunction_onlyMishaps _ _ _
  · exact .typeBreach _
  · exact (table.taken_onlyMishaps _).bind fun _ _ => table.callValue_onlyMishaps _ _ _

theorem callMember_onlyMishaps (value : Value) (name : String) :
    OnlyMishaps (table.callMember value name positions named) := by
  unfold callMember
  split
  · split
    · exact table.callValue_onlyMishaps _ _ _
    · exact table.callOn_onlyMishaps _ _ _ _
    · exact .missing _
  · split
    · exact callFunction_onlyMishaps _ _ _
    · exact table.callOn_onlyMishaps _ _ _ _
    · exact .missing _
  · exact .missing _

theorem memberOf_onlyMishaps (value : Value) (name : String) :
    OnlyMishaps (table.memberOf value name) := by
  unfold memberOf
  split
  · exact table.attributeOf_onlyMishaps _ _ _
  · split
    · exact table.taken_onlyMishaps _
    · exact .missing _
  · exact .missing _

end Mishaps

end ClassTable
end PageContracts
