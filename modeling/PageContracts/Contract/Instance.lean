import PageContracts.Contract.Model
import PageContracts.Value.Conversion

/-! # Instances

Making instances of classes and asking them for their attributes. An instance of a class that
descends from a type of the language is a value of that type besides.
-/
namespace PageContracts
namespace ClassTable

/-- Fill fields in order from positions, names and defaults. -/
def fillFields : List Field → List Value → List (String × Value) →
    Except Failure (List (String × Value))
  | [], [], _ => .ok []
  | [], _ :: _, _ => .error (.typeBreach "too many arguments")
  | field :: rest, position :: positions, named =>
    if (named.lookup field.name).isSome then .error (.typeBreach "argument given twice")
    else (fillFields rest positions named).map ((field.name, position) :: ·)
  | field :: rest, [], named =>
    match (named.lookup field.name).orElse fun _ => field.default with
    | some value => (fillFields rest [] named).map ((field.name, value) :: ·)
    | none => .error (.typeBreach ("missing argument " ++ field.name))

/-- Fill fields, when every name given is that of a field. -/
def fillAll (fields : List Field) (positions : List Value) (named : List (String × Value)) :
    Except Failure (List (String × Value)) :=
  if named.any fun entry => fields.all fun field => field.name ≠ entry.1 then
    .error (.typeBreach "unexpected keyword argument")
  else fillFields fields positions named

/-- The nearest thing that shows instances: a function of the author, or their being of a record
type; `none` when there is neither. -/
def showing? (table : ClassTable) (type : TypeRef) : Option Bool :=
  ((table.lineage type).find? fun info =>
    info.fields.isSome || (info.members.lookup "__repr__").isSome).map fun info =>
      (info.members.lookup "__repr__").isNone

/-- Whether instances of a class are compared by their fields: the nearest class that is of a record
type or compares has no function of its author for that. -/
def comparesFields (table : ClassTable) (type : TypeRef) : Bool :=
  match (table.lineage type).find? fun info =>
      info.fields.isSome || (info.members.lookup "__eq__").isSome with
  | some info => (info.members.lookup "__eq__").isNone
  | none => false

/-- What the author's own function for making instances does: it is given the class in front of its
arguments and makes nothing. -/
def callMaker? (table : ClassTable) (type : TypeRef) (positions : List Value)
    (named : List (String × Value)) : Option (Except Failure Unit) :=
  (table.member? type "__new__").map fun
    | .function f | .wrapped .static f =>
      (Binding.enter f.signature (.none :: positions) named).map fun _ => ()
    | .wrapped .onClass f =>
      (Binding.enter f.signature (.none :: .none :: positions) named).map fun _ => ()
    | _ => .error (.typeBreach "object is not callable")

/-- What keeps instances from being shown by their fields: an author's function for reading
attributes, which gives nothing, something else in the place of their class, or a field without a
value. -/
def fieldFlaw? (table : ClassTable) (type : TypeRef) (names : List String)
    (attributes : List (String × Value)) : Option Mishap :=
  match read : table.callSpecial? type "__getattribute__" [.none] [],
    table.member? type "__class__" with
  | some (.error failure), _ =>
    some ⟨failure, table.callSpecial_onlyMishaps _ _ _ _ _ read failure rfl⟩
  | some (.ok _), _ => some (.missing ClassBody.qualifiedMember)
  | none, some (.constant (.type _)) | none, some (.function _) | none, none =>
    (names.find? fun name => (attributes.lookup name).isNone).map Mishap.missing
  | none, some _ => some (.missing ClassBody.qualifiedMember)

/-- The functions of its author that make instances of a class into numbers. -/
def conversionsOf (table : ClassTable) (type : TypeRef) : List String :=
  ["__int__", "__index__", "__float__", "__trunc__"].filter fun name =>
    (table.member? type name).isSome

/-- What instances of a class can do, given their attributes. A function of the author in the place
of one that gives a text gives none. -/
def traitsOf (table : ClassTable) (type : TypeRef) (names : List String)
    (attributes : List (String × Value)) : RecordTraits :=
  let showing := table.showing? type
  { unshown :=
      match showing with
      | some false => some ⟨.typeBreach "__repr__ returned non-string", rfl⟩
      | some true => table.fieldFlaw? type names attributes
      | none => none
    byFields := showing.isSome
    compares := table.comparesFields type
    speaks := (table.member? type "__str__").isNone
    hashable := table.instancesHash type
    conversions := table.conversionsOf type }

/-- Whether instances keep what is put under a name: a property of their class stands in the way, a
member that has a say takes the value, and a function of the author that takes all attributes leaves
nothing to go on with. -/
def assigning (table : ClassTable) (type : TypeRef) (name : String) : Except Failure Bool :=
  match table.callSpecial? type "__setattr__" [.none, .none] [] with
  | some (.error failure) => .error failure
  | some (.ok _) => .error (.missing name)
  | none => table.storing type name .none

/-- Whether a class says how its instances are filled when they are made. -/
def fillsInstances (table : ClassTable) (type : TypeRef) : Bool :=
  (table.lineage type).any fun info =>
    info.fields.isSome || (info.members.lookup "__init__").isSome

/-- The items of a value. -/
def itemsOf (value : Value) : Except Failure (List Value) :=
  match value.core with
  | .list items | .tuple items | .set items => .ok items
  | .map entries => .ok (entries.map Prod.fst)
  | .text text => .ok (text.toList.map fun c => .text (String.ofList [c]))
  | .bytes bytes => .ok (bytes.map fun byte => .int byte.toNat)
  | .query params => .ok (params.pairs.map fun (name, value) => .tuple [.text name, .text value])
  | _ => .error (.typeBreach "object is not iterable")

/-- A map out of a value: its entries, or its items, each a row of a key and a value. An entry is made
before the next item is looked at. -/
def entriesOf (value : Value) : Except Failure (List (Value × Value)) := do
  match value.core with
  | .map entries => return entries
  | _ => (← itemsOf value).foldlM enter []
where
  /-- Map entries with one more. -/
  enter (entries : List (Value × Value)) (item : Value) : Except Failure (List (Value × Value)) :=
    match itemsOf item with
    | .ok [key, value] =>
      if key.hashable then .ok (Value.setEntry key value entries)
      else .error (.typeBreach ("unhashable type: " ++ Quoted.quoted key.typeName))
    | .ok _ => .error (.valueBreach "wrong length; 2 is required")
    | .error _ => .error (.typeBreach "cannot convert to a sequence")

/-- The row or map that an instance is besides. Where the class says itself how instances are filled
it stays empty. -/
def filledCore (name : String) (fills : Bool) (positions : List Value)
    (named : List (String × Value)) : Except Failure (Option Value) :=
  if name = "list" then
    match fills, positions, named with
    | true, _, _ => .ok (some (.list []))
    | false, [], [] => .ok (some (.list []))
    | false, [value], [] => do return some (.list (← itemsOf value))
    | _, _, _ => .error (.typeBreach "list expected at most 1 argument")
  else
    match fills, positions with
    | true, _ => .ok (some (.map []))
    | false, [] => .ok (some (.map (named.map fun entry => (.text entry.1, entry.2))))
    | false, [value] => do
      let named := named.map fun entry => (Value.text entry.1, entry.2)
      return some (← Value.mapOf ((← entriesOf value) ++ named) [])
    | _, _ => .error (.typeBreach "dict expected at most 1 argument")

/-- The value of the language that a new instance is besides. What every value is of has nothing to
do for it, but refuses classes without instances. -/
def madeCore (table : ClassTable) (type : TypeRef) (positions : List Value)
    (named : List (String × Value)) : Except Failure (Option Value) :=
  let fills := table.fillsInstances type
  match table.coreType? type with
  | none => requireInstances
  | some .anything =>
    if positions.isEmpty && named.isEmpty then requireInstances
    else .error (.typeBreach "object.__new__() takes exactly one argument")
  | some (.builtin "str") => do return some (.text (← Conversion.textOf positions named))
  | some (.builtin "int") => do return some (.int (← Conversion.integerOf positions named))
  | some (.builtin "bytes") => do return some (.bytes (← Conversion.bytesOf positions named))
  | some (.builtin "float") =>
    if !fills && !named.isEmpty then .error (.typeBreach "float() takes no keyword arguments")
    else
      match positions with
      | [] => .ok (some (.float (Binary64.zero false)))
      | [value] => do return some (.float (← Conversion.double value))
      | _ => .error (.typeBreach "float expected at most 1 argument")
  | some (.builtin name) =>
    if name = "list" || name = "dict" then filledCore name fills positions named else .ok none
  | some _ => .ok none
where
  /-- Refuse a class without instances. -/
  requireInstances : Except Failure (Option Value) :=
    let info? := (table.lineage type).head?
    if (info?.map ClassInfo.isAbstract).getD false then
      .error (.typeBreach "Can't instantiate abstract class")
    else .ok none

/-- The attributes that an instance gets for its fields, unless a function of the author's that takes
all attributes lets them go. -/
def keptAttributes (table : ClassTable) (type : TypeRef) (attributes : List (String × Value)) :
    Except Failure (List (String × Value)) :=
  if (table.member? type "__setattr__").isSome then do
    attributes.forM fun _ => (table.callSpecial? type "__setattr__" [.none, .none] []).getD (.ok ())
    return []
  else attributes.filterM fun entry => table.storing type entry.1 entry.2

/-- Call the author's function that ends the making of an instance, if that counts. An author's
function for reading attributes gives nothing in its place. -/
def followUp (table : ClassTable) (type : TypeRef) (info : ClassInfo) : Except Failure Unit :=
  if !info.followsUp then .ok ()
  else
    match table.callSpecial? type "__getattribute__" [.none] [] with
    | some (.error failure) => .error failure
    | some (.ok _) => .error (.typeBreach "object is not callable")
    | none => (table.callSpecial? type "__post_init__" [] []).getD (.ok ())

/-- The attributes with which an instance is made: those of its fields, unless the author's own
function makes it. -/
def initialAttributes (table : ClassTable) (type : TypeRef) (positions : List Value)
    (named : List (String × Value)) : Except Failure (List (String × Value)) :=
  match (table.lineage type).find? fun info =>
      info.fields.isSome || (info.members.lookup "__init__").isSome with
  | none => if (table.coreType? type).isSome then .ok [] else fillAll [] positions named
  | some info =>
    match info.members.lookup "__init__" with
    | none => do
      let attributes ← fillAll (info.fields.getD []) positions named
      let attributes ← table.keptAttributes type attributes
      table.followUp type info
      return attributes
    | some _ =>
      ((table.callSpecial? type "__init__" positions named).getD (.ok ())).map fun _ => []

/-- The fields by which instances of a class are shown. -/
def shownFields (table : ClassTable) (type : TypeRef) : List String :=
  match (table.lineage type).find? fun info =>
      info.fields.isSome || (info.members.lookup "__repr__").isSome with
  | some info => (info.fields.getD []).map Field.name
  | none => []

/-- Make an instance of a class, unless the author's own function makes nothing instead. -/
def instantiate (table : ClassTable) (ref : ClassRef) (positions : List Value)
    (named : List (String × Value)) : Except Failure Value := do
  let type : TypeRef := .defined ref
  match table.callMaker? type positions named with
  | some result => result.map fun _ => .none
  | none =>
    let core ← table.madeCore type positions named
    let given ← table.initialAttributes type positions named
    let names := table.shownFields type
    let attributes := names.filterMap fun name =>
      ((given.lookup name).or (table.standing ref name).toOption.join).map fun value => (name, value)
    let all := attributes ++ given.filter fun entry => !names.contains entry.1
    return .record ref all (table.traitsOf type names all) core

/-- The value an instance has under a name: its own attribute, or what its class has there. A
property of the author gives nothing. -/
def attributeOf (table : ClassTable) (ofClass : ClassRef) (attributes : List (String × Value))
    (name : String) : Except Failure Value :=
  match attributes.lookup name with
  | some value => .ok value
  | none =>
    match table.member? (.defined ofClass) name with
    | some found =>
      if reserves found then .error (.missing name) else table.takenOnInstance found
    | none =>
      match (table.descended? (.defined ofClass) name).or (innate? ofClass name) with
      | some value => .ok value
      | none => .error (.missing name)

section Mishaps

variable (table : ClassTable) (type : TypeRef) (positions : List Value)
  (named : List (String × Value))

theorem fillFields_onlyMishaps (fields : List Field) (positions : List Value) :
    OnlyMishaps (fillFields fields positions named) := by
  induction fields generalizing positions with
  | nil =>
    cases positions with
    | nil => exact .ok _
    | cons position rest => exact .typeBreach _
  | cons field rest ih =>
    cases positions with
    | nil =>
      unfold fillFields
      split
      · exact (ih _).map _
      · exact .typeBreach _
    | cons position positions => exact .ite (.typeBreach _) ((ih _).map _)

theorem fillAll_onlyMishaps (fields : List Field) :
    OnlyMishaps (fillAll fields positions named) :=
  .ite (.typeBreach _) (fillFields_onlyMishaps _ _ _)

theorem callMaker_onlyMishaps (result : Except Failure Unit)
    (h : table.callMaker? type positions named = some result) : OnlyMishaps result := by
  obtain ⟨found, -, rfl⟩ := Option.map_eq_some_iff.mp h
  split
  · exact (Binding.enter_onlyMishaps _ _ _).map _
  · exact (Binding.enter_onlyMishaps _ _ _).map _
  · exact (Binding.enter_onlyMishaps _ _ _).map _
  · exact .typeBreach _

theorem assigning_onlyMishaps (name : String) : OnlyMishaps (table.assigning type name) := by
  unfold assigning
  split
  · next failure told => exact .error (table.callSpecial_onlyMishaps _ _ _ _ _ told failure rfl)
  · exact .missing _
  · exact table.storing_onlyMishaps _ _ _

theorem itemsOf_onlyMishaps (value : Value) : OnlyMishaps (itemsOf value) := by
  unfold itemsOf
  split <;> first | exact .ok _ | exact .typeBreach _

theorem entriesOf_onlyMishaps (value : Value) : OnlyMishaps (entriesOf value) := by
  unfold entriesOf
  split
  · exact .ok _
  · refine (itemsOf_onlyMishaps _).bind fun items _ => .foldlM (fun entries item => ?_) _ _
    unfold entriesOf.enter
    split
    · exact .ite (.ok _) (.typeBreach _)
    · exact .valueBreach _
    · exact .typeBreach _

theorem filledCore_onlyMishaps (name : String) (fills : Bool) :
    OnlyMishaps (filledCore name fills positions named) := by
  refine .ite ?_ ?_
  · split
    · exact .ok _
    · exact .ok _
    · exact (itemsOf_onlyMishaps _).bind fun _ _ => .ok _
    · exact .typeBreach _
  · split
    · exact .ok _
    · exact .ok _
    · refine (entriesOf_onlyMishaps _).bind fun _ _ => ?_
      exact (Value.mapOf_onlyMishaps _ _).bind fun _ _ => .ok _
    · exact .typeBreach _

theorem madeCore_onlyMishaps : OnlyMishaps (table.madeCore type positions named) := by
  have instances : OnlyMishaps (madeCore.requireInstances table type) :=
    .ite (.typeBreach _) (.ok _)
  unfold madeCore
  split
  · exact instances
  · exact .ite instances (.typeBreach _)
  · exact (Conversion.textOf_onlyMishaps _ _).bind fun _ _ => .ok _
  · exact (Conversion.integerOf_onlyMishaps _ _).bind fun _ _ => .ok _
  · exact (Conversion.bytesOf_onlyMishaps _ _).bind fun _ _ => .ok _
  · refine .ite (.typeBreach _) ?_
    split
    · exact .ok _
    · exact (Conversion.double_onlyMishaps _).bind fun _ _ => .ok _
    · exact .typeBreach _
  · exact .ite (filledCore_onlyMishaps _ _ _ _) (.ok _)
  · exact .ok _

theorem keptAttributes_onlyMishaps (attributes : List (String × Value)) :
    OnlyMishaps (table.keptAttributes type attributes) := by
  refine .ite ?_ (.filterM (fun entry => table.storing_onlyMishaps _ _ _) _)
  refine (OnlyMishaps.forM (fun _ => ?_) _).bind fun _ _ => .ok _
  exact .getD (table.callSpecial_onlyMishaps _ _ _ _) (.ok _)

theorem followUp_onlyMishaps (info : ClassInfo) : OnlyMishaps (table.followUp type info) := by
  refine .ite (.ok _) ?_
  split
  · next failure told => exact .error (table.callSpecial_onlyMishaps _ _ _ _ _ told failure rfl)
  · exact .typeBreach _
  · exact .getD (table.callSpecial_onlyMishaps _ _ _ _) (.ok _)

theorem initialAttributes_onlyMishaps :
    OnlyMishaps (table.initialAttributes type positions named) := by
  unfold initialAttributes
  split
  · exact .ite (.ok _) (fillAll_onlyMishaps _ _ _)
  · split
    · refine (fillAll_onlyMishaps _ _ _).bind fun _ _ => ?_
      refine (table.keptAttributes_onlyMishaps _ _).bind fun _ _ => ?_
      exact (table.followUp_onlyMishaps _ _).bind fun _ _ => .ok _
    · exact (OnlyMishaps.getD (table.callSpecial_onlyMishaps _ _ _ _) (.ok _)).map _

theorem instantiate_onlyMishaps (ref : ClassRef) :
    OnlyMishaps (table.instantiate ref positions named) := by
  unfold instantiate
  dsimp only
  split
  · next result made => exact (table.callMaker_onlyMishaps _ _ _ _ made).map _
  · refine (table.madeCore_onlyMishaps _ _ _).bind fun _ _ => ?_
    exact (table.initialAttributes_onlyMishaps _ _ _).bind fun _ _ => .ok _

theorem attributeOf_onlyMishaps (ofClass : ClassRef) (attributes : List (String × Value))
    (name : String) : OnlyMishaps (table.attributeOf ofClass attributes name) := by
  unfold attributeOf
  split
  · exact .ok _
  · split
    · exact .ite (.missing _) (table.takenOnInstance_onlyMishaps _)
    · split
      · exact .ok _
      · exact .missing _

end Mishaps

end ClassTable
end PageContracts
