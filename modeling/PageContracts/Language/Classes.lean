import PageContracts.Contract.Renaming
import PageContracts.Language.Access
import PageContracts.Language.Arguments

/-! # Classes made and changed by expressions

An expression can make a class, set and remove members of classes and attributes of instances, and make
instances. What it puts into a class is kept in the table as far as the table can tell it, and all of
it in the memory.
-/
namespace PageContracts.Language.Classes

open Meaning

/-- A function without a name as a function of an author: the object it is called on is left out. -/
def declaration (slots : List (String × ParameterKind × Option Meaning)) : DeclaredFunction :=
  { name := "<lambda>"
    parameters := (slots.drop 1).map fun (name, kind, default) =>
      { name, kind, default := default.map toValue } }

mutual

/-- Whether the table can tell all of something. -/
def isPlain : Meaning → Bool
  | .constant _ => true
  | .type _ => true
  | .tuple items => arePlain items
  | _ => false

/-- Whether the table can tell all of several things. -/
def arePlain : List Meaning → Bool
  | [] => true
  | first :: rest => isPlain first && arePlain rest

end

/-- The function of an author that a function is. -/
def declaration? (item : Meaning) : Option DeclaredFunction :=
  match item.bare with
  | .declared f none => some f
  | .closure slots _ _ => some (declaration slots)
  | _ => none

/-- Something as a member of a class. -/
def memberOf (item : Meaning) : Member :=
  match item.bare, Things.locator? item with
  | _, some descriptor => .locator descriptor
  | .wrapped "staticmethod" (f :: _), none =>
    ((declaration? f).map (Member.wrapped .static)).getD (.constant item.toValue)
  | .wrapped "classmethod" (f :: _), none =>
    ((declaration? f).map (Member.wrapped .onClass)).getD (.constant item.toValue)
  | .wrapped "property" (f :: _), none =>
    ((declaration? f).map (Member.wrapped .property)).getD (.constant item.toValue)
  | _, none => ((declaration? item).map Member.function).getD (.constant item.toValue)

/-- Whether a member has to be kept in the memory because the table cannot tell all of it. -/
def needsKeeping (item : Meaning) : Bool :=
  match item.bare with
  | .declared _ none => false
  | .wrapped _ (f :: _) => !(f.bare matches .declared _ none)
  | _ => !isPlain item && (Things.locator? item).isNone

/-- The memory with a member of a class kept, or forgotten when the table can tell it. -/
def keeping (memory : Memory) (number : Nat) (name : String) (item : Meaning) : Memory :=
  let memory := memory.forget number name
  if needsKeeping item then { memory with members := ((number, name), item) :: memory.members }
  else memory

/-- The name under which no program finds a class. -/
def hiddenKey : String := "\x00"

variable (machine : Machine)

/-- Tell the members of a new class that want to know it what they are called there. -/
def nameMembers (ref : ClassRef) : List (String × Meaning) → Eval Unit
  | [] => return ()
  | (name, item) :: rest => do
    match ← Access.own? item "__set_name__" with
    | some f => fun memory =>
      match machine.call f [.type (.defined ref), text name] [] memory with
      | .ok _ memory => nameMembers ref rest memory
      | .error _ memory => .error (.breach .outOfTurn "Error calling __set_name__") memory
    | none => nameMembers ref rest

/-- A function as it is kept under its name in a class: some belong to the class, and one to nothing. -/
def placed (name : String) (item : Meaning) : Meaning :=
  if !(item.bare matches .closure ..) then item
  else if name = ClassBody.descentMember || name = "__class_getitem__" then .wrapped "classmethod" [item]
  else if name = "__new__" then .wrapped "staticmethod" [item]
  else item

/-- Tell the ancestors of a new class about it: the nearest function that wants to know is called. -/
def announce (ref : ClassRef) (named : List (String × Meaning)) : Eval Unit := do
  let memory ← get
  let behind := (memory.table.ancestry (.defined ref)).tail
  let found := behind.findSome? fun ancestor =>
    (Access.ownMember? memory ancestor ClassBody.descentMember).map fun found => (ancestor, found)
  match found with
  | some (ancestor, .inl f) =>
    match Access.onType memory (.defined ref) ancestor ClassBody.descentMember (.inl f) with
    | .plain f | .kept _ _ f =>
      let _ ← machine.call f [] named
    | .computed .. => return ()
  | some _ => return ()
  | none => if !named.isEmpty then misuse "__init_subclass__() takes no keyword arguments"

/-- A new class with a name, over bases, with the entries of a map as its members. It is an instance of a
class of classes if one is named, or if one of its bases is. -/
def define (kind : Option ClassRef) (label : Meaning) (bases : List Meaning)
    (entries : List (Meaning × Meaning)) (named : List (String × Meaning)) : Eval Meaning := do
  let name ← Arguments.textual label
  let bases ← bases.mapM fun base =>
    match base.bare with
    | .type ref => pure ref
    | _ => misuse "bases must be types"
  let items := entries.filterMap fun (key, value) => key.text?.map fun key => (key, placed key value)
  let members := items.map fun (key, value) => (key, memberOf value)
  let memory ← get
  let info ← (memory.table.untoldInfo name bases members : Except Failure _)
  let behind := info.ancestry.tail
  let isTold := behind.any fun ancestor =>
    ((Access.ownMember? memory ancestor ClassBody.descentMember).map fun found =>
      found matches .inl _).getD false
  if !isTold then
    let _ ← (ClassBody.requireDescent (memory.table.memberAmong? behind ClassBody.descentMember) :
      Except Failure _)
  let isPlaced := (members.lookup ClassBody.moduleMember).isSome
  let ref :=
    if isPlaced then info.ref
    else { info.ref with place := ClassRef.builtinHome, placed := false }
  let info := { info.mapClasses (ClassRef.follow ref) with key := hiddenKey }
  let kinds := kind.toList.map fun kind => (ref.number, kind)
  set (items.foldl (fun memory (key, value) => keeping memory ref.number key value)
    { memory with table := memory.table.append info, kinds := kinds ++ memory.kinds })
  nameMembers machine ref items
  announce machine ref named
  return .type (.defined ref)

/-- Set a member of a class; the class is called by its new name everywhere when that is what the
member tells. -/
def setMember (ref : ClassRef) (name : String) (item : Meaning) : Eval Unit := do
  let found := memberOf item
  let _ ← (ClassBody.requireSettable name found : Except Failure _)
  let memory ← get
  let renamed := ClassBody.renamed ref name found
  let table := memory.table.update ref fun info => ClassTable.withMember info name found
  let table := if renamed = ref then table else table.mapClasses (ClassRef.follow renamed)
  set (keeping { memory with table } ref.number name item)

/-- Remove a member of a class. -/
def removeMember (ref : ClassRef) (name : String) : Eval Unit := do
  let memory ← get
  if ((memory.table.ownMembers (.defined ref)).lookup name).isNone then throw (.missing name)
  let table := memory.table.update ref fun info =>
    { info with members := info.members.filter fun entry => entry.1 ≠ name }
  set ({ memory with table }.forget ref.number name)

/-- What has a say when an attribute of an instance is set or removed: a member of its class. -/
def guardOf? (memory : Memory) (item : Meaning) (name guard : String) : Option (Option Meaning) :=
  (Access.classOf? item).bind fun ofClass =>
    (Access.member? memory (.defined ofClass) name).bind fun (_, found) =>
      let taken := Access.meaningOf found
      match taken.bare with
      | .wrapped "property" (_ :: setter :: remover :: _) =>
        let f := if guard = "__set__" then setter else remover
        if f.bare matches .constant .none then some none else some (some f)
      | _ =>
        (Access.classOf? taken).bind fun own =>
          (Access.functionOn? memory taken (.defined own) guard).map some

/-- Whether instances of a class may have any attributes. -/
def isFree (memory : Memory) (ofClass : ClassRef) (name : String) : Bool :=
  ClassBody.hasFreedom memory.table "__dict__" (.defined ofClass) ||
    ((memory.table.member? (.defined ofClass) name).map ClassTable.reserves).getD false

/-- Change the attributes of an instance. -/
def changeAttributes (item : Meaning)
    (change : List (String × Meaning) → List (String × Meaning)) : Eval Unit :=
  match item.bare with
  | .instanceOf _ attributes _ _ => Eval.rewriteAttributes item (change attributes)
  | _ => return ()

/-- The failure of changing an attribute of a thing. -/
def refusedBy (typeName name : String) : Failure :=
  if Things.isFrozen typeName then .breach (.raised "FrozenInstanceError") ("cannot assign to " ++ name)
  else .missing name

/-- Make something an instance of another class, whose instances must be laid out in the same way. -/
def changeClass (item value : Meaning) : Eval Unit := do
  let table := (← get).table
  match item.bare, value.bare with
  | .instanceOf ofClass attributes _ inner, .type (.defined ref) =>
    if ClassBody.layout? table (.defined ofClass) ≠ ClassBody.layout? table (.defined ref) then
      misuse "__class__ assignment: object layout differs"
    Eval.rewrite item (.instanceOf ref attributes (table.traitsOf (.defined ref) [] []) inner)
  | _, .type _ => misuse "__class__ assignment only supported for mutable types"
  | _, _ => misuse "__class__ must be set to a class"

/-- The parameters of a function with other defaults, which belong to the last ones. -/
def withDefaults (slots : List (String × ParameterKind × Option Meaning)) (defaults : List Meaning) :
    List (String × ParameterKind × Option Meaning) :=
  let places := (slots.filter fun slot => slot.2.1 = .positional || slot.2.1 = .positionalOnly).length
  let first := places - defaults.length
  slots.zipIdx.map fun ((label, kind, default), i) =>
    if kind = .positional || kind = .positionalOnly then
      (label, kind, if first ≤ i then defaults[i - first]? else none)
    else (label, kind, default)

/-- Set an attribute of a function without a name. -/
def setOnFunction (item : Meaning) (slots : List (String × ParameterKind × Option Meaning))
    (body : Expression) (frame : Option Nat) (name : String) (value : Meaning) : Eval Unit := do
  match item with
  | .held number _ =>
    let note : Eval Unit := modify fun memory =>
      { memory with notes := ((number, name), value) :: memory.notes }
    match name, value.bare with
    | "__name__", .constant (.text _) | "__qualname__", .constant (.text _) => note
    | "__name__", _ | "__qualname__", _ => misuse "must be set to a string object"
    | "__defaults__", .tuple defaults =>
      Eval.write number (.closure (withDefaults slots defaults) body frame)
    | "__defaults__", .constant .none => Eval.write number (.closure (withDefaults slots []) body frame)
    | "__defaults__", _ => misuse "__defaults__ must be set to a tuple object"
    | "__annotations__", .map _ | "__annotations__", .constant .none => note
    | "__annotations__", _ => misuse "__annotations__ must be set to a dict object"
    | "__closure__", _ | "__globals__", _ => throw (.missing name)
    | "__dict__", .map entries =>
      let _ ← Eval.attributeMap item (.map entries)
    | "__dict__", _ => misuse "__dict__ must be set to a dictionary"
    | "__doc__", _ | "__module__", _ => note
    | name, _ =>
      let given := assign name value (Access.givenTo (← get) item)
      let _ ← Eval.attributeMap item (.map (given.map fun (label, value) => (text label, value)))
  | _ => return ()

/-- Set an attribute of something. -/
def setAttribute (item : Meaning) (name : String) (value : Meaning) (isPlain : Bool) : Eval Unit := do
  let memory ← get
  match item.bare with
  | .type (.defined ref) => setMember ref name value
  | .type .page | .type .panel | .type .anything => return ()
  | .type _ => misuse "cannot set attribute of immutable type"
  | .declared _ none => return ()
  | .closure slots body frame => setOnFunction item slots body frame name value
  | .flaw flawName arguments attributes =>
    let after ← (Flaws.withPart flawName arguments attributes name value : Except Failure _)
    Eval.rewrite item (← Eval.ownedContent after)
  | .instanceOf ofClass _ _ _ =>
    let own ← if isPlain then pure none else Access.own? item "__setattr__"
    match own, guardOf? memory item name "__set__" with
    | some f, _ =>
      let _ ← machine.call f [text name, value] []
    | none, some (some f) =>
      let _ ← machine.call f [item, value] []
    | none, some none => throw (.missing name)
    | none, none =>
      if let .instanceOf _ _ _ (some inner) := item.bare then
        if let .flaw flawName arguments attributes := inner.bare then
          if Flaws.common.contains name then
            let after ← (Flaws.withPart flawName arguments attributes name value : Except Failure _)
            return ← Eval.rewrite inner (← Eval.ownedContent after)
      if name = "__class__" then return ← changeClass item value
      if name = "__dict__" then
        match value.core with
        | .map entries =>
          return ← changeAttributes item fun _ =>
            entries.filterMap fun (label, found) => label.text?.map fun label => (label, found)
        | _ => misuse "__dict__ must be set to a dictionary"
      if !isFree memory ofClass name then throw (.missing name)
      changeAttributes item (assign name value)
  | .thing typeName _ _ => throw (refusedBy typeName name)
  | _ => throw (.missing name)

/-- Remove an attribute of something. -/
def removeAttribute (item : Meaning) (name : String) (isPlain : Bool) : Eval Unit := do
  let memory ← get
  match item.bare with
  | .type (.defined ref) => removeMember ref name
  | .type .page | .type .panel | .type .anything => throw (.missing name)
  | .flaw flawName arguments attributes =>
    if (attributes.lookup name).isNone then throw (.missing name)
    Eval.rewrite item
      (.flaw flawName arguments (attributes.filter fun entry => entry.1 ≠ name))
  | .type _ => misuse "cannot delete attribute of immutable type"
  | .closure .. =>
    let given := Access.givenTo memory item
    if (given.lookup name).isNone then throw (.missing name)
    let rest := given.filter fun entry => entry.1 ≠ name
    let _ ← Eval.attributeMap item (.map (rest.map fun (label, value) => (text label, value)))
  | .instanceOf _ attributes _ _ =>
    let own ← if isPlain then pure none else Access.own? item "__delattr__"
    match own, guardOf? memory item name "__delete__" with
    | some f, _ =>
      let _ ← machine.call f [text name] []
    | none, some (some f) =>
      let _ ← machine.call f [item] []
    | none, some none => throw (.missing name)
    | none, none =>
      if (attributes.lookup name).isNone then throw (.missing name)
      changeAttributes item fun attributes => attributes.filter fun entry => entry.1 ≠ name
  | .thing typeName _ _ => throw (refusedBy typeName name)
  | _ => throw (.missing name)

end PageContracts.Language.Classes
