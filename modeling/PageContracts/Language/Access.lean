import PageContracts.Contract.Calling
import PageContracts.Language.Flaws
import PageContracts.Language.Memory
import PageContracts.Language.Things

/-! # Access by name

What something has under a name: what is known of it as a type, function or value, what its class
declares, and what the types of the language offer.
-/
namespace PageContracts.Language

/-- A text that no expression spells, in the place of the descriptions that the language keeps. -/
def description : Meaning := .text "a description of it"

namespace Access

open Meaning

/-- The types a type descends from, itself first. -/
def lineage (table : ClassTable) : TypeRef → List TypeRef
  | .builtin name => (ancestry name).map .builtin
  | other => table.ancestry other ++ [.builtin commonType]

/-- The types that a type names as those it descends from. -/
def bases (table : ClassTable) (type : TypeRef) : List TypeRef :=
  let own :=
    match type with
    | .defined ref => ((table.info? ref).map ClassInfo.bases).getD []
    | _ => []
  if !own.isEmpty then own
  else
    match (lineage table type).tail.head? with
    | some next => [next]
    | none => []

/-- What is found under a name: something, what has to be called to get it, or a member of a class that
may change. -/
inductive Found where
  | plain (item : Meaning)
  | computed (f : Meaning) (given : List Meaning)
  | kept (owner : Nat) (label : String) (item : Meaning)
  deriving Repr, Inhabited

/-- A member of a class: more than the table can tell, or what the table has. -/
abbrev Known : Type := Meaning ⊕ Member

/-- The member of a name that one of some types has itself. -/
def ownMember? (memory : Memory) (type : TypeRef) (name : String) : Option Known :=
  ((memory.table.ownMembers type).lookup name).map fun found =>
    match type with
    | .defined ref => (memory.members.lookup (ref.number, name)).elim (.inr found) .inl
    | _ => .inr found

/-- The nearest member of a name, with the type that has it. -/
def member? (memory : Memory) (type : TypeRef) (name : String) : Option (TypeRef × Known) :=
  (memory.table.ancestry type).findSome? fun ancestor =>
    (ownMember? memory ancestor name).map fun found => (ancestor, found)

/-- A member as something by itself. -/
def meaningOf : Known → Meaning
  | .inl item => item
  | .inr (.function f) => .declared f none
  | .inr (.wrapped .static f) => .wrapped "staticmethod" [.declared f none]
  | .inr (.wrapped .onClass f) => .wrapped "classmethod" [.declared f none]
  | .inr (.wrapped .property f) => .wrapped "property" [.declared f none, nothing, nothing, nothing]
  | .inr (.locator descriptor) => Things.ofLocator descriptor
  | .inr (.constant value) => ofValue value

/-- A function that a class has under a name, on something that is one of its instances; what has to
be called in its place is taken for nothing. -/
def functionOn? (memory : Memory) (item : Meaning) (type : TypeRef) (name : String) :
    Option Meaning :=
  (member? memory type name).map fun (_, found) =>
    match (meaningOf found).bare with
    | .declared f none => .declared f (some item)
    | .closure .. => .bound (meaningOf found) item
    | .member _ _ .method | .member _ _ .operation => .bound (meaningOf found) item
    | .function _ => meaningOf found
    | .wrapped "staticmethod" (f :: _) => f
    | .wrapped "classmethod" (f :: _) =>
      match f.bare with
      | .declared f _ => .declared f (some (.type type))
      | _ => .bound f (.type type)
    | .wrapped "property" _ => nothing
    | other => other

/-- The class that something is an instance of. -/
def classOf? (item : Meaning) : Option ClassRef :=
  match item.bare with
  | .instanceOf ofClass _ _ _ => some ofClass
  | _ => none

/-- The class that a class is an instance of, where it is not the type of types: its own, or that of one
it descends from. -/
def kindOf? (memory : Memory) (type : TypeRef) : Option ClassRef :=
  if memory.kinds.isEmpty then none
  else
    (memory.table.ancestry type).findSome? fun
      | .defined ref => memory.kinds.lookup ref.number
      | _ => none

/-- The class that something is an instance of, classes included. -/
def holderOf? (memory : Memory) (item : Meaning) : Option ClassRef :=
  match item.bare with
  | .type ref => kindOf? memory ref
  | item => classOf? item

/-- The type that something is of, classes included. -/
def typeOf (memory : Memory) (item : Meaning) : TypeRef :=
  match item.bare with
  | .type ref => ((kindOf? memory ref).map TypeRef.defined).getD item.typeOf
  | item => item.typeOf

/-- Whether something is an instance that is compared by its fields. -/
def comparesFields (item : Meaning) : Bool :=
  match item.bare with
  | .instanceOf _ _ traits _ => traits.compares
  | _ => false

/-- What gives a member its say when it is reached for: a function that its own class has for that. -/
def getter? (memory : Memory) (item : Meaning) : Option Meaning :=
  (classOf? item).bind fun ofClass => functionOn? memory item (.defined ofClass) "__get__"

/-- Whether a member comes before what instances have themselves. -/
def leads (memory : Memory) (found : Known) : Bool :=
  match (meaningOf found).bare with
  | .wrapped "property" _ => true
  | item =>
    ((classOf? item).map fun ofClass =>
      (member? memory (.defined ofClass) "__set__").isSome ||
        (member? memory (.defined ofClass) "__delete__").isSome).getD false

/-- Something that is a member of a class, which may change. -/
def keptIn (owner : TypeRef) (label : String) (item : Meaning) : Found :=
  match owner, item with
  | .defined ref, .list _ | .defined ref, .map _ | .defined ref, .set false _
  | .defined ref, .instanceOf .. => .kept ref.number label item
  | _, item => .plain item

/-- A class member as it is when it is taken from the class. -/
def onType (memory : Memory) (type owner : TypeRef) (label : String) (found : Known) : Found :=
  let item := meaningOf found
  match item.bare, getter? memory item with
  | _, some getter => .computed getter [nothing, .type type]
  | .wrapped "staticmethod" (f :: _), none => .plain f
  | .wrapped "classmethod" (f :: _), none =>
    match f.bare with
    | .declared f _ => .plain (.declared f (some (.type type)))
    | _ => .plain (.bound f (.type type))
  | _, none => keptIn owner label item

/-- A class member as it is when it is taken from an instance. -/
def onInstance (memory : Memory) (item : Meaning) (type owner : TypeRef) (label : String)
    (found : Known) : Found :=
  let taken := meaningOf found
  match taken.bare, getter? memory taken with
  | _, some getter => .computed getter [item, .type type]
  | .declared f none, none => .plain (.declared f (some item))
  | .closure .., none => .plain (.bound taken item)
  | .member _ _ .method, none | .member _ _ .operation, none => .plain (.bound taken item)
  | .wrapped "property" (f :: _), none => .computed f [item]
  | _, none => onType memory type owner label found

/-- The place a type is defined at. -/
def placeOf : TypeRef → String
  | .defined ref => ref.place
  | .builtin name => (TypeRef.places.lookup name).getD ClassRef.builtinHome
  | .anything => "typing"
  | .optional _ => "typing"
  | .page | .panel => "autopanel.contract"
  | .other .. => ClassRef.home

/-- The place a type is defined at, if it knows that. -/
def place? (type : TypeRef) : Option String :=
  match type with
  | .defined ref => if ref.knowsPlace then some ref.place else none
  | type => some (placeOf type)

/-- The descriptions of some types, which tell how they are called. -/
def descriptions : List (String × String) :=
  [("bool", "bool(x) -> bool"), ("bytes", "bytes(iterable_of_ints) -> bytes"),
    ("dict", "dict() -> new empty dictionary"), ("int", "int([x]) -> integer"),
    ("object", "The base class of the class hierarchy."), ("range", "range(stop) -> range object"),
    ("str", "str(object='') -> str"), ("type", "type(object) -> the object's type")]

/-- The description of a type. -/
def descriptionOf (typeName : String) : Meaning :=
  ((descriptions ++ Things.ownDescriptions).lookup typeName).elim description text

/-- What a class has for a freedom of its instances. -/
def freedomOf (className name : String) : Meaning :=
  .thing "getset_descriptor"
    ("<attribute " ++ Quoted.quoted name ++ " of " ++ Quoted.quoted className ++ " objects>")
    [("__name__", text name)]

/-- The freedoms that a class gives its instances which those of its bases do not have. -/
def newFreedoms (table : ClassTable) (type : TypeRef) : List String :=
  let given (name : String) : Bool :=
    (bases table type).any fun base => ClassBody.hasFreedom table name base
  ClassBody.freedoms.filter fun name => ClassBody.hasFreedom table name type && !given name

/-- The entries of a class: what it declares itself, where it is defined, what it lets its instances do,
and its description. -/
def classEntries (memory : Memory) (ref : ClassRef) : List (Meaning × Meaning) :=
  let type : TypeRef := .defined ref
  let own := (memory.table.ownMembers type).filterMap fun (label, _) =>
    (ownMember? memory type label).map fun found => (label, meaningOf found)
  let place :=
    if ref.knowsPlace && (own.lookup ClassBody.moduleMember).isNone then
      [(ClassBody.moduleMember, text ref.place)]
    else []
  let more := place ++ (newFreedoms memory.table type).map fun name => (name, freedomOf ref.name name)
  let before := own.takeWhile fun entry => entry.1 ≠ descriptionMember
  (before ++ more ++ own.drop before.length).map fun (label, found) => (text label, found)

/-- The entries of one of the two markers. -/
def markerEntries (type : TypeRef) : List (Meaning × Meaning) :=
  let capability := if type = .panel then Capability.panel else .page
  [(text ClassBody.moduleMember, text "autopanel.contract"),
    (text descriptionMember, (Things.ownDescriptions.lookup type.name).elim nothing text),
    (text Capability.memberName, text capability.label)] ++
    ClassBody.freedoms.map fun name => (text name, freedomOf type.name name)

/-- What is known of every type. -/
def ofType? (memory : Memory) (type : TypeRef) (name : String) : Option Meaning :=
  let table := memory.table
  match name with
  | "__name__" => some (text type.name)
  | "__qualname__" =>
    match type with
    | .defined ref => some (text ref.qualified)
    | other => some (text other.name)
  | "__class__" => some (.type (typeOf memory (.type type)))
  | "__mro__" => some (.tuple ((lineage table type).map .type))
  | "__bases__" => some (.tuple ((bases table type).map .type))
  | "__base__" =>
    match bases table type with
    | first :: _ => some (.type first)
    | [] => some nothing
  | "__doc__" =>
    match type with
    | .defined _ => some (((ownMember? memory type name).map meaningOf).getD nothing)
    | type => some (descriptionOf type.name)
  | "__dict__" =>
    match type with
    | .defined ref => some (.wrapped "mappingproxy" [.map (classEntries memory ref)])
    | .page | .panel => some (.wrapped "mappingproxy" [.map (markerEntries type)])
    | .builtin own =>
      some (.wrapped "mappingproxy" [.map ((ownNames own).map (fun (label, kind) =>
        (text label, .member own label kind)) ++ [(text descriptionMember, descriptionOf own)])])
    | _ => some (.wrapped "mappingproxy" [.map []])
  | "__hash__" =>
    match type with
    | .builtin name => if ["list", "dict", "set"].contains name then some nothing else none
    | .defined ref =>
      let fields := ((table.info? ref).bind ClassInfo.fields).isSome
      if fields && (table.member? type name).isNone then some nothing else none
    | _ => none
  | _ => none

/-- What a type has from the types of the language. -/
def fromLanguage? (table : ClassTable) (type : TypeRef) (name : String) : Option (String × MemberKind) :=
  match type with
  | .builtin own => Language.member? own name
  | other =>
    let core :=
      match table.coreType? other with
      | some (.builtin core) => core
      | _ => commonType
    Language.member? core name

/-- What a record type has under a name because it is one. -/
def ofRecordType? (memory : Memory) (type : TypeRef) (name : String) : Option Meaning :=
  (memory.table.lineage type).findSome? fun info =>
    info.fields.bind fun fields =>
      Things.ofRecordType? (fields.map fun field => (field, Things.fieldType)) false name

/-- The annotations that a class makes itself. -/
def classAnnotations (info : ClassInfo) : Meaning :=
  .map (info.annotated.map fun label => (text label, text Things.fieldType))

/-- Whether a type lists something under a name that it does not have itself. -/
def withheld (type : TypeRef) (name : String) : Bool :=
  type = .builtin "type" && (name = "__abstractmethods__" || name = "__annotations__")

/-- What the class that a class is an instance of has under a name. -/
def memberOfKind? (memory : Memory) (type : TypeRef) (name : String) : Option Found :=
  (kindOf? memory type).bind fun kind =>
    (member? memory (.defined kind) name).map fun (owner, found) =>
      onInstance memory (.type type) (.defined kind) owner name found

/-- What a type has under a name. -/
def typeMember (memory : Memory) (type : TypeRef) (name : String) : Except Failure Found :=
  match ofType? memory type name, name, type with
  | some found, _, _ => .ok (.plain found)
  | none, "__module__", type =>
    match place? type with
    | some place => .ok (.plain (text place))
    | none => .error (.missing name)
  | none, "__annotations__", .defined ref =>
    match ownMember? memory type name, memory.table.info? ref with
    | some found, _ => .ok (onType memory type type name found)
    | none, some info => .ok (.kept ref.number name (classAnnotations info))
    | none, none => .error (.missing name)
  | none, name, type =>
    let known :=
      match type with
      | .builtin own => Things.ofOwnType? own name
      | type => ofRecordType? memory type name
    match member? memory type name, known with
    | some (owner, found), _ => .ok (onType memory type owner name found)
    | none, some found => .ok (.plain found)
    | none, none =>
      if withheld type name then .error (.missing name)
      else match fromLanguage? memory.table type name, Language.member? "type" name with
      | some (_, .classMethod), _ => .ok (.plain (.method (.type type) name))
      | some (owner, kind), _ => .ok (.plain (.member owner name kind))
      | none, known =>
        match memberOfKind? memory type name, known with
        | some found, _ => .ok found
        | none, some (_, kind) =>
          if kind.isData then .error (.missing name) else .ok (.plain (.method (.type type) name))
        | none, none => .error (.missing name)

/-- What is known of everything that can be called. -/
def ofFunction? (own place : String) (name : String) : Option Meaning :=
  match name with
  | "__name__" | "__qualname__" => some (text own)
  | "__module__" => some (text place)
  | _ => none

/-- What a function of an author is annotated with. -/
def annotations (f : DeclaredFunction) : Meaning :=
  let typed := f.parameters.filterMap fun parameter =>
    parameter.typeText.map fun type => (text parameter.name, text type)
  .map (typed ++ (f.returns.toList.map fun type => (text "return", text type)))

/-- What a function of an author has under a name. -/
def functionMember (f : DeclaredFunction) (of : Option Meaning) (name : String) :
    Except Failure Meaning :=
  match ofFunction? f.name ClassRef.home name, Things.ofFunction? f.name (Things.parametersOf f) name with
  | some found, _ => .ok found
  | none, some found => .ok found
  | none, none =>
    let own : List (Meaning × Meaning) :=
      f.locator.toList.map fun descriptor => (text "__locator__", Things.ofLocator descriptor)
    match name, of with
    | "__annotations__", _ => .ok (annotations f)
    | "__dict__", _ => .ok (.map own)
    | "__self__", some of => .ok of
    | "__func__", some _ => .ok (.declared f none)
    | name, _ =>
      match lookup? (text name) own, Language.member? "function" name with
      | some found, _ => .ok found
      | none, some _ => .ok (.method (.declared f of) name)
      | none, none => .error (.missing name)

/-- What a function without a name has under a name. -/
def closureMember (item : Meaning) (slots : List (String × ParameterKind × Option Meaning))
    (name : String) : Except Failure Meaning :=
  match name, Things.ofFunction? "<lambda>" slots name, Language.member? "function" name with
  | "__name__", _, _ | "__qualname__", _, _ => .ok (text "<lambda>")
  | "__module__", _, _ => .ok nothing
  | "__annotations__", _, _ | "__dict__", _, _ => .ok (.map [])
  | _, some found, _ => .ok found
  | name, none, some _ => .ok (.method item name)
  | name, none, none => .error (.missing name)

/-- The attributes that have been given to a function, in the order in which they were. -/
def givenTo (memory : Memory) (item : Meaning) : List (String × Meaning) :=
  match item with
  | .held number _ => ((memory.attributeMaps.lookup number).map memory.entriesAt).getD []
  | _ => []

/-- What a function has been told under a name, or has been given as an attribute. -/
def told? (memory : Memory) (item : Meaning) (name : String) : Option Meaning :=
  match item with
  | .held number _ => (memory.notes.lookup (number, name)).or ((givenTo memory item).lookup name)
  | _ => none

/-- What a function without a name has under a name, with what it has been told and given. -/
def functionWith (memory : Memory) (item : Meaning)
    (slots : List (String × ParameterKind × Option Meaning)) (name : String) :
    Except Failure Meaning :=
  match told? memory item name with
  | some found => .ok found
  | none =>
    if name = "__dict__" then
      .ok (.map ((givenTo memory item).map fun (label, value) => (text label, value)))
    else closureMember item slots name

/-- The parts a number is made of. -/
def numberPart? (item : Meaning) (name : String) : Option Meaning :=
  let zero := Meaning.constant (.float (Binary64.zero false))
  match item.core, name with
  | .complex re _, "real" => some (.constant (.float re))
  | .complex _ im, "imag" => some (.constant (.float im))
  | .constant (.float x), "real" => some (.constant (.float x))
  | .constant (.float _), "imag" => some zero
  | .range start _ _, "start" => some (int start)
  | .range _ stop _, "stop" => some (int stop)
  | .range _ _ step, "step" => some (int step)
  | .slice start _ _, "start" => some start
  | .slice _ stop _, "stop" => some stop
  | .slice _ _ step, "step" => some step
  | item, name =>
    match item.integer?, name with
    | some i, "real" | some i, "numerator" => some (int i)
    | some _, "imag" => some (int 0)
    | some _, "denominator" => some (int 1)
    | _, _ => none

/-- What a view of the bytes of something has under a name. -/
def bytesPart? (whole : Meaning) (name : String) : Option Meaning :=
  let length := (whole.bytes?.getD []).length
  match name with
  | "obj" => some whole
  | "format" => some (text "B")
  | "itemsize" | "ndim" => some (int 1)
  | "nbytes" => some (int length)
  | "shape" => some (.tuple [int length])
  | "strides" => some (.tuple [int 1])
  | "suboffsets" => some (.tuple [])
  | "readonly" => some (bool !(whole.core matches .bytearray _))
  | "c_contiguous" | "contiguous" | "f_contiguous" => some (bool true)
  | _ => none

/-- What a value of the language is made of, by name. -/
def partOf? (item : Meaning) (name : String) : Option Meaning :=
  match item.bare with
  | .flaw typeName arguments attributes => Flaws.part? typeName arguments attributes name
  | .memoryview whole => bytesPart? whole name
  | .iterator "generator" _ =>
    match name with
    | "__name__" | "__qualname__" => some (text "<genexpr>")
    | "gi_running" | "gi_suspended" => some (bool false)
    | "gi_yieldfrom" => some nothing
    | _ => none
  | .wrapped "property" _ => if name = "__isabstractmethod__" then some (bool false) else none
  | .view _ of _ => if name = "mapping" then some (.wrapped "mappingproxy" [of]) else none
  | _ => numberPart? item name

/-- What an instance of a class has under a name from the value that it is besides. -/
def innerPart? (item : Meaning) (name : String) : Option Meaning :=
  match item.bare with
  | .instanceOf _ _ _ (some inner) => if name = "__dict__" then none else partOf? inner name
  | _ => none

/-- What a value of the language has under a name. -/
def valueMember (item : Meaning) (name : String) : Except Failure Meaning :=
  if name = "__class__" then .ok (.type item.typeOf)
  else if name = "__doc__" then
    .ok (if item.typeName = "NoneType" then nothing
      else descriptionOf item.typeName)
  else
    match partOf? item name with
    | some part => .ok part
    | none =>
      match Language.member? item.core.typeName name with
      | some (owner, .classMethod) =>
        .ok (.method (.type (if owner = commonType then .builtin owner else item.core.typeOf)) name)
      | some (owner, .free) => .ok (.member owner name .free)
      | some (_, .attribute) | some (_, .field) => .ok (.method item name)
      | some _ =>
        if name = "__hash__" && !item.hashable then .ok nothing else .ok (.method item name)
      | none => .error (.missing name)

/-- What an instance of a class has under a name. -/
def instanceMember (memory : Memory) (item : Meaning) (ofClass : ClassRef)
    (attributes : List (String × Meaning)) (name : String) : Except Failure Found :=
  let type : TypeRef := .defined ofClass
  let table := memory.table
  let declared := member? memory type name
  let first := declared.filter fun (_, found) => leads memory found
  match first, attributes.lookup name, declared with
  | some (owner, found), _, _ => .ok (onInstance memory item type owner name found)
  | none, some value, _ => .ok (.plain value)
  | none, none, some (owner, found) =>
    match found with
    | .inr own =>
      if ClassTable.reserves own then .error (.missing name)
      else .ok (onInstance memory item type owner name found)
    | found => .ok (onInstance memory item type owner name found)
  | none, none, none =>
    match name with
    | "__class__" => .ok (.plain (.type type))
    | "__dict__" =>
      if ClassBody.hasFreedom table name type then
        .ok (.plain (.map (attributes.map fun (label, value) => (text label, value))))
      else .error (.missing name)
    | "__module__" => typeMember memory type name
    | "__doc__" => .ok (.plain nothing)
    | name =>
      match innerPart? item name, fromLanguage? table type name, ofRecordType? memory type name with
      | some part, _, _ => .ok (.plain part)
      | none, some (_, .classMethod), _ => .ok (.plain (.method (.type type) name))
      | none, some _, _ => .ok (.plain (.method item name))
      | none, none, some found => .ok (.plain found)
      | none, none, none => .error (.missing name)

/-- The names that a type with others in brackets has of its own. -/
def genericNames : List String :=
  ["__class__", "__mro_entries__", "__reduce_ex__", "__reduce__"]

/-- The attributes of a choice between types that are its own. -/
def choiceParts (members : List Meaning) : List (String × Meaning) :=
  let called :=
    if members.length = 2 && members.any (same nothingType) then "Optional" else "Union"
  [("_inst", bool true), ("_name", text called), ("__origin__", .former "Union"),
    ("__slots__", nothing), ("__args__", .tuple members), ("__parameters__", .tuple []),
    ("_paramspec_tvars", bool false)]

/-- What a choice between types has under a name. -/
def choiceMember (members : List Meaning) (name : String) : Except Failure Meaning :=
  let parts := choiceParts members
  match parts.lookup name, name with
  | some part, _ => .ok part
  | none, "__dict__" => .ok (.map (parts.map fun (label, part) => (text label, part)))
  | none, "__name__" | none, "__qualname__" => .ok ((parts.lookup "_name").getD nothing)
  | none, "__module__" => .ok (text "typing")
  | none, "__doc__" | none, "__iter__" | none, "__weakref__" => .ok nothing
  | none, name =>
    if (choiceMethods.lookup name).isSome then .ok (.method (.choice members) name)
    else valueMember (.choice members) name

/-- What a function in a wrapping tells of itself by way of the wrapping. -/
def copied? (f : Meaning) (name : String) : Option Meaning :=
  match f.bare with
  | .function own => ofFunction? own ClassRef.builtinHome name
  | .declared f _ => ofFunction? f.name ClassRef.home name
  | .closure .. => if name = "__module__" then some nothing else ofFunction? "<lambda>" "" name
  | _ => none

/-- What something has under a name that is no class and no instance of one, and that is not what
every value has. -/
def ownPart (item : Meaning) (name : String) : Except Failure Meaning :=
  match item.bare with
  | .type (.optional of) => choiceMember [.type of, nothingType] name
  | .choice members => choiceMember members name
  | .union members =>
    match name with
    | "__args__" => .ok (.tuple members)
    | "__parameters__" => .ok (.tuple [])
    | name => valueMember item name
  | .later spelled _ =>
    match name with
    | "__forward_arg__" => .ok (text spelled)
    | "__forward_evaluated__" | "__forward_is_class__" => .ok (bool false)
    | "__forward_is_argument__" => .ok (bool true)
    | "__forward_value__" | "__forward_module__" => .ok nothing
    | name => valueMember item name
  | .former own =>
    match name with
    | "__name__" | "__qualname__" | "_name" => .ok (text own)
    | "__module__" => .ok (text "typing")
    | "__slots__" => .ok (.tuple (["_name", "__doc__", "_getitem"].map text))
    | "__call__" | "__getitem__" | "__or__" | "__ror__" => .ok (.method item name)
    | name => valueMember item name
  | .function own =>
    match ofFunction? own ClassRef.builtinHome name with
    | some found => .ok found
    | none =>
      if name = "__self__" then .ok ((Things.module? ClassRef.builtinHome).getD nothing)
      else valueMember item name
  | .member owner own _ =>
    match name with
    | "__name__" => .ok (text own)
    | "__qualname__" => .ok (text (owner ++ "." ++ own))
    | "__objclass__" => .ok (.type (.builtin owner))
    | "__call__" => .ok (.method item name)
    | name => valueMember item name
  | .method of own =>
    match name with
    | "__name__" => .ok (text own)
    | "__qualname__" => .ok (text (of.typeName ++ "." ++ own))
    | "__self__" => .ok of
    | "__module__" => .ok nothing
    | "__call__" => .ok (.method item name)
    | "__objclass__" =>
      match Language.member? of.core.typeName own with
      | some (owner, .operation) => .ok (.type (.builtin owner))
      | _ => .error (.missing name)
    | name => valueMember item name
  | .declared f of => functionMember f of name
  | .closure slots _ _ => closureMember item slots name
  | .bound f receiver =>
    match name, f.bare with
    | "__self__", _ => .ok receiver
    | "__func__", _ => .ok f
    | name, .closure slots _ _ => closureMember item slots name
    | name, _ => valueMember item name
  | .wrapped kind parts =>
    match kind, name, parts with
    | "property", "fget", get :: _ => .ok get
    | "property", "fset", _ :: setter :: _ => .ok setter
    | "property", "fdel", _ :: _ :: delete :: _ => .ok delete
    | "property", "__doc__", [_, _, _, described] => .ok described
    | "staticmethod", name, f :: _ | "classmethod", name, f :: _ =>
      if name = "__func__" || name = "__wrapped__" then .ok f
      else if name = "__isabstractmethod__" then .ok (bool false)
      else if name = "__dict__" then
        .ok (.map (["__module__", "__name__", "__qualname__", "__doc__"].filterMap fun label =>
          ((copied? f label).or (if label = "__doc__" then some description else none)).map
            fun found => (text label, found)))
      else
        match copied? f name with
        | some found => .ok found
        | none => valueMember item name
    | "mappingproxy", name, whole :: _ =>
      match Language.member? "mappingproxy" name with
      | some (_, .operation) =>
        if ["__contains__", "__getitem__", "__iter__", "__len__"].contains name then
          .ok (.method whole name)
        else .ok (.method item name)
      | some (_, .classMethod) => .ok (.method (.type (.builtin kind)) name)
      | some _ => .ok (.method whole name)
      | none => valueMember item name
    | _, name, _ => valueMember item name
  | .thing typeName _ attributes =>
    match if name = spokenLabel then none else attributes.lookup name with
    | some found => .ok found
    | none =>
      let offered :=
        if typeName = Things.moduleType then
          ((attributes.lookup "__name__").bind text?).bind fun own => Things.ofModule? own name
        else if typeName = Things.locatorType && Things.locatorMethods.contains name then
          some (.method item name)
        else if typeName = Things.kindType && (Things.kinds.lookup name).isSome then
          Things.kinds.lookup name
        else if name = "__dict__" then
          (Things.keptParts? typeName attributes).map fun parts =>
            .map (parts.map fun (label, part) => (text label, part))
        else if name = ClassBody.moduleMember then (TypeRef.places.lookup typeName).map text
        else
          ((Things.keptParts? typeName attributes).bind fun parts => parts.lookup name).or
            ((Things.ofOwnType? typeName name).filter fun found =>
              typeName = Things.locatorType && !(found matches .thing ..))
      match offered with
      | some found => .ok found
      | none => valueMember item name
  | _ => valueMember item name

/-- What something has under a name that is no class and no instance of one. -/
def plainMember (item : Meaning) (name : String) : Except Failure Meaning :=
  if name = "__class__" then .ok (.type item.typeOf) else ownPart item name

/-- What something has under a name from the types that come behind one of those it is of. -/
def memberBehind (memory : Memory) (start : TypeRef) (receiver : Meaning) (name : String) :
    Except Failure Found :=
  let asType? :=
    match receiver.bare with
    | .type ref => if (lineage memory.table ref).contains start then some ref else none
    | _ => none
  let origin := asType?.getD (typeOf memory receiver)
  let behind := ((lineage memory.table origin).dropWhile (· ≠ start)).tail
  let found := behind.findSome? fun ancestor =>
    match ancestor with
    | .builtin own =>
      (ownKind? own name).map fun kind =>
        match kind with
        | .free => Found.plain (.member own name .free)
        | .classMethod => .plain (.method (.type origin) name)
        | kind =>
          if asType?.isSome then .plain (.member own name kind) else .plain (.method receiver name)
    | ancestor =>
      (ownMember? memory ancestor name).map fun found =>
        if asType?.isSome then onType memory origin ancestor name found
        else onInstance memory receiver origin ancestor name found
  match name, found with
  | "__class__", _ => .ok (.plain (.type (.builtin "super")))
  | "__thisclass__", _ => .ok (.plain (.type start))
  | "__self__", _ => .ok (.plain receiver)
  | "__self_class__", _ => .ok (.plain (.type origin))
  | _, some found => .ok found
  | _, none => .error (.missing name)

/-- What something has under a name, as far as that is known without calling anything. -/
def find (memory : Memory) (item : Meaning) (name : String) : Except Failure Found :=
  match item.bare with
  | .instanceOf ofClass attributes _ _ => instanceMember memory item ofClass attributes name
  | .closure slots _ _ =>
    if name = "__class__" then .ok (.plain (.type item.typeOf))
    else (functionWith memory item slots name).map .plain
  | .bound f receiver =>
    match name, f.bare with
    | "__class__", _ => .ok (.plain (.type item.typeOf))
    | "__self__", _ => .ok (.plain receiver)
    | "__func__", _ => .ok (.plain f)
    | name, .closure slots _ _ =>
      match told? memory f name with
      | some found => .ok (.plain found)
      | none => (closureMember item slots name).map .plain
    | name, _ => (plainMember item name).map .plain
  | .wrapped "super" [start, receiver] =>
    match start.bare with
    | .type start => memberBehind memory start receiver name
    | _ => .error (.missing name)
  | .type (.optional _) => (plainMember item name).map .plain
  | .type ref => typeMember memory ref name
  | .thing .. =>
    match item.typeOf, plainMember item name with
    | .panel, .error _ | .page, .error _ => typeMember memory item.typeOf name
    | _, found => found.map .plain
  | .generic origin arguments =>
    match name with
    | "__origin__" => .ok (.plain (.type origin))
    | "__args__" => .ok (.plain (.tuple arguments))
    | "__parameters__" => .ok (.plain (.tuple []))
    | "__unpacked__" => .ok (.plain (bool false))
    | "__typing_unpacked_tuple_args__" => .ok (.plain nothing)
    | name =>
      if genericNames.contains name then (valueMember item name).map .plain
      else typeMember memory origin name
  | _ => (plainMember item name).map .plain

/-- What something has under a name; what has to be called for it is taken for nothing. -/
def known (memory : Memory) (item : Meaning) (name : String) : Except Failure Meaning :=
  (find memory item name).map fun
    | .plain found => found
    | .kept _ _ found => found
    | .computed .. => nothing

/-- The names that a type lists itself. -/
def ownNames (memory : Memory) (type : TypeRef) : List String :=
  match type with
  | .defined ref =>
    (classEntries memory ref).filterMap fun (label, _) => label.text?
  | .page | .panel => [Capability.memberName, "__module__", "__doc__"] ++ ClassBody.freedoms
  | .builtin own =>
    "__doc__" :: (Language.ownNames own).map Prod.fst ++
      (if own = Things.locatorType then Things.locatorMethods ++ Things.locatorComputed else [])
  | _ => []

/-- The names under which something has anything. -/
def allNames (memory : Memory) (item : Meaning) : List String :=
  let ofType (type : TypeRef) : List String :=
    (lineage memory.table type).flatMap (ownNames memory)
  match item.bare with
  | .type ref => ofType ref
  | .instanceOf ofClass attributes _ _ => attributes.map Prod.fst ++ ofType (.defined ofClass)
  | .thing typeName _ attributes =>
    ((Things.keptParts? typeName attributes).getD []).map Prod.fst ++ ofType item.typeOf
  | .closure .. => (givenTo memory item).map Prod.fst ++ ofType item.typeOf
  | _ => ofType item.typeOf

variable (machine : Machine)

/-- Keep a member of a class that may change. -/
def keep (owner : Nat) (label : String) (item : Meaning) : Eval Meaning := do
  let item ← Eval.owned item
  modify fun memory =>
    let isNew := ((memory.table.classes[owner]?).map fun info =>
      (info.members.lookup label).isNone).getD false
    let table :=
      if isNew then
        ⟨memory.table.classes.modify owner fun info => info.setMember label (.constant item.toValue)⟩
      else memory.table
    { memory with table, members := ((owner, label), item) :: memory.members }
  return item

/-- What something has under a name, whatever functions its class has for reaching attributes. -/
def plainGet (item : Meaning) (name : String) : Eval Meaning := do
  let memory ← EStateM.get
  match find memory item name with
  | .ok (.plain found) =>
    let keepsAttributes := item.bare matches .instanceOf .. || item.bare matches .closure ..
    if name = "__dict__" && found matches .map _ && keepsAttributes then
      Eval.attributeMap item found
    else return found
  | .ok (.kept owner label found) => keep owner label found
  | .ok (.computed f given) =>
    if f.bare matches .constant .none then throw (.missing name)
    machine.call f given []
  | .error failure => throw failure

/-- Something, or what comes in its place when it is not there. -/
def orElse (wanted resort : Eval Meaning) : Eval Meaning := fun memory =>
  match wanted memory with
  | .ok found after => .ok found after
  | .error failure after =>
    if failure.kind = .missingAttribute then resort after else .error failure after

/-- What something has under a name. The author's function for reaching attributes gives it if the class
has one, and an author's last resort is asked for what is not there. -/
def get (item : Meaning) (name : String) : Eval Meaning := do
  let memory ← EStateM.get
  let own (label : String) : Option Meaning :=
    (holderOf? memory item).bind fun ofClass => functionOn? memory item (.defined ofClass) label
  let wanted : Eval Meaning :=
    match own "__getattribute__" with
    | some f => machine.call f [text name] []
    | none => plainGet machine item name
  match own "__getattr__" with
  | none => wanted
  | some resort => orElse wanted (machine.call resort [text name] [])

/-- What something has under a name, unless it has nothing there. -/
def get? (item : Meaning) (name : String) : Eval (Option Meaning) := fun memory =>
  match get machine item name memory with
  | .ok found memory => .ok (some found) memory
  | .error failure memory =>
    if failure.kind = .missingAttribute then .ok none memory else .error failure memory

/-- The function that the class of something has under a name, on it. -/
def own? (item : Meaning) (name : String) : Eval (Option Meaning) := do
  let memory ← EStateM.get
  return (holderOf? memory item).bind fun ofClass => functionOn? memory item (.defined ofClass) name

/-- Something as the whole number that it stands for where one chooses a place, if the function of its
class says so; a slice with such bounds. -/
def asIndex (item : Meaning) : Eval Meaning := do
  match item.bare with
  | .slice start stop step => return .slice (← one start) (← one stop) (← one step)
  | _ => one item
where
  /-- Something as the whole number that it stands for. -/
  one (item : Meaning) : Eval Meaning := do
    let own ← own? item "__index__"
    match if item.integer?.isSome then none else own with
    | none => return item
    | some f =>
      let result ← Eval.fresh (← machine.call f [] [])
      match result.integer? with
      | some i => return int i
      | none => misuse "__index__ returned non-int"

/-- The entries of something whose class has functions for giving keys and for what stands under them. -/
def entriesOf? (item : Meaning) : Eval (Option (List (Meaning × Meaning))) := do
  match ← own? item "keys", ← own? item "__getitem__" with
  | some keys, some f =>
    let keys ← machine.items (← machine.call keys [] [])
    return some (← keys.mapM fun key => do return (← Eval.fresh key, ← machine.call f [key] []))
  | _, _ => return none

/-- Whether the class of something, or of something in it, has a function for a comparison. The fuel
bounds how deep things stand inside one another. -/
def hasOwn (memory : Memory) (names : List String) : Nat → Meaning → Bool
  | 0, _ => false
  | fuel + 1, item =>
    match item.bare with
    | .tuple items | .list items => items.any (hasOwn memory names fuel)
    | .map entries => entries.any fun (_, value) => hasOwn memory names fuel value
    | item =>
      match holderOf? memory item with
      | some ofClass => names.any fun name => (member? memory (.defined ofClass) name).isSome
      | none => false

/-- The functions for comparisons by equality. -/
def equating : List String := ["__eq__", "__ne__"]

/-- The functions for comparisons by order. -/
def ordering : List String := ["__lt__", "__gt__", "__le__", "__ge__"]

/-- How deep things are looked through for functions of their classes. -/
def lookDepth : Nat := 20

end Access
end PageContracts.Language
