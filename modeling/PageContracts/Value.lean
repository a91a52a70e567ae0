import PageContracts.Calendar
import PageContracts.Mishap
import PageContracts.Number.Decimal
import PageContracts.QueryParams

/-! # Values

What operations are called with and what settings hold: plain data, query parameters, instances
of models, references to classes and to live objects.
-/
namespace PageContracts

/-- Where the classes of the program are defined. -/
def ClassRef.home : String := "oracle"

/-- Where the types of the language are defined. -/
def ClassRef.builtinHome : String := "builtins"

/-- A class of the program under test: its number tells it from every other class, also from one
of the same name defined later. -/
structure ClassRef where
  number : Nat
  name : String
  /-- The name within the place the class is defined at. -/
  qualified : String := name
  /-- The place the class is defined at. -/
  place : String := ClassRef.home
  /-- Whether that place has a name that is a text. -/
  placed : Bool := true
  deriving DecidableEq, Repr, Inhabited

namespace ClassRef

/-- Whether the class knows the place it is defined at. -/
def knowsPlace (ref : ClassRef) : Bool :=
  ref.placed || ref.place ≠ builtinHome

/-- The name together with the place the class is defined at. -/
def fullName (ref : ClassRef) : String :=
  if ref.place = builtinHome then ref.qualified else ref.place ++ "." ++ ref.qualified

/-- A class as messages show it. -/
def display (ref : ClassRef) : String :=
  if ref.placed && ref.place ≠ builtinHome then
    "<class '" ++ ref.place ++ "." ++ ref.qualified ++ "'>"
  else "<class '" ++ ref.name ++ "'>"

end ClassRef

/-- A type as annotations and instructions name it. -/
inductive TypeRef where
  /-- A type of the language itself, by name. -/
  | builtin (name : String)
  /-- The type every value has. -/
  | anything
  /-- A value of the type or nothing. -/
  | optional (of : TypeRef)
  /-- The marker of top-level screens. -/
  | page
  /-- The marker of regions inside a screen. -/
  | panel
  /-- A class of the program. -/
  | defined (ref : ClassRef)
  /-- Anything else that may stand where a type does: what it is called, if it has a name of its
  own, and what it looks like. -/
  | other (called : Option String) (shown : String) (hashable : Bool)
  deriving DecidableEq, Repr, Inhabited

namespace TypeRef

/-- The name messages give a type; what has no name is shown. -/
def name : TypeRef → String
  | .builtin name => name
  | .anything => "Any"
  | .optional _ => "Optional"
  | .page => "Page"
  | .panel => "Panel"
  | .defined ref => ref.name
  | .other called shown _ => called.getD shown

/-- The name of a type between quotes; what has no name is shown without them. -/
def quotedName : TypeRef → String
  | .other none shown _ => shown
  | type => Quoted.quoted type.name

/-- Whether a type may be looked up among others. -/
def hashable : TypeRef → Bool
  | .other _ _ hashable => hashable
  | _ => true

/-- The type of texts. -/
def text : TypeRef := .builtin "str"

/-- The type of integers. -/
def integer : TypeRef := .builtin "int"

/-- The type of the value that is nothing. -/
def nothing : TypeRef := .builtin "NoneType"

/-- The places of types of the language that are not where the others are. -/
def places : List (String × String) :=
  [("GenericAlias", "types"), ("UnionType", "types"), ("_UnionGenericAlias", "typing"),
    ("_SpecialForm", "typing"), ("ForwardRef", "typing"), ("_AnyMeta", "typing"),
    ("_NotIterable", "typing"), ("_GenericAlias", "typing"), ("_BaseGenericAlias", "typing"),
    ("_Final", "typing"), ("EnumType", "enum"), ("Enum", "enum"),
    ("LocatorDescriptor", "autopanel.locator"), ("LocatorKind", "autopanel.locator"), ("Field", "dataclasses"),
    ("_MISSING_TYPE", "dataclasses"), ("_DataclassParams", "dataclasses")]

/-- The name of a type with the place it is defined at. -/
def fullName : TypeRef → String
  | .page => "autopanel.contract.Page"
  | .panel => "autopanel.contract.Panel"
  | .anything => "typing.Any"
  | .defined ref => ref.fullName
  | .builtin name => ((places.lookup name).map (· ++ ".")).getD "" ++ name
  | .other _ shown _ =>
    match shown.splitOn "'" with
    | ["<class ", place, ">"] => place
    | _ => shown
  | .optional of => of.name

/-- How messages show the type where a value is expected. -/
def display : TypeRef → String
  | .anything => "typing.Any"
  | .optional of => "typing.Optional[" ++ of.fullName ++ "]"
  | .other _ shown _ => shown
  | .defined ref => ref.display
  | .builtin "LocatorKind" => "<enum 'LocatorKind'>"
  | .builtin "Enum" => "<enum 'Enum'>"
  | type => "<class '" ++ type.fullName ++ "'>"

/-- The name of a type with the place it is defined at, in or before brackets; a class that does not know
its place is shown as it is alone. -/
def nameInBrackets (type : TypeRef) : String :=
  match type with
  | .defined ref => if ref.knowsPlace then type.fullName else type.display
  | type => type.fullName

/-- A type in which every class has been replaced. -/
def mapClasses (change : ClassRef → ClassRef) : TypeRef → TypeRef
  | .defined ref => .defined (change ref)
  | .optional of => .optional (of.mapClasses change)
  | type => type

/-- The name of what a type is itself an instance of. -/
def kindName : TypeRef → String
  | .anything => "_AnyMeta"
  | .optional _ => "_UnionGenericAlias"
  | .builtin "LocatorKind" | .builtin "Enum" => "EnumType"
  | _ => "type"

end TypeRef

/-- A live object as other values refer to it: its number, the contract it implements, the name of
its type, the text it is shown as or the reason why it cannot be, whether that is also what it
says when asked for a text, whether it may be a key of a map, and whether it holds anything, if it
is something that holds. -/
structure ObjectRef where
  number : Nat
  contract : ClassRef
  typeName : String
  shown : Except Mishap String
  speaks : Bool := true
  hashable : Bool := true
  full : Bool := true
  deriving Repr, Inhabited

/-- What an instance of a class can do: be shown, unless something keeps it from that, by its fields
or otherwise, be equal to another because of its fields, give a text when it is asked for one, be a
key of a map, and be made into a number by the functions its author has for that. The look and the
text that functions of its author have given for it are kept with it. -/
structure RecordTraits where
  unshown : Option Mishap := none
  look : Option String := none
  said : Option String := none
  byFields : Bool := true
  compares : Bool := true
  speaks : Bool := true
  hashable : Bool := true
  conversions : List String := []
  deriving DecidableEq, Repr, Inhabited

/-- A value. -/
inductive Value where
  | none
  | bool (b : Bool)
  | int (i : Int)
  | float (x : Binary64)
  | text (s : String)
  | bytes (b : List UInt8)
  | date (d : CalendarDate)
  | moment (m : Moment)
  | list (items : List Value)
  | tuple (items : List Value)
  | set (items : List Value)
  | map (entries : List (Value × Value))
  | query (params : QueryParams)
  /-- An instance of a class, with the attributes its construction gave it, and with the value it
  is besides when its class descends from a type of the language. -/
  | record (ofClass : ClassRef) (attributes : List (String × Value)) (traits : RecordTraits)
      (core : Option Value)
  | type (ref : TypeRef)
  | object (ref : ObjectRef)
  /-- Anything else, of which only the name of its type, its look, and the text it gives when it is
  asked for one and that is not its look, are known. -/
  | other (typeName shown : String) (said : Option String := Option.none)
  deriving Repr, Inhabited

namespace Value

/-- The name of a value's type. -/
def typeName : Value → String
  | .none => "NoneType"
  | .bool _ => "bool"
  | .int _ => "int"
  | .float _ => "float"
  | .text _ => "str"
  | .bytes _ => "bytes"
  | .date _ => "date"
  | .moment _ => "datetime"
  | .list _ => "list"
  | .tuple _ => "tuple"
  | .set _ => "set"
  | .map _ => "dict"
  | .query _ => "QueryParams"
  | .record ofClass _ _ _ => ofClass.name
  | .type ref => ref.kindName
  | .object ref => ref.typeName
  | .other typeName _ _ => typeName

/-- The value of the language that a value is: an instance of a class that descends from a type of
the language is one of that type. -/
def core : Value → Value
  | .record _ _ _ (some inner) => inner
  | value => value

/-- Whether a condition on the value holds: nothing, false, zero and everything empty do not. -/
def truthy : Value → Bool
  | .none => false
  | .bool b => b
  | .int i => i ≠ 0
  | .float x => !x.isZero
  | .text s => !s.toList.isEmpty
  | .bytes b => !b.isEmpty
  | .list items => !items.isEmpty
  | .tuple items => !items.isEmpty
  | .set items => !items.isEmpty
  | .map entries => !entries.isEmpty
  | .query params => params.nonempty
  | .record _ _ _ (some inner) => inner.truthy
  | .object ref => ref.full
  | _ => true

/-- Items between brackets; the comma of a row of one is kept when `row` says so. -/
def bracketed (opening closing : String) (row : Bool) (items : List String) : String :=
  let comma := if row && items.length = 1 then "," else ""
  opening ++ String.intercalate ", " items ++ comma ++ closing

mutual

/-- A value as messages show it, texts quoted by `quote`. -/
def showBy (quote : String → String) : Value → String
  | .none => "None"
  | .bool b => if b then "True" else "False"
  | .int i => toString i
  | .float x => Decimal.display x
  | .text s => quote s
  | .bytes b => Quoted.quotedBytes b
  | .date d => d.quoted
  | .moment m => m.quoted
  | .list items => bracketed "[" "]" false (showItems quote items)
  | .tuple items => bracketed "(" ")" true (showItems quote items)
  | .set [] => "set()"
  | .set items => bracketed "\x7b" "\x7d" false (showItems quote items)
  | .map entries => bracketed "\x7b" "\x7d" false (showEntries quote entries)
  | .query params => "QueryParams(" ++ quote params.text ++ ")"
  | .record _ _ { look := some look, .. } _ => look
  | .record _ _ { byFields := false, .. } (some inner) => showBy quote inner
  | .record ofClass _ { byFields := false, .. } Option.none => "<" ++ ofClass.fullName ++ " object>"
  | .record ofClass attributes _ _ =>
    bracketed (ofClass.qualified ++ "(") ")" false (showAttributes quote attributes)
  | .type ref => ref.display
  | .object ref => ref.shown.toOption.getD ""
  | .other _ shown _ => shown

/-- Items as messages show them. -/
def showItems (quote : String → String) : List Value → List String
  | [] => []
  | item :: rest => showBy quote item :: showItems quote rest

/-- Map entries as messages show them. -/
def showEntries (quote : String → String) : List (Value × Value) → List String
  | [] => []
  | (key, value) :: rest =>
    (showBy quote key ++ ": " ++ showBy quote value) :: showEntries quote rest

/-- Record attributes as messages show them. -/
def showAttributes (quote : String → String) : List (String × Value) → List String
  | [] => []
  | (name, value) :: rest => (name ++ "=" ++ showBy quote value) :: showAttributes quote rest

end

/-- A value as messages show it. -/
def quoted : Value → String :=
  showBy Quoted.quoted

/-- A value as messages restricted to ASCII show it. -/
def quotedAscii : Value → String :=
  showBy Quoted.quotedAscii

/-- A value as text: a text is itself, query parameters are their query string, dates and moments
have a form of their own, and anything else is shown. -/
def display : Value → String
  | .text s => s
  | .query params => params.text
  | .date d => d.display
  | .moment m => m.display
  | .record _ _ { said := some said, .. } _ => said
  | .record _ _ _ (some (.text s)) => s
  | .record _ _ { look := Option.none, .. } (some (.bytes b)) => Quoted.quotedBytes b
  | .other _ _ (some said) => said
  | value => value.quoted

/-- The least natural number with too many digits to be written in decimal. -/
def unwritable : Nat := Nat.pow 10 4300

/-- What keeps an integer from being written in decimal. -/
def digitFlaw? (i : Int) : Option Mishap :=
  if i.natAbs < unwritable then Option.none
  else some ⟨.valueBreach "Exceeds the limit for integer string conversion", rfl⟩

mutual

/-- What keeps a value from being shown: an integer in it that cannot be written, or something
that does not tell how it looks. -/
def flaw? : Value → Option Mishap
  | .int i => digitFlaw? i
  | .list items => flawAmong? items
  | .tuple items => flawAmong? items
  | .set items => flawAmong? items
  | .map entries => flawAmongEntries? entries
  | .record _ _ { look := some _, .. } _ => Option.none
  | .record _ _ { unshown := some mishap, .. } _ => some mishap
  | .record _ _ { byFields := false, .. } (some inner) => flaw? inner
  | .record _ attributes _ _ => flawAmongAttributes? attributes
  | .object { shown := .error mishap, .. } => some mishap
  | _ => Option.none

/-- The first flaw of some values. -/
def flawAmong? : List Value → Option Mishap
  | [] => Option.none
  | item :: rest => (flaw? item).or (flawAmong? rest)

/-- The first flaw of map entries. -/
def flawAmongEntries? : List (Value × Value) → Option Mishap
  | [] => Option.none
  | (key, value) :: rest => ((flaw? key).or (flaw? value)).or (flawAmongEntries? rest)

/-- The first flaw of record attributes. -/
def flawAmongAttributes? : List (String × Value) → Option Mishap
  | [] => Option.none
  | (_, value) :: rest => (flaw? value).or (flawAmongAttributes? rest)

end

/-- Whether a value gives a text when it is asked for one. -/
def speaks : Value → Bool
  | .record _ _ traits _ => traits.speaks || traits.said.isSome
  | .object ref => ref.speaks
  | _ => true

/-- Whether the author of a value's class has a function of some name for making it into a number. -/
def converts (value : Value) (name : String) : Bool :=
  match value with
  | .record _ _ traits _ => traits.conversions.contains name
  | _ => false

/-- A form of a value, unless something keeps it from being shown. -/
def written (form : Value → String) (value : Value) : Except Failure String :=
  match value.flaw? with
  | Option.none => .ok (form value)
  | some mishap => .error mishap.failure

/-- The text of a value, as far as it has one. An instance that is a text besides need not be
shown for that. -/
def spoken (value : Value) : Except Failure String :=
  if !value.speaks then .error (.typeBreach "__str__ returned non-string")
  else
    match value with
    | .record _ _ { said := some said, .. } _ => .ok said
    | .record _ _ _ (some (.text s)) => .ok s
    | .record _ _ { look := Option.none, .. } (some (.bytes b)) => .ok (Quoted.quotedBytes b)
    | value => value.written display

theorem written_onlyMishaps (form : Value → String) (value : Value) :
    OnlyMishaps (value.written form) := by
  unfold written
  split
  · exact .ok _
  · next mishap _ => exact .error mishap.apart

theorem spoken_onlyMishaps (value : Value) : OnlyMishaps value.spoken := by
  unfold spoken
  refine .ite (.typeBreach _) ?_
  split
  · exact .ok _
  · exact .ok _
  · exact .ok _
  · exact written_onlyMishaps _ _

/-- The integer a value counts as; the truth values count as one and zero. -/
def toInt? : Value → Option Int
  | .int i => some i
  | .bool b => some (if b then 1 else 0)
  | .record _ _ _ (some (.int i)) => some i
  | _ => Option.none

/-- Whether a value is the text `s`. -/
def isText (s : String) : Value → Bool
  | .text t => t = s
  | _ => false

/-- The number of items of a value that has items. -/
def length? : Value → Option Nat
  | .text s => some s.length
  | .bytes b => some b.length
  | .list items => some items.length
  | .tuple items => some items.length
  | .set items => some items.length
  | .map entries => some entries.length
  | .query params => some params.pairs.length
  | .record _ _ _ (some inner) => inner.length?
  | _ => Option.none

mutual

/-- Whether two values are equal, also as keys of a map: numbers are compared by value, whatever
their kind, instances of record types by their fields, and other instances by the value they are
besides. What is no number is never equal to anything. -/
def sameKey : Value → Value → Bool
  | .none, .none => true
  | .text a, .text b => a = b
  | .bytes a, .bytes b => a = b
  | .date a, .date b => a = b
  | .moment a, .moment b => a.same b
  | .list a, .list b => sameKeys a b
  | .tuple a, .tuple b => sameKeys a b
  | .set a, .set b => a.length = b.length && allAmong a b
  | .map a, .map b => a.length = b.length && allEntriesAmong a b
  | .record a as { compares := true, .. } _, .record b bs { compares := true, .. } _ =>
    a.number = b.number && sameAttributes as bs
  | .record _ _ { compares := false, .. } (some inner), second => sameKey inner second.core
  | .type a, .type b => a = b
  | .object a, .object b => a.number = b.number
  | .query a, .query b => a = b
  | .other a shownA _, .other b shownB _ => a = b && shownA = shownB
  | .float x, .float y => x.same y
  | .text a, .record _ _ { compares := false, .. } (some (.text b)) => a = b
  | .bytes a, .record _ _ { compares := false, .. } (some (.bytes b)) => a = b
  | .list a, .record _ _ { compares := false, .. } (some (.list b)) => sameKeys a b
  | .map a, .record _ _ { compares := false, .. } (some (.map b)) =>
    a.length = b.length && allEntriesAmong a b
  | .float x, .record _ _ { compares := false, .. } (some (.float y)) => x.same y
  | .float x, b => (b.toInt?.map x.eqInt).getD false
  | a, .float y => (a.toInt?.map y.eqInt).getD false
  | a, b =>
    match a.toInt?, b.toInt? with
    | some i, some j => i = j
    | _, _ => false

/-- Whether two rows of values are equal. -/
def sameKeys : List Value → List Value → Bool
  | [], [] => true
  | a :: as, b :: bs => sameKey a b && sameKeys as bs
  | _, _ => false

/-- Whether all of some values are among others. -/
def allAmong : List Value → List Value → Bool
  | [], _ => true
  | a :: as, bs => bs.any (fun b => sameKey a b) && allAmong as bs

/-- Whether all of some map entries are among others. -/
def allEntriesAmong : List (Value × Value) → List (Value × Value) → Bool
  | [], _ => true
  | (key, value) :: as, bs =>
    bs.any (fun b => sameKey key b.1 && sameKey value b.2) && allEntriesAmong as bs

/-- Whether two rows of attributes are equal. -/
def sameAttributes : List (String × Value) → List (String × Value) → Bool
  | [], [] => true
  | (nameA, a) :: as, (nameB, b) :: bs => nameA = nameB && sameKey a b && sameAttributes as bs
  | _, _ => false

end

mutual

/-- Whether a value may be a key of a map. -/
def hashable : Value → Bool
  | .list _ => false
  | .map _ => false
  | .set _ => false
  | .tuple items => areHashable items
  | .record _ _ traits _ => traits.hashable
  | .object ref => ref.hashable
  | .other typeName _ _ => !(["list", "dict", "set", "mappingproxy", "slice"].contains typeName)
  | _ => true

/-- Whether all of some values may be keys. -/
def areHashable : List Value → Bool
  | [] => true
  | item :: rest => item.hashable && areHashable rest

end

mutual

/-- A value in which every class and every object has been replaced. -/
def mapRefs (change : ClassRef → ClassRef) (renew : ObjectRef → ObjectRef) : Value → Value
  | .list items => .list (mapRefsAll change renew items)
  | .tuple items => .tuple (mapRefsAll change renew items)
  | .set items => .set (mapRefsAll change renew items)
  | .map entries => .map (mapRefsEntries change renew entries)
  | .record ofClass attributes traits core =>
    .record (change ofClass) (mapRefsAttributes change renew attributes) traits core
  | .type ref => .type (ref.mapClasses change)
  | .object ref => .object (renew ref)
  | value => value

/-- Values in which every class and every object has been replaced. -/
def mapRefsAll (change : ClassRef → ClassRef) (renew : ObjectRef → ObjectRef) :
    List Value → List Value
  | [] => []
  | item :: rest => mapRefs change renew item :: mapRefsAll change renew rest

/-- Map entries in which every class and every object has been replaced. -/
def mapRefsEntries (change : ClassRef → ClassRef) (renew : ObjectRef → ObjectRef) :
    List (Value × Value) → List (Value × Value)
  | [] => []
  | (key, value) :: rest =>
    (mapRefs change renew key, mapRefs change renew value) :: mapRefsEntries change renew rest

/-- Attributes in which every class and every object has been replaced. -/
def mapRefsAttributes (change : ClassRef → ClassRef) (renew : ObjectRef → ObjectRef) :
    List (String × Value) → List (String × Value)
  | [] => []
  | (name, value) :: rest =>
    (name, mapRefs change renew value) :: mapRefsAttributes change renew rest

end

/-- A value in which every class has been replaced. -/
def mapClasses (change : ClassRef → ClassRef) : Value → Value :=
  mapRefs change fun ref => { ref with contract := change ref.contract }

/-- A value in which every object has been replaced. -/
def mapObjects (renew : ObjectRef → ObjectRef) : Value → Value :=
  mapRefs id renew

mutual

/-- Whether a value holds itself. -/
def isEndless : Value → Bool
  | .other typeName _ _ => typeName = "list" || typeName = "dict"
  | .list items => areEndless items
  | .tuple items => areEndless items
  | .map entries => haveEndless entries
  | _ => false

/-- Whether one of some values holds itself. -/
def areEndless : List Value → Bool
  | [] => false
  | item :: rest => isEndless item || areEndless rest

/-- Whether a key or a value of map entries holds itself. -/
def haveEndless : List (Value × Value) → Bool
  | [] => false
  | (key, value) :: rest => isEndless key || isEndless value || haveEndless rest

end

/-- A value that can be written out item by item, because it comes to an end. -/
def ending (value : Value) : Except Failure Value :=
  if value.isEndless then .error (.breach .tooDeep "maximum recursion depth exceeded") else .ok value

/-- The value under a text key of a list of map entries. -/
def lookup? (key : String) (entries : List (Value × Value)) : Option Value :=
  (entries.find? fun entry => entry.1.isText key).map Prod.snd

/-- Entries with one of them set: a key that is there keeps its place and its form. -/
def setEntry (key value : Value) : List (Value × Value) → List (Value × Value)
  | [] => [(key, value)]
  | (known, old) :: rest =>
    if known.sameKey key then (known, value) :: rest
    else (known, old) :: setEntry key value rest

/-- Map entries with keys that may be keys, of which the last of those with the same key counts,
in the place of the first. -/
def mapOf : List (Value × Value) → List (Value × Value) → Except Failure Value
  | [], entries => .ok (.map entries)
  | (key, value) :: rest, entries =>
    if key.hashable then mapOf rest (setEntry key value entries)
    else .error (.typeBreach ("unhashable type: " ++ Quoted.quoted key.typeName))

theorem mapOf_onlyMishaps (items entries : List (Value × Value)) :
    OnlyMishaps (mapOf items entries) := by
  induction items generalizing entries with
  | nil => exact .ok _
  | cons item rest ih => exact .ite (ih _) (.typeBreach _)

end Value
end PageContracts
