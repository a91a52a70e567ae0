import PageContracts.Language.FailureText
import PageContracts.Language.Members
import PageContracts.Language.Parser
import PageContracts.Value.Arithmetic

/-! # The meaning of expressions

What an expression means: a value, a type or something built of types, a row or map of meanings, or
something that can be called. Rows that are made when they are asked for, and the names that
functions without a name see, are kept elsewhere under numbers.
-/
namespace PageContracts.Language

/-- What an expression means. -/
inductive Meaning where
  | constant (value : Value)
  | type (ref : TypeRef)
  /-- A text that stands for a type, with the expression it spells. -/
  | later (text : String) (expression : Expression)
  /-- A form that makes types of others, by itself: the one of optional types, the one of choices. -/
  | former (name : String)
  /-- A type of containers with what stands in brackets behind it. -/
  | generic (origin : TypeRef) (arguments : List Meaning)
  /-- One of several types, joined by a sign. -/
  | union (members : List Meaning)
  /-- One of several types, of which at least one was made optional. -/
  | choice (members : List Meaning)
  | tuple (items : List Meaning)
  | list (items : List Meaning)
  | set (isFrozen : Bool) (items : List Meaning)
  | map (entries : List (Meaning × Meaning))
  /-- The keys, values or entries of a map, and what they were when it was last looked at. -/
  | view (kind : String) (of : Meaning) (items : List Meaning)
  | complex (re im : Binary64)
  | range (start stop step : Int)
  | slice (start stop step : Meaning)
  /-- A function of the language. -/
  | function (name : String)
  /-- A member of a type of the language, by itself. -/
  | member (type name : String) (kind : MemberKind)
  /-- A member of a type of the language, taken from a value. -/
  | method (of : Meaning) (name : String)
  /-- A function of an author, with what it was taken from when it is called on that. -/
  | declared (f : DeclaredFunction) (of : Option Meaning)
  /-- A function without a name, with the number of the frame it was made in. -/
  | closure (parameters : List (String × ParameterKind × Option Meaning)) (body : Expression)
      (frame : Option Nat)
  /-- A row whose items are made when they are asked for. -/
  | iterator (kind : String) (number : Nat)
  /-- Something that may change, or that is like nothing but itself: its number in the memory, and
  what it last was. -/
  | held (number : Nat) (content : Meaning)
  /-- An instance of a class: its attributes, and the value it is besides. -/
  | instanceOf (ofClass : ClassRef) (attributes : List (String × Meaning)) (traits : RecordTraits)
      (inner : Option Meaning)
  /-- Bytes that may change. -/
  | bytearray (bytes : List UInt8)
  /-- The bytes of something as they lie in memory. -/
  | memoryview (of : Meaning)
  /-- A failure as a value: what it was made with, and the attributes it has besides. -/
  | flaw (name : String) (arguments : List Meaning) (attributes : List (String × Meaning))
  /-- Functions with something around them that says how they are called. -/
  | wrapped (kind : String) (parts : List Meaning)
  /-- A function with what it is called on. -/
  | bound (f receiver : Meaning)
  /-- Something with attributes of its own that are known from the start. -/
  | thing (typeName look : String) (attributes : List (String × Meaning))
  deriving Repr, Inhabited

namespace Meaning

/-- Nothing. -/
def nothing : Meaning := .constant .none

/-- The type of nothing. -/
def nothingType : Meaning := .type .nothing

/-- A text. -/
def text (s : String) : Meaning := .constant (.text s)

/-- A whole number. -/
def int (i : Int) : Meaning := .constant (.int i)

/-- A truth value. -/
def bool (b : Bool) : Meaning := .constant (.bool b)

/-- Something that no operation of the language allows. -/
def misuse {α : Type} (message : String) : Except Failure α :=
  .error (.typeBreach message)

/-- The name of the type that a member of a type is of when it is taken from something: operations
are told from other methods. -/
def methodType (type : TypeRef) (name : String) : String :=
  let owner :=
    match type with
    | .builtin own => own
    | _ => commonType
  match member? owner name with
  | some (_, .operation) => "method-wrapper"
  | some _ => "builtin_function_or_method"
  | none =>
    if name.startsWith "__" && name.endsWith "__" then "method-wrapper"
    else "builtin_function_or_method"

/-- The type something is of. -/
def typeOf : Meaning → TypeRef
  | .held _ content => content.typeOf
  | .instanceOf ofClass _ _ _ => .defined ofClass
  | .bytearray _ => .builtin "bytearray"
  | .memoryview _ => .builtin "memoryview"
  | .flaw name _ _ => .builtin name
  | .wrapped kind _ => .builtin kind
  | .bound .. => .builtin "method"
  | .thing typeName _ _ =>
    if typeName = TypeRef.page.name then .page
    else if typeName = TypeRef.panel.name then .panel
    else .builtin typeName
  | .constant (.object ref) => .other (some ref.typeName) ref.typeName true
  | .constant value => .builtin value.typeName
  | .type ref => .builtin ref.kindName
  | .later .. => .builtin "ForwardRef"
  | .former _ => .builtin "_SpecialForm"
  | .generic .. => .builtin "GenericAlias"
  | .union _ => .builtin "UnionType"
  | .choice _ => .builtin "_UnionGenericAlias"
  | .tuple _ => .builtin "tuple"
  | .list _ => .builtin "list"
  | .set isFrozen _ => .builtin (if isFrozen then "frozenset" else "set")
  | .map _ => .builtin "dict"
  | .view kind _ _ => .builtin kind
  | .complex .. => .builtin "complex"
  | .range .. => .builtin "range"
  | .slice .. => .builtin "slice"
  | .function _ => .builtin "builtin_function_or_method"
  | .member _ _ kind => .builtin kind.typeName
  | .method (.choice members) name =>
    .builtin (if (choiceMethods.lookup name).isSome then "method"
      else methodType (Meaning.choice members).typeOf name)
  | .method (.type _) name =>
    .builtin (if name = "__class_getitem__" then "builtin_function_or_method"
      else methodType (.builtin "type") name)
  | .method of name => .builtin (methodType of.typeOf name)
  | .declared _ none => .builtin "function"
  | .declared _ (some _) => .builtin "method"
  | .closure .. => .builtin "function"
  | .iterator kind _ => .builtin kind

/-- The name of the type something is of. -/
def typeName (item : Meaning) : String :=
  item.typeOf.name

mutual

/-- The meaning of a value. -/
def ofValue : Value → Meaning
  | .type ref => .type ref
  | .list items => .list (ofValues items)
  | .tuple items => .tuple (ofValues items)
  | .set items => .set false (ofValues items)
  | .map entries => .map (ofEntries entries)
  | .record ofClass attributes traits Option.none =>
    .instanceOf ofClass (ofAttributes attributes) traits none
  | .record ofClass attributes traits (some inner) =>
    .instanceOf ofClass (ofAttributes attributes) traits (some (ofValue inner))
  | value => .constant value

/-- The meanings of values. -/
def ofValues : List Value → List Meaning
  | [] => []
  | first :: rest => ofValue first :: ofValues rest

/-- The meanings of map entries. -/
def ofEntries : List (Value × Value) → List (Meaning × Meaning)
  | [] => []
  | (key, value) :: rest => (ofValue key, ofValue value) :: ofEntries rest

/-- The meanings of attributes. -/
def ofAttributes : List (String × Value) → List (String × Meaning)
  | [] => []
  | (name, value) :: rest => (name, ofValue value) :: ofAttributes rest

end

mutual

/-- Whether a meaning may be a key of a map. -/
def hashable : Meaning → Bool
  | .constant value => value.hashable
  | .generic _ arguments => areHashable arguments
  | .union members => areHashable members
  | .choice members => areHashable members
  | .tuple items => areHashable items
  | .list _ => false
  | .set isFrozen _ => isFrozen
  | .map _ => false
  | .view kind _ _ => kind = "dict_values"
  | .slice .. => false
  | .held _ content => hashable content
  | .instanceOf _ _ traits _ => traits.hashable
  | .bytearray _ => false
  | .wrapped kind _ => kind ≠ "mappingproxy"
  | _ => true

/-- Whether all of some meanings may be keys. -/
def areHashable : List Meaning → Bool
  | [] => true
  | first :: rest => hashable first && areHashable rest

end

/-- The length of a range. -/
def rangeLength (start stop step : Int) : Nat :=
  if 0 < step then ((stop - start + step - 1) / step).toNat
  else ((start - stop - step - 1) / (-step)).toNat

/-- The integers of a range. -/
def rangeItems (start stop step : Int) : List Meaning :=
  (List.range (rangeLength start stop step)).map fun (i : Nat) => int (start + (i : Int) * step)

/-- The entries of a map as its keys, its values or all of both. -/
def viewed (kind : String) (entries : List (Meaning × Meaning)) : List Meaning :=
  if kind = "dict_keys" then entries.map Prod.fst
  else if kind = "dict_values" then entries.map Prod.snd
  else entries.map fun entry => .tuple [entry.1, entry.2]

/-- Something without the memory it is held in. -/
def bare : Meaning → Meaning
  | .held _ content => bare content
  | other => other

/-- The attribute under which a thing keeps the value that it is besides. -/
def valueLabel : String := "_value_"

/-- The attribute under which a thing keeps the text it gives when it is asked for one. -/
def spokenLabel : String := "__str__"

/-- What something is as a value of the language. -/
def core : Meaning → Meaning
  | .held _ content => core content
  | .instanceOf _ _ _ (some inner) => core inner
  | .constant (.record _ _ _ (some inner)) => ofValue inner
  | .thing typeName look attributes =>
    match attributes.lookup valueLabel with
    | some value => value.bare
    | none => .thing typeName look attributes
  | other => other

/-- What something holds its items as: what stands for a map that may not be changed is that map. -/
def content (item : Meaning) : Meaning :=
  match item.core with
  | .wrapped "mappingproxy" [whole] => whole.core
  | other => other

/-- What something is compared as: instances of record types as themselves, anything else as the value
it is. -/
def comparand (item : Meaning) : Meaning :=
  match item.bare with
  | .wrapped "mappingproxy" [whole] => whole.core
  | .instanceOf ofClass attributes traits inner =>
    match inner with
    | some inner =>
      if traits.compares then .instanceOf ofClass attributes traits (some inner) else inner.core
    | none => .instanceOf ofClass attributes traits none
  | .memoryview whole => whole.core
  | item => item.core

/-- Whether something is what the memory holds under a number. -/
def isNumber (number : Nat) : Meaning → Bool
  | .held other _ => number = other
  | _ => false

/-- Whether something is the same thing as something else that is held, or a constant of the same
look. -/
def isIdentical (item other : Meaning) : Bool :=
  match item, other with
  | .held a _, .held b _ => a = b
  | .type a, .type b => a = b
  | .constant a, .constant b => a.typeName = b.typeName && a.sameKey b
  | _, _ => false

mutual

/-- Whether two meanings are equal, or one thing. -/
def same (item other : Meaning) : Bool :=
  match item, other.comparand with
  | .held number item, _ => other.isNumber number || same item other
  | .memoryview whole, _ => same whole other
  | .wrapped "mappingproxy" [whole], _ => same whole other
  | .instanceOf _ _ { compares := false, .. } (some inner), _ => same inner other
  | .thing typeName look attributes, found =>
    match (attributes.lookup valueLabel).map bare, found with
    | some (.constant value), .constant found => value.sameKey found
    | none, .thing name shown others =>
      typeName = name && look = shown && !attributes.isEmpty && !others.isEmpty
    | _, _ => false
  | .instanceOf a as { compares := true, .. } _, .instanceOf b bs { compares := true, .. } _ =>
    a.number = b.number && sameNamed as bs
  | .bytearray a, .bytearray b => a = b
  | .bytearray a, .constant b => b.sameKey (.bytes a)
  | .constant a, .bytearray b => a.sameKey (.bytes b)
  | .bound f x, .bound g y => same f g && same x y
  | .constant (.float .nan), _ => false
  | .constant a, .constant b => a.sameKey b
  | .constant a, .complex re im => im.isZero && a.sameKey (.float re)
  | .complex re im, .constant a => im.isZero && a.sameKey (.float re)
  | .complex a b, .complex c d => a.same c && b.same d
  | .type a, .type b => a = b
  | .later a _, .later b _ => a = b
  | .function a, .function b => a = b
  | .former a, .former b => a = b
  | .generic a as, .generic b bs => a = b && sameAll as bs
  | .tuple as, .tuple bs => sameAll as bs
  | .list as, .list bs => sameAll as bs
  | .set _ as, .set _ bs => as.length = bs.length && within as bs
  | .view kind _ as, .view other _ bs =>
    kind ≠ "dict_values" && other ≠ "dict_values" && as.length = bs.length && within as bs
  | .view kind _ as, .set _ bs =>
    kind ≠ "dict_values" && as.length = bs.length && within as bs
  | .set _ as, .view kind _ bs =>
    kind ≠ "dict_values" && as.length = bs.length && within as bs
  | .map as, .map bs => as.length = bs.length && entriesWithin as bs
  | .range a b c, .range d e f =>
    let n := rangeLength a b c
    n = rangeLength d e f && (n = 0 || (a = d && (n = 1 || c = f)))
  | .slice a b c, .slice d e f => same a d && same b e && same c f
  | .union as, .union bs => as.length = bs.length && within as bs
  | .choice as, .choice bs => as.length = bs.length && within as bs
  | .union as, .choice bs => as.length = bs.length && within as bs
  | .choice as, .union bs => as.length = bs.length && within as bs
  | .member a b _, .member c d _ => a = c && b = d
  | .method a b, .method c d => b = d && same a c
  | .declared f none, .declared g none => f.name = g.name
  | .iterator _ a, .iterator _ b => a = b
  | _, _ => false
termination_by structural item

/-- Whether two rows of meanings are equal. -/
def sameAll : List Meaning → List Meaning → Bool
  | [], [] => true
  | a :: as, b :: bs => same a b && sameAll as bs
  | _, _ => false
termination_by structural items => items

/-- Whether all of some meanings are among others. -/
def within : List Meaning → List Meaning → Bool
  | [], _ => true
  | a :: as, bs => bs.any (fun b => same a b) && within as bs
termination_by structural items => items

/-- Whether all of some map entries are among others. -/
def entriesWithin : List (Meaning × Meaning) → List (Meaning × Meaning) → Bool
  | [], _ => true
  | (key, value) :: rest, others =>
    others.any (fun other => same key other.1 && same value other.2) && entriesWithin rest others
termination_by structural entries => entries

/-- Whether two rows of attributes are equal. -/
def sameNamed : List (String × Meaning) → List (String × Meaning) → Bool
  | [], [] => true
  | (nameA, a) :: as, (nameB, b) :: bs => nameA = nameB && same a b && sameNamed as bs
  | _, _ => false
termination_by structural attributes => attributes

end

/-- A part of a complex number as messages show it. -/
def shownPart (x : Binary64) : String :=
  let shown := Decimal.display x
  if shown.endsWith ".0" then String.ofList (shown.toList.dropLast.dropLast) else shown

/-- A complex number as messages show it. -/
def shownComplex (re im : Binary64) : String :=
  let imaginary := shownPart im ++ "j"
  if re.isZero && !re.isNegative then imaginary
  else
    let sign := if imaginary.startsWith "-" then "" else "+"
    "(" ++ shownPart re ++ sign ++ imaginary ++ ")"

/-- The name by which a function is shown that is called on something. -/
def boundName : Meaning → String
  | .held _ content => boundName content
  | .function name => name
  | .declared f _ => f.name
  | .closure .. => "<lambda>"
  | _ => "?"

/-- The name of a type, or of the one that something is of. -/
def namedBy (item : Meaning) : String :=
  match item.bare with
  | .type ref => ref.name
  | item => item.typeOf.name

/-- The name of the type that is looked through for what comes behind one: a class is looked through as an
instance when it is one. -/
def behindName (start receiver : Meaning) : String :=
  if same start (.type (.builtin "type")) then receiver.typeOf.name else namedBy receiver

/-- The name of a function that it is shown by in brackets behind a type, or as a member of a
choice. -/
def nameIn? (isChoice : Bool) : Meaning → Option String
  | .held _ content => nameIn? isChoice content
  | .function name => if isChoice then none else some name
  | .method of name =>
    if isChoice || methodType of.typeOf name ≠ "builtin_function_or_method" then none
    else some (of.typeName ++ "." ++ name)
  | .declared f none => some (if isChoice then f.name else ClassRef.home ++ "." ++ f.name)
  | .closure .. => some "<lambda>"
  | .wrapped kind (f :: _) =>
    if isChoice || !(kind = "staticmethod" || kind = "classmethod") then none
    else nameIn? isChoice f
  | _ => none

/-- How an instance of a class is shown that is some value besides, given how that value is shown: sets,
bytes that may change and failures are shown with the name of the class. -/
def retitled (ofClass : ClassRef) (inner : Meaning) (look : String) : String :=
  let without (front : String) : String := ofClass.name ++ String.ofList (look.toList.drop front.length)
  match inner.core with
  | .set false [] => ofClass.name ++ "()"
  | .set false _ => ofClass.name ++ "(" ++ look ++ ")"
  | .set true _ => without "frozenset"
  | .bytearray _ => without "bytearray"
  | .flaw name _ _ => without name
  | _ => look

mutual

/-- A meaning as messages show it, texts quoted by `quote`. -/
def showBy (quote : String → String) : Meaning → String
  | .constant value => Value.showBy quote value
  | .type ref => ref.display
  | .later text _ => "ForwardRef(" ++ quote text ++ ")"
  | .former name => "typing." ++ name
  | .generic (.other (some "Unpack") _ _) [row] => "*" ++ showBy quote row
  | .generic (.other _ shown _) arguments =>
    shown ++ Value.bracketed "[" "]" false (namesOf quote true arguments)
  | .generic origin [] => origin.nameInBrackets ++ "[()]"
  | .generic origin arguments =>
    origin.nameInBrackets ++ Value.bracketed "[" "]" false (namesOf quote false arguments)
  | .union members => String.intercalate " | " (namesInUnion quote members)
  | .choice members =>
    match members, namesOf quote true members with
    | [_, .type (.builtin "NoneType")], name :: _ => "typing.Optional[" ++ name ++ "]"
    | [.type (.builtin "NoneType"), _], [_, name] => "typing.Optional[" ++ name ++ "]"
    | _, names => "typing.Union" ++ Value.bracketed "[" "]" false names
  | .tuple items => Value.bracketed "(" ")" true (showAll quote items)
  | .list items => Value.bracketed "[" "]" false (showAll quote items)
  | .set false [] => "set()"
  | .set false items => Value.bracketed "\x7b" "\x7d" false (showAll quote items)
  | .set true [] => "frozenset()"
  | .set true items => Value.bracketed "frozenset(\x7b" "\x7d)" false (showAll quote items)
  | .map entries => Value.bracketed "\x7b" "\x7d" false (showEntries quote entries)
  | .view kind _ items => kind ++ Value.bracketed "([" "])" false (showAll quote items)
  | .complex re im => shownComplex re im
  | .range start stop step =>
    "range(" ++ toString start ++ ", " ++ toString stop ++
      (if step = 1 then "" else ", " ++ toString step) ++ ")"
  | .slice start stop step =>
    "slice(" ++ showBy quote start ++ ", " ++ showBy quote stop ++ ", " ++ showBy quote step ++ ")"
  | .function name => "<built-in function " ++ name ++ ">"
  | .member owner name kind => shownMember owner name kind
  | .method (.choice members) name =>
    match choiceMethods.lookup name with
    | some owner =>
      "<bound method " ++ owner ++ "." ++ name ++ " of " ++ showBy quote (.choice members) ++ ">"
    | none => "<built-in method " ++ name ++ ">"
  | .method _ name => "<built-in method " ++ name ++ ">"
  | .declared f _ => "<function " ++ f.name ++ ">"
  | .closure .. => "<function <lambda>>"
  | .iterator kind _ => "<" ++ kind ++ " object>"
  | .held _ content => showBy quote content
  | .instanceOf _ _ { look := some look, .. } _ => look
  | .instanceOf ofClass _ { byFields := false, .. } (some inner) =>
    retitled ofClass inner (showBy quote inner)
  | .instanceOf ofClass _ { byFields := false, .. } none => "<" ++ ofClass.fullName ++ " object>"
  | .instanceOf ofClass attributes _ _ =>
    Value.bracketed (ofClass.qualified ++ "(") ")" false (showNamed quote attributes)
  | .bytearray bytes => "bytearray(" ++ Quoted.quotedChanging bytes ++ ")"
  | .memoryview _ => "<memory>"
  | .flaw name arguments _ => name ++ Value.bracketed "(" ")" false (showAll quote arguments)
  | .wrapped "mappingproxy" [whole] => "mappingproxy(" ++ showBy quote whole ++ ")"
  | .wrapped "super" [start, receiver] =>
    "<super: <class '" ++ namedBy start ++ "'>, <" ++ behindName start receiver ++ " object>>"
  | .wrapped "super" [start] => "<super: <class '" ++ namedBy start ++ "'>, NULL>"
  | .wrapped kind (f :: rest) =>
    if kind = "staticmethod" || kind = "classmethod" then "<" ++ kind ++ "(" ++ showBy quote f ++ ")>"
    else if rest.isEmpty then "<" ++ kind ++ ">" else "<" ++ kind ++ " object>"
  | .wrapped kind [] => "<" ++ kind ++ " object>"
  | .bound f receiver =>
    "<bound method " ++ boundName f ++ " of " ++ showBy quote receiver ++ ">"
  | .thing _ look _ => look

/-- Attributes as messages show them. -/
def showNamed (quote : String → String) : List (String × Meaning) → List String
  | [] => []
  | (name, value) :: rest => (name ++ "=" ++ showBy quote value) :: showNamed quote rest

/-- Meanings as messages show them. -/
def showAll (quote : String → String) : List Meaning → List String
  | [] => []
  | first :: rest => showBy quote first :: showAll quote rest

/-- Map entries as messages show them. -/
def showEntries (quote : String → String) : List (Meaning × Meaning) → List String
  | [] => []
  | (key, value) :: rest =>
    (showBy quote key ++ ": " ++ showBy quote value) :: showEntries quote rest

/-- Meanings as they are shown in brackets behind a type, or as members of a choice; there only
functions of an author are shown by their names. -/
def namesOf (quote : String → String) (isChoice : Bool) : List Meaning → List String
  | [] => []
  | .type (.optional of) :: rest => (TypeRef.optional of).display :: namesOf quote isChoice rest
  | .type ref :: rest => ref.nameInBrackets :: namesOf quote isChoice rest
  | .constant (.other "ellipsis" _ _) :: rest => "..." :: namesOf quote isChoice rest
  | first :: rest =>
    (match nameIn? isChoice first with
      | some name => name
      | none => showBy quote first) :: namesOf quote isChoice rest

/-- Meanings as they are shown joined by signs. -/
def namesInUnion (quote : String → String) : List Meaning → List String
  | [] => []
  | .type ref :: rest =>
    (if ref = .nothing then "None" else ref.fullName) :: namesInUnion quote rest
  | first :: rest => showBy quote first :: namesInUnion quote rest

end

/-- A meaning as messages show it. -/
def shown : Meaning → String :=
  showBy Quoted.quoted

/-- The text that a thing gives when it is asked for one, if that is not its look. -/
def saidBy? (attributes : List (String × Meaning)) : Option String :=
  match (attributes.lookup spokenLabel).map bare with
  | some (.constant (.text s)) => some s
  | _ => none

/-- What an instance can do that is some value besides, with the look it has because of that value, and
with what it gives when it is asked for a text. -/
def presentedBy (ofClass : ClassRef) (traits : RecordTraits) (inner : Meaning) (value : Value) :
    RecordTraits :=
  if traits.byFields || traits.look.isSome then traits
  else
    match inner.core, value with
    | .set .., _ | .bytearray _, _ => { traits with look := some (retitled ofClass inner inner.shown) }
    | .flaw .., .other _ _ said =>
      { traits with look := some (retitled ofClass inner inner.shown), said := traits.said.or said }
    | _, _ => traits

mutual

/-- A meaning as a value; of what is no value only the kind and the look are kept. -/
def toValue : Meaning → Value
  | .constant value => value
  | .type ref => .type ref
  | .tuple items => .tuple (toValues items)
  | .list items => .list (toValues items)
  | .set false items => .set (toValues items)
  | .map entries => .map (toEntries entries)
  | .held _ content => toValue content
  | .instanceOf ofClass attributes traits none => .record ofClass (toAttributes attributes) traits none
  | .instanceOf ofClass attributes traits (some inner) =>
    let value := toValue inner
    .record ofClass (toAttributes attributes) (presentedBy ofClass traits inner value) (some value)
  | .flaw name arguments attributes =>
    .other name (shown (.flaw name arguments attributes))
      (some (FailureText.said name (toValues arguments) (toAttributes attributes)))
  | .thing typeName look attributes => .other typeName look (saidBy? attributes)
  | other => .other other.typeName other.shown

/-- Attributes as values. -/
def toAttributes : List (String × Meaning) → List (String × Value)
  | [] => []
  | (name, value) :: rest => (name, toValue value) :: toAttributes rest

/-- Meanings as values. -/
def toValues : List Meaning → List Value
  | [] => []
  | first :: rest => toValue first :: toValues rest

/-- Map entries as values. -/
def toEntries : List (Meaning × Meaning) → List (Value × Value)
  | [] => []
  | (key, value) :: rest => (toValue key, toValue value) :: toEntries rest

end

/-- Whether a condition on a meaning holds. -/
def truthy : Meaning → Bool
  | .constant value => value.truthy
  | .tuple items => !items.isEmpty
  | .list items => !items.isEmpty
  | .set _ items => !items.isEmpty
  | .map entries => !entries.isEmpty
  | .view _ _ items => !items.isEmpty
  | .complex re im => !re.isZero || !im.isZero
  | .range start stop step => rangeLength start stop step ≠ 0
  | .held _ content => truthy content
  | .instanceOf _ _ _ (some inner) => truthy inner
  | .bytearray bytes => !bytes.isEmpty
  | .memoryview whole => truthy whole
  | _ => true

/-- The text something is. -/
def text? (item : Meaning) : Option String :=
  match item.core with
  | .constant (.text s) => some s
  | _ => none

/-- Whether something is nothing. -/
def isNothing (item : Meaning) : Bool :=
  item.bare matches .constant .none

/-- The integer something counts as. -/
def integer? (item : Meaning) : Option Int :=
  match item.core with
  | .constant value => value.toInt?
  | _ => none

/-- The bytes that something is made of, whether they may change or not. -/
def bytes? (item : Meaning) : Option (List UInt8) :=
  match item.core with
  | .constant (.bytes bytes) => some bytes
  | .bytearray bytes => some bytes
  | .memoryview whole =>
    match whole.core with
    | .constant (.bytes bytes) => some bytes
    | .bytearray bytes => some bytes
    | _ => none
  | _ => none

/-- The text something says when it is asked for one. -/
def spoken (item : Meaning) : Except Failure String :=
  item.toValue.spoken

/-- The text something is shown as. -/
def quoted (item : Meaning) : Except Failure String :=
  item.toValue.written Value.quoted

/-- Meanings without those that are equal to one before them. -/
def distinct (items : List Meaning) : List Meaning :=
  items.foldl (fun kept item => if kept.any (same item) then kept else kept ++ [item]) []

/-- Map entries with one of them set. -/
def setEntry (key value : Meaning) : List (Meaning × Meaning) → List (Meaning × Meaning)
  | [] => [(key, value)]
  | (known, old) :: rest =>
    if same known key then (known, value) :: rest else (known, old) :: setEntry key value rest

/-- Map entries without those whose key comes again; the first of them keeps its place, the last
one its value. -/
def keyedOnce (entries : List (Meaning × Meaning)) : List (Meaning × Meaning) :=
  entries.foldl (fun kept entry => setEntry entry.1 entry.2 kept) []

/-- A map of entries, all of whose keys may be keys. -/
def mapOf (entries : List (Meaning × Meaning)) : Except Failure Meaning :=
  if areHashable (entries.map Prod.fst) then .ok (.map (keyedOnce entries))
  else misuse "unhashable type"

/-- The value under a key of a map. -/
def lookup? (key : Meaning) (entries : List (Meaning × Meaning)) : Option Meaning :=
  (entries.find? fun entry => same entry.1 key).map Prod.snd

/-- The characters of a text, each as a text. -/
def characters (s : String) : List Meaning :=
  s.toList.map fun c => text (String.ofList [c])

/-- The items of something that holds them. -/
def heldItems (item : Meaning) : Except Failure (List Meaning) :=
  match item.content with
  | .tuple items => .ok items
  | .list items => .ok items
  | .set _ items => .ok items
  | .view _ _ items => .ok items
  | .map entries => .ok (entries.map Prod.fst)
  | .range start stop step => do
    Arithmetic.requireBits (rangeLength start stop step)
    return rangeItems start stop step
  | .constant (.text s) => .ok (characters s)
  | .generic origin arguments =>
    .ok [.generic (.other (some "Unpack") "" true) [.generic origin arguments]]
  | item =>
    match item.bytes? with
    | some bytes => .ok (bytes.map fun b => int b.toNat)
    | none => misuse "object is not iterable"

/-- The number of items of something. -/
def size (item : Meaning) : Except Failure Nat :=
  match item.content with
  | .tuple items => .ok items.length
  | .list items => .ok items.length
  | .set _ items => .ok items.length
  | .view _ _ items => .ok items.length
  | .map entries => .ok entries.length
  | .range start stop step =>
    let n := rangeLength start stop step
    if n < Nat.pow 2 63 then .ok n
    else .error (.breach .overflow "too large to convert to a size")
  | item =>
    match item.bytes?, item with
    | some bytes, _ => .ok bytes.length
    | none, .constant value =>
      match value.length? with
      | some n => .ok n
      | none => misuse "object has no length"
    | none, _ => misuse "object has no length"

end Meaning
end PageContracts.Language
