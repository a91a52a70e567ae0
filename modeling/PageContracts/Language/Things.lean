import PageContracts.Language.Meaning

/-! # Things that describe

What the language keeps about functions, record types and locators: things with attributes that are
known from the start. The module of types for annotations is such a thing too.
-/
namespace PageContracts.Language.Things

open Meaning

/-- A text or nothing. -/
def textOr (s : Option String) : Meaning :=
  (s.map text).getD nothing

/-- The name of a kind of locators as a constant. -/
def constantName (kind : LocatorKind) : String :=
  kind.label.toUpper

/-- A kind of locators: a text besides. -/
def ofKind (kind : LocatorKind) : Meaning :=
  let name := "LocatorKind." ++ constantName kind
  .thing "LocatorKind" ("<" ++ name ++ ": " ++ Quoted.quoted kind.label ++ ">")
    [("name", text (constantName kind)), ("value", text kind.label),
      (valueLabel, text kind.label), ("_name_", text (constantName kind)),
      (spokenLabel, text name), ("composes", bool kind.composes)]

/-- The type name of kinds of locators. -/
def kindType : String := "LocatorKind"

/-- All kinds of locators, with the names that the type of kinds has them under. -/
def kinds : List (String × Meaning) :=
  LocatorKind.all.map fun kind => (constantName kind, ofKind kind)

/-- The members of a type that is made of its members, with their names. -/
def constantsOf? (item : Meaning) : Option (List (String × Meaning)) :=
  match item.bare with
  | .type (.builtin name) => if name = kindType then some kinds else none
  | _ => none

/-- A kind of locators by the value it has. -/
def kindOfValue (item : Meaning) : Except Failure Meaning :=
  match item.text?.bind LocatorKind.ofLabel? with
  | some kind => .ok (ofKind kind)
  | none => .error (.valueBreach (item.shown ++ " is not a valid LocatorKind"))

/-- The type name of locators. -/
def locatorType : String := "LocatorDescriptor"

/-- The fields of locators. -/
def locatorFields : List Field :=
  [{ name := "kind" }, { name := "template" }, { name := "attribute", default := some .none }]

/-- The types that the fields of locators are annotated with. -/
def locatorFieldTypes : List (String × String) :=
  [("kind", kindType), ("template", "str"), ("attribute", "Optional[str]")]

/-- The attributes of a locator that follow from its template. -/
def templateParts (template : Meaning) : List (String × Meaning) :=
  match template.text? with
  | some spelled =>
    [("placeholder_count", int (LocatorDescriptor.placeholders { kind := .id, template := spelled }))]
  | none => []

/-- The attributes of a locator that follow from its kind, if that is one. -/
def kindParts (kind template : Meaning) : List (String × Meaning) :=
  match kind.bare with
  | .thing name _ attributes =>
    if name = kindType then
      [("needs_scope_resolution", (attributes.lookup "composes").getD nothing),
        (spokenLabel, text (((attributes.lookup "value").bind text?).getD "" ++ ":" ++ template.shown))]
    else []
  | _ => []

/-- A locator put together from what is given for its fields. -/
def locatorOf (kind template reads : Meaning) : Meaning :=
  .thing locatorType
    ("LocatorDescriptor(kind=" ++ kind.shown ++ ", template=" ++ template.shown ++ ", attribute=" ++
      reads.shown ++ ")")
    ([("kind", kind), ("template", template), ("attribute", reads)] ++ templateParts template ++
      kindParts kind template)

/-- A locator. -/
def ofLocator (descriptor : LocatorDescriptor) : Meaning :=
  locatorOf (ofKind descriptor.kind) (text descriptor.template) (textOr descriptor.readsAttribute)

/-- The methods of locators. -/
def locatorMethods : List String := ["extended", "format"]

/-- The attributes of locators that are computed. -/
def locatorComputed : List String := ["needs_scope_resolution", "placeholder_count"]

/-- The locator that a thing is. -/
def locator? (item : Meaning) : Option LocatorDescriptor :=
  match item.bare with
  | .thing typeName _ attributes => do
    guard (typeName = locatorType)
    let kind ← ((attributes.lookup "kind").bind text?).bind LocatorKind.ofLabel?
    let template ← (attributes.lookup "template").bind text?
    return { kind, template, readsAttribute := (attributes.lookup "attribute").bind text? }
  | _ => none

/-- What a method of a locator gives. -/
def callLocator (descriptor : LocatorDescriptor) (name : String) (given : List Meaning) :
    Except Failure Meaning :=
  match name, given with
  | "format", [] => (descriptor.format []).map text
  | "format", [arguments] => do
    if descriptor.placeholders = 0 then return text descriptor.template
    return text (← descriptor.format (toValues (← arguments.heldItems)))
  | "extended", [suffix] =>
    match suffix.text? with
    | some suffix => .ok (ofLocator (descriptor.extended suffix))
    | none => .error (.missing "replace")
  | _, _ => misuse "wrong arguments"

/-- The names of parameters in the order in which a body knows them. -/
def variableNames (parameters : List (String × ParameterKind)) : List String :=
  let among (kinds : List ParameterKind) : List String :=
    (parameters.filter fun parameter => kinds.contains parameter.2).map Prod.fst
  among [.positionalOnly, .positional] ++ among [.keywordOnly] ++ among [.surplusPositions] ++
    among [.surplusNames]

/-- What is known of the body of a function. -/
def codeOf (name : String) (parameters : List (String × ParameterKind)) : Meaning :=
  let count (kinds : List ParameterKind) : Meaning :=
    int (parameters.filter fun parameter => kinds.contains parameter.2).length
  let names := variableNames parameters
  .thing "code" ("<code object " ++ name ++ ">")
    [("co_name", text name), ("co_qualname", text name),
      ("co_varnames", .tuple (names.map text)), ("co_nlocals", int names.length),
      ("co_argcount", count [.positionalOnly, .positional]),
      ("co_posonlyargcount", count [.positionalOnly]),
      ("co_kwonlyargcount", count [.keywordOnly]), ("co_names", .tuple []),
      ("co_consts", .tuple [nothing]), ("co_freevars", .tuple []), ("co_cellvars", .tuple [])]

/-- The defaults of the parameters given by position; nothing when there are none. -/
def defaultsOf (parameters : List (String × ParameterKind × Option Meaning)) : Meaning :=
  let defaults := parameters.filterMap fun (_, kind, default) =>
    if kind = .positional || kind = .positionalOnly then default else none
  if defaults.isEmpty then nothing else .tuple defaults

/-- The defaults of the parameters given by name alone; nothing when there are none. -/
def namedDefaultsOf (parameters : List (String × ParameterKind × Option Meaning)) : Meaning :=
  let defaults := parameters.filterMap fun (name, kind, default) =>
    if kind = .keywordOnly then default.map fun value => (text name, value) else none
  if defaults.isEmpty then nothing else .map defaults

/-- What every function has under a name, given its name and its parameters. -/
def ofFunction? (own : String) (parameters : List (String × ParameterKind × Option Meaning))
    (name : String) : Option Meaning :=
  match name with
  | "__code__" => some (codeOf own (parameters.map fun (label, kind, _) => (label, kind)))
  | "__defaults__" => some (defaultsOf parameters)
  | "__kwdefaults__" => some (namedDefaultsOf parameters)
  | "__closure__" | "__doc__" => some nothing
  | _ => none

/-- The parameters of a function of an author, the object it is called on included. -/
def parametersOf (f : DeclaredFunction) : List (String × ParameterKind × Option Meaning) :=
  f.signature.map fun parameter =>
    (parameter.name, parameter.kind, parameter.default.map ofValue)

/-- The type that the fields of a record type are annotated with. -/
def fieldType : String := "str"

/-- What stands for a default that is not there. -/
def missingDefault : Meaning := .thing "_MISSING_TYPE" "<missing>" [("", nothing)]

/-- What every field of a record type is marked as. -/
def fieldMark : Meaning := .thing "_FIELD_BASE" "_FIELD" [("name", text "_FIELD")]

/-- A field of a record type, with the type it is annotated with. -/
def ofField (field : Field) (type : String) : Meaning :=
  .thing "Field" ("Field(name=" ++ Quoted.quoted field.name ++ ")")
    [("name", text field.name), ("type", text type),
      ("default", (field.default.map ofValue).getD missingDefault),
      ("default_factory", missingDefault), ("init", bool true), ("repr", bool true),
      ("hash", nothing), ("compare", bool true), ("metadata", .wrapped "mappingproxy" [.map []]),
      ("kw_only", bool false), ("_field_type", fieldMark)]

/-- How record types are made, those whose instances may change and the others. -/
def settings (isFrozen : Bool) : Meaning :=
  let frozen := bool isFrozen
  .thing "_DataclassParams"
    ("_DataclassParams(init=True,repr=True,eq=True,order=False,unsafe_hash=False,frozen=" ++
      frozen.shown ++ ")")
    [("init", bool true), ("repr", bool true), ("eq", bool true), ("order", bool false),
      ("unsafe_hash", bool false), ("frozen", frozen)]

/-- What a record type has under a name because it is one. -/
def ofRecordType? (fields : List (Field × String)) (isFrozen : Bool) (name : String) :
    Option Meaning :=
  match name with
  | "__match_args__" => some (.tuple (fields.map fun (field, _) => text field.name))
  | "__dataclass_fields__" =>
    some (.map (fields.map fun (field, shown) => (text field.name, ofField field shown)))
  | "__dataclass_params__" => some (settings isFrozen)
  | _ => none

/-- What the type of locators and the type of their kinds have under a name. -/
def ofOwnType? (own name : String) : Option Meaning :=
  if own = kindType then
    match name with
    | "__members__" =>
      some (.wrapped "mappingproxy" [.map (kinds.map fun (label, kind) => (text label, kind))])
    | "_member_map_" => some (.map (kinds.map fun (label, kind) => (text label, kind)))
    | "_member_names_" => some (.list (kinds.map fun (label, _) => text label))
    | "_member_type_" => some (.type .text)
    | "_value2member_map_" =>
      some (.map (kinds.map fun (_, kind) => (kind.core, kind)))
    | "composes" => some (.thing "property" "<property object>" [])
    | name => kinds.lookup name
  else if own = locatorType then
    match name with
    | "attribute" => some nothing
    | "needs_scope_resolution" | "placeholder_count" =>
      some (.thing "property" "<property object>" [])
    | "__annotations__" =>
      some (.map (locatorFieldTypes.map fun (label, shown) => (text label, text shown)))
    | name =>
      ofRecordType? (locatorFields.map fun field =>
        (field, (locatorFieldTypes.lookup field.name).getD "")) true name
  else none

/-- The attributes that the language keeps in a map for a thing. -/
def keptParts? (typeName : String) (attributes : List (String × Meaning)) :
    Option (List (String × Meaning)) :=
  let among (names : List String) : List (String × Meaning) :=
    names.filterMap fun name => (attributes.lookup name).map fun found => (name, found)
  if typeName = locatorType then some (among ["kind", "template", "attribute"])
  else if typeName = kindType then
    let own := ((attributes.lookup "name").bind text?).getD ""
    let place := (kinds.map Prod.fst).findIdx fun name => name = own
    some (among [valueLabel, "_name_"] ++
      [("__objclass__", .type (.builtin kindType)), ("_sort_order_", int place)])
  else if typeName = "_DataclassParams" then some (among
    ["init", "repr", "eq", "order", "unsafe_hash", "frozen"])
  else none

/-- Whether the attributes of a thing are never set or removed. -/
def isFrozen (typeName : String) : Bool :=
  typeName = locatorType

/-- What the program says of its own types. -/
def ownDescriptions : List (String × String) :=
  [("Panel", "\n    Marker for a composable UI region.\n\n    Panels are created inside another " ++
      "contract and resolve their fragment\n    locators relative to their container through the " ++
      "scope stack.\n    "),
    ("Page", "\n    Marker for a top-level, addressable screen.\n\n    Pages always start with an " ++
      "empty scope stack. Decorate with ``url`` to\n    allow navigating to them directly.\n    "),
    (kindType, "Selector strategies a descriptor can declare."),
    (locatorType, "\n    Declared locator for an operation or a panel.\n\n    Attributes:\n" ++
      "        kind: Selector strategy\n        template: Raw selector template, possibly with " ++
      "%s / %d placeholders\n        attribute: Attribute to read instead of the element text " ++
      "(reads only)\n    ")]

/-- The forms of the module of types that make types of others. -/
def formers : List String :=
  ["Annotated", "ClassVar", "Concatenate", "Final", "Generic", "Literal", "Optional", "Protocol",
    "Required", "NotRequired", "TypeGuard", "Union", "Unpack"]

/-- The names of the module of types that stand for types, with or without others in brackets. -/
def typingNames : List String :=
  ["AbstractSet", "AsyncGenerator", "AsyncIterable", "AsyncIterator", "Awaitable", "ByteString",
    "Callable", "ChainMap", "Collection", "Container", "Coroutine", "Counter", "DefaultDict",
    "Deque", "Dict", "FrozenSet", "Generator", "Hashable", "ItemsView", "Iterable", "Iterator",
    "KeysView", "List", "LiteralString", "Mapping", "MappingView", "Match", "MutableMapping",
    "MutableSequence", "MutableSet", "Never", "NoReturn", "OrderedDict", "Pattern", "Reversible",
    "Self", "Sequence", "Set", "Sized", "Tuple", "Type", "TypeAlias", "ValuesView"]

/-- The functions and classes of the module of types. -/
def typingClasses : List String :=
  ["AnyStr", "BinaryIO", "ForwardRef", "IO", "NamedTuple", "NewType", "ParamSpec", "SupportsAbs",
    "SupportsBytes", "SupportsComplex", "SupportsFloat", "SupportsIndex", "SupportsInt",
    "SupportsRound", "TextIO", "TypeVar", "TypeVarTuple", "TypedDict", "cast", "get_args",
    "get_origin", "get_type_hints", "overload", "final", "no_type_check", "runtime_checkable"]

/-- The types of some modules that may be named. -/
def modules : List (String × String) :=
  [("abc", "ABC ABCMeta"), ("array", "array"), ("ast", "AST Module Name"),
    ("asyncio", "Future Task Queue Event Lock"), ("base64", ""), ("bisect", ""), ("builtins", ""),
    ("calendar", "Calendar"), ("cmath", ""), ("collections",
      "ChainMap Counter OrderedDict UserDict UserList UserString defaultdict deque"),
    ("contextlib", "ExitStack suppress"), ("copy", ""), ("csv", "DictReader DictWriter"),
    ("dataclasses", "Field"), ("datetime", "date datetime time timedelta timezone tzinfo"),
    ("decimal", "Context Decimal"), ("enum", "Enum Flag IntEnum IntFlag StrEnum"),
    ("fractions", "Fraction"), ("functools", "partial partialmethod cached_property"),
    ("gc", ""), ("glob", ""), ("hashlib", ""), ("heapq", ""), ("importlib", ""), ("inspect",
      "Parameter Signature"),
    ("io", "BytesIO StringIO TextIOWrapper"), ("itertools", "chain count cycle islice repeat"),
    ("json", "JSONDecodeError JSONDecoder JSONEncoder"), ("keyword", ""), ("logging",
      "Formatter Handler Logger"),
    ("math", ""), ("numbers", "Complex Integral Number Rational Real"), ("operator",
      "attrgetter itemgetter methodcaller"),
    ("os", "PathLike DirEntry"), ("pathlib", "Path PosixPath PurePath"), ("pickle",
      "Pickler Unpickler"),
    ("platform", ""), ("queue", "Empty Full Queue"), ("random", "Random"), ("re", "Match Pattern"),
    ("shutil", ""), ("signal", ""), ("socket", "socket"), ("sqlite3", "Connection Cursor"),
    ("statistics", "NormalDist"), ("string", "Formatter Template"), ("struct", "Struct"),
    ("subprocess", "CompletedProcess Popen"), ("sys", ""), ("tempfile", "TemporaryDirectory"),
    ("textwrap", "TextWrapper"), ("threading", "Event Lock Thread Timer"), ("time", "struct_time"),
    ("traceback", ""), ("types",
      "BuiltinFunctionType CodeType FunctionType GeneratorType GenericAlias LambdaType " ++
      "MappingProxyType MethodType ModuleType NoneType SimpleNamespace UnionType"),
    ("typing", ""), ("unittest", "TestCase"), ("urllib", ""), ("uuid", "UUID"), ("warnings", ""),
    ("weakref", "ref"), ("zlib", "")]

/-- What types of some modules are called by themselves. -/
def otherNames : List (String × String) :=
  [("types.BuiltinFunctionType", "builtin_function_or_method"), ("types.CodeType", "code"),
    ("types.FunctionType", "function"), ("types.GeneratorType", "generator"),
    ("types.LambdaType", "function"), ("types.MappingProxyType", "mappingproxy"),
    ("types.MethodType", "method"), ("types.ModuleType", "module"),
    ("types.NoneType", "NoneType")]

/-- The type name of modules. -/
def moduleType : String := "module"

/-- The module of a name, if there is one. -/
def module? (name : String) : Option Meaning :=
  let top := String.ofList (name.toList.takeWhile (· ≠ '.'))
  (modules.lookup top).map fun _ =>
    .thing moduleType ("<module " ++ Quoted.quoted top ++ origin top ++ ">") [("__name__", text top)]
where
  /-- Where a module is said to come from, if it is one of the language itself. -/
  origin (top : String) : String :=
    if ["builtins", "gc", "math", "sys", "time"].contains top then " (built-in)" else ""

/-- What a module has under a name. -/
def ofModule? (moduleName name : String) : Option Meaning :=
  let place := moduleName ++ "." ++ name
  if name = "__doc__" then some (text "a description of it")
  else if moduleName = "typing" then
    if name = "Any" then some (.type .anything)
    else if formers.contains name then some (.former name)
    else if typingNames.contains name then some (.type (.other (some name) place true))
    else if typingClasses.contains name then some (.type (.other (some name) place true))
    else none
  else
    ((modules.lookup moduleName).bind fun names =>
      if name ≠ "" && holdsWord names name then
        match otherNames.lookup place with
        | some own => some (.type (.builtin own))
        | none => some (.type (.other (some name) ("<class '" ++ place ++ "'>") true))
      else none)

end PageContracts.Language.Things
