import PageContracts.Language.Types

/-! # Members of the language's types

What the types of the language offer under which names, type by type and kind by kind. A name that
a type does not list itself comes from the nearest of its ancestors that does.
-/
namespace PageContracts.Language

/-- The kinds of members of a type. -/
inductive MemberKind where
  /-- A function called on a value. -/
  | method
  /-- A function that stands behind a sign or a call. -/
  | operation
  /-- Something a value tells of itself. -/
  | attribute
  /-- Something a value is made of. -/
  | field
  /-- A function called on the type. -/
  | classMethod
  /-- A function that belongs to the type and is called on nothing. -/
  | free
  deriving DecidableEq, Repr, Inhabited

namespace MemberKind

/-- The name of the type of such members. -/
def typeName : MemberKind → String
  | .method => "method_descriptor"
  | .operation => "wrapper_descriptor"
  | .attribute => "getset_descriptor"
  | .field => "member_descriptor"
  | .classMethod => "builtin_function_or_method"
  | .free => "builtin_function_or_method"

/-- The word by which messages tell such members, if they show the type they belong to. -/
def word? : MemberKind → Option String
  | .method => some "method"
  | .operation => some "slot wrapper"
  | .attribute => some "attribute"
  | .field => some "member"
  | _ => none

/-- Whether such members are no functions. -/
def isData (kind : MemberKind) : Bool :=
  kind = .attribute || kind = .field

end MemberKind

/-- The methods of the types: functions called on a value. -/
def methods : List (String × String) :=
  [("object",
      "__dir__ __format__ __getstate__ __reduce__ __reduce_ex__ __sizeof__"),
    ("type",
      "__dir__ __instancecheck__ __sizeof__ __subclasscheck__ __subclasses__ mro"),
    ("int",
      "__ceil__ __floor__ __format__ __getnewargs__ __round__ __sizeof__ __trunc__ " ++
      "as_integer_ratio bit_count bit_length conjugate to_bytes"),
    ("float",
      "__ceil__ __floor__ __format__ __getnewargs__ __round__ __trunc__ " ++
      "as_integer_ratio conjugate hex is_integer"),
    ("complex",
      "__complex__ __format__ __getnewargs__ conjugate"),
    ("str",
      "__format__ __getnewargs__ __sizeof__ capitalize casefold center count encode " ++
      "endswith expandtabs find format format_map index isalnum isalpha isascii " ++
      "isdecimal isdigit isidentifier islower isnumeric isprintable isspace istitle " ++
      "isupper join ljust lower lstrip partition removeprefix removesuffix replace " ++
      "rfind rindex rjust rpartition rsplit rstrip split splitlines startswith strip " ++
      "swapcase title translate upper zfill"),
    ("bytes",
      "__bytes__ __getnewargs__ capitalize center count decode endswith expandtabs " ++
      "find hex index isalnum isalpha isascii isdigit islower isspace istitle isupper " ++
      "join ljust lower lstrip partition removeprefix removesuffix replace rfind " ++
      "rindex rjust rpartition rsplit rstrip split splitlines startswith strip " ++
      "swapcase title translate upper zfill"),
    ("list",
      "__getitem__ __reversed__ __sizeof__ append clear copy count extend index " ++
      "insert pop remove reverse sort"),
    ("tuple",
      "__getnewargs__ count index"),
    ("dict",
      "__contains__ __getitem__ __reversed__ __sizeof__ clear copy get items keys pop " ++
      "popitem setdefault update values"),
    ("set",
      "__contains__ __reduce__ __sizeof__ add clear copy difference difference_update " ++
      "discard intersection intersection_update isdisjoint issubset issuperset pop " ++
      "remove symmetric_difference symmetric_difference_update union update"),
    ("frozenset",
      "__contains__ __reduce__ __sizeof__ copy difference intersection isdisjoint " ++
      "issubset issuperset symmetric_difference union"),
    ("range",
      "__reduce__ __reversed__ count index"),
    ("slice",
      "__reduce__ indices"),
    ("BaseException",
      "__reduce__ __setstate__ add_note with_traceback"),
    ("property",
      "__set_name__ deleter getter setter"),
    ("builtin_function_or_method",
      "__reduce__"),
    ("generator",
      "__sizeof__ close send throw"),
    ("bytearray",
      "__alloc__ __reduce__ __reduce_ex__ __sizeof__ append capitalize center clear " ++
      "copy count decode endswith expandtabs extend find hex index insert isalnum " ++
      "isalpha isascii isdigit islower isspace istitle isupper join ljust lower " ++
      "lstrip partition pop remove removeprefix removesuffix replace reverse rfind " ++
      "rindex rjust rpartition rsplit rstrip split splitlines startswith strip " ++
      "swapcase title translate upper zfill"),
    ("memoryview",
      "__enter__ __exit__ cast hex release tobytes tolist toreadonly"),
    ("dict_keys",
      "__reversed__ isdisjoint"),
    ("dict_values",
      "__reversed__"),
    ("map",
      "__reduce__"),
    ("list_iterator",
      "__length_hint__ __reduce__ __setstate__"),
    ("callable_iterator",
      "__reduce__"),
    ("mappingproxy",
      "__reversed__ copy get items keys values"),
    ("method",
      "__reduce__"),
    ("method-wrapper",
      "__reduce__"),
    ("wrapper_descriptor",
      "__reduce__"),
    ("member_descriptor",
      "__reduce__"),
    ("GenericAlias",
      "__dir__ __instancecheck__ __mro_entries__ __reduce__ __subclasscheck__"),
    ("code",
      "__sizeof__ _varname_from_oparg co_lines co_positions replace"),
    ("module",
      "__dir__"),
    ("ellipsis",
      "__reduce__"),
    ("NotImplementedType",
      "__reduce__"),
    ("ImportError",
      "__reduce__"),
    ("OSError",
      "__reduce__"),
    ("BaseExceptionGroup",
      "derive split subgroup")]

/-- The operations of the types: functions that stand behind signs and calls. -/
def operations : List (String × String) :=
  [("object",
      "__delattr__ __eq__ __ge__ __getattribute__ __gt__ __hash__ __init__ __le__ " ++
      "__lt__ __ne__ __repr__ __setattr__ __str__"),
    ("type",
      "__call__ __delattr__ __getattribute__ __init__ __or__ __repr__ __ror__ " ++
      "__setattr__"),
    ("int",
      "__abs__ __add__ __and__ __bool__ __divmod__ __eq__ __float__ __floordiv__ " ++
      "__ge__ __getattribute__ __gt__ __hash__ __index__ __int__ __invert__ __le__ " ++
      "__lshift__ __lt__ __mod__ __mul__ __ne__ __neg__ __or__ __pos__ __pow__ " ++
      "__radd__ __rand__ __rdivmod__ __repr__ __rfloordiv__ __rlshift__ __rmod__ " ++
      "__rmul__ __ror__ __rpow__ __rrshift__ __rshift__ __rsub__ __rtruediv__ " ++
      "__rxor__ __sub__ __truediv__ __xor__"),
    ("bool",
      "__and__ __or__ __rand__ __repr__ __ror__ __rxor__ __xor__"),
    ("float",
      "__abs__ __add__ __bool__ __divmod__ __eq__ __float__ __floordiv__ __ge__ " ++
      "__getattribute__ __gt__ __hash__ __int__ __le__ __lt__ __mod__ __mul__ __ne__ " ++
      "__neg__ __pos__ __pow__ __radd__ __rdivmod__ __repr__ __rfloordiv__ __rmod__ " ++
      "__rmul__ __rpow__ __rsub__ __rtruediv__ __sub__ __truediv__"),
    ("complex",
      "__abs__ __add__ __bool__ __eq__ __ge__ __getattribute__ __gt__ __hash__ __le__ " ++
      "__lt__ __mul__ __ne__ __neg__ __pos__ __pow__ __radd__ __repr__ __rmul__ " ++
      "__rpow__ __rsub__ __rtruediv__ __sub__ __truediv__"),
    ("str",
      "__add__ __contains__ __eq__ __ge__ __getattribute__ __getitem__ __gt__ " ++
      "__hash__ __iter__ __le__ __len__ __lt__ __mod__ __mul__ __ne__ __repr__ " ++
      "__rmod__ __rmul__ __str__"),
    ("bytes",
      "__add__ __contains__ __eq__ __ge__ __getattribute__ __getitem__ __gt__ " ++
      "__hash__ __iter__ __le__ __len__ __lt__ __mod__ __mul__ __ne__ __repr__ " ++
      "__rmod__ __rmul__ __str__"),
    ("list",
      "__add__ __contains__ __delitem__ __eq__ __ge__ __getattribute__ __gt__ " ++
      "__iadd__ __imul__ __init__ __iter__ __le__ __len__ __lt__ __mul__ __ne__ " ++
      "__repr__ __rmul__ __setitem__"),
    ("tuple",
      "__add__ __contains__ __eq__ __ge__ __getattribute__ __getitem__ __gt__ " ++
      "__hash__ __iter__ __le__ __len__ __lt__ __mul__ __ne__ __repr__ __rmul__"),
    ("dict",
      "__delitem__ __eq__ __ge__ __getattribute__ __gt__ __init__ __ior__ __iter__ " ++
      "__le__ __len__ __lt__ __ne__ __or__ __repr__ __ror__ __setitem__"),
    ("set",
      "__and__ __eq__ __ge__ __getattribute__ __gt__ __iand__ __init__ __ior__ " ++
      "__isub__ __iter__ __ixor__ __le__ __len__ __lt__ __ne__ __or__ __rand__ " ++
      "__repr__ __ror__ __rsub__ __rxor__ __sub__ __xor__"),
    ("frozenset",
      "__and__ __eq__ __ge__ __getattribute__ __gt__ __hash__ __iter__ __le__ __len__ " ++
      "__lt__ __ne__ __or__ __rand__ __repr__ __ror__ __rsub__ __rxor__ __sub__ " ++
      "__xor__"),
    ("range",
      "__bool__ __contains__ __eq__ __ge__ __getattribute__ __getitem__ __gt__ " ++
      "__hash__ __iter__ __le__ __len__ __lt__ __ne__ __repr__"),
    ("slice",
      "__eq__ __ge__ __getattribute__ __gt__ __le__ __lt__ __ne__ __repr__"),
    ("BaseException",
      "__delattr__ __getattribute__ __init__ __repr__ __setattr__ __str__"),
    ("property",
      "__delete__ __get__ __getattribute__ __init__ __set__"),
    ("function",
      "__call__ __get__ __repr__"),
    ("NoneType",
      "__bool__ __repr__"),
    ("builtin_function_or_method",
      "__call__ __eq__ __ge__ __getattribute__ __gt__ __hash__ __le__ __lt__ __ne__ " ++
      "__repr__"),
    ("generator",
      "__del__ __getattribute__ __iter__ __next__ __repr__"),
    ("bytearray",
      "__add__ __contains__ __delitem__ __eq__ __ge__ __getattribute__ __getitem__ " ++
      "__gt__ __iadd__ __imul__ __init__ __iter__ __le__ __len__ __lt__ __mod__ " ++
      "__mul__ __ne__ __repr__ __rmod__ __rmul__ __setitem__ __str__"),
    ("memoryview",
      "__delitem__ __eq__ __ge__ __getattribute__ __getitem__ __gt__ __hash__ " ++
      "__iter__ __le__ __len__ __lt__ __ne__ __repr__ __setitem__"),
    ("dict_keys",
      "__and__ __contains__ __eq__ __ge__ __getattribute__ __gt__ __iter__ __le__ " ++
      "__len__ __lt__ __ne__ __or__ __rand__ __repr__ __ror__ __rsub__ __rxor__ " ++
      "__sub__ __xor__"),
    ("dict_values",
      "__getattribute__ __iter__ __len__ __repr__"),
    ("map",
      "__getattribute__ __iter__ __next__"),
    ("list_iterator",
      "__getattribute__ __iter__ __next__"),
    ("callable_iterator",
      "__getattribute__ __iter__ __next__"),
    ("staticmethod",
      "__call__ __get__ __init__ __repr__"),
    ("classmethod",
      "__get__ __init__ __repr__"),
    ("super",
      "__get__ __getattribute__ __init__ __repr__"),
    ("mappingproxy",
      "__contains__ __eq__ __ge__ __getattribute__ __getitem__ __gt__ __ior__ " ++
      "__iter__ __le__ __len__ __lt__ __ne__ __or__ __repr__ __ror__ __str__"),
    ("method",
      "__call__ __delattr__ __eq__ __ge__ __getattribute__ __gt__ __hash__ __le__ " ++
      "__lt__ __ne__ __repr__ __setattr__"),
    ("method-wrapper",
      "__call__ __eq__ __ge__ __getattribute__ __gt__ __hash__ __le__ __lt__ __ne__ " ++
      "__repr__"),
    ("wrapper_descriptor",
      "__call__ __get__ __getattribute__ __repr__"),
    ("getset_descriptor",
      "__delete__ __get__ __getattribute__ __repr__ __set__"),
    ("member_descriptor",
      "__delete__ __get__ __getattribute__ __repr__ __set__"),
    ("GenericAlias",
      "__call__ __eq__ __ge__ __getattribute__ __getitem__ __gt__ __hash__ __iter__ " ++
      "__le__ __lt__ __ne__ __or__ __repr__ __ror__"),
    ("UnionType",
      "__eq__ __ge__ __getattribute__ __getitem__ __gt__ __hash__ __le__ __lt__ " ++
      "__ne__ __or__ __repr__ __ror__"),
    ("code",
      "__eq__ __ge__ __getattribute__ __gt__ __hash__ __le__ __lt__ __ne__ __repr__"),
    ("module",
      "__delattr__ __getattribute__ __init__ __repr__ __setattr__"),
    ("ellipsis",
      "__getattribute__ __repr__"),
    ("NotImplementedType",
      "__bool__ __repr__"),
    ("KeyError",
      "__init__ __str__"),
    ("StopIteration",
      "__init__"),
    ("ImportError",
      "__init__ __str__"),
    ("OSError",
      "__init__ __str__"),
    ("SyntaxError",
      "__init__ __str__"),
    ("SystemExit",
      "__init__"),
    ("AttributeError",
      "__init__ __str__"),
    ("NameError",
      "__init__ __str__"),
    ("UnicodeEncodeError",
      "__init__ __str__"),
    ("UnicodeDecodeError",
      "__init__ __str__"),
    ("UnicodeTranslateError",
      "__init__ __str__"),
    ("BaseExceptionGroup",
      "__init__ __str__")]

/-- The attributes of the types: what their values tell of themselves. -/
def attributes : List (String × String) :=
  [("object",
      "__class__"),
    ("type",
      "__abstractmethods__ __annotations__ __bases__ __dict__ __doc__ __module__ " ++
      "__name__ __qualname__ __text_signature__"),
    ("int",
      "denominator imag numerator real"),
    ("float",
      "imag real"),
    ("BaseException",
      "__cause__ __context__ __dict__ __traceback__ args"),
    ("property",
      "__isabstractmethod__"),
    ("function",
      "__annotations__ __code__ __defaults__ __dict__ __kwdefaults__ __name__ " ++
      "__qualname__"),
    ("builtin_function_or_method",
      "__doc__ __name__ __qualname__ __self__ __text_signature__"),
    ("generator",
      "__name__ __qualname__ gi_frame gi_running gi_suspended gi_yieldfrom"),
    ("memoryview",
      "c_contiguous contiguous f_contiguous format itemsize nbytes ndim obj readonly " ++
      "shape strides suboffsets"),
    ("dict_keys",
      "mapping"),
    ("dict_values",
      "mapping"),
    ("staticmethod",
      "__dict__ __isabstractmethod__"),
    ("classmethod",
      "__dict__ __isabstractmethod__"),
    ("method",
      "__doc__"),
    ("method-wrapper",
      "__doc__ __name__ __objclass__ __qualname__ __text_signature__"),
    ("wrapper_descriptor",
      "__doc__ __qualname__ __text_signature__"),
    ("getset_descriptor",
      "__doc__ __qualname__"),
    ("member_descriptor",
      "__doc__ __qualname__"),
    ("GenericAlias",
      "__parameters__ __typing_unpacked_tuple_args__"),
    ("UnionType",
      "__parameters__"),
    ("code",
      "_co_code_adaptive co_cellvars co_code co_freevars co_lnotab co_varnames"),
    ("module",
      "__annotations__"),
    ("OSError",
      "characters_written")]

/-- The fields of the types: what their values are made of. -/
def fields : List (String × String) :=
  [("type",
      "__base__ __basicsize__ __dictoffset__ __flags__ __itemsize__ __mro__ " ++
      "__weakrefoffset__"),
    ("complex",
      "imag real"),
    ("range",
      "start step stop"),
    ("slice",
      "start step stop"),
    ("BaseException",
      "__suppress_context__"),
    ("property",
      "__doc__ fdel fget fset"),
    ("function",
      "__builtins__ __closure__ __doc__ __globals__ __module__"),
    ("builtin_function_or_method",
      "__module__"),
    ("generator",
      "gi_code"),
    ("staticmethod",
      "__func__ __wrapped__"),
    ("classmethod",
      "__func__ __wrapped__"),
    ("super",
      "__self__ __self_class__ __thisclass__"),
    ("method",
      "__func__ __self__"),
    ("method-wrapper",
      "__self__"),
    ("wrapper_descriptor",
      "__name__ __objclass__"),
    ("getset_descriptor",
      "__name__ __objclass__"),
    ("member_descriptor",
      "__name__ __objclass__"),
    ("GenericAlias",
      "__args__ __origin__ __unpacked__"),
    ("UnionType",
      "__args__"),
    ("code",
      "co_argcount co_consts co_exceptiontable co_filename co_firstlineno co_flags " ++
      "co_kwonlyargcount co_linetable co_name co_names co_nlocals co_posonlyargcount " ++
      "co_qualname co_stacksize"),
    ("module",
      "__dict__"),
    ("StopIteration",
      "value"),
    ("ImportError",
      "msg name path"),
    ("OSError",
      "errno filename filename2 strerror"),
    ("SyntaxError",
      "end_lineno end_offset filename lineno msg offset print_file_and_line text"),
    ("SystemExit",
      "code"),
    ("AttributeError",
      "name obj"),
    ("NameError",
      "name"),
    ("UnicodeEncodeError",
      "encoding end object reason start"),
    ("UnicodeDecodeError",
      "encoding end object reason start"),
    ("UnicodeTranslateError",
      "encoding end object reason start"),
    ("BaseExceptionGroup",
      "exceptions message")]

/-- The functions called on the types themselves. -/
def classMethods : List (String × String) :=
  [("object",
      "__init_subclass__ __subclasshook__"),
    ("type",
      "__prepare__"),
    ("int",
      "from_bytes"),
    ("float",
      "__getformat__ fromhex"),
    ("bytes",
      "fromhex"),
    ("list",
      "__class_getitem__"),
    ("tuple",
      "__class_getitem__"),
    ("dict",
      "__class_getitem__ fromkeys"),
    ("set",
      "__class_getitem__"),
    ("frozenset",
      "__class_getitem__"),
    ("bytearray",
      "fromhex"),
    ("mappingproxy",
      "__class_getitem__"),
    ("BaseExceptionGroup",
      "__class_getitem__")]

/-- The functions that belong to the types and are called on nothing. -/
def freeFunctions : List (String × String) :=
  [("object",
      "__new__"),
    ("type",
      "__new__"),
    ("int",
      "__new__"),
    ("bool",
      "__new__"),
    ("float",
      "__new__"),
    ("complex",
      "__new__"),
    ("str",
      "__new__ maketrans"),
    ("bytes",
      "__new__ maketrans"),
    ("list",
      "__new__"),
    ("tuple",
      "__new__"),
    ("dict",
      "__new__"),
    ("set",
      "__new__"),
    ("frozenset",
      "__new__"),
    ("range",
      "__new__"),
    ("slice",
      "__new__"),
    ("BaseException",
      "__new__"),
    ("property",
      "__new__"),
    ("function",
      "__new__"),
    ("NoneType",
      "__new__"),
    ("bytearray",
      "__new__ maketrans"),
    ("memoryview",
      "__new__"),
    ("map",
      "__new__"),
    ("staticmethod",
      "__new__"),
    ("classmethod",
      "__new__"),
    ("super",
      "__new__"),
    ("mappingproxy",
      "__new__"),
    ("method",
      "__new__"),
    ("GenericAlias",
      "__new__"),
    ("code",
      "__new__"),
    ("module",
      "__new__"),
    ("ellipsis",
      "__new__"),
    ("NotImplementedType",
      "__new__"),
    ("OSError",
      "__new__"),
    ("UnicodeEncodeError",
      "__new__"),
    ("UnicodeDecodeError",
      "__new__"),
    ("UnicodeTranslateError",
      "__new__"),
    ("BaseExceptionGroup",
      "__new__")]

/-- The members of a kind, type by type. -/
def listing : MemberKind → List (String × String)
  | .method => methods
  | .operation => operations
  | .attribute => attributes
  | .field => fields
  | .classMethod => classMethods
  | .free => freeFunctions

/-- Whether a line of words holds a word. -/
def holdsWord (line word : String) : Bool :=
  (line.splitOn " ").contains word

/-- The type whose members are listed in the place of those of a type that has the same ones. -/
def listedAs (type : String) : String :=
  if type = "callable_iterator" then type
  else if type.endsWith "iterator" then "list_iterator"
  else if ["filter", "zip", "enumerate", "reversed"].contains type then "map"
  else if type = "dict_items" then "dict_keys"
  else if ["method_descriptor", "classmethod_descriptor"].contains type then "wrapper_descriptor"
  else type

/-- Whether a type lists a member of a kind itself. -/
def lists (type : String) (kind : MemberKind) (name : String) : Bool :=
  (((listing kind).lookup (listedAs type)).map fun line => holdsWord line name).getD false

/-- The kind of the member that a type lists itself under a name. -/
def ownKind? (type name : String) : Option MemberKind :=
  [MemberKind.method, .operation, .attribute, .field, .classMethod, .free].find? fun kind =>
    lists type kind name

/-- The member of a name that a type has: the type that lists it, and its kind. -/
def member? (type name : String) : Option (String × MemberKind) :=
  (ancestry type).findSome? fun ancestor =>
    (ownKind? ancestor name).map fun kind => (ancestor, kind)

/-- The names that a type lists itself, with the kinds of the members. -/
def ownNames (type : String) : List (String × MemberKind) :=
  [MemberKind.free, .operation, .method, .classMethod, .field, .attribute].flatMap fun kind =>
    (((listing kind).lookup (listedAs type)).getD "").splitOn " " |>.filterMap fun name =>
      if name.isEmpty then none else some (name, kind)

/-- A member of a type as messages show it. -/
def shownMember (type name : String) (kind : MemberKind) : String :=
  match kind.word? with
  | some word => "<" ++ word ++ " '" ++ name ++ "' of '" ++ type ++ "' objects>"
  | none => "<built-in method " ++ name ++ ">"

end PageContracts.Language
