/-! # The language's own types

The types that are there for every program, and how they descend from one another. All of them
descend from the common type; the types of failures form a tree of their own.
-/
namespace PageContracts.Language

/-- The types of failures, by the types they descend from. -/
def failureTypes : List (String × String) :=
  [("BaseException", "BaseExceptionGroup Exception GeneratorExit KeyboardInterrupt SystemExit"),
    ("Exception",
      "ArithmeticError AssertionError AttributeError BufferError EOFError ImportError " ++
      "LookupError MemoryError NameError OSError ReferenceError RuntimeError " ++
      "StopAsyncIteration StopIteration SyntaxError SystemError TypeError ValueError Warning"),
    ("OSError",
      "BlockingIOError ChildProcessError ConnectionError FileExistsError FileNotFoundError " ++
      "InterruptedError IsADirectoryError NotADirectoryError PermissionError " ++
      "ProcessLookupError TimeoutError"),
    ("ConnectionError",
      "BrokenPipeError ConnectionAbortedError ConnectionRefusedError ConnectionResetError"),
    ("Warning",
      "BytesWarning DeprecationWarning EncodingWarning FutureWarning ImportWarning " ++
      "PendingDeprecationWarning ResourceWarning RuntimeWarning SyntaxWarning UnicodeWarning " ++
      "UserWarning"),
    ("BaseExceptionGroup", "ExceptionGroup"),
    ("ArithmeticError", "FloatingPointError OverflowError ZeroDivisionError"),
    ("SyntaxError", "IndentationError"),
    ("LookupError", "IndexError KeyError"),
    ("ImportError", "ModuleNotFoundError"),
    ("RuntimeError", "NotImplementedError RecursionError"),
    ("IndentationError", "TabError"),
    ("NameError", "UnboundLocalError"),
    ("UnicodeError", "UnicodeDecodeError UnicodeEncodeError UnicodeTranslateError"),
    ("ValueError", "UnicodeError")]

/-- The other types. -/
def plainTypes : List String :=
  ["bool", "bytearray", "bytes", "classmethod", "complex", "dict", "enumerate", "filter", "float",
    "frozenset", "int", "list", "map", "memoryview", "object", "property", "range", "reversed",
    "set", "slice", "staticmethod", "str", "super", "tuple", "type", "zip"]

/-- Further names of types. -/
def otherTypeNames : List (String × String) :=
  [("EnvironmentError", "OSError"), ("IOError", "OSError"), ("__loader__", "BuiltinImporter")]

/-- The type of failures that a type of failures descends from. -/
def widerFailure? (name : String) : Option String :=
  (failureTypes.find? fun entry => (entry.2.splitOn " ").contains name).map Prod.fst

/-- Whether a type is one of failures. -/
def isFailureType (name : String) : Bool :=
  name = "BaseException" || (widerFailure? name).isSome

/-- A type of failures and those it descends from. The fuel is more than the height of their
tree. -/
def failureAncestry : Nat → String → List String
  | 0, _ => []
  | fuel + 1, name =>
    name :: ((widerFailure? name).map (failureAncestry fuel)).getD []

/-- The types of failures that keep more than what all failures keep. -/
def ampleFailures : List String :=
  ["BaseExceptionGroup", "SystemExit", "AttributeError", "NameError", "ImportError", "OSError",
    "StopIteration", "SyntaxError", "UnicodeDecodeError", "UnicodeEncodeError",
    "UnicodeTranslateError", "BaseException"]

/-- The type of failures that settles how those of a type are laid out. -/
def failureLayout (name : String) : String :=
  ((failureAncestry 8 name).find? ampleFailures.contains).getD name

/-- The types that none can descend from. -/
def closedTypes : List String :=
  ["bool", "NoneType", "range", "slice", "memoryview", "ellipsis", "NotImplementedType", "function",
    "builtin_function_or_method", "method", "method-wrapper", "method_descriptor",
    "wrapper_descriptor", "getset_descriptor", "member_descriptor", "classmethod_descriptor",
    "generator", "code", "mappingproxy", "dict_keys", "dict_values", "dict_items", "LocatorKind",
    "UnionType"]

/-- The type that all types descend from. -/
def commonType : String := "object"

/-- The types that some further types descend from, nearest first. -/
def furtherAncestry : List (String × List String) :=
  [("bool", ["int"]), ("ExceptionGroup", ["BaseExceptionGroup", "Exception", "BaseException"]),
    ("_AnyMeta", ["type"]), ("EnumType", ["type"]), ("LocatorKind", ["str", "Enum"]),
    ("_UnionGenericAlias", ["_NotIterable", "_GenericAlias", "_BaseGenericAlias", "_Final"]),
    ("_SpecialForm", ["_Final", "_NotIterable"]), ("ForwardRef", ["_Final"])]

/-- A type and those it descends from, nearest first. -/
def ancestry (name : String) : List String :=
  if name = commonType then [commonType]
  else
    match furtherAncestry.lookup name with
    | some wider => name :: wider ++ [commonType]
    | none =>
      if isFailureType name then failureAncestry 8 name ++ [commonType] else [name, commonType]

/-- Whether a type of the language may be named. -/
def isType (name : String) : Bool :=
  plainTypes.contains name || isFailureType name

/-- The methods of choices between types, with the types that define them. -/
def choiceMethods : List (String × String) :=
  [("__call__", "_BaseGenericAlias"), ("__eq__", "_UnionGenericAlias"),
    ("__getattr__", "_BaseGenericAlias"), ("__getitem__", "_GenericAlias"),
    ("__hash__", "_UnionGenericAlias"), ("__instancecheck__", "_UnionGenericAlias"),
    ("__mro_entries__", "_GenericAlias"), ("__or__", "_GenericAlias"),
    ("__repr__", "_UnionGenericAlias"), ("__ror__", "_GenericAlias"),
    ("__setattr__", "_BaseGenericAlias"), ("__subclasscheck__", "_UnionGenericAlias"),
    ("_determine_new_args", "_GenericAlias"), ("_make_substitution", "_GenericAlias"),
    ("copy_with", "_UnionGenericAlias")]

/-- The functions that may be named. -/
def functions : List String :=
  ["__build_class__", "__import__", "abs", "aiter", "all", "anext", "any", "ascii", "bin",
    "__build_class__", "__import__", "breakpoint", "callable", "chr", "compile", "delattr", "dir", "divmod", "eval", "exec",
    "format", "getattr", "globals", "hasattr", "hash", "hex", "id", "input", "isinstance",
    "issubclass", "iter", "len", "locals", "max", "min", "next", "oct", "open", "ord", "pow",
    "print", "repr", "round", "setattr", "sorted", "sum", "vars"]

end PageContracts.Language
