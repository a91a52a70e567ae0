/-! # Failures

What can go wrong, as data. The first kinds are this library's own and keep a message for the
author of a contract; the last ones are breaches of the rules of the host language, of which
only the kind is public.
-/
namespace PageContracts

/-- The kinds of failure. -/
inductive FailureKind where
  /-- Any failure of this library. -/
  | framework
  /-- Any failure to compile a contract. -/
  | synthesis
  /-- No rule implements a declared operation. -/
  | unsupportedShape
  /-- A locator's placeholders do not line up with the parameters that feed them. -/
  | locatorArity
  /-- Several rules claim one operation. -/
  | ambiguousOperation
  /-- A class is no contract, or a contract without operations. -/
  | contractShape
  /-- A scoped locator cannot be composed with its ancestors. -/
  | scopeResolution
  /-- No element matches a locator. -/
  | elementNotFound
  /-- A page has no address. -/
  | navigation
  /-- The settings file cannot be read. -/
  | configuration
  /-- The browser reported an error. -/
  | browser
  /-- A value of the wrong type. -/
  | wrongType
  /-- A value that is not acceptable. -/
  | wrongValue
  /-- An action out of turn. -/
  | outOfTurn
  /-- A missing attribute. -/
  | missingAttribute
  /-- A number beyond its range. -/
  | overflow
  /-- A division by zero. -/
  | divisionByZero
  /-- A position outside a sequence. -/
  | outOfBounds
  /-- A name without meaning. -/
  | unknownName
  /-- A malformed expression. -/
  | malformed
  /-- A file where a directory is wanted. -/
  | fileExists
  /-- A path through something that is no directory. -/
  | notDirectory
  /-- A path that leads nowhere. -/
  | missingFile
  /-- A directory where a file is wanted. -/
  | isDirectory
  /-- A key that is in no map. -/
  | missingKey
  /-- More nesting than can be followed. -/
  | tooDeep
  /-- A path or a name the system cannot take. -/
  | unfitName
  /-- More room than there is. -/
  | exhausted
  /-- Something that is looked up by name and is not known. -/
  | unknownThing
  /-- A character that a coding cannot write. -/
  | unencodable
  /-- Bytes that a coding cannot read. -/
  | undecodable
  /-- No further item. -/
  | noMore
  /-- Another failure that an expression raises itself, by the name of its type. -/
  | raised (name : String)
  deriving DecidableEq, Repr, Inhabited

namespace FailureKind

/-- The next wider kind. -/
def parent? : FailureKind → Option FailureKind
  | .locatorArity => some .unsupportedShape
  | .unsupportedShape | .ambiguousOperation | .contractShape => some .synthesis
  | .synthesis | .scopeResolution | .elementNotFound | .navigation | .configuration =>
    some .framework
  | _ => none

/-- Whether every failure of the first kind is also of the second. -/
def within (kind wider : FailureKind) : Bool :=
  kind = wider ||
    match kind.parent? with
    | none => false
    | some up => up = wider ||
      match up.parent? with
      | none => false
      | some top => top = wider || top.parent? = some wider

/-- The name by which reports know a kind. -/
def label : FailureKind → String
  | .framework => "AutopanelError"
  | .synthesis => "SynthesisError"
  | .unsupportedShape => "UnsupportedOperationShapeError"
  | .locatorArity => "LocatorArityError"
  | .ambiguousOperation => "AmbiguousOperationError"
  | .contractShape => "ContractShapeError"
  | .scopeResolution => "ScopeResolutionError"
  | .elementNotFound => "ElementNotFoundError"
  | .navigation => "NavigationError"
  | .configuration => "ConfigurationError"
  | .browser => "Error"
  | .wrongType => "TypeError"
  | .wrongValue => "ValueError"
  | .outOfTurn => "RuntimeError"
  | .missingAttribute => "AttributeError"
  | .overflow => "OverflowError"
  | .divisionByZero => "ZeroDivisionError"
  | .outOfBounds => "IndexError"
  | .unknownName => "NameError"
  | .malformed => "SyntaxError"
  | .fileExists => "FileExistsError"
  | .notDirectory => "NotADirectoryError"
  | .missingFile => "FileNotFoundError"
  | .isDirectory => "IsADirectoryError"
  | .missingKey => "KeyError"
  | .tooDeep => "RecursionError"
  | .unfitName => "OSError"
  | .exhausted => "MemoryError"
  | .unknownThing => "LookupError"
  | .unencodable => "UnicodeEncodeError"
  | .undecodable => "UnicodeDecodeError"
  | .noMore => "StopIteration"
  | .raised name => name

/-- The kinds that breaches of the host language's rules are of. -/
def breaches : List FailureKind :=
  [.wrongType, .wrongValue, .outOfTurn, .missingAttribute, .overflow, .divisionByZero, .outOfBounds,
    .unknownName, .malformed, .fileExists, .notDirectory, .missingFile, .isDirectory, .missingKey,
    .tooDeep, .unfitName, .exhausted, .unknownThing, .unencodable, .undecodable, .noMore]

/-- The kind of breaches that the name of a type of failures stands for. -/
def ofTypeName? (name : String) : Option FailureKind :=
  breaches.find? fun kind => kind.label = name

/-- The kinds of this library's own failures. -/
def own : List FailureKind :=
  [.framework, .synthesis, .unsupportedShape, .locatorArity, .ambiguousOperation, .contractShape,
    .scopeResolution, .elementNotFound, .navigation, .configuration]

/-- The kind of this library's own failures that a name stands for. -/
def ofLabel? (name : String) : Option FailureKind :=
  own.find? fun kind => kind.label = name

/-- Whether the failure comes from compiling a contract. -/
def isSynthesis (kind : FailureKind) : Bool :=
  kind.within .synthesis

/-- Whether a kind always carries a public message. -/
def speaks (kind : FailureKind) : Bool :=
  (kind.within .framework && kind ≠ .configuration) || kind = .browser

end FailureKind

/-- A failure: its kind, its message, whether the message was written for the reader rather than
by the host language, and for synthesis failures the contract and operation at fault. -/
structure Failure where
  kind : FailureKind
  message : String := ""
  stated : Bool := false
  contract : Option String := none
  operation : Option String := none
  deriving DecidableEq, Repr, Inhabited

namespace Failure

/-- The message as far as it is public. -/
def public? (failure : Failure) : Option String :=
  if failure.kind.speaks || failure.stated then some failure.message else none

/-- A breach of the host language's rules. -/
def breach (kind : FailureKind) (message : String) : Failure :=
  { kind, message }

/-- A wrong type found by the host language. -/
def typeBreach (message : String) : Failure :=
  breach .wrongType message

/-- A wrong value found by the host language. -/
def valueBreach (message : String) : Failure :=
  breach .wrongValue message

/-- A wrong type reported with a message of this library. -/
def typeStated (message : String) : Failure :=
  { kind := .wrongType, message, stated := true }

/-- A wrong value reported with a message of this library. -/
def valueStated (message : String) : Failure :=
  { kind := .wrongValue, message, stated := true }

/-- An action out of turn, reported with a message of this library. -/
def outOfTurn (message : String) : Failure :=
  { kind := .outOfTurn, message, stated := true }

/-- An attribute that does not exist. -/
def missing (name : String) : Failure :=
  breach .missingAttribute name

/-- A failure of the given kind of this library. -/
def own (kind : FailureKind) (message : String) : Failure :=
  { kind, message }

end Failure
end PageContracts
