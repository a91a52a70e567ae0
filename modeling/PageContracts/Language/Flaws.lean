import PageContracts.Language.Arguments

/-! # Failures as values

What the types of failures make of arguments: the parts of a failure of the system, of a coding, of a
text that makes no sense, and of a failure made of several.
-/
namespace PageContracts.Language.Flaws

open Meaning

/-- The types of failures of the system, by their numbers. -/
def systemTypes : List (Int × String) :=
  [(1, "PermissionError"), (2, "FileNotFoundError"), (3, "ProcessLookupError"),
    (4, "InterruptedError"), (10, "ChildProcessError"), (11, "BlockingIOError"),
    (13, "PermissionError"), (17, "FileExistsError"), (20, "NotADirectoryError"),
    (21, "IsADirectoryError"), (32, "BrokenPipeError"), (103, "ConnectionAbortedError"),
    (104, "ConnectionResetError"), (108, "BrokenPipeError"), (110, "TimeoutError"),
    (111, "ConnectionRefusedError"), (114, "BlockingIOError"), (115, "BlockingIOError")]

/-- The parts of a failure with some names, out of a row; what is not in the row is nothing. -/
def partsOf (names : List String) (items : List Meaning) : List (String × Meaning) :=
  names.zipIdx.map fun (name, i) => (name, items[i]?.getD nothing)

/-- A failure of the system: with a number and what it means it is of the type for that number, and
the files it is about are told apart from them. -/
def system (name : String) (given : List Meaning) : Except Failure Meaning := do
  if given.length < 2 || 5 < given.length then
    return .flaw name given (partsOf ["errno", "strerror", "filename"] [])
  let number := given.head?.getD nothing
  let named := (systemTypes.find? fun entry => same number (int entry.1)).map Prod.snd
  let type := if name = "OSError" then named.getD name else name
  let file := given[2]?.getD nothing
  let arguments := if file.bare matches .constant .none then given else given.take 2
  let parts :=
    [("errno", number), ("strerror", given[1]?.getD nothing), ("filename", file)] ++
      (given[4]?.toList.map fun other => ("filename2", other))
  return .flaw type arguments parts

/-- A failure about a text that makes no sense: what is known of the place may follow the message. -/
def malformed (name : String) (given : List Meaning) : Except Failure Meaning := do
  let names := ["filename", "lineno", "offset", "text", "end_lineno", "end_offset"]
  let details ←
    match given with
    | [_, details] => do
      let details ← details.heldItems
      if details.length ≠ 4 && details.length ≠ 6 then Arguments.refused
      pure details
    | _ => pure []
  return .flaw name given
    (("msg", given.head?.getD nothing) :: ("print_file_and_line", nothing) :: partsOf names details)

/-- A failure of a coding: its parts must be of the right types. -/
def coding (name : String) (given : List Meaning) : Except Failure Meaning := do
  let isText (item : Meaning) : Bool := item.text?.isSome
  let isNumber (item : Meaning) : Bool := item.integer?.isSome
  match name, given with
  | "UnicodeTranslateError", [object, start, stop, reason] =>
    if !(isText object && isNumber start && isNumber stop && isText reason) then Arguments.refused
    return .flaw name given (partsOf ["object", "start", "end", "reason"] given)
  | "UnicodeTranslateError", _ => Arguments.refused
  | name, [encoding, object, start, stop, reason] =>
    let fits := if name = "UnicodeEncodeError" then isText object else object.bytes?.isSome
    if !(isText encoding && fits && isNumber start && isNumber stop && isText reason) then
      Arguments.refused
    let object := (object.bytes?.map fun b => Meaning.constant (.bytes b)).getD object
    return .flaw name given
      (partsOf ["encoding", "object", "start", "end", "reason"]
        [encoding, object, start, stop, reason])
  | _, _ => Arguments.refused

/-- Whether something is a failure, and whether it is one that programs expect. -/
def kindOf? (item : Meaning) : Option Bool :=
  match item.core with
  | .flaw name _ _ => some ((ancestry name).contains "Exception")
  | _ => none

/-- A failure made of several. -/
def group (name : String) (given : List Meaning) : Except Failure Meaning := do
  match given with
  | [message, several] =>
    if message.text?.isNone then Arguments.refused (α := Unit)
    let isRow :=
      match several.core with
      | .list _ | .tuple _ | .range .. | .constant (.text _) => true
      | _ => several.bytes?.isSome
    if !isRow then misuse "second argument (exceptions) must be a sequence"
    let failures ← several.heldItems
    if failures.isEmpty then
      throw (.valueBreach "second argument (exceptions) must be a non-empty sequence")
    let kinds := failures.map kindOf?
    if kinds.contains none then
      throw (.valueBreach "an item of the second argument (exceptions) is not an exception")
    let areExpected := kinds.all (· == some true)
    if name = "ExceptionGroup" && !areExpected then
      misuse "Cannot nest BaseExceptions in an ExceptionGroup"
    let type := if areExpected then "ExceptionGroup" else name
    return .flaw type given [("message", message), ("exceptions", .tuple failures)]
  | _ => Arguments.refused

/-- The parts of failures of a family that may be given by name. -/
def namedParts (family : List String) : List String :=
  if family.contains "ImportError" then ["name", "path"]
  else if family.contains "AttributeError" then ["name", "obj"]
  else if family.contains "NameError" then ["name"]
  else []

/-- What a type of failures makes of some arguments. -/
def made (name : String) (given : Arguments) : Except Failure Meaning := do
  let family := ancestry name
  let names := namedParts family
  given.onlyNamed names
  let arguments := given.positions
  let first := arguments.head?.getD nothing
  if family.contains "OSError" then system name arguments
  else if family.contains "SyntaxError" then malformed name arguments
  else if ["UnicodeEncodeError", "UnicodeDecodeError", "UnicodeTranslateError"].contains name then
    coding name arguments
  else if family.contains "BaseExceptionGroup" then group name arguments
  else
    let parts :=
      if family.contains "StopIteration" then [("value", first)]
      else if family.contains "SystemExit" then
        [("code", if arguments.length = 1 then first
          else if arguments.isEmpty then nothing else .tuple arguments)]
      else if family.contains "ImportError" then
        [("msg", if arguments.length = 1 then first else nothing)]
      else []
    return .flaw name arguments
      (parts ++ names.map fun label => (label, (given.named.lookup label).getD nothing))

/-- The names under which every failure has something. -/
def common : List String :=
  ["args", "__cause__", "__context__", "__traceback__", "__suppress_context__"]

/-- What a failure as a value has under a name. -/
def part? (name : String) (arguments : List Meaning) (attributes : List (String × Meaning))
    (label : String) : Option Meaning :=
  match attributes.lookup label, label with
  | some found, _ => some found
  | none, "args" => some (.tuple arguments)
  | none, "__cause__" | none, "__context__" | none, "__traceback__" => some nothing
  | none, "__suppress_context__" => some (bool false)
  | none, "__dict__" =>
    let own := attributes.filter fun entry =>
      !common.contains entry.1 && !(member? name entry.1 matches some (_, .field))
    some (.map (own.map fun (label, value) => (text label, value)))
  | none, label => if member? name label matches some (_, .field) then some nothing else none

/-- A failure with something under a name; the arguments it was made with can be changed so as
well. -/
def withPart (name : String) (arguments : List Meaning) (attributes : List (String × Meaning))
    (label : String) (value : Meaning) : Except Failure Meaning :=
  match label with
  | "args" => do return .flaw name (← value.heldItems) attributes
  | "__cause__" | "__context__" =>
    if (kindOf? value).isSome || value.bare matches .constant .none then
      .ok (.flaw name arguments (assign label value attributes))
    else misuse "exception cause must be None or derive from BaseException"
  | "__traceback__" =>
    if value.bare matches .constant .none then .ok (.flaw name arguments attributes)
    else misuse "__traceback__ must be a traceback or None"
  | label => .ok (.flaw name arguments (assign label value attributes))

end PageContracts.Language.Flaws
