import PageContracts.Number.Reading
import PageContracts.Settings.Document.Content
import PageContracts.Text.Cases

/-! # Looking up settings

Where a setting comes from: the environment first, then the settings file, then the default. An
environment text is converted to the kind of value it replaces.
-/
namespace PageContracts.Settings

open Characters
open Document (Content Part)

/-- The built-in defaults. -/
def defaults : List (String × Value) :=
  [("browser.base_url", .text "http://localhost:8080"),
    ("browser.type", .text "chromium"),
    ("browser.headless", .bool true),
    ("finder.strategy", .text "impatient"),
    ("finder.timeout", .int 5000),
    ("finder.max_attempts", .int 3),
    ("screenshots.dir", .text "build"),
    ("screenshots.on_error", .bool true),
    ("logging.level", .text "INFO")]

/-- The value that stands in for a setting found nowhere: the given default, or the built-in
one. -/
def fallback (key : String) (default : Value) : Value :=
  match default with
  | .none => (defaults.lookup key).getD .none
  | given => given

/-- The name of the environment variable that overrides a setting. -/
def variableName (key : String) : String :=
  replace "." "_" (upper key)

/-- The texts that mean yes, once trimmed and in lower case. -/
def yesTexts : List String := ["true", "1", "yes", "on"]

/-- Whether an environment text means yes. -/
def meansYes (raw : String) : Bool :=
  yesTexts.contains (String.ofList (lower (trim raw).toList))

/-- An environment text as a value of the kind it replaces; `none` when it was to be a number but
is not one. An instance of a class that descends from a kind of number is of that kind. -/
def coerced? (raw : String) (reference : Value) : Option Value :=
  match reference.core with
  | .bool _ => some (.bool (meansYes raw))
  | .int _ => (Reading.integer? raw).map .int
  | .float _ => (Reading.double? raw).map .float
  | _ => some (.text raw)

/-- The name of the kind of number a reference is. -/
def numberName (reference : Value) : String :=
  reference.core.typeName

/-- What is logged about a text that was to be a number. -/
def unreadableMessage (raw : String) (reference : Value) : String :=
  "Cannot read " ++ Quoted.quoted raw ++ " as " ++ numberName reference ++
    ", keeping the string"

/-- The part under a key of a part that is a map; absent when there is none, when it is nothing, or
when the part is no map. -/
def step? (content : Content) (part : Part) (key : String) : Option Part :=
  match content.entry? part key with
  | some (.plain .none) => none
  | found => found

/-- Follow the parts of a key through nested maps. -/
def follow? (content : Content) (part : Part) : List String → Option Part
  | [] => some part
  | key :: rest =>
    match step? content part key with
    | some next => follow? content next rest
    | none => none

/-- The parts of a dotted key. -/
def keyParts (key : String) : List String :=
  (splitOn '.' key.toList).map String.ofList

/-- The value that the settings file has for a dotted key. -/
def valueOf? (content : Content) (key : String) : Option Value :=
  (follow? content content.root (keyParts key)).map content.value

/-- The two members of a part that stands for a map entry. -/
def entryOf (content : Content) (part : Part) : Except Failure (Value × Value) :=
  match content.members? part with
  | none => .error (.typeBreach "cannot convert a sequence element to a sequence")
  | some [key, value] => .ok (content.value key, content.value value)
  | some _ => .error (.valueBreach "a sequence element has the wrong length")

/-- Parts that stand for map entries as a map, in which the entries before a wrong one must be
proper ones. -/
def mapOf (content : Content) : List Part → List (Value × Value) → Except Failure Value
  | [], entries => Value.mapOf entries []
  | part :: rest, entries =>
    match entryOf content part with
    | .ok entry => mapOf content rest (entries ++ [entry])
    | .error failure => do
      let _ ← Value.mapOf entries []
      throw failure

/-- A part of the settings as a map; whatever counts as false is an empty one. -/
def sectionMap (content : Content) (found : Part) : Except Failure Value :=
  if !content.truthy found then .ok (.map [])
  else
    match content.collection? found, content.members? found with
    | some (.map entries), _ =>
      .ok (.map (entries.map fun entry => (entry.1, content.value entry.2)))
    | _, some members => mapOf content members []
    | _, none => .error (.typeBreach "object is not iterable")

/-- One section of the settings as a map. -/
def sectionOf (content : Content) (name : String) : Except Failure Value :=
  match content.collection? content.root with
  | some (.map _) => sectionMap content ((content.entry? content.root name).getD (.plain .none))
  | _ => .error (.missing "get")

end PageContracts.Settings
