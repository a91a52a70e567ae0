import PageContracts.Settings.Document
import PageContracts.Settings.Lookup
import PageContracts.World

/-! # The settings loader

Everyone shares one loader, which reads the settings file when it is first asked for. When the
file cannot be read the loader stays, but tries again the next time.
-/
namespace PageContracts.Settings

/-- The environment variable that names the settings file. -/
def pathVariable : String := "AUTOPANEL_CONFIG"

/-- The settings file that is read unless another is named. -/
def standardPath : FilePath := .parse "config/autopanel.yaml"

variable {β : Type}

/-- The value of an environment variable. -/
def environmentText? (world : World β) (name : String) : Option String :=
  world.environment.lookup name

/-- Require that an environment variable may have a name and a value. -/
def requireVariable (name value : String) : Except Failure Unit :=
  if name.contains (Char.ofNat 0) || value.contains (Char.ofNat 0) then
    .error (.valueBreach "embedded null byte")
  else if name.contains '=' then .error (.valueBreach "illegal environment variable name")
  else if name.isEmpty then .error (.breach .unfitName "Invalid argument")
  else .ok ()

/-- Set an environment variable, or remove it when there is no value. -/
def setVariable (name : String) (value : Value) : Run β Unit := do
  let kept := (← get).environment.filter fun entry => entry.1 ≠ name
  match value with
  | .none => modify fun world => { world with environment := kept }
  | .text text =>
    Run.ofExcept (requireVariable name text)
    modify fun world => { world with environment := (name, text) :: kept }
  | _ => throw (.typeBreach "str expected")

/-- The path a new loader reads: the one that is asked for, or else the one the environment
names, or else the standard one. Empty texts name nothing. -/
def pathFor (world : World β) (asked : Option String) : FilePath :=
  match asked.filter (!·.isEmpty) with
  | some path => .parse path
  | none =>
    match (environmentText? world pathVariable).filter (!·.isEmpty) with
    | some path => .parse path
    | none => standardPath

/-- What a defect of a settings file is reported as. Only a text that is no document is the fault
of the document. -/
def failureOf (path : FilePath) : Document.Defect → Failure
  | .malformed => .own .configuration ("Invalid YAML in " ++ path.display)
  | .unreadable => .valueBreach "no such number, date or character"
  | .emptyNumber => .breach .outOfBounds "string index out of range"
  | .unknownTruth => .breach .missingKey "not a truth value"
  | .unknownMoment => .missing "groupdict"
  | .mappedMoment => .typeBreach "expected string or bytes-like object"
  | .tooLarge => .breach .overflow "int too large"
  | .tooDeep => .breach .tooDeep "maximum recursion depth exceeded"

/-- Read a settings file. A file that is not there holds no settings. -/
def readFile (path : FilePath) : Run β Document.Content := do
  match ← Run.ofExcept ((← get).files.find? path) with
  | some (.file text) =>
    match Document.read (String.ofList (Characters.unifyLineEnds text.toList)) with
    | .error defect => throw (failureOf path defect)
    | .ok content =>
      Run.log .debug ("Loaded configuration from " ++ path.display)
      return if content.truthy content.root then content else .empty
  | _ =>
    Run.log .debug ("No configuration file at " ++ path.display ++ ", using defaults")
    return .empty

/-- The loader of a number. -/
def find (number : Nat) : Run β SettingsLoader := do
  match (← get).loaders[number]? with
  | some loader => return loader
  | none => throw (.missing "loader")

/-- Change the loader of a number. -/
def change (number : Nat) (update : SettingsLoader → SettingsLoader) : Run β Unit :=
  modify fun world => { world with loaders := world.loaders.modify number update }

/-- The number of the shared loader, which is added when there is none. -/
def sharedNumber : Run β Nat := do
  let world ← get
  match world.sharedLoader with
  | some number => return number
  | none =>
    let number := world.loaders.length
    let fresh : SettingsLoader := {}
    set { world with loaders := world.loaders ++ [fresh], sharedLoader := some number }
    return number

/-- Ask for the shared loader. The path counts only for the one that makes it ready. -/
def load (asked : Option String) : Run β Nat := do
  let number ← sharedNumber
  if (← find number).ready then return number
  let path := pathFor (← get) asked
  change number fun loader => { loader with path }
  let sections ← readFile path
  change number fun loader => { loader with sections, ready := true }
  return number

/-- Read the settings file again. When that fails the settings stay as they are. -/
def reload (number : Nat) : Run β Unit := do
  let path := (← find number).path
  let sections ← readFile path
  change number fun loader => { loader with sections }
  Run.log .info ("Configuration reloaded from " ++ path.display)

/-- Drop the shared loader. -/
def reset : Run β Unit :=
  modify fun world => { world with sharedLoader := none }

/-- The value of a setting. -/
def get (number : Nat) (key : String) (default : Value) : Run β Value := do
  let reference := fallback key default
  match environmentText? (← MonadState.get) (variableName key) with
  | some raw =>
    match coerced? raw reference with
    | some value => return value
    | none =>
      Run.log .warning (unreadableMessage raw reference)
      return .text raw
  | none =>
    return (valueOf? (← find number).sections key).getD reference

/-- One section of the settings file. -/
def getSection (number : Nat) (name : String) : Run β Value := do
  Run.ofExcept (sectionOf (← find number).sections name)

/-- What is logged about a strategy that is not known. -/
def unknownStrategy (strategy : String) : String :=
  "Unknown finder strategy '" ++ strategy ++ "', using impatient"

/-- The finder the settings name. -/
def finder (number : Nat) : Run β Finder := do
  let strategy ← get number "finder.strategy" (.text "impatient")
  let timeout ← get number "finder.timeout" Finder.standardTimeout
  if strategy.isText "patient" then
    let maxAttempts ← get number "finder.max_attempts" (.int 3)
    return .patient timeout { RetryBudget.standard with maxAttempts }
  if !strategy.isText "impatient" then
    Run.log .warning (unknownStrategy (← Run.ofExcept strategy.spoken))
  return .impatient timeout

end PageContracts.Settings
