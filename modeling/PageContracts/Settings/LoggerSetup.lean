import PageContracts.Settings.Loader

/-! # Setting up the logger

The sinks log records go to: standard error always, and a file when the settings name one. The
set-up is done once, until it is allowed again. Which sinks can be installed is not known here: it
is up to whoever is asked to install them.
-/
namespace PageContracts.LoggerSetup

/-- The layout of records unless another is given. The braces are part of the layout. -/
def standardFormat : String :=
  "\x7btime:YYYY-MM-DD HH:mm:ss\x7d | \x7blevel: <8\x7d | \x7bextra[panel]: <16\x7d | \x7bmessage\x7d"

/-- The place of the level in a layout for people, and in one for files. -/
def paddedLevel : String := "\x7blevel: <8\x7d"

/-- The place of the level in the layout of a file. -/
def plainLevel : String := "\x7blevel\x7d"

/-- A byte that stands for a small letter as the one for the capital. -/
def upperByte (byte : UInt8) : UInt8 :=
  UInt8.ofNat (Characters.asciiUpper (Char.ofNat byte.toNat)).toNat

/-- The name of a level as sinks take it. -/
def levelName (level : Value) : Except Failure Value :=
  match level.core with
  | .text name => .ok (.text (Characters.upper name))
  | .bytes name => .ok (.bytes (name.map upperByte))
  | _ => .error (.missing "upper")

/-- The layout of a file sink. -/
def fileFormat (format : Value) : Except Failure Value :=
  match format.core with
  | .text layout => .ok (.text (Characters.replace paddedLevel plainLevel layout))
  | .bytes _ => .error (.typeBreach "a bytes-like object is required")
  | .date _ | .moment _ => .error (.typeBreach "an integer is required")
  | _ => .error (.missing "replace")

/-- The path of a file sink. -/
def filePath (file : Value) : Except Failure String :=
  match file with
  | .text path => .ok path
  | _ => .error (.typeBreach ("not a path: " ++ file.typeName))

variable {β : Type}

/-- A given value, or the setting of a key when none is given or it counts as false. -/
def givenOr (given : Value) (loader : Nat) (key : String) (default : Value) : Run β Value :=
  if given.truthy then return given else Settings.get loader key default

/-- Whether a sink can be installed where there are some files. -/
abbrev Admission : Type :=
  FileStore → Sink → Except Failure Unit

/-- Every sink can be installed. -/
def admitAll : Admission :=
  fun _ _ => .ok ()

/-- The sink on standard error, with the name of a level. -/
def standardSink (level format : Value) : Sink where
  target := .standardError
  options := [("level", level), ("format", format), ("colorize", .bool true),
    ("backtrace", .bool true), ("diagnose", .bool false)]

/-- The sink of a file, with the name of a level and a layout for files. -/
def fileSink (path : String) (level format rotation retention : Value) : Sink where
  target := .file path
  options := [("level", level), ("format", format), ("rotation", rotation),
    ("retention", retention), ("compression", .text "zip")]

/-- Install a sink if it can be installed. -/
def install (admits : Admission) (sink : Sink) : Run β Unit := do
  Run.note (.addSink sink)
  Run.ofExcept (admits (← get).files sink)
  modify fun world => { world with sinks := world.sinks ++ [sink] }

/-- Remove all sinks. -/
def removeAll : Run β Unit := do
  Run.note .removeSinks
  modify fun world => { world with sinks := [] }

/-- Install the sink on standard error. -/
def installStandard (admits : Admission) (level format : Value) : Run β Unit := do
  let level ← Run.ofExcept (levelName level)
  install admits (standardSink level format)

/-- Make the directories above a path. -/
def makeParent (path : String) : Run β Unit :=
  Run.changeFiles (.ensureDirectory (FilePath.parse path).parent)

/-- Install the sink of a file, whose directory is made first. -/
def installFile (admits : Admission) (loader : Nat) (file level format : Value) : Run β Unit := do
  let path ← Run.ofExcept (filePath file)
  makeParent path
  let level ← Run.ofExcept (levelName level)
  let format ← Run.ofExcept (fileFormat format)
  let rotation ← Settings.get loader "logging.rotation" (.text "10 MB")
  let retention ← Settings.get loader "logging.retention" (.text "7 days")
  install admits (fileSink path level format rotation retention)

/-- Install the sinks that the settings ask for. -/
def installAll (admits : Admission) (loader : Nat) (level format : Value) : Run β Unit := do
  installStandard admits level format
  let file ← Settings.get loader "logging.file" .none
  if file.truthy then installFile admits loader file level format

/-- Remember that the logger is set up, and tell its level. -/
def conclude (level : Value) : Run β Unit := do
  modify fun world => { world with loggerReady := true }
  Run.log .debug ("Logger initialized at level " ++ (← Run.ofExcept level.spoken))

/-- Set the logger up from the settings, also if that has been done; a level and a layout given here
come first. -/
def setUpAfresh (admits : Admission) (level format : Value) : Run β Unit := do
  let loader ← Settings.load none
  let level ← givenOr level loader "logging.level" (.text "INFO")
  let format ← givenOr format loader "logging.format" (.text standardFormat)
  Run.note (.markRecords "-")
  removeAll
  installAll admits loader level format
  conclude level

/-- Set the logger up unless that has been done, with the sinks that can be installed. -/
def setUpAdmitting (admits : Admission) (level format : Value) : Run β Unit := do
  if !(← get).loggerReady then setUpAfresh admits level format

/-- Set the logger up where every sink can be installed. -/
def setUp (level format : Value) : Run β Unit :=
  setUpAdmitting admitAll level format

/-- Allow the set-up to be done again. -/
def allowAgain : Run β Unit :=
  modify fun world => { world with loggerReady := false }

end PageContracts.LoggerSetup
