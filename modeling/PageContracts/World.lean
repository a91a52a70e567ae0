import PageContracts.Files
import PageContracts.Journal
import PageContracts.Language.Memory
import PageContracts.Objects.Factory
import PageContracts.Settings.Document.Content

/-! # The world

Everything a run of the library can look at or change, and the runs themselves. A run that fails
keeps what it did before it failed.
-/
namespace PageContracts

/-- A reading of the clock. -/
structure Clock where
  year : Nat
  month : Nat
  day : Nat
  hour : Nat
  minute : Nat
  second : Nat
  microsecond : Nat
  deriving DecidableEq, Repr, Inhabited

/-- A settings loader: the file it reads and what it read there last. A loader whose file could
not be read is not ready, and tries again when it is next asked for. -/
structure SettingsLoader where
  path : FilePath := {}
  sections : Document.Content := .empty
  ready : Bool := false
  deriving Repr, Inhabited

/-- A browser manager: what it is to launch and how it names that, the automation driver it has
started, whether its browser is running, and the contexts it has open, in opening order. -/
structure BrowserManager where
  headless : Value
  browserType : String
  shownType : Value := .text browserType
  driver : Option Nat := none
  browser : Option Nat := none
  contexts : List ContextRef := []
  deriving Repr, Inhabited

/-- A page driver: its settings, and while it is started its manager, tab and factory. -/
structure PageDriver where
  testName : String
  baseUrl : Value
  browserType : Value
  headless : Value
  finder : Finder
  base : BaseClass := .plain
  screenshotDir : FilePath
  screenshotOnError : Value
  manager : Option Nat := none
  session : Option Session := none
  factory : Option Factory := none
  deriving Repr, Inhabited

/-- The state of everything: the remote end of the browser, the journal, the surroundings, the
classes with what has been compiled of them, and all that has been made, each thing at the place
of its number. -/
structure World (β : Type) where
  browser : β
  events : List Event := []
  records : List LogRecord := []
  clock : Clock
  files : FileStore := {}
  environment : List (String × String) := []
  sinks : List Sink := []
  loggerReady : Bool := false
  loaders : List SettingsLoader := []
  /-- The loader everyone gets who asks for the settings. -/
  sharedLoader : Option Nat := none
  classes : ClassTable := {}
  /-- What the evaluation of annotations has left behind. -/
  language : Language.Memory := {}
  compiled : List CompiledContract := []
  implementations : List Implementation := []
  /-- The number of compilations and implementations made so far. -/
  made : Nat := 0
  objects : List LiveObject := []
  managers : List BrowserManager := []
  drivers : List PageDriver := []

/-- A run: it changes the world and gives a result or a failure. -/
abbrev Run (β α : Type) : Type :=
  EStateM Failure (World β) α

namespace Run

variable {β α : Type}

/-- The result of a pure computation that may fail. -/
def ofExcept (result : Except Failure α) : Run β α :=
  match result with
  | .ok value => pure value
  | .error failure => throw failure

/-- Change files. -/
def changeFiles (change : FileChange) : Run β Unit := fun world =>
  match change world.files with
  | .ok _ files => .ok () { world with files }
  | .error failure files => .error failure { world with files }

/-- Note an event. -/
def note (event : Event) : Run β Unit :=
  modify fun world => { world with events := world.events ++ [event] }

/-- Log a message. -/
def log (level : LogLevel) (message : String) : Run β Unit :=
  modify fun world => { world with records := world.records ++ [{ level, message }] }

/-- Log a message about an object. -/
def logAbout (panel : Value) (message : String) : Run β Unit :=
  modify fun world =>
    { world with records := world.records ++ [{ level := .info, panel := some panel, message }] }

/-- Give a command to the browser. -/
def ask [Remote β] (command : Command) : Run β command.Answer := fun world =>
  match Remote.answer world.browser command with
  | (.ok answer, browser) =>
    let event : Event := .command command (.done (command.opened? answer))
    .ok answer { world with browser, events := world.events ++ [event] }
  | (.error message, browser) =>
    .error (.own .browser message)
      { world with browser, events := world.events ++ [.command command .refused] }

/-- Run as a step of the report. -/
def inStep (title : String) (run : Run β α) : Run β α := do
  note (.step title)
  try
    let result ← run
    note (.endStep none)
    return result
  catch failure =>
    note (.endStep (some failure.kind))
    throw failure

end Run
end PageContracts
