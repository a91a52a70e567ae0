import PageContracts.Browser.Command
import PageContracts.Locator

/-! # The journal

A record of everything the library did to the outside world, in order, and of what it logged.
-/
namespace PageContracts

/-- How much a log record matters. -/
inductive LogLevel where
  | debug
  | info
  | warning
  | error
  deriving DecidableEq, Repr, Inhabited

namespace LogLevel

/-- The name of a level. -/
def label : LogLevel → String
  | .debug => "DEBUG"
  | .info => "INFO"
  | .warning => "WARNING"
  | .error => "ERROR"

end LogLevel

/-- A log record: its level, the name of the object it is about, if it is about one, and its
message. -/
structure LogRecord where
  level : LogLevel
  panel : Option Value := none
  message : String
  deriving Repr, Inhabited

/-- Where log records go. -/
inductive SinkTarget where
  | standardError
  | file (path : String)
  deriving DecidableEq, Repr, Inhabited

/-- A destination of log records with its settings. -/
structure Sink where
  target : SinkTarget
  options : List (String × Value) := []
  deriving Repr, Inhabited

/-- Something done to the outside world. -/
inductive Event where
  /-- A command to the browser, and how it ended. -/
  | command (command : Command) (outcome : CommandOutcome)
  /-- The first element of a selector was named. -/
  | locate (page : Nat) (selector : String)
  | click (locator : ResolvedLocator)
  | setText (locator : ResolvedLocator) (text : Value)
  | readText (locator : ResolvedLocator)
  | readAttribute (locator : ResolvedLocator) (name : Value)
  /-- A step of the report begins. -/
  | step (title : String)
  /-- A step of the report ends, with the kind of failure that ended it. -/
  | endStep (failure : Option FailureKind)
  /-- Something is attached to the report. -/
  | attach (name body kind : String)
  | sleep (pause : Value)
  /-- Records that are about no object get this mark. -/
  | markRecords (panel : String)
  | removeSinks
  | addSink (sink : Sink)
  deriving Repr, Inhabited

end PageContracts
