import PageContracts.Value

/-! # Browser commands

Everything this library ever asks of a browser. What a browser answers, and when it refuses, is
left open: a remote end is any state with an answer to every command.
-/
namespace PageContracts

/-- A browser context: the automation driver it was opened through and its number there. -/
structure ContextRef where
  driver : Nat
  number : Nat
  deriving DecidableEq, Repr, Inhabited

/-- A request to the browser. Automation drivers and pages go by the numbers they were given when
they were opened. -/
inductive Command where
  | startDriver
  | launch (driver : Nat) (browserType : String) (options : List (String × Value))
  | openContext (driver : Nat) (options : List (String × Value))
  | openPage (context : ContextRef)
  | closeContext (context : ContextRef)
  | closeBrowser (driver : Nat)
  | stopDriver (driver : Nat)
  | closePage (page : Nat)
  | goTo (page : Nat) (url : Value) (waitUntil : Value)
  | url (page : Nat)
  | content (page : Nat)
  | screenshot (page : Nat) (path : String) (fullPage : Value)
  | waitVisible (page : Nat) (selector : String) (timeout : Value)
  | click (page : Nat) (selector : String)
  | fill (page : Nat) (selector : String) (text : Value)
  | tagName (page : Nat) (selector : String)
  | inputValue (page : Nat) (selector : String)
  | innerText (page : Nat) (selector : String)
  | readAttribute (page : Nat) (selector : String) (name : Value)
  deriving Repr, Inhabited

namespace Command

/-- What a command is answered with. Openings give the number of what was opened. What is read is
mostly a text; an attribute that is absent is nothing. -/
abbrev Answer : Command → Type
  | .startDriver | .openContext .. | .openPage _ => Nat
  | .screenshot .. => String
  | .url _ | .content _ | .tagName .. | .inputValue .. | .innerText .. | .readAttribute .. => Value
  | _ => Unit

/-- The number of what a command opened, if it opened anything. -/
def opened? : (command : Command) → command.Answer → Option Nat
  | .startDriver, number => some number
  | .openContext .., number => some number
  | .openPage _, number => some number
  | _, _ => none

end Command

/-- How a command ended: refused, or carried out, with the number of what it opened. -/
inductive CommandOutcome where
  | refused
  | done (opened : Option Nat)
  deriving DecidableEq, Repr, Inhabited

/-- A remote end: a state that answers every command, or refuses it with a message. -/
class Remote (β : Type) where
  answer : β → (command : Command) → Except String command.Answer × β

end PageContracts
