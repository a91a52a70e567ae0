import PageContracts.World

/-! # Browser management

A manager owns one automation driver, one browser and the contexts opened on it. Closing it
closes the contexts, newest first, then the browser, then the driver.
-/
namespace PageContracts

namespace Session

variable {β : Type} [Remote β]

/-- Go to an address. -/
def goTo (session : Session) (url waitUntil : Value) : Run β Unit := do
  Run.log .debug ("Navigating to " ++ (← Run.ofExcept url.spoken))
  Run.ask (.goTo session.page url waitUntil)

/-- Save a picture of the tab; the result is the picture itself. -/
def screenshot (session : Session) (path : String) (fullPage : Value) : Run β String :=
  Run.ask (.screenshot session.page path fullPage)

/-- Close the tab, with its context when it has one. -/
def close (session : Session) : Run β Unit :=
  match session.context with
  | some context => Run.ask (.closeContext context)
  | none => Run.ask (.closePage session.page)

end Session

namespace BrowserManager

/-- The browsers that can be launched. -/
def browserTypes : List String := ["chromium", "firefox", "webkit"]

/-- The browser that is launched when the one asked for is unknown. -/
def standardType : String := "chromium"

/-- The options of every launch beside the choice of a window. -/
def launchOptions : List (String × Value) :=
  [("args", .list [.text "--ignore-certificate-errors"])]

/-- The options of every new context, unless they are overridden. -/
def contextOptions : List (String × Value) :=
  [("viewport", .map [(.text "width", .int 1920), (.text "height", .int 1080)]),
    ("ignore_https_errors", .bool true)]

/-- Whether a value is equal to a text. A function of its author that compares it gives nothing, which
does not count as equal. -/
def isCalled (table : ClassTable) (asked : Value) (name : String) : Except Failure Bool :=
  match asked with
  | .record ofClass _ _ _ =>
    match table.callSpecial? (.defined ofClass) "__eq__" [.text name] [] with
    | some compared => compared.map fun _ => false
    | none => .ok (asked.core.isText name)
  | asked => .ok (asked.isText name)

/-- The browser type a value asks for. -/
def typeOf? (table : ClassTable) (asked : Value) : Except Failure (Option String) :=
  browserTypes.findM? (isCalled table asked)

variable {β : Type}

/-- Add a manager; the result is its number. A known browser type is named as it was asked for. -/
def create (headless asked : Value) : Run β Nat := do
  let manager : BrowserManager ←
    match ← Run.ofExcept (typeOf? (← get).classes asked) with
    | some browserType => pure { headless, browserType, shownType := asked }
    | none => do
      Run.log .warning ("Unknown browser type '" ++ (← Run.ofExcept asked.spoken) ++
        "', using " ++ standardType)
      pure { headless, browserType := standardType }
  let number := (← get).managers.length
  modify fun world => { world with managers := world.managers ++ [manager] }
  return number

/-- The manager of a number. -/
def find (number : Nat) : Run β BrowserManager := do
  match (← get).managers[number]? with
  | some manager => return manager
  | none => throw (.missing "manager")

/-- Change the manager of a number. -/
def change (number : Nat) (update : BrowserManager → BrowserManager) : Run β Unit :=
  modify fun world => { world with managers := world.managers.modify number update }

variable [Remote β]

/-- Start the automation driver and launch the browser. -/
def start (number : Nat) : Run β Unit := do
  let driver ← Run.ask .startDriver
  change number fun manager => { manager with driver := some driver }
  let manager ← find number
  Run.ask (.launch driver manager.browserType (("headless", manager.headless) :: launchOptions))
  change number fun manager => { manager with browser := some driver }
  Run.log .debug ("Launched " ++ (← Run.ofExcept manager.shownType.spoken) ++ " (headless=" ++
    (← Run.ofExcept manager.headless.spoken) ++ ")")

/-- Close contexts, given newest first. That the browser refuses to close one, because it is
closed already, is no failure. -/
def closeContexts (number : Nat) : List ContextRef → Run β Unit
  | [] => return ()
  | context :: rest => do
    change number fun manager => { manager with contexts := manager.contexts.dropLast }
    try Run.ask (.closeContext context)
    catch failure =>
      if failure.kind = .browser then
        Run.log .debug ("Context already closed: " ++ failure.message)
      else throw failure
    closeContexts number rest

/-- Close the browser, if it is running. -/
def closeBrowser (number : Nat) : Option Nat → Run β Unit
  | none => return ()
  | some browser => do
    Run.ask (.closeBrowser browser)
    change number fun manager => { manager with browser := none }

/-- Stop the automation driver, if it was started. -/
def stopDriver (number : Nat) : Option Nat → Run β Unit
  | none => return ()
  | some driver => do
    Run.ask (.stopDriver driver)
    change number fun manager => { manager with driver := none }

/-- Close everything a manager has open. -/
def close (number : Nat) : Run β Unit := do
  let manager ← find number
  closeContexts number manager.contexts.reverse
  closeBrowser number manager.browser
  stopDriver number manager.driver
  Run.log .debug ("Closed " ++ (← Run.ofExcept manager.shownType.spoken))

/-- Open a context; the given options override the standard ones. -/
def newContext (number : Nat) (options : List (String × Value)) : Run β ContextRef := do
  match (← find number).browser with
  | none => throw (.outOfTurn "Browser not started. Call start() first.")
  | some driver =>
    let merged := options.foldl (fun all option => assign option.1 option.2 all) contextOptions
    let opened ← Run.ask (.openContext driver merged)
    let context : ContextRef := { driver, number := opened }
    change number fun manager => { manager with contexts := manager.contexts ++ [context] }
    return context

/-- Open a tab in a context of its own. -/
def newSession (number : Nat) (options : List (String × Value)) : Run β Session := do
  let context ← newContext number options
  let page ← Run.ask (.openPage context)
  return { page, context := some context }

end BrowserManager
end PageContracts
