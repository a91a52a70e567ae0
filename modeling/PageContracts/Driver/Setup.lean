import PageContracts.Settings.Loader

/-! # Setting up a page driver

A driver takes its settings from the settings loader. They can be changed, one at a time, as long
as it is not started.
-/
namespace PageContracts.PageDriver

variable {β : Type}

/-- The path a setting names. -/
def pathOf (value : Value) : Except Failure FilePath :=
  match value with
  | .text path => .ok (.parse path)
  | _ => .error (.typeBreach ("not a path: " ++ value.typeName))

/-- Add a driver with its settings as a loader gives them; the result is its number. -/
def create (testName : String) (loader : Nat) : Run β Nat := do
  let baseUrl ← Settings.get loader "browser.base_url" .none
  let browserType ← Settings.get loader "browser.type" .none
  let headless ← Settings.get loader "browser.headless" .none
  let finder ← Settings.finder loader
  let screenshotDir ← Run.ofExcept (pathOf (← Settings.get loader "screenshots.dir" .none))
  let screenshotOnError ← Settings.get loader "screenshots.on_error" .none
  let driver : PageDriver :=
    { testName, baseUrl, browserType, headless, finder, screenshotDir, screenshotOnError }
  let number := (← get).drivers.length
  modify fun world => { world with drivers := world.drivers ++ [driver] }
  return number

/-- Add a driver with the settings of the shared loader. -/
def createShared (testName : String) : Run β Nat := do
  create testName (← Settings.load none)

/-- The driver of a number. -/
def find (number : Nat) : Run β PageDriver := do
  match (← get).drivers[number]? with
  | some driver => return driver
  | none => throw (.missing "driver")

/-- Change the driver of a number. -/
def change (number : Nat) (update : PageDriver → PageDriver) : Run β Unit :=
  modify fun world => { world with drivers := world.drivers.modify number update }

/-- Require that a driver is not started. -/
def requireUnstarted (number : Nat) : Run β Unit := do
  if (← find number).manager.isSome then
    throw (.outOfTurn "driver configuration must happen before the test starts")

/-- Set the base of all addresses. -/
def setBaseUrl (number : Nat) (value : Value) : Run β Unit := do
  requireUnstarted number
  change number fun driver => { driver with baseUrl := value }

/-- Set the browser to launch. -/
def setBrowserType (number : Nat) (value : Value) : Run β Unit := do
  requireUnstarted number
  change number fun driver => { driver with browserType := value }

/-- Set whether the browser is launched without a window. -/
def setHeadless (number : Nat) (value : Value) : Run β Unit := do
  requireUnstarted number
  change number fun driver => { driver with headless := value }

/-- Set the finder, which must be one. -/
def setFinder (number : Nat) (finder : Option Finder) : Run β Unit := do
  requireUnstarted number
  match finder with
  | none => throw (.valueStated "finder must not be None")
  | some finder => change number fun driver => { driver with finder }

/-- Set the base of implementations, which must be one. -/
def setBase (number : Nat) (offered : BaseClass ⊕ Value) : Run β Unit := do
  requireUnstarted number
  let base ← Run.ofExcept (BaseClass.require offered)
  change number fun driver => { driver with base }

/-- Set the directory of screenshots, which must be there. -/
def setScreenshotDir (number : Nat) (value : Value) : Run β Unit := do
  requireUnstarted number
  let path ← Run.ofExcept (pathOf value)
  if !(← Run.ofExcept ((← get).files.isDirectory path)) then
    throw (.valueStated ("screenshot dir must be an existing directory: " ++ path.display))
  change number fun driver => { driver with screenshotDir := path }

/-- Set whether a screenshot is taken when a test ends in error. This can be set at any time. -/
def setScreenshotOnError (number : Nat) (value : Value) : Run β Unit :=
  change number fun driver => { driver with screenshotOnError := value }

end PageContracts.PageDriver
