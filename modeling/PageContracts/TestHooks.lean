import PageContracts.Driver.Lifecycle
import PageContracts.Settings.LoggerSetup

/-! # Test hooks

What a test runner calls: once before all tests, around every test that wants a driver, and when
the report of a test is made.
-/
namespace PageContracts.TestHooks

variable {β : Type}

/-- The lines to add to the settings of the test runner. -/
def settingLines : List (String × String) :=
  [("markers", "ui: test drives a real browser")]

/-- Prepare for a run of tests. -/
def configure : Run β (List (String × String)) := do
  LoggerSetup.setUp .none .none
  return settingLines

variable [Remote β]

/-- A started driver for a test; the result is its number. -/
def provide (testName : String) : Run β Nat := do
  let driver ← PageDriver.createShared testName
  PageDriver.start driver
  return driver

/-- Document a test that failed in its own phase, when it uses a driver that takes screenshots.
A screenshot that cannot be taken is only logged. -/
def report (phase : String) (failed : Bool) (driver : Option Nat) : Run β Unit := do
  if phase = "call" && failed then
    match driver with
    | none => return ()
    | some number =>
      if (← PageDriver.find number).screenshotOnError.truthy then
        try
          let _ ← PageDriver.takeScreenshot number PageDriver.errorBase
        catch failure =>
          Run.log .warning ("Failed to capture screenshot on failure: " ++ failure.message)

end PageContracts.TestHooks
