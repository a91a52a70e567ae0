import PageContracts.Driver.Screenshots

/-! # Starting and stopping a page driver

A driver owns a browser for the time of one test. Leaving the test always stops it, and a failed
test is documented with a screenshot first.
-/
namespace PageContracts.PageDriver

variable {β : Type}

/-- The line that sets tests apart in the log. -/
def separator : String :=
  String.ofList (List.replicate 85 '*')

variable [Remote β]

/-- Start the browser and open a tab. -/
def start (number : Nat) : Run β Unit := do
  let driver ← find number
  let manager ← BrowserManager.create driver.headless driver.browserType
  change number fun driver => { driver with manager := some manager }
  BrowserManager.start manager
  let session ← BrowserManager.newSession manager []
  let factory : Factory :=
    { session, actions := .live session driver.finder, base := driver.base }
  change number fun driver => { driver with session := some session, factory := some factory }
  Run.log .info separator
  Run.log .info ("beginning " ++ driver.testName)
  Run.log .info ("using " ++ (← Run.ofExcept driver.browserType.spoken) ++ " (headless=" ++
    (← Run.ofExcept driver.headless.spoken) ++ ")")

/-- Close the browser, if one was started. -/
def stop (number : Nat) : Run β Unit := do
  Run.log .info (separator ++ "\n")
  match (← find number).manager with
  | none => pure ()
  | some manager => BrowserManager.close manager
  change number fun driver => { driver with manager := none, session := none, factory := none }

/-- Document a failed test. A screenshot that cannot be taken is only logged. -/
def documentFailure (number : Nat) : Run β Unit := do
  Run.log .error "TEST ENDED IN ERROR"
  let driver ← find number
  if driver.screenshotOnError.truthy && driver.session.isSome then
    try
      let _ ← takeScreenshot number errorBase
    catch failure =>
      Run.log .error ("couldn't save the error screenshot: " ++ failure.message)

/-- Leave a test, which may have failed: document the failure, and stop in any case. -/
def leave (number : Nat) (failed : Bool) : Run β Unit := do
  try
    if failed then documentFailure number
  catch failure =>
    stop number
    throw failure
  stop number

end PageContracts.PageDriver
