import PageContracts.Browser.Management
import PageContracts.Driver.Setup

/-! # Screenshots

Screenshots are named for the test and the time they are taken at, to the millisecond, and are
attached to the report.
-/
namespace PageContracts

namespace Clock

/-- The whole milliseconds of a reading. -/
def millisecond (clock : Clock) : Nat :=
  clock.microsecond / 1000

/-- The fields of a reading, from the year down to the millisecond. -/
def fields (clock : Clock) : List Nat :=
  [clock.year, clock.month, clock.day, clock.hour, clock.minute, clock.second,
    clock.millisecond]

/-- A reading as names show it: its fields in decimal, without padding, joined by dots. -/
def stamp (clock : Clock) : String :=
  String.intercalate "." (clock.fields.map toString)

end Clock

namespace PageDriver

/-- The name of a screenshot. -/
def screenshotName (base testName : String) (clock : Clock) : String :=
  base ++ "-" ++ testName ++ "[" ++ clock.stamp ++ "].png"

variable {β : Type}

/-- The tab of a driver, which it has only while it is started. -/
def sessionOf (number : Nat) : Run β Session := do
  match (← find number).session with
  | some session => return session
  | none => throw (.outOfTurn "no session outside of a test")

/-- The factory of a driver, which it has only while it is started. -/
def factoryOf (number : Nat) : Run β Factory := do
  match (← find number).factory with
  | some factory => return factory
  | none => throw (.outOfTurn "no factory outside of a test")

/-- Make the directory of screenshots if it is not there. -/
def ensureScreenshotDir (number : Nat) : Run β Unit := do
  Run.changeFiles (.ensureDirectory (← find number).screenshotDir)

variable [Remote β]

/-- Save a screenshot and attach it to the report; the result is its path. -/
def takeScreenshot (number : Nat) (base : String) : Run β FilePath := do
  ensureScreenshotDir number
  let driver ← find number
  let name := screenshotName base driver.testName (← get).clock
  let path := driver.screenshotDir.append (.parse name)
  let session ← sessionOf number
  let picture ← session.screenshot path.display (.bool true)
  Run.note (.attach base picture "PNG")
  Run.log .info ("saved " ++ path.display)
  return path

/-- The base of the names of screenshots taken because of an error. -/
def errorBase : String := "error-screenshot"

end PageDriver
end PageContracts
