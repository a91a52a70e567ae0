import PageContracts.Proofs.Leaving
import PageContracts.Proofs.Stamps

/-! # Where pictures go

A picture is saved under its name behind the directory of pictures. The name is taken for a path, and so
it is one entry of that directory only where neither the base nor the name of the test has a slash: the
name of a test that is tried with several values may have one, and the picture is then sought in another
directory, which nobody has made. -/
namespace PageContracts

open Runs

namespace PageDriver

variable {β : Type} {driver : PageDriver} {base : String} {number : Nat} {world : World β}

/-- How taking a picture goes: the directory is made, and the browser of the tab is told once to save a
picture, under the path that is the result. -/
inductive Takes (driver : PageDriver) (base : String) (before : World β) :
    EStateM.Result Failure (World β) FilePath → Prop
  | noDirectory {failure : Failure} {files : FileStore}
      (fails : FileChange.ensureDirectory driver.screenshotDir before.files = .error failure files) :
      Takes driver base before (.error failure { before with files })
  | untabbed {files : FileStore}
      (made : FileChange.ensureDirectory driver.screenshotDir before.files = .ok () files)
      (closed : driver.session = none) :
      Takes driver base before (.error (.outOfTurn "no session outside of a test")
        { before with files })
  | refused {session : Session} {files : FileStore} {browser : β} {message : String}
      (made : FileChange.ensureDirectory driver.screenshotDir before.files = .ok () files)
      (tab : driver.session = some session) :
      Takes driver base before (.error (.own .browser message) { before with
        files, browser
        events := before.events ++ [.command (.screenshot session.page
          (driver.picturePath base before.clock).display (.bool true)) .refused] })
  | saved {session : Session} {files : FileStore} {browser : β} {picture : String}
      (made : FileChange.ensureDirectory driver.screenshotDir before.files = .ok () files)
      (tab : driver.session = some session) :
      Takes driver base before (.ok (driver.picturePath base before.clock)
        (logged .info ("saved " ++ (driver.picturePath base before.clock).display) { before with
          files, browser
          events := before.events ++ [.command (.screenshot session.page
            (driver.picturePath base before.clock).display (.bool true)) (.done none)] ++
            [.attach base picture "PNG"] }))

theorem takes_of_run [Remote β] (found : world.drivers[number]? = some driver) (base : String) :
    Takes driver base world (takeScreenshot number base world) := by
  have taking := takeScreenshot_eq found base
  cases making : FileChange.ensureDirectory driver.screenshotDir world.files with
  | error failure files =>
    rw [making] at taking
    rw [taking]
    exact .noDirectory making
  | ok u files =>
    rw [making] at taking
    have there : ({ world with files } : World β).drivers[number]? = some driver := found
    have session := sessionOf_apply there
    cases tab : driver.session with
    | none =>
      rw [tab] at session
      rw [taking.trans (bind_of_error session _)]
      exact .untabbed making tab
    | some opened =>
      rw [tab] at session
      have asking := taking.trans (bind_of_ok session _)
      rcases Run.ask_cases (.screenshot opened.page (driver.picturePath base world.clock).display
        (.bool true)) { world with files } with ⟨picture, browser, asked⟩ | ⟨message, browser, asked⟩
      · rw [asking.trans (bind_of_ok asked _)]
        exact .saved making tab
      · rw [asking.trans (bind_of_error asked _)]
        exact .refused making tab

/-- Where the path leads that a picture is saved under. -/
structure Placed (driver : PageDriver) (base : String) (clock : Clock) : Prop where
  /-- What the browser is told is just this path. -/
  read : FilePath.parse (driver.picturePath base clock).display = driver.picturePath base clock
  entry_iff : driver.picturePath base clock =
      driver.screenshotDir.entry (screenshotName base driver.testName clock) ↔
    '/' ∉ base.toList ∧ '/' ∉ driver.testName.toList
  /-- An entry is found in the place of the directory of pictures. -/
  located : '/' ∉ base.toList → '/' ∉ driver.testName.toList → ∀ (files : FileStore) place,
    files.locate (driver.picturePath base clock) = .ok place →
      ∃ directory, files.locate driver.screenshotDir = .ok directory ∧
        files.entryAt? directory = some .directory ∧
        place = directory ++ [screenshotName base driver.testName clock]

theorem entryName_screenshotName (base testName : String) (clock : Clock) :
    FilePath.EntryName (screenshotName base testName clock) := by
  rw [screenshotName_eq]
  exact entryName_append_nameEnd _ _

theorem placed_of_normal (normal : driver.screenshotDir.Normal) (base : String) (clock : Clock) :
    Placed driver base clock := by
  have named := entryName_screenshotName base driver.testName clock
  have entry_iff := (FilePath.append_parse_eq_entry_iff driver.screenshotDir named).trans
    (unslashed_screenshotName_iff clock)
  refine ⟨(normal.append (FilePath.normal_parse _)).parse_display, entry_iff, ?_⟩
  intro unbroken plain files place leads
  have entry : driver.picturePath base clock = _ := entry_iff.mpr ⟨unbroken, plain⟩
  rw [entry] at leads
  exact FileStore.locate_entry named.up leads

/-- A picture is saved under its path only, and that is an entry of the directory of pictures, by the
name of the picture, just where no slash is in the base or in the name of the test. -/
theorem takes_placed [Remote β] {dir : String} (found : world.drivers[number]? = some driver)
    (named : driver.screenshotDir = .parse dir) (base : String) :
    Takes driver base world (takeScreenshot number base world) ∧ Placed driver base world.clock := by
  have normal : driver.screenshotDir.Normal := named ▸ FilePath.normal_parse dir
  exact ⟨takes_of_run found base, placed_of_normal normal base world.clock⟩

end PageDriver

namespace Trial

/-- A driver for a test of payments that is tried with several values, and has a tab. -/
def payer (testName : String) : PageDriver :=
  { driver with
    testName
    screenshotDir := .parse "build"
    session := some { page := 0, context := some ⟨0, 0⟩ } }

def paying (testName : String) : World ScriptedBrowser where
  browser := { pages := [{}] }
  clock := ⟨2024, 1, 2, 3, 4, 5, 6789⟩
  drivers := [payer testName]

theorem picture_within :
    PageDriver.Takes (payer "test_pay[a-b]") "shot" (paying "test_pay[a-b]")
        (PageDriver.takeScreenshot 0 "shot" (paying "test_pay[a-b]")) ∧
      (payer "test_pay[a-b]").picturePath "shot" (paying "test_pay[a-b]").clock =
        FilePath.entry (.parse "build") "shot-test_pay[a-b][2024.1.2.3.4.5.6].png" ∧
      ((payer "test_pay[a-b]").picturePath "shot" (paying "test_pay[a-b]").clock).parent =
        .parse "build" := by
  have found : (paying "test_pay[a-b]").drivers[0]? = some (payer "test_pay[a-b]") := rfl
  have named : (payer "test_pay[a-b]").screenshotDir = .parse "build" := rfl
  obtain ⟨takes, placed⟩ := PageDriver.takes_placed found named "shot"
  have entry := placed.entry_iff.mpr ⟨by decide, by decide⟩
  exact ⟨takes, entry, by rw [entry, FilePath.parent_entry, named]⟩

/-- The picture of a test with a slash in its name is saved in a directory below the one for
pictures. -/
theorem picture_astray :
    (∃ later, PageDriver.takeScreenshot 0 "shot" (paying "test_pay[a/b]") =
        .ok { parts := ["build", "shot-test_pay[a", "b][2024.1.2.3.4.5.6].png"] } later) ∧
      FilePath.parent { parts := ["build", "shot-test_pay[a", "b][2024.1.2.3.4.5.6].png"] } ≠
        .parse "build" := by
  exact ⟨⟨_, rfl⟩, by decide⟩

end Trial
end PageContracts
