import PageContracts.Proofs.Closings

/-! # Leaving a test

A test is a block that starts a driver, does something, and leaves the driver however it ended. What is
done at the end never hides how the test ended: the picture of a failure that cannot be taken is only
told in the log, and the manager is closed in any case. -/
namespace PageContracts

open Runs
open Event (AllEnd Closings)

variable {β α : Type}

namespace BrowserManager

variable {number : Nat} {manager left : BrowserManager} {events : List Event} {world later : World β}

theorem Shuts.eq_all (h : Shuts manager events left) (ends : AllEnd events) :
    events = manager.browserClosed ++ manager.driverStopped ∧
      left = { manager with contexts := [], browser := none, driver := none } := by
  cases h with
  | browserStays => cases ends _ List.mem_cons_self
  | driverStays => cases ends.right _ List.mem_cons_self
  | all => exact ⟨rfl, rfl⟩

/-- A manager whose closing does not fail has closed everything. -/
theorem closed_of_eq_ok [Remote β] (found : world.managers[number]? = some manager)
    (closes : close number world = .ok () later) :
    ∃ closings, Closings manager.contexts.reverse closings ∧
      later.events = world.events ++ (closings ++ (manager.browserClosed ++ manager.driverStopped)) ∧
      later.managers[number]? =
        some { manager with contexts := [], browser := none, driver := none } := by
  obtain ⟨closings, ended, left, closed, events, there, shuts, fails⟩ := close_shuts found
  rw [after_of_ok closes] at events there fails
  have ends : AllEnd ended := by
    by_contra stays
    obtain ⟨failure, failed, -⟩ := fails stays
    cases closes.symm.trans failed
  obtain ⟨rfl, rfl⟩ := shuts.eq_all ends
  exact ⟨closings, closed, events, there⟩

end BrowserManager

namespace PageDriver

def logged (level : LogLevel) (message : String) (world : World β) : World β :=
  { world with records := world.records ++ [{ level, message }] }

def unsaved (failure : Failure) : String :=
  "couldn't save the error screenshot: " ++ failure.message

/-- The path of the picture of a failure. -/
def errorPath (driver : PageDriver) (clock : Clock) : FilePath :=
  driver.screenshotDir.append (.parse (screenshotName errorBase driver.testName clock))

/-- How an attempt goes to document a failure with a picture of a tab. -/
inductive Attempt (driver : PageDriver) (session : Session) (before : World β) : World β → Prop
  | noDirectory {failure : Failure} {files : FileStore}
      (fails : FileChange.ensureDirectory driver.screenshotDir before.files = .error failure files) :
      Attempt driver session before (logged .error (unsaved failure) { before with files })
  | refused {files : FileStore} {browser : β} {message : String}
      (made : FileChange.ensureDirectory driver.screenshotDir before.files = .ok () files) :
      Attempt driver session before (logged .error (unsaved (.own .browser message)) { before with
        files, browser
        events := before.events ++ [.command (.screenshot session.page
          (errorPath driver before.clock).display (.bool true)) .refused] })
  | saved {files : FileStore} {browser : β} {picture : String}
      (made : FileChange.ensureDirectory driver.screenshotDir before.files = .ok () files) :
      Attempt driver session before
        (logged .info ("saved " ++ (errorPath driver before.clock).display) { before with
          files, browser
          events := before.events ++ [.command (.screenshot session.page
            (errorPath driver before.clock).display (.bool true)) (.done none)] ++
            [.attach errorBase picture "PNG"] })

/-- What documents the end of a test: nothing where it has not failed, otherwise a line of the log, and
just when there is a tab and pictures of failures are wanted, an attempt at a picture. -/
inductive Documents (driver : PageDriver) (ended : World β) : Bool → World β → Prop
  | passed : Documents driver ended false ended
  | unpictured (quiet : driver.screenshotOnError.truthy = false ∨ driver.session = none) :
      Documents driver ended true (logged .error "TEST ENDED IN ERROR" ended)
  | pictured {session : Session} {documented : World β}
      (wanted : driver.screenshotOnError.truthy = true) (tab : driver.session = some session)
      (attempt : Attempt driver session (logged .error "TEST ENDED IN ERROR" ended) documented) :
      Documents driver ended true documented

/-- How a driver is left that has a manager perhaps: the manager closes everything, newest first. -/
inductive Releases (driver : PageDriver) (before last : World β) : Prop
  | unmanaged (none : driver.manager = none) (events : last.events = before.events)
  | closed {manager : Nat} {managing : BrowserManager} {closings : List Event}
      (owned : driver.manager = some manager) (found : before.managers[manager]? = some managing)
      (contexts : Closings managing.contexts.reverse closings)
      (events : last.events =
        before.events ++ (closings ++ (managing.browserClosed ++ managing.driverStopped)))
      (idle : last.managers[manager]? =
        some { managing with contexts := [], browser := none, driver := none })

variable {number : Nat} {driver : PageDriver} {session : Session} {failed : Bool}
  {world entered ended documented last : World β}

theorem Attempt.drivers_eq (h : Attempt driver session world documented) :
    documented.drivers = world.drivers := by
  cases h <;> rfl

theorem Documents.drivers_eq (h : Documents driver ended failed documented) :
    documented.drivers = ended.drivers := by
  cases h with
  | passed => rfl
  | unpictured => rfl
  | pictured _ _ attempt => exact attempt.drivers_eq

theorem sessionOf_apply (found : world.drivers[number]? = some driver) :
    sessionOf number world =
      match driver.session with
      | some session => .ok session world
      | none => .error (.outOfTurn "no session outside of a test") world := by
  rw [sessionOf, bind_of_ok (find_of_found found)]
  cases driver.session <;> rfl

variable [Remote β]

theorem takeScreenshot_eq (found : world.drivers[number]? = some driver) (base : String) :
    takeScreenshot number base world =
      match FileChange.ensureDirectory driver.screenshotDir world.files with
      | .error failure files => .error failure { world with files }
      | .ok _ files =>
        let path := driver.screenshotDir.append
          (.parse (screenshotName base driver.testName world.clock))
        (do
          let session ← sessionOf number
          let picture ← session.screenshot path.display (.bool true)
          Run.note (.attach base picture "PNG")
          Run.log .info ("saved " ++ path.display)
          return path : Run β FilePath) { world with files } := by
  rw [takeScreenshot, ensureScreenshotDir, bind_assoc, bind_of_ok (find_of_found found)]
  cases making : FileChange.ensureDirectory driver.screenshotDir world.files with
  | error failure files =>
    have failed : (Run.changeFiles (.ensureDirectory driver.screenshotDir) : Run β Unit) world =
        .error failure { world with files } := by
      rw [Run.changeFiles, making]
    rw [bind_of_error failed]
  | ok u files =>
    have made : (Run.changeFiles (.ensureDirectory driver.screenshotDir) : Run β Unit) world =
        .ok () { world with files } := by
      rw [Run.changeFiles, making]
    have there : ({ world with files } : World β).drivers[number]? = some driver := found
    rw [bind_of_ok made, bind_of_ok (find_of_found there), bind_of_ok (get_apply _)]

theorem takeScreenshot_apply (found : world.drivers[number]? = some driver)
    (tab : driver.session = some session) (base : String) :
    takeScreenshot number base world =
      match FileChange.ensureDirectory driver.screenshotDir world.files with
      | .error failure files => .error failure { world with files }
      | .ok _ files =>
        let path := driver.screenshotDir.append
          (.parse (screenshotName base driver.testName world.clock))
        (do
          let picture ← Run.ask (.screenshot session.page path.display (.bool true))
          Run.note (.attach base picture "PNG")
          Run.log .info ("saved " ++ path.display)
          return path : Run β FilePath) { world with files } := by
  rw [takeScreenshot_eq found]
  cases FileChange.ensureDirectory driver.screenshotDir world.files with
  | error failure files => rfl
  | ok u files =>
    have there : ({ world with files } : World β).drivers[number]? = some driver := found
    have opened := sessionOf_apply there
    rw [tab] at opened
    exact bind_of_ok opened _

/-- An attempt at a picture never fails. -/
theorem tryScreenshot_eq_ok (found : world.drivers[number]? = some driver)
    (tab : driver.session = some session) :
    ∃ documented, (tryCatch (do let _ ← takeScreenshot number errorBase) fun failure =>
        Run.log .error ("couldn't save the error screenshot: " ++ failure.message) : Run β Unit) world =
          .ok () documented ∧ Attempt driver session world documented := by
  have taking := takeScreenshot_apply found tab errorBase
  rw [tryCatch_apply]
  cases making : FileChange.ensureDirectory driver.screenshotDir world.files with
  | error failure files =>
    rw [making] at taking
    rw [bind_of_error taking]
    exact ⟨_, rfl, .noDirectory making⟩
  | ok u files =>
    rw [making] at taking
    rcases Run.ask_cases (.screenshot session.page (errorPath driver world.clock).display (.bool true))
      { world with files } with ⟨picture, browser, asked⟩ | ⟨message, browser, asked⟩
    · have taken := taking.trans (bind_of_ok asked _)
      rw [bind_apply, taken]
      exact ⟨_, rfl, .saved making⟩
    · have failed := taking.trans (bind_of_error asked _)
      rw [bind_of_error failed]
      exact ⟨_, rfl, .refused making⟩

theorem documentFailure_eq_ok (found : ended.drivers[number]? = some driver) :
    ∃ documented, documentFailure number ended = .ok () documented ∧
      Documents driver ended true documented := by
  have logging : Run.log .error "TEST ENDED IN ERROR" ended =
    .ok () (logged .error "TEST ENDED IN ERROR" ended) := rfl
  have there : (logged .error "TEST ENDED IN ERROR" ended).drivers[number]? = some driver := found
  rw [documentFailure, bind_of_ok logging, bind_of_ok (find_of_found there)]
  cases wanted : driver.screenshotOnError.truthy with
  | false => exact ⟨_, rfl, .unpictured (.inl wanted)⟩
  | true =>
    cases tab : driver.session with
    | none => exact ⟨_, rfl, .unpictured (.inr tab)⟩
    | some session =>
      obtain ⟨documented, tried, attempt⟩ := tryScreenshot_eq_ok there tab
      exact ⟨documented, tried, .pictured wanted tab attempt⟩

/-- A driver whose manager does not fail to be closed lets go of it. -/
theorem release_eq_ok (found : world.drivers[number]? = some driver)
    (closes : ∀ manager, driver.manager = some manager →
      ∃ closed, BrowserManager.close manager world = .ok () closed) :
    ∃ last, release number world = .ok () last ∧ Releases driver world last ∧
      last.drivers[number]? = some driver.released := by
  rw [release, bind_of_ok (find_of_found found)]
  cases owned : driver.manager with
  | none =>
    exact ⟨_, rfl, .unmanaged owned rfl, drivers_of_withDriver found released⟩
  | some manager =>
    obtain ⟨closed, closing⟩ := closes manager owned
    have there : closed.drivers[number]? = some driver := by
      rw [((BrowserManager.close_leavesDrivers manager).of_eq_ok closing).drivers, found]
    have listed : ∃ managing, world.managers[manager]? = some managing := by
      cases listed : world.managers[manager]? with
      | some managing => exact ⟨managing, rfl⟩
      | none =>
        have missing : BrowserManager.close manager world = .error (.missing "manager") world :=
          bind_of_error (BrowserManager.find_of_missing listed) _
        cases closing.symm.trans missing
    obtain ⟨managing, listed⟩ := listed
    obtain ⟨closings, contexts, events, idle⟩ := BrowserManager.closed_of_eq_ok listed closing
    refine ⟨closed.withDriver number released, ?_, .closed owned listed contexts events idle,
      drivers_of_withDriver there released⟩
    exact bind_of_ok closing _

/-- The world in which the driver of a number is let go of when a test is left. -/
def leaving (number : Nat) (failed : Bool) (ended : World β) : World β :=
  logged .info (separator ++ "\n")
    (after (do if failed then documentFailure number : Run β Unit) ended)

/-- Leaving a test documents how it ended, and then lets go of the driver. -/
theorem leave_cases (found : ended.drivers[number]? = some driver) (failed : Bool) :
    ∃ documented, Documents driver ended failed documented ∧
      leaving number failed ended = logged .info (separator ++ "\n") documented ∧
      leave number failed ended = release number (leaving number failed ended) := by
  have documents : ∃ documented,
      (do if failed then documentFailure number : Run β Unit) ended = .ok () documented ∧
        Documents driver ended failed documented := by
    cases failed with
    | false => exact ⟨ended, rfl, .passed⟩
    | true => exact documentFailure_eq_ok found
  obtain ⟨documented, documenting, documents⟩ := documents
  have reached : leaving number failed ended = logged .info (separator ++ "\n") documented := by
    rw [leaving, after_of_ok documenting]
  refine ⟨documented, documents, reached, ?_⟩
  rw [leave, bind_apply, tryCatch_apply, documenting, reached]
  rfl

/-- A test: what is done between starting a driver and leaving it. -/
def within (number : Nat) (body : Run β α) : Run β α := do
  start number
  let result ← tryCatch (Except.ok <$> body) fun failure => pure (.error failure)
  leave number (!result.isOk)
  Run.ofExcept result

def endingIn (last : World β) : EStateM.Result Failure (World β) α → EStateM.Result Failure (World β) α
  | .ok a _ => .ok a last
  | .error failure _ => .error failure last

theorem within_of_leave {body : Run β α} (enters : start number world = .ok () entered)
    (leaves : leave number (failure? (body entered)).isSome (after body entered) = .ok () last) :
    within number body world = endingIn last (body entered) := by
  rw [within, bind_of_ok enters]
  cases ran : body entered with
  | ok a ended =>
    rw [ran, after_of_ok ran] at leaves
    have caught : (tryCatch (Except.ok <$> body) fun failure => pure (.error failure) :
        Run β (Except Failure α)) entered = .ok (.ok a) ended := by
      rw [tryCatch_apply, map_apply, ran]
    rw [bind_of_ok caught]
    exact bind_of_ok leaves _
  | error failure ended =>
    rw [ran, after_of_error ran] at leaves
    have caught : (tryCatch (Except.ok <$> body) fun failure => pure (.error failure) :
        Run β (Except Failure α)) entered = .ok (.error failure) ended := by
      rw [tryCatch_apply, map_apply, ran]
      rfl
    rw [bind_of_ok caught]
    exact bind_of_ok leaves _

/-- What leaving a test comes to. -/
structure Leaves (number : Nat) (driver : PageDriver) (failed : Bool) (ended last : World β) : Prop where
  course : ∃ documented, Documents driver ended failed documented ∧
    Releases driver (logged .info (separator ++ "\n") documented) last
  unmanaged : last.managerOf number = none
  noSession : sessionOf number last = .error (.outOfTurn "no session outside of a test") last
  noFactory : factoryOf number last = .error (.outOfTurn "no factory outside of a test") last

/-- However a test ends, it ends like that for who runs it, with the driver let go of, if only its
manager does not fail to be closed. -/
theorem leaves_of_within {body : Run β α} (enters : start number world = .ok () entered)
    (stays : (after body entered).drivers[number]? = some driver)
    (closes : ∀ manager, driver.manager = some manager → ∃ closed,
      BrowserManager.close manager
        (leaving number (failure? (body entered)).isSome (after body entered)) = .ok () closed) :
    ∃ last, within number body world = endingIn last (body entered) ∧
      Leaves number driver (failure? (body entered)).isSome (after body entered) last := by
  obtain ⟨documented, documents, reached, leaves⟩ :=
    leave_cases stays (failure? (body entered)).isSome
  have there : (leaving number (failure? (body entered)).isSome (after body entered)).drivers[number]? =
      some driver := by
    rw [reached]
    exact (congrArg (·[number]?) documents.drivers_eq).trans stays
  obtain ⟨last, releases, course, now⟩ := release_eq_ok there closes
  obtain ⟨noSession, noFactory⟩ := outside_of_test now rfl rfl
  rw [reached] at course
  refine ⟨last, within_of_leave enters (leaves.trans releases), ⟨documented, documents, course⟩, ?_,
    noSession, noFactory⟩
  rw [World.managerOf_of_found now]
  rfl

end PageDriver

namespace Trial

open PageDriver (Leaves endingIn leaving within)

/-- A world with a driver that is to document failures, whose browser takes no pictures. -/
def shy : World ScriptedBrowser where
  browser := { start := { errors := [("screenshot", "Target crashed")] } }
  clock := default
  drivers := [driver]

/-- The world when the test has been entered. -/
def shyEntered : World ScriptedBrowser :=
  after (PageDriver.start 0) shy

def wrong : Failure :=
  .valueStated "wrong title"

/-- A test that fails for a reason of its own, and whose picture is refused, ends with that reason. -/
theorem reason_not_hidden :
    PageDriver.start 0 shy = .ok () shyEntered ∧ ∃ now,
      (after (throw wrong : Run ScriptedBrowser Unit) shyEntered).drivers[0]? = some now ∧
      (∀ manager, now.manager = some manager → ∃ closed,
        BrowserManager.close manager (leaving 0 true shyEntered) = .ok () closed) ∧
      ∃ last, within 0 (throw wrong : Run ScriptedBrowser Unit) shy = .error wrong last ∧
        Leaves 0 now true shyEntered last := by
  have enters : PageDriver.start 0 shy = .ok () shyEntered := rfl
  have there : ∃ now, shyEntered.drivers[0]? = some now := ⟨_, rfl⟩
  obtain ⟨now, stays⟩ := there
  have owned : now.manager = some 0 := (World.managerOf_of_found stays).symm
  have closes : ∀ manager, now.manager = some manager → ∃ closed,
      BrowserManager.close manager (leaving 0 true shyEntered) = .ok () closed := by
    intro manager same
    cases owned.symm.trans same
    exact ⟨_, rfl⟩
  exact ⟨enters, now, stays, closes, PageDriver.leaves_of_within enters stays closes⟩

end Trial
end PageContracts
