import PageContracts.Browser.Scripted
import PageContracts.Proofs.Configuring

/-! # Using a page driver

What a driver is set to while it is not started is what it works with until it is stopped. Only
whether failures are documented with a screenshot can be set at any time. -/
namespace PageContracts

open Runs
open World (Adds)

variable {β α : Type}

/-- An event of a test that goes on: a step of the report, a visit to an address, a picture, or a
question for an address. -/
def Event.Passing : Event → Prop
  | .step _ | .endStep _ | .attach .. => True
  | .command (.goTo ..) _ | .command (.screenshot ..) _ | .command (.url _) _ => True
  | _ => False

theorem Event.passing_of_asksAddress (event : Event) (asks : event.AsksAddress) :
    event.Passing := by
  obtain ⟨page, outcome, rfl⟩ := asks
  trivial

namespace World

/-- The settings of the driver of a number, if there is one. -/
def settingsOf (world : World β) (number : Nat) : Option PageDriver :=
  (world.drivers[number]?).map PageDriver.settings

/-- The manager of the driver of a number, if it has one. -/
def managerOf (world : World β) (number : Nat) : Option Nat :=
  (world.drivers[number]?).bind PageDriver.manager

/-- Whether the driver of a number has a manager. -/
def isStarted (world : World β) (number : Nat) : Bool :=
  (world.managerOf number).isSome

/-- The driver of a number has the settings it had. -/
structure SameSettings (number : Nat) (before later : World β) : Prop where
  settings : later.settingsOf number = before.settingsOf number

/-- The driver of a number has the settings and the manager it had. -/
structure SameSetup (number : Nat) (before later : World β) : Prop
    extends SameSettings number before later where
  manager : later.managerOf number = before.managerOf number

/-- The driver of a number has the settings it had, and is started if it was. -/
structure Retains (number : Nat) (before later : World β) : Prop
    extends SameSettings number before later where
  started : before.isStarted number = true → later.isStarted number = true

/-- No driver has changed. -/
structure SameDrivers (before later : World β) : Prop where
  drivers : later.drivers = before.drivers

instance (number : Nat) : IsPreorder (World β) (SameSettings number) where
  refl _ := ⟨rfl⟩
  trans _ _ _ hab hbc := ⟨hbc.settings.trans hab.settings⟩

instance (number : Nat) : IsPreorder (World β) (SameSetup number) where
  refl _ := ⟨⟨rfl⟩, rfl⟩
  trans _ _ _ hab hbc := ⟨⟨hbc.settings.trans hab.settings⟩, hbc.manager.trans hab.manager⟩

instance (number : Nat) : IsPreorder (World β) (Retains number) where
  refl _ := ⟨⟨rfl⟩, id⟩
  trans _ _ _ hab hbc := ⟨⟨hbc.settings.trans hab.settings⟩, hbc.started ∘ hab.started⟩

instance : IsPreorder (World β) SameDrivers where
  refl _ := ⟨rfl⟩
  trans _ _ _ hab hbc := ⟨hbc.drivers.trans hab.drivers⟩

variable {number : Nat} {driver : PageDriver} {before later world : World β}

theorem SameDrivers.sameSetup (h : SameDrivers before later) : SameSetup number before later :=
  ⟨⟨by rw [settingsOf, settingsOf, h.drivers]⟩, by rw [managerOf, managerOf, h.drivers]⟩

theorem SameSetup.retains (h : SameSetup number before later) : Retains number before later := by
  constructor
  · exact h.toSameSettings
  · intro started
    rw [isStarted, h.manager]
    exact started

theorem settingsOf_withDriver {update : PageDriver → PageDriver}
    (keeps : ∀ driver, (update driver).settings = driver.settings) :
    (world.withDriver number update).settingsOf number = world.settingsOf number := by
  rw [settingsOf, withDriver, List.getElem?_modify_eq, settingsOf]
  cases world.drivers[number]? with
  | none => rfl
  | some driver => exact congrArg some (keeps driver)

theorem managerOf_withDriver {update : PageDriver → PageDriver}
    (keeps : ∀ driver, (update driver).manager = driver.manager) :
    (world.withDriver number update).managerOf number = world.managerOf number := by
  rw [managerOf, withDriver, List.getElem?_modify_eq, managerOf]
  cases world.drivers[number]? with
  | none => rfl
  | some driver => exact keeps driver

theorem managerOf_of_found (found : world.drivers[number]? = some driver) :
    world.managerOf number = driver.manager := by
  rw [managerOf, found]
  rfl

theorem isStarted_of_found (found : world.drivers[number]? = some driver) :
    world.isStarted number = driver.manager.isSome := by
  rw [isStarted, managerOf_of_found found]

/-- A driver that is not started has no manager. -/
theorem unmanaged_of_unstarted (unstarted : world.isStarted number = false) :
    world.managerOf number = none :=
  Option.isNone_iff_eq_none.mp (Option.isSome_eq_false_iff.mp unstarted)

theorem settingsOf_of_found (found : world.drivers[number]? = some driver) :
    world.settingsOf number = some driver.settings := by
  rw [settingsOf, found]
  rfl

theorem found_of_settingsOf {settings : PageDriver} (h : world.settingsOf number = some settings) :
    ∃ driver, world.drivers[number]? = some driver ∧ driver.settings = settings := by
  rwa [settingsOf, Option.map_eq_some_iff] at h

/-- The driver of a number is there, has some settings, and is started. -/
def WorksWith (world : World β) (number : Nat) (settings : PageDriver) : Prop :=
  world.settingsOf number = some settings ∧ world.isStarted number = true

theorem WorksWith.found {settings : PageDriver} (h : world.WorksWith number settings) :
    ∃ driver, world.drivers[number]? = some driver ∧ driver.manager.isSome = true ∧
      driver.settings = settings := by
  obtain ⟨same, started⟩ := h
  obtain ⟨driver, found, settings⟩ := found_of_settingsOf same
  rw [isStarted_of_found found] at started
  exact ⟨driver, found, started, settings⟩

end World

open World (SameSettings SameSetup Retains SameDrivers)

/-- A run that changes no driver. -/
abbrev LeavesDrivers (run : Run β α) : Prop :=
  Moves SameDrivers run

namespace LeavesDrivers

theorem log (level : LogLevel) (message : String) :
    LeavesDrivers (Run.log level message : Run β Unit) :=
  Moves.modify fun _ => ⟨rfl⟩

theorem of_addsOnly {kind : Event → Prop} {run : Run β α} (h : AddsOnly kind run) :
    LeavesDrivers run :=
  Moves.imp h fun _ _ added => ⟨added.drivers⟩

theorem sameSetup {run : Run β α} (h : LeavesDrivers run) (number : Nat) :
    Moves (SameSetup number) run :=
  Moves.imp h fun _ _ same => same.sameSetup

theorem retains {run : Run β α} (h : LeavesDrivers run) (number : Nat) :
    Moves (Retains number) run :=
  Moves.imp h fun _ _ same => same.sameSetup.retains

theorem sameSettings {run : Run β α} (h : LeavesDrivers run) (number : Nat) :
    Moves (SameSettings number) run :=
  Moves.imp h fun _ _ same => same.sameSetup.toSameSettings

variable [Remote β]

theorem ask (command : Command) : LeavesDrivers (Run.ask command : Run β command.Answer) := by
  have adds : AddsOnly (fun _ => True) (Run.ask command : Run β command.Answer) :=
    AddsOnly.ask fun _ => trivial
  exact of_addsOnly adds

end LeavesDrivers

namespace BrowserManager

theorem change_leavesDrivers (number : Nat) (update : BrowserManager → BrowserManager) :
    LeavesDrivers (change number update : Run β Unit) :=
  Moves.modify fun _ => ⟨rfl⟩

theorem find_leavesDrivers (number : Nat) : LeavesDrivers (find number : Run β BrowserManager) := by
  refine Moves.get.bind fun world => ?_
  split
  · exact Moves.pure _
  · exact Moves.throw _

/-- Add a manager to those there are; the result is its number. -/
def enroll (manager : BrowserManager) : Run β Nat := do
  let number := (← get).managers.length
  modify fun world => { world with managers := world.managers ++ [manager] }
  return number

theorem create_eq (headless asked : Value) :
    (create headless asked : Run β Nat) = (do
      match ← Run.ofExcept (typeOf? (← get).classes asked) with
      | some browserType => enroll { headless, browserType, shownType := asked }
      | none => do
        Run.log .warning ("Unknown browser type '" ++ (← Run.ofExcept asked.spoken) ++
          "', using " ++ standardType)
        enroll { headless, browserType := standardType }) :=
  rfl

theorem enroll_leavesDrivers (manager : BrowserManager) :
    LeavesDrivers (enroll manager : Run β Nat) :=
  Moves.get.bind fun _ => Moves.bind (Moves.modify fun _ => ⟨rfl⟩) fun _ => Moves.pure _

theorem create_leavesDrivers (headless asked : Value) :
    LeavesDrivers (create headless asked : Run β Nat) := by
  rw [create_eq]
  refine Moves.get.bind fun world => (Moves.ofExcept _).bind fun known => ?_
  cases known with
  | some browserType => exact enroll_leavesDrivers _
  | none =>
    refine (Moves.ofExcept _).bind fun shown => (LeavesDrivers.log _ _).bind fun _ => ?_
    exact enroll_leavesDrivers _

variable [Remote β]

theorem start_leavesDrivers (number : Nat) : LeavesDrivers (start number : Run β Unit) := by
  refine (LeavesDrivers.ask _).bind fun driver => (change_leavesDrivers _ _).bind fun _ => ?_
  refine (find_leavesDrivers _).bind fun manager => (LeavesDrivers.ask _).bind fun _ => ?_
  refine (change_leavesDrivers _ _).bind fun _ => (Moves.ofExcept _).bind fun _ => ?_
  exact (Moves.ofExcept _).bind fun _ => LeavesDrivers.log _ _

theorem newSession_leavesDrivers (number : Nat) (options : List (String × Value)) :
    LeavesDrivers (newSession number options : Run β Session) := by
  refine Moves.bind ?_ fun context => (LeavesDrivers.ask _).bind fun _ => Moves.pure _
  refine (find_leavesDrivers _).bind fun manager => ?_
  split
  · exact Moves.throw _
  · refine (LeavesDrivers.ask _).bind fun opened => ?_
    exact (change_leavesDrivers _ _).bind fun _ => Moves.pure _

theorem closeContexts_leavesDrivers (number : Nat) (contexts : List ContextRef) :
    LeavesDrivers (closeContexts number contexts : Run β Unit) := by
  induction contexts with
  | nil => exact Moves.pure _
  | cons context rest ih =>
    refine (change_leavesDrivers _ _).bind fun _ => Moves.bind ?_ fun _ => ih
    refine Moves.tryCatch (LeavesDrivers.ask _) fun failure => ?_
    split
    · exact LeavesDrivers.log _ _
    · exact Moves.throw _

theorem close_leavesDrivers (number : Nat) : LeavesDrivers (close number : Run β Unit) := by
  refine (find_leavesDrivers _).bind fun manager => ?_
  refine (closeContexts_leavesDrivers _ _).bind fun _ => Moves.bind ?_ fun _ => ?_
  · cases manager.browser with
    | none => exact Moves.pure _
    | some browser => exact (LeavesDrivers.ask _).bind fun _ => change_leavesDrivers _ _
  · refine Moves.bind ?_ fun _ => (Moves.ofExcept _).bind fun _ => LeavesDrivers.log _ _
    cases manager.driver with
    | none => exact Moves.pure _
    | some driver => exact (LeavesDrivers.ask _).bind fun _ => change_leavesDrivers _ _

end BrowserManager

namespace PageDriver

variable {number : Nat}

theorem find_adds {kind : Event → Prop} (number : Nat) :
    AddsOnly kind (find number : Run β PageDriver) := by
  refine Moves.get.bind fun world => ?_
  split
  · exact Moves.pure _
  · exact Moves.throw _

theorem find_leavesDrivers (number : Nat) : LeavesDrivers (find number : Run β PageDriver) := by
  have adds : AddsOnly (fun _ => True) (find number : Run β PageDriver) := find_adds number
  exact .of_addsOnly adds

theorem change_sameSettings {update : PageDriver → PageDriver}
    (keeps : ∀ driver, (update driver).settings = driver.settings) :
    Moves (SameSettings number) (change number update : Run β Unit) :=
  Moves.modify fun _ => ⟨World.settingsOf_withDriver keeps⟩

theorem change_sameSetup {update : PageDriver → PageDriver}
    (settings : ∀ driver, (update driver).settings = driver.settings)
    (manager : ∀ driver, (update driver).manager = driver.manager) :
    Moves (SameSetup number) (change number update : Run β Unit) :=
  Moves.modify fun _ =>
    ⟨⟨World.settingsOf_withDriver settings⟩, World.managerOf_withDriver manager⟩

/-- A driver that is given a manager keeps its settings. -/
theorem change_retains (manager : Nat) :
    Moves (Retains number) (change number fun driver => { driver with manager := some manager } :
      Run β Unit) := by
  refine Moves.modify fun world => ⟨⟨World.settingsOf_withDriver fun _ => rfl⟩, fun started => ?_⟩
  change (world.withDriver number _).isStarted number = true
  cases found : world.drivers[number]? with
  | none =>
    rw [World.isStarted, World.managerOf, found] at started
    cases started
  | some driver =>
    rw [World.isStarted_of_found (drivers_of_withDriver found _)]
    rfl

theorem sessionOf_adds {kind : Event → Prop} (number : Nat) :
    AddsOnly kind (sessionOf number : Run β Session) := by
  refine (find_adds number).bind fun driver => ?_
  split
  · exact Moves.pure _
  · exact Moves.throw _

theorem factoryOf_adds {kind : Event → Prop} (number : Nat) :
    AddsOnly kind (factoryOf number : Run β Factory) := by
  refine (find_adds number).bind fun driver => ?_
  split
  · exact Moves.pure _
  · exact Moves.throw _

variable [Remote β]

theorem create_passing (factory : Factory) (type : TypeRef) :
    AddsOnly Event.Passing (factory.create type Nesting.outermost : Run β Nat) :=
  (factory.createIn_adds type _).mono Event.passing_of_asksAddress

theorem createObject_passing (number : Nat) (type : TypeRef) :
    AddsOnly Event.Passing (createObject number type : Run β Nat) :=
  (factoryOf_adds number).bind fun factory => create_passing factory type

theorem goTo_passing (number : Nat) (type : TypeRef) (arguments : List Value) :
    AddsOnly Event.Passing (goTo number type arguments : Run β Nat) := by
  have making (template : String) :
      AddsOnly Event.Passing (makeUrl template arguments : Run β String) := by
    refine Moves.bind ?_ fun _ => Moves.ofExcept _
    generalize arguments.filter Url.isSenseless = senseless
    induction senseless with
    | nil => exact Moves.pure _
    | cons argument rest ih =>
      exact ((Moves.ofExcept _).bind fun _ => AddsOnly.log _ _).bind fun _ => ih
  refine Moves.get.bind fun world => (Moves.ofExcept _).bind fun address => ?_
  refine (find_adds number).bind fun driver => (Moves.ofExcept _).bind fun base => ?_
  refine (Moves.ofExcept _).bind fun template => (making template).bind fun target => ?_
  refine Moves.bind (AddsOnly.inStep trivial (fun _ => trivial) ?_) fun _ => ?_
  · refine (sessionOf_adds number).bind fun session => (Moves.ofExcept _).bind fun shown => ?_
    exact (AddsOnly.log _ _).bind fun _ => AddsOnly.ask fun _ => trivial
  · exact (factoryOf_adds number).bind fun factory => create_passing factory type

theorem takeScreenshot_passing (number : Nat) (base : String) :
    AddsOnly Event.Passing (takeScreenshot number base : Run β FilePath) := by
  refine Moves.bind ?_ fun _ => (find_adds number).bind fun driver => ?_
  · exact (find_adds number).bind fun driver => AddsOnly.changeFiles _
  · refine Moves.get.bind fun world => (sessionOf_adds number).bind fun session => ?_
    refine (AddsOnly.ask fun _ => trivial).bind fun picture => (AddsOnly.note trivial).bind fun _ => ?_
    exact (AddsOnly.log _ _).bind fun _ => Moves.pure _

theorem documentFailure_passing (number : Nat) :
    AddsOnly Event.Passing (documentFailure number : Run β Unit) := by
  refine (AddsOnly.log _ _).bind fun _ => (find_adds number).bind fun driver => ?_
  split
  · refine Moves.tryCatch ?_ fun failure => AddsOnly.log _ _
    exact (takeScreenshot_passing number errorBase).bind fun _ => Moves.pure _
  · exact Moves.pure _

theorem stop_sameSettings (number : Nat) :
    Moves (SameSettings number) (stop number : Run β Unit) := by
  have quietly {α : Type} {run : Run β α} (h : LeavesDrivers run) : Moves (SameSettings number) run :=
    h.sameSettings number
  refine (quietly (LeavesDrivers.log _ _)).bind fun _ => ?_
  refine (quietly (find_leavesDrivers number)).bind fun driver => ?_
  have released : Moves (SameSettings number) (change number fun driver =>
      { driver with manager := none, session := none, factory := none } : Run β Unit) :=
    change_sameSettings fun _ => rfl
  cases driver.manager with
  | none => exact released
  | some manager =>
    exact (quietly (BrowserManager.close_leavesDrivers manager)).bind fun _ => released

theorem leave_sameSettings (number : Nat) (failed : Bool) :
    Moves (SameSettings number) (leave number failed : Run β Unit) := by
  have documenting : Moves (SameSettings number) (do
      if failed then documentFailure number : Run β Unit) := by
    split
    · exact (LeavesDrivers.of_addsOnly (documentFailure_passing number)).sameSettings number
    · exact Moves.pure _
  refine (Moves.tryCatch documenting fun failure => ?_).bind fun _ => stop_sameSettings number
  exact (stop_sameSettings number).bind fun _ => Moves.throw _

/-- Leaving a test is stopping its driver, after a picture has been taken perhaps. -/
theorem leave_eq_stop (number : Nat) (failed : Bool) (world : World β) :
    ∃ documented, Adds Event.Passing world documented ∧
      after (leave number failed) world = after (stop number) documented := by
  have documenting : AddsOnly Event.Passing (do
      if failed then documentFailure number : Run β Unit) := by
    split
    · exact documentFailure_passing number
    · exact Moves.pure _
  refine ⟨_, documenting world, ?_⟩
  cases ran : (do if failed then documentFailure number : Run β Unit) world with
  | ok u later =>
    have caught : (tryCatch (do if failed then documentFailure number : Run β Unit) fun failure => do
        stop number
        throw failure) world = .ok u later := by
      rw [tryCatch_apply, ran]
    rw [after_of_ok ran, leave, after_bind_of_ok caught]
  | error failure later =>
    have caught : (tryCatch (do if failed then documentFailure number : Run β Unit) fun failure => do
        stop number
        throw failure) world = (do stop number; throw failure : Run β Unit) later := by
      rw [tryCatch_apply, ran]
    rw [after_of_error ran]
    cases stopped : stop number later with
    | ok u last =>
      rw [bind_of_ok stopped] at caught
      rw [leave, after_bind_of_error caught, after_of_ok stopped]
    | error other last =>
      rw [bind_of_error stopped] at caught
      rw [leave, after_bind_of_error caught, after_of_error stopped]

/-- What starting a driver comes to once it has its manager. -/
def openWith (number : Nat) (driver : PageDriver) (manager : Nat) : Run β Unit := do
  BrowserManager.start manager
  let session ← BrowserManager.newSession manager []
  let factory : Factory := { session, actions := .live session driver.finder, base := driver.base }
  change number fun driver => { driver with session := some session, factory := some factory }
  Run.log .info separator
  Run.log .info ("beginning " ++ driver.testName)
  Run.log .info ("using " ++ (← Run.ofExcept driver.browserType.spoken) ++ " (headless=" ++
    (← Run.ofExcept driver.headless.spoken) ++ ")")

theorem start_eq (number : Nat) :
    (start number : Run β Unit) = (do
      let driver ← find number
      let manager ← BrowserManager.create driver.headless driver.browserType
      change number fun driver => { driver with manager := some manager }
      openWith number driver manager) :=
  rfl

theorem openWith_sameSetup (number : Nat) (driver : PageDriver) (manager : Nat) :
    Moves (SameSetup number) (openWith number driver manager : Run β Unit) := by
  have quietly {α : Type} {run : Run β α} (h : LeavesDrivers run) :
      Moves (SameSetup number) run :=
    h.sameSetup number
  refine (quietly (BrowserManager.start_leavesDrivers manager)).bind fun _ => ?_
  refine (quietly (BrowserManager.newSession_leavesDrivers manager [])).bind fun session => ?_
  refine Moves.bind (change_sameSetup (fun _ => rfl) fun _ => rfl) fun _ => ?_
  refine (quietly (LeavesDrivers.log _ _)).bind fun _ => ?_
  refine (quietly (LeavesDrivers.log _ _)).bind fun _ => ?_
  refine (Moves.ofExcept _).bind fun _ => (Moves.ofExcept _).bind fun _ => ?_
  exact quietly (LeavesDrivers.log _ _)

theorem start_retains (number : Nat) : Moves (Retains number) (start number : Run β Unit) := by
  have quietly {α : Type} {run : Run β α} (h : LeavesDrivers run) : Moves (Retains number) run :=
    h.retains number
  refine (quietly (find_leavesDrivers number)).bind fun driver => ?_
  refine (quietly (BrowserManager.create_leavesDrivers _ _)).bind fun manager => ?_
  refine (change_retains manager).bind fun _ => ?_
  exact Moves.imp (openWith_sameSetup number driver manager) fun _ _ same => same.retains

/-- What a page driver is used for. A test is entered by starting its driver. -/
inductive Use where
  | start
  | stop
  | leave (failed : Bool)
  | set (setting : Setting)
  | goTo (type : TypeRef) (arguments : List Value)
  | takeScreenshot (base : String)
  | createObject (type : TypeRef)

namespace Use

/-- Use a driver. -/
def run (number : Nat) : Use → Run β Unit
  | .start => PageDriver.start number
  | .stop => PageDriver.stop number
  | .leave failed => PageDriver.leave number failed
  | .set setting => setting.apply number
  | .goTo type arguments => do let _ ← PageDriver.goTo number type arguments
  | .takeScreenshot base => do let _ ← PageDriver.takeScreenshot number base
  | .createObject type => do let _ ← PageDriver.createObject number type

/-- The world after some uses of a driver, each of which may have failed. -/
def runAll (number : Nat) (uses : List Use) (world : World β) : World β :=
  uses.foldl (fun world use => after (use.run number) world) world

/-- Whether a use ends a test. -/
def ends : Use → Bool
  | .stop | .leave _ => true
  | _ => false

/-- What a use makes of the settings of a driver that is started. -/
def adjust (settings : PageDriver) : Use → PageDriver
  | .set (.screenshotOnError value) => { settings with screenshotOnError := value }
  | _ => settings

theorem adjust_of_needsUnstarted {settings : PageDriver} {setting : Setting}
    (needs : setting.needsUnstarted = true) : adjust settings (.set setting) = settings := by
  cases setting with
  | screenshotOnError value => cases needs
  | _ => rfl

theorem passing_of_goTo (number : Nat) (type : TypeRef) (arguments : List Value) :
    AddsOnly Event.Passing ((Use.goTo type arguments).run number : Run β Unit) :=
  (goTo_passing number type arguments).bind fun _ => Moves.pure _

theorem passing_of_takeScreenshot (number : Nat) (base : String) :
    AddsOnly Event.Passing ((Use.takeScreenshot base).run number : Run β Unit) :=
  (takeScreenshot_passing number base).bind fun _ => Moves.pure _

theorem passing_of_createObject (number : Nat) (type : TypeRef) :
    AddsOnly Event.Passing ((Use.createObject type).run number : Run β Unit) :=
  (createObject_passing number type).bind fun _ => Moves.pure _

end Use

variable {driver : PageDriver} {world later : World β}

theorem isStarted_of_start (h : start number world = .ok () later) :
    later.isStarted number = true := by
  rw [start_eq] at h
  obtain ⟨driver, _, finding, h⟩ := bind_eq_ok.mp h
  obtain ⟨manager, middle, making, h⟩ := bind_eq_ok.mp h
  obtain ⟨_, given, giving, opening⟩ := bind_eq_ok.mp h
  cases giving
  obtain ⟨found, rfl⟩ := found_of_find finding
  rw [← ((BrowserManager.create_leavesDrivers _ _).of_eq_ok making).drivers] at found
  have owned := World.isStarted_of_found
    (drivers_of_withDriver found fun driver => { driver with manager := some manager })
  rw [World.isStarted, ((openWith_sameSetup number driver manager).of_eq_ok opening).manager]
  exact owned

/-- A use that does not end the test leaves a driver that is started at work, with settings that are
adjusted at most. -/
theorem Use.worksWith {settings : PageDriver} (use : Use) (goes : use.ends = false)
    (h : world.WorksWith number settings) :
    (after (use.run number) world).WorksWith number (use.adjust settings) := by
  have retained {run : Run β Unit} (moves : Moves (Retains number) run) :
      (after run world).WorksWith number settings := by
    have kept : Retains number world (after run world) := moves world
    exact ⟨kept.settings.trans h.1, kept.started h.2⟩
  have passed {run : Run β Unit} (passing : AddsOnly Event.Passing run) :
      (after run world).WorksWith number settings :=
    retained ((LeavesDrivers.of_addsOnly passing).retains number)
  cases use with
  | start => exact retained (start_retains number)
  | stop => cases goes
  | leave failed => cases goes
  | set setting =>
    obtain ⟨driver, found, started, rfl⟩ := h.found
    cases needs : setting.needsUnstarted with
    | true =>
      have refused := Setting.apply_of_started found started setting needs
      rw [Use.run, after_of_error refused, adjust_of_needsUnstarted needs]
      exact h
    | false =>
      obtain ⟨value, rfl⟩ := setting.documents_of_anytime needs
      constructor
      · exact World.settingsOf_of_found (drivers_of_withDriver found _)
      · exact (World.isStarted_of_found (drivers_of_withDriver found _)).trans started
  | goTo type arguments => exact passed (passing_of_goTo number type arguments)
  | takeScreenshot base => exact passed (passing_of_takeScreenshot number base)
  | createObject type => exact passed (passing_of_createObject number type)

theorem Use.worksWith_of_runAll (uses : List Use) (goes : ∀ use ∈ uses, use.ends = false)
    {settings : PageDriver} (h : world.WorksWith number settings) :
    (Use.runAll number uses world).WorksWith number (uses.foldl Use.adjust settings) := by
  induction uses generalizing world settings with
  | nil => exact h
  | cons use rest ih =>
    have first := use.worksWith (goes use List.mem_cons_self) h
    exact ih (fun use listed => goes use (List.mem_cons_of_mem _ listed)) first

namespace Use

/-- The uses that end a test come to stopping the driver, after a picture has been taken perhaps. -/
theorem stops_of_ends {use : Use} (ends : use.ends = true) (number : Nat) (world : World β) :
    ∃ documented, Adds Event.Passing world documented ∧
      after (use.run number) world = after (PageDriver.stop number) documented := by
  cases use with
  | stop => exact ⟨world, refl world, rfl⟩
  | leave failed => exact leave_eq_stop number failed world
  | _ => cases ends

/-- What has become of the world after a use of a driver. -/
inductive Effect (number : Nat) (world : World β) : Use → World β → Prop
  | started : Effect number world .start (after (PageDriver.start number) world)
  | stopped {use : Use} {documented : World β} (ends : use.ends = true)
      (passing : Adds Event.Passing world documented) :
      Effect number world use (after (PageDriver.stop number) documented)
  | refused {setting : Setting} : Effect number world (.set setting) world
  | accepted {setting : Setting} {update : PageDriver → PageDriver}
      (accepts : setting.update world.files = .ok update) :
      Effect number world (.set setting) (world.withDriver number update)
  | passed {use : Use} {later : World β} (other : use ≠ .start)
      (passing : Adds Event.Passing world later) : Effect number world use later

theorem effect (use : Use) (found : world.drivers[number]? = some driver) :
    Effect number world use (after (use.run number) world) := by
  have stopped {use : Use} (ends : use.ends = true) :
      Effect number world use (after (use.run number) world) := by
    obtain ⟨documented, passing, same⟩ := stops_of_ends ends number world
    rw [same]
    exact .stopped ends passing
  cases use with
  | start => exact .started
  | stop => exact stopped rfl
  | leave failed => exact stopped rfl
  | set setting =>
    rcases setting.after_apply found with same | ⟨update, accepts, changed⟩
    · rw [run, same]
      exact .refused
    · rw [run, changed]
      exact .accepted accepts
  | goTo type arguments => exact .passed nofun (passing_of_goTo number type arguments world)
  | takeScreenshot base => exact .passed nofun (passing_of_takeScreenshot number base world)
  | createObject type => exact .passed nofun (passing_of_createObject number type world)

theorem found (use : Use) (found : world.drivers[number]? = some driver) :
    ∃ now, (after (use.run number) world).drivers[number]? = some now := by
  have kept {before later : World β} (there : before.drivers[number]? = some driver)
      (same : SameSettings number before later) : ∃ now, later.drivers[number]? = some now := by
    obtain ⟨now, there, -⟩ := World.found_of_settingsOf
      (same.settings.trans (World.settingsOf_of_found there))
    exact ⟨now, there⟩
  have effect := use.effect found
  generalize after (use.run number) world = later at effect ⊢
  cases effect with
  | started => exact kept found (start_retains number world).toSameSettings
  | stopped ends passing =>
    rw [← passing.drivers] at found
    exact kept found (stop_sameSettings number _)
  | refused => exact ⟨driver, found⟩
  | accepted accepts => exact ⟨_, drivers_of_withDriver found _⟩
  | passed other passing => exact ⟨driver, by rw [passing.drivers, found]⟩

end Use

theorem Use.found_of_runAll (uses : List Use) (found : world.drivers[number]? = some driver) :
    ∃ now, (Use.runAll number uses world).drivers[number]? = some now := by
  induction uses generalizing world driver with
  | nil => exact ⟨driver, found⟩
  | cons use rest ih =>
    obtain ⟨next, there⟩ := use.found found
    exact ih there

theorem isStarted_of_stop (h : stop number world = .ok () later) :
    later.isStarted number = false := by
  have released (middle : World β) :
      (middle.withDriver number fun driver =>
        { driver with manager := none, session := none, factory := none }).isStarted number =
          false := by
    rw [World.isStarted, World.managerOf, World.withDriver, List.getElem?_modify_eq]
    cases middle.drivers[number]? <;> rfl
  obtain ⟨_, _, -, h⟩ := bind_eq_ok.mp h
  obtain ⟨driver, middle, -, h⟩ := bind_eq_ok.mp h
  cases owned : driver.manager with
  | none =>
    simp only [owned] at h
    cases h
    exact released middle
  | some manager =>
    simp only [owned] at h
    obtain ⟨_, closed, -, h⟩ := bind_eq_ok.mp h
    cases h
    exact released closed

theorem Use.isStarted_of_ends {use : Use} (ends : use.ends = true)
    (h : use.run number world = .ok () later) : later.isStarted number = false := by
  cases use with
  | stop => exact isStarted_of_stop h
  | leave failed =>
    obtain ⟨_, documented, -, stopped⟩ := bind_eq_ok.mp h
    exact isStarted_of_stop stopped
  | _ => cases ends

theorem Use.sameSettings_of_ends {use : Use} (ends : use.ends = true) :
    Moves (SameSettings number) (use.run number : Run β Unit) := by
  cases use with
  | stop => exact stop_sameSettings number
  | leave failed => exact leave_sameSettings number failed
  | _ => cases ends

end PageDriver

open PageDriver (Setting Use)

namespace World

variable [Remote β] {world later : World β} {number : Nat} {driver : PageDriver}

/-- A driver takes settings while it is not started, and keeps them until it is stopped, but for
whether it documents failures. -/
structure HoldsSettings (world : World β) (number : Nat) (driver : PageDriver) : Prop where
  unstarted : driver.manager.isSome = false →
    ∀ setting : Setting, setting.apply number world = setting.taken number world
  started : driver.manager.isSome = true → ∀ setting : Setting, setting.needsUnstarted = true →
    setting.apply number world = .error Setting.tooLate world
  anytime : ∀ setting : Setting, setting.needsUnstarted = false →
    setting.apply number world = setting.taken number world
  keeps : ∀ began uses, PageDriver.start number world = .ok () began →
    (∀ use ∈ uses, Use.ends use = false) →
      ∃ now, (Use.runAll number uses began).drivers[number]? = some now ∧
        now.manager.isSome = true ∧ now.settings = uses.foldl Use.adjust driver.settings
  ended : ∀ use later, Use.ends use = true → use.run number world = .ok () later →
    ∃ now, later.drivers[number]? = some now ∧ now.manager = none ∧
      now.settings = driver.settings

theorem holdsSettings_of_found (found : world.drivers[number]? = some driver) :
    world.HoldsSettings number driver where
  unstarted fresh setting := Setting.apply_of_unstarted found fresh setting
  started busy setting needs := Setting.apply_of_started found busy setting needs
  anytime setting free := by
    obtain ⟨value, rfl⟩ := Setting.documents_of_anytime free
    exact Setting.apply_screenshotOnError value
  keeps began uses h goes := by
    have works : began.WorksWith number driver.settings := by
      constructor
      · rw [((PageDriver.start_retains number).of_eq_ok h).settings, settingsOf_of_found found]
      · exact PageDriver.isStarted_of_start h
    exact (Use.worksWith_of_runAll uses goes works).found
  ended use later ends h := by
    have same : later.settingsOf number = some driver.settings := by
      rw [((Use.sameSettings_of_ends ends).of_eq_ok h).settings, settingsOf_of_found found]
    obtain ⟨now, there, settings⟩ := found_of_settingsOf same
    have unmanaged := unmanaged_of_unstarted (Use.isStarted_of_ends ends h)
    rw [managerOf_of_found there] at unmanaged
    exact ⟨now, there, unmanaged, settings⟩

/-- However a driver has been used, it takes and keeps its settings like that. -/
theorem holdsSettings_of_run (found : world.drivers[number]? = some driver) (uses : List Use) :
    ∃ now, (Use.runAll number uses world).drivers[number]? = some now ∧
      (Use.runAll number uses world).HoldsSettings number now := by
  obtain ⟨now, there⟩ := Use.found_of_runAll uses found
  exact ⟨now, there, holdsSettings_of_found there⟩

end World

namespace Trial

/-- A driver that is to document failures. -/
def driver : PageDriver where
  testName := "trial"
  baseUrl := .text "http://localhost"
  browserType := .text "chromium"
  headless := .bool true
  finder := .standard
  screenshotDir := {}
  screenshotOnError := .bool true

/-- A world with this driver, which has not been used yet. -/
def world : World ScriptedBrowser where
  browser := {}
  clock := default
  drivers := [driver]

/-- The base of all addresses is not changed any more when the driver has been started. -/
theorem base_frozen :
    world.drivers[0]? = some driver ∧ ∃ began, PageDriver.start 0 world = .ok () began ∧
      (Setting.baseUrl (.text "http://elsewhere")).apply 0 began =
        .error Setting.tooLate began := by
  have found : world.drivers[0]? = some driver := rfl
  obtain ⟨now, there, holds⟩ := World.holdsSettings_of_run found [.start]
  have started : now.manager.isSome = true := by
    cases there
    rfl
  exact ⟨found, _, rfl, holds.started started _ rfl⟩

/-- Whether failures are documented is changed although the driver has been started. -/
theorem documenting_unfrozen :
    ∃ began later, PageDriver.start 0 world = .ok () began ∧ began.isStarted 0 = true ∧
      (Setting.screenshotOnError (.bool false)).apply 0 began = .ok () later ∧
      (began.settingsOf 0).map PageDriver.screenshotOnError = some (.bool true) ∧
      (later.settingsOf 0).map PageDriver.screenshotOnError = some (.bool false) :=
  ⟨_, _, rfl, rfl, rfl, rfl, rfl⟩

end Trial
end PageContracts
