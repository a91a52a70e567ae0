import PageContracts.Proofs.Lifetimes

/-! # Starts that fail

Starting a driver opens an automation driver, a browser, a context and a page, one after the other.
The driver has its manager before the first of them: when the browser refuses one, what was opened
before stays open, and the driver counts as started, until it is stopped. -/
namespace PageContracts

open Runs
open Event (opened closed AllYield stillOpen)

variable {β : Type}

/-- What a start asked of the browser when it fails halfway, and what it leaves open. -/
inductive Botched : List Event → List Resource → Prop
  | driver : Botched [.command .startDriver .refused] []
  | browser (driver : Nat) (type : String) (options : List (String × Value)) :
      Botched [.command .startDriver (.done (some driver)),
        .command (.launch driver type options) .refused] [.automation driver]
  /-- The browser is launched, but what was launched cannot be told in a message. -/
  | announcement (driver : Nat) (type : String) (options : List (String × Value)) :
      Botched [.command .startDriver (.done (some driver)),
        .command (.launch driver type options) (.done none)] [.automation driver, .browser driver]
  | context (driver : Nat) (type : String) (options merged : List (String × Value)) :
      Botched [.command .startDriver (.done (some driver)),
        .command (.launch driver type options) (.done none),
        .command (.openContext driver merged) .refused] [.automation driver, .browser driver]
  | page (driver number : Nat) (type : String) (options merged : List (String × Value)) :
      Botched [.command .startDriver (.done (some driver)),
        .command (.launch driver type options) (.done none),
        .command (.openContext driver merged) (.done (some number)),
        .command (.openPage { driver, number }) .refused]
        [.automation driver, .browser driver, .context { driver, number }]

namespace Botched

variable {events : List Event} {left : List Resource}

/-- A start that fails halfway closes nothing. -/
theorem closed_eq (h : Botched events left) : closed events = [] := by
  cases h <;> rfl

theorem opened_eq (h : Botched events left) : opened events = left := by
  cases h <;> rfl

theorem stillOpen_eq (h : Botched events left) : stillOpen events = left := by
  rw [stillOpen, h.closed_eq, h.opened_eq]
  exact List.diff_nil left

end Botched

namespace BrowserManager

variable [Remote β] {number driver : Nat} {manager : BrowserManager} {world later : World β}
  {failure : Failure}

/-- A manager is started halfway, or it has a browser and can tell so. -/
theorem start_opens (found : world.managers[number]? = some manager) :
    (∃ failure later added left, start number world = .error failure later ∧
      later.events = world.events ++ added ∧ Botched added left) ∨
    ∃ later driver options, start number world = .ok () later ∧
      later.events = world.events ++ [.command .startDriver (.done (some driver)),
        .command (.launch driver manager.browserType options) (.done none)] ∧
      later.managers[number]? = some { manager with driver := some driver, browser := some driver } ∧
      (∃ shown, manager.shownType.spoken = .ok shown) ∧ ∃ mode, manager.headless.spoken = .ok mode := by
  let options := ("headless", manager.headless) :: launchOptions
  rw [start]
  rcases open_cases found .startDriver (fun driver manager => { manager with driver := some driver }) _ with
    ⟨failure, later, failed, events, -⟩ | ⟨driver, owning, goes, owned, found⟩
  · exact .inl ⟨failure, later, _, _, failed, events, .driver⟩
  · rw [goes, bind_of_ok (find_of_found found)]
    rcases open_cases found (.launch driver manager.browserType options)
        (fun _ manager => { manager with browser := some driver }) _ with
      ⟨failure, later, failed, events, -⟩ | ⟨_, running, goes, launched, found⟩
    · refine .inl ⟨failure, later, _, _, failed, ?_, .browser driver manager.browserType options⟩
      rw [events, owned, List.append_assoc]
      rfl
    · rw [goes]
      have events : running.events = world.events ++ [.command .startDriver (.done (some driver)),
          .command (.launch driver manager.browserType options) (.done none)] := by
        rw [launched, owned, List.append_assoc]
        rfl
      have botched := Botched.announcement driver manager.browserType options
      cases shown : manager.shownType.spoken with
      | error failure => exact .inl ⟨failure, running, _, _, rfl, events, botched⟩
      | ok name =>
        cases told : manager.headless.spoken with
        | error failure => exact .inl ⟨failure, running, _, _, rfl, events, botched⟩
        | ok mode =>
          exact .inr ⟨_, driver, options, rfl, events, found, ⟨name, rfl⟩, mode, rfl⟩

/-- A context is opened in a running browser and listed, or the browser refuses to open it. -/
theorem newContext_cases (options : List (String × Value))
    (found : world.managers[number]? = some manager) (running : manager.browser = some driver) :
    ∃ merged,
      (∃ failure later, newContext number options world = .error failure later ∧
        later.events = world.events ++ [.command (.openContext driver merged) .refused] ∧
        later.managers = world.managers) ∨
      ∃ opened later, newContext number options world = .ok { driver, number := opened } later ∧
        later.events = world.events ++
          [.command (.openContext driver merged) (.done (some opened))] ∧
        later.managers[number]? =
          some { manager with contexts := manager.contexts ++ [{ driver, number := opened }] } := by
  let merged := options.foldl (fun all option => assign option.1 option.2 all) contextOptions
  have opening : newContext number options world = (do
      let opened ← Run.ask (.openContext driver merged)
      change number fun manager =>
        { manager with contexts := manager.contexts ++ [{ driver, number := opened }] }
      return { driver, number := opened } : Run β ContextRef) world := by
    rw [newContext, bind_of_ok (find_of_found found), running]
  refine ⟨merged, ?_⟩
  rcases open_cases found (.openContext driver merged) (fun (opened : Nat) manager =>
      { manager with contexts := manager.contexts ++ [{ driver, number := opened }] })
      (fun opened => (return { driver, number := opened } : Run β ContextRef)) with
    ⟨failure, later, failed, events, managers⟩ | ⟨opened, later, goes, events, there⟩
  · exact .inl ⟨failure, later, opening.trans failed, events, managers⟩
  · exact .inr ⟨opened, later, opening.trans goes, events, there⟩

/-- A tab is not opened in a running browser because its context is refused, or its page. -/
theorem newSession_eq_error {options : List (String × Value)}
    (found : world.managers[number]? = some manager) (running : manager.browser = some driver)
    (failed : newSession number options world = .error failure later) :
    ∃ merged, later.events = world.events ++ [.command (.openContext driver merged) .refused] ∨
      ∃ opened, later.events = world.events ++
        [.command (.openContext driver merged) (.done (some opened)),
          .command (.openPage { driver, number := opened }) .refused] := by
  obtain ⟨merged, ⟨refusal, refused, failing, events, -⟩ | ⟨opened, middle, goes, events, -⟩⟩ :=
    newContext_cases options found running
  · refine ⟨merged, .inl ?_⟩
    rw [newSession, bind_of_error failing] at failed
    cases failed
    exact events
  · refine ⟨merged, .inr ⟨opened, ?_⟩⟩
    rw [newSession, bind_of_ok goes] at failed
    rcases Run.ask_cases (.openPage { driver, number := opened }) middle with
      ⟨page, browser, asked⟩ | ⟨message, browser, asked⟩
    · rw [bind_of_ok asked] at failed
      cases failed
    · rw [bind_of_error asked] at failed
      cases failed
      rw [events]
      exact List.append_assoc ..

end BrowserManager

namespace PageDriver

variable {number manager : Nat} {driver : PageDriver} {world later : World β}
  {managing : BrowserManager} {failure : Failure}

/-- A driver that has a session or a factory has a manager. -/
def Sound (driver : PageDriver) : Prop :=
  driver.manager = none → driver.session = none ∧ driver.factory = none

theorem Sound.of_equipment {other : PageDriver} (sound : driver.Sound)
    (same : other.equipment = driver.equipment) : other.Sound := by
  obtain ⟨manager, session, factory⟩ : other.manager = driver.manager ∧
      other.session = driver.session ∧ other.factory = driver.factory := by
    simpa [equipment] using same
  intro unstarted
  rw [session, factory]
  exact sound (manager.symm.trans unstarted)

/-- The driver of a number, if there is one, has a session or a factory only with a manager. -/
def SoundAt (number : Nat) (world : World β) : Prop :=
  ∀ driver, world.drivers[number]? = some driver → driver.Sound

theorem SoundAt.of_same (sound : SoundAt number world) (same : later.drivers = world.drivers) :
    SoundAt number later := by
  intro driver found
  exact sound driver (same ▸ found)

theorem SoundAt.of_managed (owned : world.managerOf number = some manager) :
    SoundAt number world := by
  intro driver found unstarted
  rw [World.managerOf_of_found found, unstarted] at owned
  cases owned

theorem soundAt_withDriver (update : PageDriver → PageDriver)
    (sound : ∀ driver, world.drivers[number]? = some driver → (update driver).Sound) :
    SoundAt number (world.withDriver number update) := by
  intro later found
  rw [World.withDriver, List.getElem?_modify_eq] at found
  obtain ⟨driver, there, rfl⟩ := Option.map_eq_some_iff.mp found
  exact sound driver there

theorem sound_of_leaves {α : Type} {run : Run β α} (leaves : LeavesDrivers run) :
    Ensures (SoundAt number) run fun _ => True :=
  Ensures.of_moves fun world sound => SoundAt.of_same sound (leaves world).drivers

/-- The tab and the factory of a driver without either. -/
theorem outside_of_test (found : world.drivers[number]? = some driver)
    (session : driver.session = none) (factory : driver.factory = none) :
    sessionOf number world = .error (.outOfTurn "no session outside of a test") world ∧
      factoryOf number world = .error (.outOfTurn "no factory outside of a test") world := by
  constructor
  · rw [sessionOf, bind_of_ok (find_of_found found), session]
    rfl
  · rw [factoryOf, bind_of_ok (find_of_found found), factory]
    rfl

variable [Remote β]

theorem stop_sound (number : Nat) :
    Ensures (SoundAt number) (stop number : Run β Unit) fun _ => True := by
  refine (sound_of_leaves (LeavesDrivers.log _ _)).bind fun _ _ => ?_
  refine (sound_of_leaves (find_leavesDrivers number)).bind fun driver _ => ?_
  have letting_go : Ensures (SoundAt number) (change number released : Run β Unit)
      fun _ => True :=
    Ensures.modify fun world _ => soundAt_withDriver released fun _ _ _ => ⟨rfl, rfl⟩
  cases driver.manager with
  | none => exact letting_go
  | some manager =>
    refine (sound_of_leaves (BrowserManager.close_leavesDrivers manager)).bind fun _ _ => ?_
    exact letting_go

theorem start_sound (found : world.drivers[number]? = some driver) (sound : SoundAt number world) :
    SoundAt number (after (start number) world) := by
  rcases start_cases found with
    ⟨failure, failed⟩ | ⟨managed, managing, events, managers, made, there, opening⟩
  · rw [after_of_error failed]
    exact sound
  · have same : after (start number) world =
        after (openWith number driver world.managers.length) managed := by
      rw [after, opening, after]
    have setup := openWith_sameSetup number driver world.managers.length managed
    rw [same]
    exact .of_managed (setup.manager.trans (World.managerOf_of_found there))

theorem Use.sound (use : Use) (found : world.drivers[number]? = some driver)
    (sound : SoundAt number world) : SoundAt number (after (use.run number) world) := by
  have effect := use.effect found
  generalize after (use.run number) world = later at effect ⊢
  cases effect with
  | started => exact start_sound found sound
  | stopped ends passing => exact (stop_sound number _ (sound.of_same passing.drivers)).1
  | refused => exact sound
  | accepted accepts =>
    refine soundAt_withDriver _ fun driver there => ?_
    exact (sound driver there).of_equipment (Setting.equipment_of_update accepts driver)
  | passed other passing => exact sound.of_same passing.drivers

theorem Use.sound_of_runAll (uses : List Use) (found : world.drivers[number]? = some driver)
    (sound : SoundAt number world) : SoundAt number (Use.runAll number uses world) := by
  induction uses generalizing world driver with
  | nil => exact sound
  | cons use rest ih =>
    obtain ⟨now, there⟩ := use.found found
    exact ih there (use.sound found sound)

/-- With a manager made for its driver, opening a tab fails only halfway, and before the driver has
the tab. -/
theorem openWith_eq_error (found : world.managers[manager]? = some managing)
    (made : managing.MadeFor driver.headless driver.browserType)
    (failed : openWith number driver manager world = .error failure later) :
    later.drivers = world.drivers ∧
      ∃ added left, later.events = world.events ++ added ∧ Botched added left := by
  rcases BrowserManager.start_opens found with
    ⟨_, middle, added, left, starting, events, botched⟩ |
      ⟨middle, engine, options, starting, events, there, ⟨shown, named⟩, mode, told⟩
  · rw [openWith, bind_of_error starting] at failed
    cases failed
    have same := (BrowserManager.start_leavesDrivers manager).of_eq_error starting
    exact ⟨same.drivers, added, left, events, botched⟩
  · have same := (BrowserManager.start_leavesDrivers manager).of_eq_ok starting
    rw [openWith, bind_of_ok starting] at failed
    rcases bind_eq_error.mp failed with opening | ⟨session, tabbed, -, failed⟩
    · have still := (BrowserManager.newSession_leavesDrivers manager []).of_eq_error opening
      refine ⟨still.drivers.trans same.drivers, ?_⟩
      obtain ⟨merged, refused | ⟨opened, refused⟩⟩ :=
        BrowserManager.newSession_eq_error there rfl opening
      · refine ⟨_, _, ?_, .context engine managing.browserType options merged⟩
        rw [refused, events, List.append_assoc]
        rfl
      · refine ⟨_, _, ?_, .page engine opened managing.browserType options merged⟩
        rw [refused, events, List.append_assoc]
        rfl
    · -- what is told in the end has been told already
      have type : ∃ type, driver.browserType.spoken = .ok type := by
        rcases made.shown with same | known
        · exact ⟨shown, same ▸ named⟩
        · exact known
      obtain ⟨type, type_told⟩ := type
      rw [made.headless] at told
      rw [type_told, told] at failed
      cases failed

end PageDriver

open PageDriver (Setting Use)

namespace World

variable [Remote β]

/-- What a start that failed halfway leaves behind: what it opened is on record with the driver, the
driver does not take the settings that have to come before the start, and stopping it closes what was
left open. -/
structure Abandons (later : World β) (number : Nat) (left : List Resource) : Prop where
  held : (later.held number).Perm left
  refuses : ∀ setting : Setting, setting.needsUnstarted = true →
    setting.apply number later = .error Setting.tooLate later
  closable : GivesBack number later (after (PageDriver.stop number) later) left

/-- What comes of a start that fails: there is neither a tab nor a factory, and nothing has happened
at all or the start has failed halfway and has left open what it had opened. -/
structure GivesUp (before later : World β) (number : Nat) : Prop where
  session : PageDriver.sessionOf number later =
    .error (.outOfTurn "no session outside of a test") later
  factory : PageDriver.factoryOf number later =
    .error (.outOfTurn "no factory outside of a test") later
  outcome : later = before ∨ ∃ left, Botched (later.since before) left ∧
    stillOpen (later.since before) = left ∧ later.Abandons number left

end World

namespace PageDriver

variable [Remote β] {number : Nat} {driver : PageDriver} {world later : World β} {failure : Failure}

theorem givesUp_of_found (found : world.drivers[number]? = some driver)
    (unstarted : driver.manager = none) (sound : driver.Sound)
    (failed : start number world = .error failure later) : world.GivesUp later number := by
  obtain ⟨noSession, noFactory⟩ := sound unstarted
  rcases start_cases found with
    ⟨_, nothing⟩ | ⟨managed, managing, began, managers, made, there, opening⟩
  · rw [nothing] at failed
    cases failed
    obtain ⟨session, factory⟩ := outside_of_test found noSession noFactory
    exact ⟨session, factory, .inl rfl⟩
  · rw [opening] at failed
    have listed : managed.managers[world.managers.length]? = some managing := by
      rw [managers, List.getElem?_concat_length]
    obtain ⟨drivers, added, left, events, botched⟩ := openWith_eq_error listed made failed
    rw [← drivers] at there
    obtain ⟨session, factory⟩ := outside_of_test there noSession noFactory
    refine ⟨session, factory, .inr ⟨left, ?_⟩⟩
    rw [World.since_of_events (events.trans (congrArg (· ++ added) began))]
    -- what has been opened is what the manager has on record
    obtain ⟨recorded, now, records, -⟩ := openWith_records listed made.idle number driver
    rw [after_of_error failed] at records
    cases List.append_cancel_left (events.symm.trans records.events)
    have held : (later.held number).Perm left := by
      rw [World.held_of_managed (World.managerOf_of_found there) records.found, ← botched.opened_eq]
      exact records.recorded.symm
    obtain ⟨closing, stopped, closes⟩ := stop_givesBack number later
    refine ⟨botched, botched.stillOpen_eq, held, ?_, closing, stopped, ?_⟩
    · intro setting needs
      exact Setting.apply_of_started there rfl setting needs
    · intro yields
      obtain ⟨opensNone, closesAll, empty⟩ := closes yields
      exact ⟨opensNone, closesAll.trans held, empty⟩

end PageDriver

/-- A scripted browser that carries out so many commands and refuses all others. -/
structure FrailBrowser where
  inner : ScriptedBrowser := {}
  left : Nat

instance : Remote FrailBrowser where
  answer browser command :=
    match browser.left with
    | 0 => (.error "Target closed", browser)
    | left + 1 =>
      let (answer, inner) := browser.inner.answer command
      (answer, { inner, left })

namespace Trial

/-- A world with a driver that has not been used yet, whose browser carries out so many commands. -/
def frailWorld (left : Nat) : World FrailBrowser where
  browser := { left }
  clock := default
  drivers := [driver]

end Trial
end PageContracts
