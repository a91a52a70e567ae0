import PageContracts.Proofs.Ledger

/-! # Lifetimes

What is opened for a page driver is closed when the driver is stopped, unless the driver has been
started once more in the meantime: then it knows no longer of what was open before. -/
namespace PageContracts

open Runs
open World (Adds)
open Event (opened closed AllYield Plain stillOpen)

variable {β α : Type}

/-- What the driver of a number holds: whatever its manager has on record as open. -/
def World.held (world : World β) (number : Nat) : List Resource :=
  (((world.managerOf number).bind fun manager => world.managers[manager]?).map
    BrowserManager.holds).getD []

namespace World

variable {number manager : Nat} {world later : World β} {managing : BrowserManager}

theorem held_of_unmanaged (none : world.managerOf number = none) : world.held number = [] := by
  rw [held, none]
  rfl

theorem held_of_missing (owned : world.managerOf number = some manager)
    (missing : world.managers[manager]? = none) : world.held number = [] := by
  rw [held, owned]
  simp [missing]

theorem held_of_managed (owned : world.managerOf number = some manager)
    (found : world.managers[manager]? = some managing) :
    world.held number = managing.holds := by
  rw [held, owned]
  simp [found]

theorem Adds.held_eq {kind : Event → Prop} (h : Adds kind world later) :
    later.held number = world.held number := by
  rw [held, held, managerOf, managerOf, h.drivers, h.managers]

/-- What a use of a driver does to what it holds: it opens and closes, and forsakes what it does not
hold any longer although it is open. -/
def Settles (number : Nat) (before later : World β) (forsaken : List Resource) : Prop :=
  ∃ added, later.events = before.events ++ added ∧
    (AllYield added →
      (before.held number ++ opened added).Perm
        (closed added ++ (later.held number ++ forsaken)))

theorem settles_of_adds (h : Adds Plain world later) : Settles number world later [] := by
  obtain ⟨added, grown, plain⟩ := h.events
  refine ⟨added, grown, fun _ => ?_⟩
  rw [Event.opened_of_plain plain, Event.closed_of_plain plain, h.held_eq]
  exact List.Perm.refl _

theorem settles_of_same (events : later.events = world.events)
    (held : later.held number = world.held number) : Settles number world later [] := by
  refine ⟨[], by rw [events, List.append_nil], fun _ => ?_⟩
  rw [held]
  exact List.Perm.refl _

theorem Settles.trans {last : World β} {first second : List Resource}
    (h : Settles number world later first) (k : Settles number later last second) :
    Settles number world last (second ++ first) := by
  obtain ⟨added, grown, balance⟩ := h
  obtain ⟨more, grows, rebalance⟩ := k
  refine ⟨added ++ more, by rw [grows, grown, List.append_assoc], fun yields => ?_⟩
  have early := balance yields.left
  have late := rebalance yields.right
  refine List.perm_iff_count.mpr fun resource => ?_
  have earlyCount := early.count_eq resource
  have lateCount := late.count_eq resource
  simp only [Event.opened_append, Event.closed_append, List.count_append] at earlyCount lateCount ⊢
  omega

/-- What it is to give back what a driver held: unless the browser refuses to close something, all of
it is closed, nothing is opened, and the driver holds nothing any more. -/
def GivesBack (number : Nat) (before later : World β) (resources : List Resource) : Prop :=
  ∃ added, later.events = before.events ++ added ∧
    (AllYield added →
      opened added = [] ∧ (closed added).Perm resources ∧ later.held number = [])

theorem givesBack_nothing (events : later.events = world.events) (before : world.held number = [])
    (after : later.held number = []) : GivesBack number world later (world.held number) := by
  refine ⟨[], by rw [events, List.append_nil], fun _ => ⟨rfl, ?_, after⟩⟩
  rw [before]
  exact List.Perm.refl _

end World

open World (Settles GivesBack)

namespace PageDriver

variable {number manager : Nat} {driver : PageDriver} {world later : World β}
  {managing : BrowserManager}

/-- Starting a driver forsakes what it held, if it gets another manager. -/
def forsaken (number : Nat) (before later : World β) : List Resource :=
  if later.managerOf number = before.managerOf number then [] else before.held number

theorem forsaken_of_new (new : later.managerOf number = some world.managers.length) :
    forsaken number world later = world.held number := by
  unfold forsaken
  split
  · next same =>
    have missing : world.managers[world.managers.length]? = none :=
      List.getElem?_eq_none (Nat.le_refl _)
    exact (World.held_of_missing (same.symm.trans new) missing).symm
  · rfl

/-- A driver without what it has only while it is started. -/
def released (driver : PageDriver) : PageDriver :=
  { driver with manager := none, session := none, factory := none }

theorem held_of_released (world : World β) :
    (world.withDriver number released).held number = [] := by
  refine World.held_of_unmanaged ?_
  rw [World.managerOf, World.withDriver, List.getElem?_modify_eq]
  cases world.drivers[number]? <;> rfl

variable [Remote β]

/-- However the opening of an idle manager ends, what has been opened is on record with it. -/
theorem openWith_records (found : world.managers[manager]? = some managing)
    (idle : managing.holds = []) (number : Nat) (driver : PageDriver) :
    BrowserManager.Recording manager world (after (openWith number driver manager) world) := by
  refine Ensures.after_bind (BrowserManager.start_records found idle) fun _ => ?_
  refine (BrowserManager.newSession_records []).bind fun session _ => ?_
  have quietly {run : Run β Unit} (h : AddsOnly Plain run) :
      Ensures (BrowserManager.Recording manager world) run fun _ => True :=
    BrowserManager.recording_of_addsOnly h
  refine Ensures.bind (Ensures.modify fun _ records => records.elsewhere rfl rfl) fun _ _ => ?_
  refine (quietly (AddsOnly.log _ _)).bind fun _ _ => ?_
  refine (quietly (AddsOnly.log _ _)).bind fun _ _ => ?_
  refine (Ensures.check _).bind fun _ _ => (Ensures.check _).bind fun _ _ => ?_
  exact quietly (AddsOnly.log _ _)

/-- Starting a driver gives it an idle manager to open a tab with, if one can be made. -/
theorem start_cases (found : world.drivers[number]? = some driver) :
    (∃ failure, start number world = .error failure world) ∨
      ∃ (managed : World β) (managing : BrowserManager), managed.events = world.events ∧
        managed.managers = world.managers ++ [managing] ∧
        managing.MadeFor driver.headless driver.browserType ∧
        managed.drivers[number]? = some { driver with manager := some world.managers.length } ∧
        start number world = openWith number driver world.managers.length managed := by
  rw [start_eq, bind_of_ok (find_of_found found)]
  cases making : BrowserManager.create driver.headless driver.browserType world with
  | error failure later =>
    cases BrowserManager.create_eq_error making
    exact .inl ⟨failure, bind_of_error making _⟩
  | ok manager later =>
    obtain ⟨rfl, events, managing, managers, made⟩ := BrowserManager.create_eq_ok making
    have there : later.drivers[number]? = some driver := by
      rw [((BrowserManager.create_leavesDrivers _ _).of_eq_ok making).drivers, found]
    refine .inr ⟨later.withDriver number fun driver =>
      { driver with manager := some world.managers.length }, managing, events, managers, made, ?_, ?_⟩
    · exact drivers_of_withDriver there _
    · rw [bind_of_ok making]
      rfl

theorem start_settles (found : world.drivers[number]? = some driver) :
    Settles number world (after (start number) world)
      (forsaken number world (after (start number) world)) := by
  rcases start_cases found with
    ⟨failure, failed⟩ | ⟨managed, managing, events, managers, made, there, opening⟩
  · rw [after_of_error failed]
    refine ⟨[], (List.append_nil _).symm, fun _ => ?_⟩
    simp [forsaken, opened, closed]
  · have same : after (start number) world =
        after (openWith number driver world.managers.length) managed := by
      rw [after, opening, after]
    have listed : managed.managers[world.managers.length]? = some managing := by
      rw [managers, List.getElem?_concat_length]
    rw [same]
    obtain ⟨added, now, records, -⟩ :=
      openWith_records listed made.idle number driver
    have managed' : (after (openWith number driver world.managers.length) managed).managerOf number =
        some world.managers.length := by
      rw [(openWith_sameSetup number driver _ managed).manager, World.managerOf_of_found there]
    refine ⟨added, by rw [records.events, events], fun _ => ?_⟩
    rw [forsaken_of_new managed', World.held_of_managed managed' records.found, records.kept]
    exact List.perm_append_comm.trans (records.recorded.append_right _)

/-- Close the browser of a driver, if one was started, and let go of it. -/
def release (number : Nat) : Run β Unit := do
  match (← find number).manager with
  | none => pure ()
  | some manager => BrowserManager.close manager
  change number released

theorem stop_eq (number : Nat) :
    (stop number : Run β Unit) = (do
      Run.log .info (separator ++ "\n")
      release number) :=
  rfl

theorem release_givesBack (world : World β) :
    GivesBack number world (after (release number) world) (world.held number) := by
  cases found : world.drivers[number]? with
  | none =>
    have unmanaged : world.held number = [] :=
      World.held_of_unmanaged (by rw [World.managerOf, found]; rfl)
    have lost : after (release number) world = world := by
      rw [release, find, bind_assoc, after_get_bind, found]
      rfl
    exact World.givesBack_nothing (by rw [lost]) unmanaged (by rw [lost, unmanaged])
  | some driver =>
    have owned := World.managerOf_of_found found
    cases managed : driver.manager with
    | none =>
      have unmanaged : world.held number = [] :=
        World.held_of_unmanaged (owned.trans managed)
      have let_go : after (release number) world = world.withDriver number released := by
        rw [release, after_bind_of_ok (find_of_found found), managed]
        rfl
      exact World.givesBack_nothing (by rw [let_go]; rfl) unmanaged (by rw [let_go, held_of_released])
    | some manager =>
      have closing : after (release number) world =
          after (BrowserManager.close manager >>= fun _ => change number released) world := by
        rw [release, after_bind_of_ok (find_of_found found), managed]
      rw [managed] at owned
      cases listed : world.managers[manager]? with
      | none =>
        have unmanaged := World.held_of_missing owned listed
        have missing : BrowserManager.close manager world = .error (.missing "manager") world :=
          bind_of_error (BrowserManager.find_of_missing listed) _
        have lost : after (release number) world = world := by
          rw [closing, after_bind_of_error missing]
        exact World.givesBack_nothing (by rw [lost]) unmanaged (by rw [lost, unmanaged])
      | some managing =>
        obtain ⟨added, grown, closes⟩ := BrowserManager.close_closes listed
        rw [closing, World.held_of_managed owned listed]
        cases ran : BrowserManager.close manager world with
        | ok u later =>
          rw [after_of_ok ran] at grown closes
          rw [after_bind_of_ok ran]
          refine ⟨added, grown, fun yields => ?_⟩
          obtain ⟨opensNone, closesAll, -⟩ := closes yields
          exact ⟨opensNone, closesAll, held_of_released later⟩
        | error failure later =>
          rw [after_of_error ran] at grown closes
          rw [after_bind_of_error ran]
          refine ⟨added, grown, fun yields => ?_⟩
          obtain ⟨opensNone, closesAll, left, found, empty⟩ := closes yields
          have kept := (BrowserManager.close_leavesDrivers manager).of_eq_error ran
          have owned' : later.managerOf number = some manager := by
            rw [World.managerOf, kept.drivers]
            exact owned
          exact ⟨opensNone, closesAll, by rw [World.held_of_managed owned' found, empty]⟩

/-- Stopping a driver gives back all that it holds. -/
theorem stop_givesBack (number : Nat) (world : World β) :
    GivesBack number world (after (stop number) world) (world.held number) := by
  let logged : World β := { world with
    records := world.records ++ [{ level := .info, message := separator ++ "\n" }] }
  have logging : Run.log .info (separator ++ "\n") world = .ok () logged := rfl
  rw [stop_eq, after_bind_of_ok logging]
  exact release_givesBack logged

theorem stop_settles (number : Nat) (world : World β) : Settles number world (after (stop number) world) [] := by
  obtain ⟨added, grown, closes⟩ := stop_givesBack number world
  refine ⟨added, grown, fun yields => ?_⟩
  obtain ⟨opensNone, closesAll, empty⟩ := closes yields
  rw [opensNone, empty, List.append_nil, List.append_nil, List.append_nil]
  exact closesAll.symm

namespace Use

/-- What a driver forsakes in a use. -/
def forsakes (number : Nat) (world : World β) (use : Use) : List Resource :=
  match use with
  | .start => forsaken number world (after (use.run number) world)
  | _ => []

/-- What a driver forsakes in some uses, the latest first. -/
def forsakesAll (number : Nat) : List Use → World β → List Resource
  | [], _ => []
  | use :: rest, world =>
    forsakesAll number rest (after (use.run number) world) ++ forsakes number world use

theorem forsakes_of_other {use : Use} (other : use ≠ .start) : forsakes number world use = [] := by
  cases use with
  | start => exact (other rfl).elim
  | _ => rfl

theorem other_of_ends {use : Use} (ends : use.ends = true) : use ≠ .start := by
  rintro rfl
  cases ends

theorem settles (use : Use) (found : world.drivers[number]? = some driver) :
    Settles number world (after (use.run number) world) (forsakes number world use) := by
  have effect := use.effect found
  generalize after (use.run number) world = later at effect ⊢
  cases effect with
  | started => exact start_settles found
  | stopped ends passing =>
    rw [forsakes_of_other (other_of_ends ends)]
    exact (World.settles_of_adds (passing.imp Event.plain_of_passing)).trans (stop_settles number _)
  | refused => exact World.settles_of_same rfl rfl
  | accepted accepts =>
    refine World.settles_of_same rfl ?_
    have manager : (world.withDriver number _).managerOf number = world.managerOf number :=
      World.managerOf_withDriver (Setting.manager_of_update accepts)
    rw [World.held, manager]
    rfl
  | passed other passing =>
    rw [forsakes_of_other other]
    exact World.settles_of_adds (passing.imp Event.plain_of_passing)

theorem settles_of_runAll (uses : List Use) (found : world.drivers[number]? = some driver) :
    Settles number world (runAll number uses world) (forsakesAll number uses world) := by
  induction uses generalizing world driver with
  | nil => exact World.settles_of_same rfl rfl
  | cons use rest ih =>
    obtain ⟨now, there⟩ := use.found found
    exact (settles use found).trans (ih there)

/-- A use that ends the test leaves a driver with nothing. -/
theorem held_of_ends {use : Use} (ends : use.ends = true) (world : World β) :
    ∃ added, (after (use.run number) world).events = world.events ++ added ∧
      (AllYield added → (after (use.run number) world).held number = []) := by
  obtain ⟨documented, passing, stopped⟩ := stops_of_ends ends number world
  obtain ⟨first, grown, -⟩ := passing.events
  obtain ⟨added, grows, closes⟩ := stop_givesBack number documented
  rw [stopped]
  refine ⟨first ++ added, by rw [grows, grown, List.append_assoc], fun yields => ?_⟩
  exact (closes yields.right).2.2

/-- No start comes upon a driver that is started. -/
def Apart (number : Nat) : List Use → World β → Prop
  | [], _ => True
  | use :: rest, world =>
    (use = .start → world.isStarted number = false) ∧ Apart number rest (after (use.run number) world)

/-- A driver that is started only when it is not started forsakes nothing. -/
theorem forsakesAll_of_apart {uses : List Use} (apart : Apart number uses world) :
    forsakesAll number uses world = [] := by
  induction uses generalizing world with
  | nil => rfl
  | cons use rest ih =>
    obtain ⟨unstarted, others⟩ := apart
    have nothing : forsakes number world use = [] := by
      by_cases starts : use = .start
      · subst starts
        have free := World.unmanaged_of_unstarted (unstarted rfl)
        change forsaken number world _ = []
        unfold forsaken
        split
        · rfl
        · exact World.held_of_unmanaged free
      · exact forsakes_of_other starts
    rw [forsakesAll, ih others, nothing]
    rfl

end Use

/-- When a test has ended, nothing is still open of what was opened for its driver but what the
driver has forsaken by being started while it was started. -/
theorem stillOpen_of_ended (found : world.drivers[number]? = some driver)
    (unstarted : driver.manager = none) (uses : List Use) {last : Use} (ends : last.ends = true)
    (yields : AllYield ((Use.runAll number (uses ++ [last]) world).since world)) :
    (stillOpen ((Use.runAll number (uses ++ [last]) world).since world)).Perm
        (Use.forsakesAll number uses world) ∧
      (Use.Apart number uses world →
        stillOpen ((Use.runAll number (uses ++ [last]) world).since world) = []) := by
  have ending : Use.runAll number (uses ++ [last]) world =
      after (last.run number) (Use.runAll number uses world) := by
    rw [Use.runAll, List.foldl_append]
    rfl
  rw [ending] at yields ⊢
  obtain ⟨now, there⟩ := Use.found_of_runAll uses found
  have account := (Use.settles_of_runAll uses found).trans (last.settles there)
  obtain ⟨first, began, -⟩ := Use.settles_of_runAll uses found
  obtain ⟨rest, ended, empty⟩ := Use.held_of_ends ends (Use.runAll number uses world)
  have emptied : (after (last.run number) (Use.runAll number uses world)).held number = [] := by
    rw [World.since_of_events (by rw [ended, began, List.append_assoc])] at yields
    exact empty yields.right
  obtain ⟨added, grown, balance⟩ := account
  rw [World.since_of_events grown] at yields ⊢
  have forsakesNothing : last.forsakes number (Use.runAll number uses world) = [] :=
    Use.forsakes_of_other (Use.other_of_ends ends)
  have empty : world.held number = [] :=
    World.held_of_unmanaged ((World.managerOf_of_found found).trans unstarted)
  have left := balance yields
  rw [empty, emptied, forsakesNothing] at left
  have stays := Event.stillOpen_perm left
  refine ⟨stays, fun apart => ?_⟩
  rw [Use.forsakesAll_of_apart apart] at stays
  exact stays.eq_nil

end PageDriver

namespace Trial

open PageDriver (Use)

/-- Two tests, one after the other, of which the second fails. -/
def tests : List Use := [.start, .takeScreenshot "shot", .stop, .start]

/-- When both tests have ended, nothing is open. -/
theorem nothing_open_after_tests :
    world.drivers[0]? = some driver ∧ driver.manager = none ∧
      AllYield ((Use.runAll 0 (tests ++ [.leave true]) world).since world) ∧
      Use.Apart 0 tests world ∧
      stillOpen ((Use.runAll 0 (tests ++ [.leave true]) world).since world) = [] := by
  have found : world.drivers[0]? = some driver := rfl
  have yields : AllYield ((Use.runAll 0 (tests ++ [.leave true]) world).since world) := by
    decide +kernel
  have again : (Use.runAll 0 (tests.take 3) world).isStarted 0 = false := by
    decide +kernel
  have apart : Use.Apart 0 tests world :=
    ⟨fun _ => rfl, nofun, nofun, fun _ => again, trivial⟩
  exact ⟨found, rfl, yields, apart,
    (PageDriver.stillOpen_of_ended found rfl tests rfl yields).2 apart⟩

/-- The browser refused to do something. -/
def refusal : Event → Bool
  | .command _ .refused => true
  | _ => false

/-- The browser that a driver has started first is still open after the driver has been started once
more and been stopped, although the browser has refused nothing. -/
theorem first_browser_left_open :
    ((Use.runAll 0 [.start, .start, .stop] world).since world).any refusal = false ∧
      (Use.runAll 0 [.start, .start, .stop] world).isStarted 0 = false ∧
      stillOpen ((Use.runAll 0 [.start, .start, .stop] world).since world) =
        [.automation 0, .browser 0, .context { driver := 0, number := 0 }] := by
  decide +kernel

end Trial
end PageContracts
