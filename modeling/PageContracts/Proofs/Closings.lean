import PageContracts.Proofs.Contexts

/-! # Closing a manager

Whatever has become of a manager, closing it asks first for its contexts to be closed, and none of them
stands in the way. Then it closes its browser and stops its automation driver. Where the browser refuses
to be closed, the driver is not stopped any more; and what a manager has launched before it was started
once more it knows nothing of. -/
namespace PageContracts

open Runs
open Event (AllEnd Closings)

variable {β α : Type}

namespace Event

/-- The automation driver or the browser that an event launched. -/
def launched? : Event → Option Resource
  | .command .startDriver (.done (some driver)) => some (.automation driver)
  | .command (.launch driver _ _) (.done _) => some (.browser driver)
  | _ => none

/-- The automation driver or the browser that an event ended. -/
def ended? : Event → Option Resource
  | .command (.stopDriver driver) (.done _) => some (.automation driver)
  | .command (.closeBrowser driver) (.done _) => some (.browser driver)
  | _ => none

def launched (events : List Event) : List Resource :=
  events.filterMap launched?

def ended (events : List Event) : List Resource :=
  events.filterMap ended?

@[simp] theorem launched_append (first second : List Event) :
    launched (first ++ second) = launched first ++ launched second :=
  List.filterMap_append

@[simp] theorem ended_append (first second : List Event) :
    ended (first ++ second) = ended first ++ ended second :=
  List.filterMap_append

variable {contexts : List ContextRef} {events : List Event}

theorem Closings.lasting (h : Closings contexts events) : launched events = [] ∧ ended events = [] := by
  induction h with
  | nil => exact ⟨rfl, rfl⟩
  | cons closes _ ih =>
    obtain ⟨outcome, rfl⟩ := closes
    exact ih

theorem Closings.allEnd (h : Closings contexts events) : AllEnd events := by
  induction h with
  | nil => exact fun _ listed => (List.not_mem_nil listed).elim
  | cons closes _ ih =>
    obtain ⟨outcome, rfl⟩ := closes
    exact List.forall_mem_cons.mpr ⟨rfl, ih⟩

end Event

namespace BrowserManager

/-- The automation driver and the browser that a manager has on record. -/
def engines (manager : BrowserManager) : List Resource :=
  manager.driver.toList.map .automation ++ manager.browser.toList.map .browser

def browserClosed (manager : BrowserManager) : List Event :=
  manager.browser.toList.map fun browser => .command (.closeBrowser browser) (.done none)

def driverStopped (manager : BrowserManager) : List Event :=
  manager.driver.toList.map fun driver => .command (.stopDriver driver) (.done none)

/-- What is asked when the contexts of a manager have been closed, and what the manager has on record
then. -/
inductive Shuts (manager : BrowserManager) : List Event → BrowserManager → Prop
  | browserStays {browser : Nat} (running : manager.browser = some browser) :
      Shuts manager [.command (.closeBrowser browser) .refused] { manager with contexts := [] }
  | driverStays {driver : Nat} (started : manager.driver = some driver) :
      Shuts manager (manager.browserClosed ++ [.command (.stopDriver driver) .refused])
        { manager with contexts := [], browser := none }
  | all : Shuts manager (manager.browserClosed ++ manager.driverStopped)
      { manager with contexts := [], browser := none, driver := none }

variable {number driver browser : Nat} {manager left : BrowserManager} {events : List Event}
  {world later : World β}

theorem allEnd_browserClosed (manager : BrowserManager) : AllEnd manager.browserClosed := by
  intro event listed
  obtain ⟨browser, -, rfl⟩ := List.mem_map.mp listed
  rfl

theorem allEnd_driverStopped (manager : BrowserManager) : AllEnd manager.driverStopped := by
  intro event listed
  obtain ⟨driver, -, rfl⟩ := List.mem_map.mp listed
  rfl

/-- A manager has nothing on record any more just when neither its browser nor its automation driver
stayed on. -/
theorem Shuts.idle_iff (h : Shuts manager events left) : left.holds = [] ↔ AllEnd events := by
  cases h with
  | browserStays running =>
    constructor
    · intro idle
      cases (BrowserManager.idle_iff.mp idle).2.1.symm.trans running
    · intro ends
      cases ends _ List.mem_cons_self
  | driverStays started =>
    constructor
    · intro idle
      cases (BrowserManager.idle_iff.mp idle).1.symm.trans started
    · intro ends
      cases ends.right _ List.mem_cons_self
  | all =>
    constructor
    · intro _ event listed
      rcases List.mem_append.mp listed with early | late
      · exact allEnd_browserClosed manager event early
      · exact allEnd_driverStopped manager event late
    · exact fun _ => rfl

theorem Shuts.asks_browser (h : Shuts manager events left) (running : manager.browser = some browser) :
    ∃ outcome, .command (.closeBrowser browser) outcome ∈ events := by
  have closed : .command (.closeBrowser browser) (.done none) ∈ manager.browserClosed := by
    rw [browserClosed, running]
    exact List.mem_cons_self
  cases h with
  | browserStays same =>
    cases running.symm.trans same
    exact ⟨.refused, List.mem_cons_self⟩
  | driverStays => exact ⟨_, List.mem_append_left _ closed⟩
  | all => exact ⟨_, List.mem_append_left _ closed⟩

theorem Shuts.stops_iff (h : Shuts manager events left) (started : manager.driver = some driver) :
    .command (.stopDriver driver) (.done none) ∈ events ↔ AllEnd events := by
  have other : .command (.stopDriver driver) (.done none) ∉ manager.browserClosed := by
    intro listed
    obtain ⟨browser, -, same⟩ := List.mem_map.mp listed
    cases same
  rw [← h.idle_iff]
  cases h with
  | browserStays running =>
    constructor
    · intro listed
      cases List.mem_singleton.mp listed
    · intro idle
      cases (BrowserManager.idle_iff.mp idle).2.1.symm.trans running
  | driverStays =>
    constructor
    · intro listed
      rcases List.mem_append.mp listed with early | late
      · exact (other early).elim
      · cases List.mem_singleton.mp late
    · intro idle
      cases (BrowserManager.idle_iff.mp idle).1.symm.trans started
  | all =>
    have stopped : .command (.stopDriver driver) (.done none) ∈ manager.driverStopped := by
      rw [driverStopped, started]
      exact List.mem_cons_self
    exact ⟨fun _ => rfl, fun _ => List.mem_append_right _ stopped⟩

variable [Remote β]

/-- What comes of a run that ends something, if it is on record, and takes it off the record. -/
def EndsOrStays (number : Nat) (world : World β) (run : Run β Unit) (command : Nat → Command)
    (engine? : Option Nat) (manager left : BrowserManager) : Prop :=
  (∃ engine failure later, engine? = some engine ∧ run world = .error failure later ∧
    failure.kind = .browser ∧
    later.events = world.events ++ [.command (command engine) .refused] ∧
    later.managers[number]? = some manager) ∨
  ∃ later, run world = .ok () later ∧
    later.events = world.events ++
      engine?.toList.map (fun engine => .command (command engine) (.done none)) ∧
    later.managers[number]? = some left

theorem endsOrStays_of_asked (found : world.managers[number]? = some manager) {engine? : Option Nat}
    {run : Run β Unit} (command : Nat → Command) (update : BrowserManager → BrowserManager)
    (opens : ∀ engine answer, (command engine).opened? answer = none)
    (absent : engine? = none → run = pure () ∧ update manager = manager)
    (present : ∀ engine, engine? = some engine → run = do
      let _ ← Run.ask (command engine)
      change number update) :
    EndsOrStays number world run command engine? manager (update manager) := by
  cases engine? with
  | none =>
    obtain ⟨nothing, same⟩ := absent rfl
    refine .inr ⟨world, ?_, (List.append_nil _).symm, ?_⟩
    · rw [nothing, pure_apply]
    · rw [found, same]
  | some engine =>
    rw [present engine rfl]
    rcases Run.ask_cases (command engine) world with
      ⟨answer, browser, asked⟩ | ⟨message, browser, asked⟩
    · refine .inr ⟨_, bind_of_ok asked _, ?_, ?_⟩
      · rw [opens]
        rfl
      · exact found_of_withManager { world with browser, events := _ } found _
    · exact .inl ⟨engine, _, _, rfl, bind_of_error asked _, rfl, rfl, found⟩

theorem closeBrowser_endsOrStays (found : world.managers[number]? = some manager) :
    EndsOrStays number world (closeBrowser number manager.browser) .closeBrowser manager.browser
      manager { manager with browser := none } := by
  refine endsOrStays_of_asked found .closeBrowser (fun manager => { manager with browser := none })
    (fun _ _ => rfl) (fun none => ?_) fun browser running => ?_
  · rw [none]
    exact ⟨rfl, congrArg (fun browser => { manager with browser }) none.symm⟩
  · rw [running]
    rfl

theorem stopDriver_endsOrStays (found : world.managers[number]? = some manager) :
    EndsOrStays number world (stopDriver number manager.driver) .stopDriver manager.driver
      manager { manager with driver := none } := by
  refine endsOrStays_of_asked found .stopDriver (fun manager => { manager with driver := none })
    (fun _ _ => rfl) (fun none => ?_) fun driver started => ?_
  · rw [none]
    exact ⟨rfl, congrArg (fun driver => { manager with driver }) none.symm⟩
  · rw [started]
    rfl

/-- Closing a manager asks for its contexts, newest first, and shuts down what else it has on record. It
fails with what the browser says where something stays on. -/
theorem close_shuts (found : world.managers[number]? = some manager) :
    ∃ closings ended left, Closings manager.contexts.reverse closings ∧
      (after (close number) world).events = world.events ++ (closings ++ ended) ∧
      (after (close number) world).managers[number]? = some left ∧ Shuts manager ended left ∧
      (¬ AllEnd ended → ∃ failure, close number world = .error failure (after (close number) world) ∧
        failure.kind = .browser) := by
  obtain ⟨closings, emptied, closes, closed, events, there⟩ :=
    closeContexts_eq_ok [] manager.contexts.reverse found (List.reverse_reverse _).symm
  let telling : Run β Unit := do
    Run.log .debug ("Closed " ++ (← Run.ofExcept manager.shownType.spoken))
  have ending : close number world = (do
      closeBrowser number manager.browser
      stopDriver number manager.driver
      telling : Run β Unit) emptied := by
    rw [close, bind_of_ok (find_of_found found)]
    exact bind_of_ok closes _
  rw [after_of_eq ending, ending]
  rcases closeBrowser_endsOrStays there with
    ⟨browser, failure, middle, running, failed, kind, refused, kept⟩ | ⟨middle, goes, done, kept⟩
  · have stuck := bind_of_error failed fun _ => (do stopDriver number manager.driver; telling : Run β Unit)
    rw [after_of_error stuck]
    refine ⟨closings, _, _, closed, ?_, kept, .browserStays running, fun _ => ⟨failure, stuck, kind⟩⟩
    rw [refused, events, List.append_assoc]
  · rw [after_bind_of_ok goes, bind_of_ok goes]
    rcases stopDriver_endsOrStays kept with
      ⟨driver, failure, later, started, failed, kind, refused, kept⟩ | ⟨later, goes, stopped, kept⟩
    · have stuck := bind_of_error failed fun _ => telling
      rw [after_of_error stuck]
      refine ⟨closings, _, _, closed, ?_, kept, .driverStays started, fun _ => ⟨failure, stuck, kind⟩⟩
      rw [refused, done, events]
      simp only [List.append_assoc]
      rfl
    · obtain ⟨told, managers⟩ := tellClosed_quiet manager later
      rw [after_bind_of_ok goes]
      refine ⟨closings, _, _, closed, ?_, managers ▸ kept, .all, fun stays => ?_⟩
      · refine told.trans ?_
        rw [stopped, done, events]
        simp only [List.append_assoc]
        rfl
      · exact (stays (Shuts.all.idle_iff.mp rfl)).elim

end BrowserManager

/-- A manager has the same automation driver and browser on record, and none has been launched or ended. -/
structure World.SameEngines (number : Nat) (before later : World β) : Prop where
  engines : (later.managers[number]?).map BrowserManager.engines =
    (before.managers[number]?).map BrowserManager.engines
  events : ∃ added, later.events = before.events ++ added ∧ Event.launched added = [] ∧
    Event.ended added = []

instance (number : Nat) : IsPreorder (World β) (World.SameEngines number) where
  refl _ := ⟨rfl, [], (List.append_nil _).symm, rfl, rfl⟩
  trans _ _ _ hab hbc := by
    obtain ⟨first, begun, launchesNone, endsNone⟩ := hab.events
    obtain ⟨second, grown, launchesNone', endsNone'⟩ := hbc.events
    refine ⟨hbc.engines.trans hab.engines, first ++ second, ?_, ?_, ?_⟩
    · rw [grown, begun, List.append_assoc]
    · rw [Event.launched_append, launchesNone, launchesNone', List.append_nil]
    · rw [Event.ended_append, endsNone, endsNone', List.append_nil]

open World (SameEngines)

namespace BrowserManager

variable {number : Nat} {manager : BrowserManager} {world middle later : World β}
  {lost more : List Resource} {events : List Event} {left : BrowserManager}

theorem change_sameEngines {update : BrowserManager → BrowserManager}
    (keeps : ∀ manager, (update manager).engines = manager.engines) :
    Moves (SameEngines number) (change number update : Run β Unit) := by
  refine Moves.modify fun world => ⟨?_, [], (List.append_nil _).symm, rfl, rfl⟩
  rw [List.getElem?_modify_eq]
  cases world.managers[number]? with
  | none => rfl
  | some manager => exact congrArg some (keeps manager)

theorem find_sameEngines (other : Nat) :
    Moves (SameEngines number) (find other : Run β BrowserManager) := by
  refine Moves.get.bind fun world => ?_
  split
  · exact Moves.pure _
  · exact Moves.throw _

theorem ask_sameEngines [Remote β] (command : Command)
    (launchesNone : ∀ outcome, Event.launched? (.command command outcome) = none)
    (endsNone : ∀ outcome, Event.ended? (.command command outcome) = none) :
    Moves (SameEngines number) (Run.ask command : Run β command.Answer) := by
  intro world
  have one outcome : Event.launched [.command command outcome] = [] ∧
      Event.ended [.command command outcome] = [] := by
    simp [Event.launched, Event.ended, launchesNone, endsNone]
  rcases Run.ask_cases command world with ⟨_, _, asked⟩ | ⟨_, _, asked⟩
  · rw [after_of_ok asked]
    exact ⟨rfl, _, rfl, one _⟩
  · rw [after_of_error asked]
    exact ⟨rfl, _, rfl, one _⟩

/-- What becomes of the automation drivers and browsers of a manager: what it had on record and what is
launched is ended, or is on record now, or is lost. -/
def Accounts (number : Nat) (before later : World β) (lost : List Resource) : Prop :=
  ∃ added old new, before.managers[number]? = some old ∧ later.managers[number]? = some new ∧
    later.events = before.events ++ added ∧
    (old.engines ++ Event.launched added).Perm (Event.ended added ++ (new.engines ++ lost))

theorem Accounts.found (h : Accounts number world later lost) :
    ∃ now, later.managers[number]? = some now := by
  obtain ⟨_, _, now, -, there, -, -⟩ := h
  exact ⟨now, there⟩

theorem Accounts.trans (h : Accounts number world middle lost)
    (k : Accounts number middle later more) : Accounts number world later (more ++ lost) := by
  obtain ⟨first, old, between, found, there, begun, balance⟩ := h
  obtain ⟨second, same, new, again, now, grown, rebalance⟩ := k
  cases there.symm.trans again
  refine ⟨first ++ second, old, new, found, now, by rw [grown, begun, List.append_assoc], ?_⟩
  refine List.perm_iff_count.mpr fun resource => ?_
  have early := balance.count_eq resource
  have late := rebalance.count_eq resource
  simp only [Event.launched_append, Event.ended_append, List.count_append] at early late ⊢
  omega

theorem accounts_of_same (found : world.managers[number]? = some manager)
    (same : SameEngines number world later) : Accounts number world later [] := by
  obtain ⟨added, grown, launchesNone, endsNone⟩ := same.events
  have engines := same.engines
  rw [found, Option.map_some, Option.map_eq_some_iff] at engines
  obtain ⟨now, there, kept⟩ := engines
  refine ⟨added, manager, now, found, there, grown, ?_⟩
  rw [launchesNone, endsNone, kept]
  exact List.Perm.refl _

/-- Of everything launched by some events, what a manager has on record of the same kind. -/
def forsaken (manager : BrowserManager) (events : List Event) : List Resource :=
  (Event.launched events).flatMap fun
    | .automation _ => manager.driver.toList.map .automation
    | .browser _ => manager.browser.toList.map .browser
    | .context _ => []

/-- Telling in the end that a browser is launched is no matter of the browser. -/
theorem tellLaunched_quiet (manager : BrowserManager) (world : World β) :
    (after (do
        Run.log .debug ("Launched " ++ (← Run.ofExcept manager.shownType.spoken) ++ " (headless=" ++
          (← Run.ofExcept manager.headless.spoken) ++ ")")) world).events = world.events ∧
    (after (do
        Run.log .debug ("Launched " ++ (← Run.ofExcept manager.shownType.spoken) ++ " (headless=" ++
          (← Run.ofExcept manager.headless.spoken) ++ ")")) world).managers = world.managers := by
  cases manager.shownType.spoken with
  | error failure => exact ⟨rfl, rfl⟩
  | ok shown => cases manager.headless.spoken <;> exact ⟨rfl, rfl⟩

variable [Remote β]

theorem newContext_sameEngines (options : List (String × Value)) :
    Moves (SameEngines number) (newContext number options : Run β ContextRef) := by
  refine (find_sameEngines number).bind fun manager => ?_
  split
  · exact Moves.throw _
  · refine (ask_sameEngines _ (fun _ => rfl) fun _ => rfl).bind fun opened => ?_
    refine Moves.bind (change_sameEngines ?_) fun _ => Moves.pure _
    exact fun _ => rfl

theorem newSession_sameEngines (options : List (String × Value)) :
    Moves (SameEngines number) (newSession number options : Run β Session) := by
  refine (newContext_sameEngines options).bind fun context => ?_
  exact (ask_sameEngines _ (fun _ => rfl) fun _ => rfl).bind fun _ => Moves.pure _

theorem Shuts.balance (h : Shuts manager events left) :
    Event.launched events = [] ∧ manager.engines.Perm (Event.ended events ++ left.engines) := by
  have browser : Event.launched manager.browserClosed = [] ∧
      Event.ended manager.browserClosed = manager.browser.toList.map .browser := by
    rw [browserClosed]
    cases manager.browser <;> exact ⟨rfl, rfl⟩
  have driver : Event.launched manager.driverStopped = [] ∧
      Event.ended manager.driverStopped = manager.driver.toList.map .automation := by
    rw [driverStopped]
    cases manager.driver <;> exact ⟨rfl, rfl⟩
  cases h with
  | browserStays => exact ⟨rfl, List.Perm.refl _⟩
  | driverStays =>
    rw [Event.launched_append, Event.ended_append, browser.1, browser.2]
    refine ⟨rfl, ?_⟩
    change List.Perm _ (_ ++ [] ++ (manager.driver.toList.map Resource.automation ++ []))
    rw [List.append_nil, List.append_nil]
    exact List.perm_append_comm
  | all =>
    rw [Event.launched_append, Event.ended_append, browser.1, browser.2, driver.1, driver.2]
    refine ⟨rfl, ?_⟩
    change List.Perm _ (_ ++ [])
    rw [List.append_nil]
    exact List.perm_append_comm

theorem close_accounts (found : world.managers[number]? = some manager) :
    Accounts number world (after (close number) world) [] := by
  obtain ⟨closings, ended, left, closed, events, there, shuts, -⟩ := close_shuts found
  obtain ⟨launchesNone, balance⟩ := shuts.balance
  refine ⟨closings ++ ended, manager, left, found, there, events, ?_⟩
  rw [Event.launched_append, Event.ended_append, closed.lasting.1, closed.lasting.2, launchesNone]
  simpa only [List.append_nil, List.nil_append] using balance

/-- A manager that is started forsakes what it had on record, as far as it launches another one. -/
theorem start_accounts (found : world.managers[number]? = some manager) :
    Accounts number world (after (start number) world)
      (manager.forsaken ((after (start number) world).since world)) := by
  have accounted {later : World β} {added : List Event} {new : BrowserManager}
      (events : later.events = world.events ++ added) (there : later.managers[number]? = some new)
      (endsNone : Event.ended added = [])
      (balance : (manager.engines ++ Event.launched added).Perm
        (new.engines ++ manager.forsaken added)) :
      Accounts number world later (manager.forsaken (later.since world)) := by
    refine ⟨added, manager, new, found, there, events, ?_⟩
    rw [World.since_of_events events, endsNone]
    exact balance
  rw [start]
  rcases open_cases found .startDriver (fun driver manager => { manager with driver := some driver }) _
    with ⟨failure, later, failed, events, managers⟩ | ⟨driver, owning, goes, owned, there⟩
  · rw [after_of_error failed]
    exact accounted events (managers ▸ found) rfl (List.Perm.refl _)
  · rw [after_of_eq goes, after_bind_of_ok (find_of_found there)]
    rcases open_cases there (.launch driver manager.browserType _)
        (fun _ manager => { manager with browser := some driver }) _ with
      ⟨failure, later, failed, events, managers⟩ | ⟨_, running, goes, launched, there⟩
    · rw [after_of_error failed]
      rw [owned, List.append_assoc] at events
      refine accounted events (managers ▸ there) rfl ?_
      change List.Perm (manager.driver.toList.map Resource.automation ++
        manager.browser.toList.map Resource.browser ++ [Resource.automation driver])
        ([Resource.automation driver] ++ manager.browser.toList.map Resource.browser ++
          (manager.driver.toList.map Resource.automation ++ []))
      rw [List.append_nil, List.append_assoc _ _ (manager.driver.toList.map _)]
      exact List.perm_append_comm.trans (List.perm_append_comm.append_left _)
    · rw [after_of_eq goes]
      rw [owned, List.append_assoc] at launched
      obtain ⟨quiet, managers⟩ := tellLaunched_quiet manager running
      refine accounted (quiet.trans launched) (managers ▸ there) rfl ?_
      change List.Perm (manager.engines ++ [Resource.automation driver, Resource.browser driver])
        ([Resource.automation driver, Resource.browser driver] ++
          (manager.driver.toList.map Resource.automation ++
            (manager.browser.toList.map Resource.browser ++ [])))
      rw [List.append_nil]
      exact List.perm_append_comm

/-- What is done with a manager: it is started, perhaps once more, or called. -/
inductive Deed where
  | start
  | use (call : Call)

namespace Deed

def run (number : Nat) : Deed → Run β Unit
  | .start => BrowserManager.start number
  | .use call => call.run number

def runAll (number : Nat) (deeds : List Deed) (world : World β) : World β :=
  deeds.foldl (fun world deed => after (deed.run number) world) world

def forsakes (number : Nat) (world : World β) : Deed → List Resource
  | .start => ((world.managers[number]?).map fun manager =>
      manager.forsaken ((after (BrowserManager.start number) world).since world)).getD []
  | .use _ => []

/-- What a manager forsakes in some deeds, the latest first. -/
def forsakesAll (number : Nat) : List Deed → World β → List Resource
  | [], _ => []
  | deed :: rest, world =>
    forsakesAll number rest (after (deed.run number) world) ++ forsakes number world deed

theorem accounts (deed : Deed) (found : world.managers[number]? = some manager) :
    Accounts number world (after (deed.run number) world) (forsakes number world deed) := by
  cases deed with
  | start =>
    rw [forsakes, found]
    exact start_accounts found
  | use call =>
    cases call with
    | newContext options =>
      rw [run, Call.run, after_ignoring]
      exact accounts_of_same found (newContext_sameEngines options world)
    | newSession options =>
      rw [run, Call.run, after_ignoring]
      exact accounts_of_same found (newSession_sameEngines options world)
    | close => exact close_accounts found

theorem accounts_of_runAll (deeds : List Deed) (found : world.managers[number]? = some manager) :
    Accounts number world (runAll number deeds world) (forsakesAll number deeds world) := by
  induction deeds generalizing world manager with
  | nil => exact accounts_of_same found (refl world)
  | cons deed rest ih =>
    have first := deed.accounts found
    obtain ⟨now, there⟩ := first.found
    exact first.trans (ih there)

end Deed

/-- What closing a manager comes to. All contexts and the browser have been asked to close. The automation
driver has been stopped, and nothing is on record any more, just when neither the browser nor the driver
was refused to be closed. -/
structure ShutsDown (number : Nat) (manager left : BrowserManager) (world : World β) : Prop where
  course : ∃ closings ended, Closings manager.contexts.reverse closings ∧ Shuts manager ended left ∧
    (after (close number) world).since world = closings ++ ended
  kept : (after (close number) world).managers[number]? = some left
  browser : ∀ browser, manager.browser = some browser →
    ∃ outcome, .command (.closeBrowser browser) outcome ∈ (after (close number) world).since world
  driver : ∀ driver, manager.driver = some driver →
    (.command (.stopDriver driver) (.done none) ∈ (after (close number) world).since world ↔
      AllEnd ((after (close number) world).since world))
  unstarted : left.holds = [] ↔ AllEnd ((after (close number) world).since world)
  fails : ¬ AllEnd ((after (close number) world).since world) → ∃ failure,
    close number world = .error failure (after (close number) world) ∧ failure.kind = .browser

theorem shutsDown_of_found (found : world.managers[number]? = some manager) :
    ∃ left, ShutsDown number manager left world := by
  obtain ⟨closings, ended, left, closed, events, there, shuts, fails⟩ := close_shuts found
  have since := World.since_of_events events
  have ends : AllEnd (closings ++ ended) ↔ AllEnd ended := by
    constructor
    · exact AllEnd.right
    · intro ends event listed
      rcases List.mem_append.mp listed with early | late
      · exact closed.allEnd event early
      · exact ends event late
  refine ⟨left, ⟨closings, ended, closed, shuts, since⟩, there, ?_, ?_, ?_, ?_⟩
  · intro browser running
    obtain ⟨outcome, listed⟩ := shuts.asks_browser running
    rw [since]
    exact ⟨outcome, List.mem_append_right _ listed⟩
  · intro driver started
    have other : .command (.stopDriver driver) (.done none) ∉ closings := by
      intro listed
      cases List.filterMap_eq_nil_iff.mp closed.lasting.2 _ listed
    rw [since, ends, ← shuts.stops_iff started, List.mem_append]
    exact ⟨fun listed => listed.resolve_left other, .inr⟩
  · rw [since, ends, shuts.idle_iff]
  · intro stays
    rw [since, ends] at stays
    exact fails stays

/-- However a manager has been used, closing it comes to the same; and of everything that it has launched
what has not been ended is still on record or was forsaken when the manager was started once more. -/
theorem shutsDown_of_run (found : world.managers[number]? = some manager)
    (idle : manager.holds = []) (deeds : List Deed) :
    ∃ now left, (Deed.runAll number deeds world).managers[number]? = some now ∧
      ShutsDown number now left (Deed.runAll number deeds world) ∧
      (let events := (after (close number) (Deed.runAll number deeds world)).since world
      (Event.launched events).Perm
        (Event.ended events ++ (left.engines ++ Deed.forsakesAll number deeds world))) := by
  have used := Deed.accounts_of_runAll deeds found
  obtain ⟨now, there⟩ := used.found
  obtain ⟨left, shutsDown⟩ := shutsDown_of_found there
  refine ⟨now, left, there, shutsDown, ?_⟩
  obtain ⟨added, old, new, first, last, grown, balance⟩ := used.trans (close_accounts there)
  cases found.symm.trans first
  cases shutsDown.kept.symm.trans last
  have empty : manager.engines = [] := by
    obtain ⟨driver, browser, -⟩ := idle_iff.mp idle
    rw [engines, driver, browser]
    rfl
  rw [World.since_of_events grown]
  simpa only [empty, List.nil_append] using balance

end BrowserManager

/-- A scripted browser that cannot be closed. -/
structure ClingingBrowser where
  inner : ScriptedBrowser := {}

instance : Remote ClingingBrowser where
  answer browser command :=
    match command with
    | .closeBrowser _ => (.error "Connection closed", browser)
    | other =>
      let (answer, inner) := browser.inner.answer other
      (answer, { inner })

namespace Trial

open BrowserManager (Deed ShutsDown)

/-- A world with a manager, whose browser cannot be closed. -/
def clinging : World ClingingBrowser where
  browser := {}
  clock := default
  managers := [{ headless := .bool true, browserType := "chromium" }]

/-- A world with a manager, whose browser can be closed. -/
def yielding : World ScriptedBrowser where
  browser := {}
  clock := default
  managers := [{ headless := .bool true, browserType := "chromium" }]

/-- What a manager had launched first when it is started twice is not ended when it is closed, although
the browser refuses nothing. -/
theorem first_engines_forsaken :
    yielding.managers[0]? = some { headless := .bool true, browserType := "chromium" } ∧
      AllEnd ((after (BrowserManager.close 0) (Deed.runAll 0 [.start, .start] yielding)).since
        yielding) ∧
      ∃ now left, ShutsDown 0 now left (Deed.runAll 0 [.start, .start] yielding) ∧
        (Event.launched ((after (BrowserManager.close 0)
          (Deed.runAll 0 [.start, .start] yielding)).since yielding)).Perm
          (Event.ended ((after (BrowserManager.close 0)
            (Deed.runAll 0 [.start, .start] yielding)).since yielding) ++
            (left.engines ++ [.automation 0, .browser 0])) := by
  have found : yielding.managers[0]? = some { headless := .bool true, browserType := "chromium" } :=
    rfl
  have forsakes : Deed.forsakesAll 0 [.start, .start] yielding = [.automation 0, .browser 0] := by
    decide +kernel
  obtain ⟨now, left, -, shutsDown, account⟩ :=
    BrowserManager.shutsDown_of_run found rfl [.start, .start]
  rw [forsakes] at account
  exact ⟨found, by decide +kernel, now, left, shutsDown, account⟩

/-- Where the browser cannot be closed the automation driver is not stopped, although there is a session
whose context is closed, and both stay on record. -/
theorem automation_left_running :
    let before := Deed.runAll 0 [.start, .use (.newSession [])] clinging
    let later := after (BrowserManager.close 0) before
    Event.launched (later.since clinging) = [.automation 0, .browser 0] ∧
      Event.contextsClosed (later.since before) = [⟨0, 0⟩] ∧
      Event.ended (later.since clinging) = [] ∧
      (later.managers[0]?).map BrowserManager.holds = some [.automation 0, .browser 0] := by
  decide +kernel

end Trial
end PageContracts
