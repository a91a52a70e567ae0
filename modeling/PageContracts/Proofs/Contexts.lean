import PageContracts.Proofs.Starting

/-! # The contexts of a manager

A manager lists the contexts that it has opened until it closes them, newest first. From then on it
opens none. So however it is called, the contexts that have been opened are those on its list, and
behind them those that it has closed, the last one first. -/
namespace PageContracts

open Runs
open World (Adds)

variable {β : Type}

namespace Event

/-- The context that an event opened. -/
def newContext? : Event → Option ContextRef
  | .command (.openContext driver _) (.done (some number)) => some { driver, number }
  | _ => none

/-- The context that an event was to close. That the browser refused to, because the context was closed
already, makes no difference. -/
def closedContext? : Event → Option ContextRef
  | .command (.closeContext context) _ => some context
  | _ => none

/-- The browser refused to be closed, or the automation driver to be stopped. -/
def staysOn : Event → Bool
  | .command (.closeBrowser _) .refused | .command (.stopDriver _) .refused => true
  | _ => false

/-- The contexts that some events opened, in order. -/
def contextsOpened (events : List Event) : List ContextRef :=
  events.filterMap newContext?

/-- The contexts that some events were to close, in order. -/
def contextsClosed (events : List Event) : List ContextRef :=
  events.filterMap closedContext?

@[simp] theorem contextsOpened_append (first second : List Event) :
    contextsOpened (first ++ second) = contextsOpened first ++ contextsOpened second :=
  List.filterMap_append

@[simp] theorem contextsClosed_append (first second : List Event) :
    contextsClosed (first ++ second) = contextsClosed first ++ contextsClosed second :=
  List.filterMap_append

/-- Neither was the browser refused to be closed nor the automation driver to be stopped. -/
def AllEnd (events : List Event) : Prop :=
  ∀ event ∈ events, event.staysOn = false

instance (events : List Event) : Decidable (AllEnd events) :=
  inferInstanceAs (Decidable (∀ event ∈ events, event.staysOn = false))

theorem AllEnd.left {first second : List Event} (h : AllEnd (first ++ second)) : AllEnd first :=
  fun event listed => h event (List.mem_append_left second listed)

theorem AllEnd.right {first second : List Event} (h : AllEnd (first ++ second)) : AllEnd second :=
  fun event listed => h event (List.mem_append_right first listed)

/-- Events that close contexts one after the other. -/
abbrev Closings (contexts : List ContextRef) (events : List Event) : Prop :=
  List.Forall₂ (fun context event => ∃ outcome, event = .command (.closeContext context) outcome)
    contexts events

variable {contexts : List ContextRef} {events : List Event}

theorem Closings.closed_eq (h : Closings contexts events) : contextsClosed events = contexts := by
  induction h with
  | nil => rfl
  | cons closes _ ih =>
    obtain ⟨outcome, rfl⟩ := closes
    exact congrArg (_ :: ·) ih

theorem Closings.opened_eq (h : Closings contexts events) : contextsOpened events = [] := by
  induction h with
  | nil => rfl
  | cons closes _ ih =>
    obtain ⟨outcome, rfl⟩ := closes
    exact ih

end Event

open Event (contextsOpened contextsClosed AllEnd Closings)

namespace BrowserManager

/-- A call of a manager that has been made. -/
inductive Call where
  | newContext (options : List (String × Value))
  | newSession (options : List (String × Value))
  | close

namespace Call

variable [Remote β]

/-- Call a manager. -/
def run (number : Nat) : Call → Run β Unit
  | .newContext options => do let _ ← BrowserManager.newContext number options
  | .newSession options => do let _ ← BrowserManager.newSession number options
  | .close => BrowserManager.close number

/-- The world after some calls of a manager, each of which may have failed. -/
def runAll (number : Nat) (calls : List Call) (world : World β) : World β :=
  calls.foldl (fun world call => after (call.run number) world) world

theorem runAll_cons (number : Nat) (call : Call) (rest : List Call) (world : World β) :
    runAll number (call :: rest) world = runAll number rest (after (call.run number) world) :=
  rfl

theorem runAll_append (number : Nat) (first second : List Call) (world : World β) :
    runAll number (first ++ second) world = runAll number second (runAll number first world) :=
  List.foldl_append

end Call

/-- A manager with its browser running and some contexts open. -/
def running (manager : BrowserManager) (driver : Nat) (contexts : List ContextRef) :
    BrowserManager :=
  { manager with driver := some driver, browser := some driver, contexts }

/-- What is answered when there is no browser to open a context in. -/
def notStarted : Failure :=
  .outOfTurn "Browser not started. Call start() first."

variable {number driver : Nat} {manager : BrowserManager} {contexts : List ContextRef}
  {started world later : World β}

theorem idle_iff : manager.holds = [] ↔
    manager.driver = none ∧ manager.browser = none ∧ manager.contexts = [] := by
  simp [holds]

/-- Contexts may have been opened, which are on the list of the manager now. None has been closed. -/
def Extends (number : Nat) (manager : BrowserManager) (driver : Nat) (contexts : List ContextRef)
    (before later : World β) : Prop :=
  ∃ added, later.events = before.events ++ added ∧ contextsClosed added = [] ∧
    later.managers[number]? = some (manager.running driver (contexts ++ contextsOpened added))

theorem extends_nothing
    (found : world.managers[number]? = some (manager.running driver contexts)) :
    Extends number manager driver contexts world world := by
  refine ⟨[], (List.append_nil _).symm, rfl, ?_⟩
  rw [found, contextsOpened, List.filterMap_nil, List.append_nil]

/-- An event with which nothing is closed, and what it opens is listed. -/
theorem extends_of_event {event : Event} (events : later.events = world.events ++ [event])
    (keeps : event.closedContext? = none)
    (found : later.managers[number]? =
      some (manager.running driver (contexts ++ event.newContext?.toList))) :
    Extends number manager driver contexts world later := by
  have closed : contextsClosed [event] = [] := by simp [contextsClosed, keeps]
  have opened : contextsOpened [event] = event.newContext?.toList := by
    cases opens : event.newContext? <;> simp [contextsOpened, opens]
  exact ⟨[event], events, closed, by rw [found, opened]⟩

/-- An event with which no context is opened or closed. -/
theorem extends_of_other {event : Event}
    (found : world.managers[number]? = some (manager.running driver contexts))
    (events : later.events = world.events ++ [event]) (managers : later.managers = world.managers)
    (keeps : event.closedContext? = none) (opens : event.newContext? = none) :
    Extends number manager driver contexts world later := by
  refine extends_of_event events keeps ?_
  rw [managers, found, opens, Option.toList_none, List.append_nil]

theorem Extends.trans {middle : World β}
    (h : Extends number manager driver contexts world middle)
    (hn : ∀ contexts, middle.managers[number]? = some (manager.running driver contexts) →
      Extends number manager driver contexts middle later) :
    Extends number manager driver contexts world later := by
  obtain ⟨first, begun, keeps, found⟩ := h
  obtain ⟨second, grown, keepsOn, there⟩ := hn _ found
  refine ⟨first ++ second, ?_, ?_, ?_⟩
  · rw [grown, begun, List.append_assoc]
  · rw [Event.contextsClosed_append, keeps, keepsOn]
    rfl
  · rw [there, Event.contextsOpened_append, List.append_assoc]

/-- The list of a manager holds the contexts that have been opened since it was started and not been
closed: all that have been opened are those on the list and behind them those that have been closed,
in reverse. -/
def Balanced (number : Nat) (started world : World β) : Prop :=
  ∃ manager, world.managers[number]? = some manager ∧
    contextsOpened (world.since started) =
      manager.contexts ++ (contextsClosed (world.since started)).reverse

/-- A manager that has not been closed since it was started lists all contexts it has opened. -/
theorem Extends.balanced (h : Extends number manager driver [] started world) :
    Balanced number started world := by
  obtain ⟨added, grown, keeps, found⟩ := h
  refine ⟨_, found, ?_⟩
  rw [World.since_of_events grown, keeps]
  exact (List.append_nil _).symm

/-- What is closed has left the list. -/
theorem balanced_of_closings {added closings ended : List Event} {kept closing : List ContextRef}
    (grown : world.events = started.events ++ (added ++ closings ++ ended))
    (keeps : contextsClosed added = []) (opened : contextsOpened added = kept ++ closing.reverse)
    (closed : Closings closing closings)
    (other : contextsOpened ended = [] ∧ contextsClosed ended = [])
    (found : world.managers[number]? = some manager) (listed : manager.contexts = kept) :
    Balanced number started world := by
  refine ⟨manager, found, ?_⟩
  rw [World.since_of_events grown]
  simp only [Event.contextsOpened_append, Event.contextsClosed_append, keeps, opened, closed.opened_eq,
    closed.closed_eq, other.1, other.2, listed, List.append_nil, List.nil_append]

theorem find_goesOn (number : Nat) : GoesOn (find number : Run β BrowserManager) := by
  refine Moves.get_bind fun world => ?_
  cases world.managers[number]? with
  | none => exact Moves.throw _ world
  | some manager => exact Moves.pure _ world

/-- Telling in the end that a manager is closed is no matter of the browser. -/
theorem tellClosed_quiet (manager : BrowserManager) (world : World β) :
    (after (do
        Run.log .debug ("Closed " ++ (← Run.ofExcept manager.shownType.spoken))) world).events =
      world.events ∧
    (after (do
        Run.log .debug ("Closed " ++ (← Run.ofExcept manager.shownType.spoken))) world).managers =
      world.managers := by
  cases manager.shownType.spoken <;> exact ⟨rfl, rfl⟩

variable [Remote β]

section Idle

/-- Whoever asks a manager for a context or a tab learns that its browser is not running, and nothing
happens. -/
structure OpensNothing (number : Nat) (world : World β) : Prop where
  context : ∀ options, newContext number options world = .error notStarted world
  session : ∀ options, newSession number options world = .error notStarted world

theorem opensNothing_of_idle (found : world.managers[number]? = some manager)
    (idle : manager.holds = []) : OpensNothing number world := by
  have context options : newContext number options world = .error notStarted world := by
    rw [newContext, bind_of_ok (find_of_found found), (idle_iff.mp idle).2.1]
    rfl
  exact ⟨context, fun options => bind_of_error (context options) _⟩

/-- Closing a manager that has nothing open asks nothing of the browser. -/
theorem close_of_idle (found : world.managers[number]? = some manager)
    (idle : manager.holds = []) :
    (after (close number) world).events = world.events ∧
      (after (close number) world).managers = world.managers := by
  obtain ⟨driver, browser, contexts⟩ := idle_iff.mp idle
  rw [close, after_bind_of_ok (find_of_found found), contexts, browser, driver]
  exact tellClosed_quiet manager world

/-- An idle manager asks nothing of the browser, and stays as it is. -/
theorem Call.run_of_idle (call : Call) (found : world.managers[number]? = some manager)
    (idle : manager.holds = []) : (after (call.run number) world).events = world.events ∧
      (after (call.run number) world).managers = world.managers := by
  obtain ⟨context, session⟩ := opensNothing_of_idle found idle
  cases call with
  | newContext options =>
    rw [Call.run, after_bind_of_error (context options)]
    exact ⟨rfl, rfl⟩
  | newSession options =>
    rw [Call.run, after_bind_of_error (session options)]
    exact ⟨rfl, rfl⟩
  | close => exact close_of_idle found idle

theorem Call.runAll_of_idle (calls : List Call) (found : world.managers[number]? = some manager)
    (idle : manager.holds = []) : (Call.runAll number calls world).events = world.events ∧
      (Call.runAll number calls world).managers[number]? = some manager := by
  induction calls generalizing world with
  | nil => exact ⟨rfl, found⟩
  | cons call rest ih =>
    obtain ⟨events, managers⟩ := call.run_of_idle found idle
    rw [← managers] at found
    obtain ⟨grown, there⟩ := ih found
    exact ⟨grown.trans events, there⟩

end Idle

section Opening

/-- A start that succeeds has started an automation driver and launched a browser. -/
theorem start_eq_ok (found : world.managers[number]? = some manager) (idle : manager.holds = [])
    (h : start number world = .ok () later) :
    ∃ driver options, later.events = world.events ++ [.command .startDriver (.done (some driver)),
        .command (.launch driver manager.browserType options) (.done none)] ∧
      later.managers[number]? = some (manager.running driver []) := by
  rcases start_opens found with
    ⟨failure, middle, _, _, failed, -⟩ | ⟨middle, driver, options, starts, events, there, -⟩
  · rw [failed] at h
    cases h
  · rw [starts] at h
    cases h
    refine ⟨driver, options, events, ?_⟩
    rw [there, running, (idle_iff.mp idle).2.2]

/-- A context that is opened is put on the list. -/
theorem newContext_extends (options : List (String × Value))
    (found : world.managers[number]? = some (manager.running driver contexts)) :
    Extends number manager driver contexts world (after (newContext number options) world) := by
  obtain ⟨merged, ⟨failure, later, failed, events, managers⟩ | ⟨opened, later, goes, events, there⟩⟩ :=
    newContext_cases options found rfl
  · rw [after_of_error failed]
    exact extends_of_other found events managers rfl rfl
  · rw [after_of_ok goes]
    exact extends_of_event events rfl there

/-- The context of a tab is put on the list, also when its page is not opened. -/
theorem newSession_extends (options : List (String × Value))
    (found : world.managers[number]? = some (manager.running driver contexts)) :
    Extends number manager driver contexts world (after (newSession number options) world) := by
  have opening := newContext_extends options found
  cases ran : newContext number options world with
  | error failure later =>
    rw [after_of_error ran] at opening
    rwa [newSession, after_bind_of_error ran]
  | ok context later =>
    rw [after_of_ok ran] at opening
    rw [newSession, after_bind_of_ok ran]
    refine opening.trans fun contexts found => ?_
    rcases Run.ask_cases (.openPage context) later with ⟨page, browser, asked⟩ | ⟨_, browser, asked⟩
    · rw [after_bind_of_ok asked]
      exact extends_of_other found rfl rfl rfl rfl
    · rw [after_bind_of_error asked]
      exact extends_of_other found rfl rfl rfl rfl

/-- As long as a manager is not closed, it lists the contexts that are opened. -/
theorem Call.runAll_extends (calls : List Call) (unclosed : .close ∉ calls)
    (found : world.managers[number]? = some (manager.running driver contexts)) :
    Extends number manager driver contexts world (Call.runAll number calls world) := by
  induction calls generalizing world contexts with
  | nil => exact extends_nothing found
  | cons call rest ih =>
    rw [List.mem_cons, not_or] at unclosed
    have first : Extends number manager driver contexts world (after (call.run number) world) := by
      cases call with
      | newContext options =>
        rw [Call.run, after_ignoring]
        exact newContext_extends options found
      | newSession options =>
        rw [Call.run, after_ignoring]
        exact newSession_extends options found
      | close => exact (unclosed.1 rfl).elim
    exact first.trans fun contexts found => ih unclosed.2 found

end Opening

section Closing

/-- Closing a context asks the browser for it, and does not fail when the browser refuses. -/
theorem closeContext_eq_ok (context : ContextRef) (world : World β) :
    ∃ outcome later, (tryCatch (Run.ask (.closeContext context)) fun failure =>
        if failure.kind = .browser then
          Run.log .debug ("Context already closed: " ++ failure.message)
        else throw failure : Run β Unit) world = .ok () later ∧
      later.events = world.events ++ [.command (.closeContext context) outcome] ∧
      later.managers = world.managers := by
  rcases Run.ask_cases (.closeContext context) world with ⟨_, browser, asked⟩ |
    ⟨message, browser, asked⟩
  · refine ⟨.done none, { world with browser, events := _ }, ?_, rfl, rfl⟩
    rw [tryCatch_apply, asked]
    rfl
  · refine ⟨.refused, { world with browser, events := _, records := world.records ++
      [{ level := .debug, message := "Context already closed: " ++ message }] }, ?_, rfl, rfl⟩
    rw [tryCatch_apply, asked]
    rfl

/-- The last contexts on the list are closed one by one, and leave the list. -/
theorem closeContexts_eq_ok (kept closing : List ContextRef)
    (found : world.managers[number]? = some manager)
    (listed : manager.contexts = kept ++ closing.reverse) :
    ∃ closings later, closeContexts number closing world = .ok () later ∧
      Closings closing closings ∧ later.events = world.events ++ closings ∧
      later.managers[number]? = some { manager with contexts := kept } := by
  induction closing generalizing world manager with
  | nil =>
    have same : manager = { manager with contexts := kept } := by
      rw [List.reverse_nil, List.append_nil] at listed
      rw [← listed]
    exact ⟨[], world, rfl, .nil, (List.append_nil _).symm, found.trans (congrArg some same)⟩
  | cons context rest ih =>
    have dropped := found_of_withManager world found fun manager =>
      { manager with contexts := manager.contexts.dropLast }
    obtain ⟨outcome, middle, closes, events, managers⟩ := closeContext_eq_ok context
      (world.withManager number fun manager =>
        { manager with contexts := manager.contexts.dropLast })
    have inner : manager.contexts.dropLast = kept ++ rest.reverse := by
      rw [listed, List.reverse_cons, ← List.append_assoc, List.dropLast_concat]
    rw [← managers] at dropped
    obtain ⟨closings, later, others, closed, grown, there⟩ := ih dropped inner
    refine ⟨.command (.closeContext context) outcome :: closings, later, ?_,
      .cons ⟨_, rfl⟩ closed, ?_, there⟩
    · exact (bind_of_ok closes _).trans others
    · rw [grown, events, List.append_assoc]
      rfl

/-- Contexts are closed one after the other. -/
theorem closeContexts_append (first rest : List ContextRef) :
    (closeContexts number (first ++ rest) : Run β Unit) = (do
      closeContexts number first
      closeContexts number rest) := by
  induction first with
  | nil => rfl
  | cons context more ih =>
    rw [List.cons_append, closeContexts, closeContexts, ih]
    simp only [bind_assoc]

/-- A running manager that is closed closes its contexts, newest first, and then, unless the browser
refuses, the browser and the automation driver. -/
theorem close_of_running (found : world.managers[number]? = some (manager.running driver contexts))
    (idle : manager.holds = []) :
    ∃ closings ended, Closings contexts.reverse closings ∧
      (after (close number) world).events = world.events ++ closings ++ ended ∧
      (AllEnd ended →
        ended = [.command (.closeBrowser driver) (.done none),
            .command (.stopDriver driver) (.done none)] ∧
          (after (close number) world).managers[number]? = some manager) := by
  obtain ⟨closings, emptied, closes, closed, events, there⟩ :=
    closeContexts_eq_ok [] contexts.reverse found (List.reverse_reverse contexts).symm
  have ending : after (close number) world = after (do
      closeBrowser number (some driver)
      stopDriver number (some driver)
      Run.log .debug ("Closed " ++ (← Run.ofExcept manager.shownType.spoken))) emptied := by
    rw [close, after_bind_of_ok (find_of_found found)]
    exact after_bind_of_ok closes _
  rw [ending]
  simp only [closeBrowser, stopDriver, bind_assoc]
  refine ⟨closings, ?_⟩
  rcases open_cases there (.closeBrowser driver) (fun _ manager => { manager with browser := none })
      _ with ⟨failure, middle, failed, refused, -⟩ | ⟨_, middle, goes, done, there⟩
  · refine ⟨[.command (.closeBrowser driver) .refused], closed, ?_, fun ends => ?_⟩
    · rw [after_of_error failed, refused, events]
    · cases ends _ List.mem_cons_self
  · rw [after_of_eq goes]
    rcases open_cases there (.stopDriver driver) (fun _ manager => { manager with driver := none })
        _ with ⟨failure, later, failed, refused, -⟩ | ⟨_, later, goes, stopped, there⟩
    · refine ⟨[.command (.closeBrowser driver) (.done none), .command (.stopDriver driver) .refused],
        closed, ?_, fun ends => ?_⟩
      · rw [after_of_error failed, refused, done, events, List.append_assoc]
        rfl
      · cases ends _ (List.mem_cons_of_mem _ List.mem_cons_self)
    · rw [after_of_eq goes]
      obtain ⟨told, managers⟩ := tellClosed_quiet manager later
      refine ⟨[.command (.closeBrowser driver) (.done none),
        .command (.stopDriver driver) (.done none)], closed, ?_, fun _ => ⟨rfl, ?_⟩⟩
      · rw [told, stopped, done, events, List.append_assoc]
        rfl
      · have same : { manager with driver := none, browser := none, contexts := [] } = manager := by
          cases manager
          obtain ⟨rfl, rfl, rfl⟩ := idle_iff.mp idle
          rfl
        rw [managers, there]
        exact congrArg some same

end Closing

/-- What closing a manager comes to that has not been closed since it was started: it closes every
context that has been opened, newest first, then the browser, then the automation driver. On the way
the list holds what is left. -/
structure ClosesAll (number driver : Nat) (started world : World β) : Prop where
  listed : ∃ manager, world.managers[number]? = some manager ∧
    manager.contexts = contextsOpened (world.since started)
  closes : ∃ closings, Closings (contextsOpened (world.since started)).reverse closings ∧
    (after (close number) world).events = world.events ++ closings ++
      [.command (.closeBrowser driver) (.done none), .command (.stopDriver driver) (.done none)]
  midway : ∀ first rest, (contextsOpened (world.since started)).reverse = first ++ rest →
    (closeContexts number (first ++ rest) : Run β Unit) = (do
      closeContexts number first
      closeContexts number rest) ∧
    Balanced number started (after (closeContexts number first) world)

theorem newContext_goesOn (options : List (String × Value)) :
    GoesOn (newContext number options : Run β ContextRef) := by
  refine (find_goesOn number).bind fun manager => ?_
  cases manager.browser with
  | none => exact Moves.throw _
  | some driver =>
    exact (asking_goesOn _).bind fun _ => (change_goesOn _).bind fun _ => Moves.pure _

theorem newSession_goesOn (options : List (String × Value)) :
    GoesOn (newSession number options : Run β Session) :=
  (newContext_goesOn options).bind fun _ => (asking_goesOn _).bind fun _ => Moves.pure _

theorem close_goesOn (number : Nat) : GoesOn (close number : Run β Unit) := by
  refine (find_goesOn number).bind fun manager => (closeContexts_goesOn _).bind fun _ => ?_
  refine (closeBrowser_goesOn _).bind fun _ => (stopDriver_goesOn _).bind fun _ => ?_
  exact (Moves.ofExcept _).bind fun _ => logging_goesOn _ _

theorem Call.run_goesOn (call : Call) : GoesOn (call.run number : Run β Unit) := by
  cases call with
  | newContext options => exact (newContext_goesOn options).bind fun _ => Moves.pure _
  | newSession options => exact (newSession_goesOn options).bind fun _ => Moves.pure _
  | close => exact close_goesOn number

theorem Call.runAll_goesOn (calls : List Call) (world : World β) :
    world.GoesOn (Call.runAll number calls world) := by
  induction calls generalizing world with
  | nil => exact refl world
  | cons call rest ih => exact IsTrans.trans _ _ _ (call.run_goesOn world) (ih _)

/-- A running manager that is closed closes all that it has opened since it was started; from then on
it is idle. -/
theorem closesAll_of_extends (h : Extends number manager driver [] started world)
    (idle : manager.holds = []) (rest : List Call)
    (ends : AllEnd ((Call.runAll number (.close :: rest) world).since started)) :
    ClosesAll number driver started world ∧
      (Call.runAll number (.close :: rest) world).events = (after (close number) world).events ∧
      (Call.runAll number (.close :: rest) world).managers[number]? = some manager ∧
      Balanced number started (Call.runAll number (.close :: rest) world) := by
  obtain ⟨added, grown, keeps, found⟩ := h
  rw [List.nil_append] at found
  obtain ⟨closings, ended, closed, events, finishes⟩ := close_of_running found idle
  -- the calls behind do not take back how the closing ended
  have ends : AllEnd ended := by
    obtain ⟨more, goes⟩ := (Call.runAll_goesOn rest (after (close number) world)).journal
    have later : (Call.runAll number (.close :: rest) world).events =
        started.events ++ (added ++ closings ++ ended ++ more) := by
      rw [Call.runAll_cons]
      refine goes.symm.trans ?_
      rw [events, grown]
      simp only [List.append_assoc]
    rw [World.since_of_events later] at ends
    exact ends.left.right
  obtain ⟨rfl, there⟩ := finishes ends
  obtain ⟨still, kept⟩ := Call.runAll_of_idle rest there idle
  refine ⟨⟨⟨_, found, ?_⟩, ⟨closings, ?_, events⟩, fun first rest split =>
    ⟨closeContexts_append first rest, ?_⟩⟩, still, kept, ?_⟩
  · rw [World.since_of_events grown, running]
  · rwa [World.since_of_events grown]
  · rw [World.since_of_events grown, List.reverse_eq_iff, List.reverse_append] at split
    obtain ⟨fewer, later, closes, closed, events, there⟩ :=
      closeContexts_eq_ok rest.reverse first found split
    rw [after_of_ok closes]
    have grows : later.events = started.events ++ (added ++ fewer ++ []) := by
      rw [events, grown, List.append_assoc, List.append_nil]
    exact balanced_of_closings grows keeps split closed ⟨rfl, rfl⟩ there rfl
  · have grows : (Call.runAll number (.close :: rest) world).events = started.events ++ (added ++
        closings ++
          [.command (.closeBrowser driver) (.done none), .command (.stopDriver driver) (.done none)]) := by
      refine still.trans ?_
      rw [events, grown]
      simp only [List.append_assoc]
    exact balanced_of_closings grows keeps (List.reverse_reverse _).symm closed ⟨rfl, rfl⟩ kept
      (idle_iff.mp idle).2.2

/-- Each context is closed once, newest first. A manager that is started opens nothing before, and
from then on its list holds what it has opened and not closed, however it is called and whatever the
browser refuses, except to be closed itself and to have its automation driver stopped. The first time it
is closed it closes everything; then nothing more is asked of the browser. -/
theorem closesOnce_of_run (found : world.managers[number]? = some manager)
    (idle : manager.holds = []) (early : List Call)
    (starts : start number (Call.runAll number early world) = .ok () started) :
    (OpensNothing number (Call.runAll number early world) ∧
      (Call.runAll number early world).events = world.events) ∧
    ∃ driver options, started.events = world.events ++
        [.command .startDriver (.done (some driver)),
          .command (.launch driver manager.browserType options) (.done none)] ∧
      ∀ calls, AllEnd ((Call.runAll number calls started).since started) →
        Balanced number started (Call.runAll number calls started) ∧
        ∀ before rest, calls = before ++ .close :: rest → .close ∉ before →
          ClosesAll number driver started (Call.runAll number before started) ∧
          (Call.runAll number calls started).events =
            (after (close number) (Call.runAll number before started)).events ∧
          OpensNothing number (Call.runAll number calls started) := by
  obtain ⟨nothing, waiting⟩ := Call.runAll_of_idle early found idle
  obtain ⟨driver, options, begun, ready⟩ := start_eq_ok waiting idle starts
  refine ⟨⟨opensNothing_of_idle waiting idle, nothing⟩, driver, options, by rw [begun, nothing], ?_⟩
  intro calls ends
  have closing (before rest : List Call) (split : calls = before ++ .close :: rest)
      (first : .close ∉ before) := by
    rw [split, Call.runAll_append] at ends
    exact closesAll_of_extends (Call.runAll_extends before first ready) idle rest ends
  constructor
  · by_cases closed : .close ∈ calls
    · obtain ⟨before, rest, split, first⟩ := List.eq_append_cons_of_mem closed
      obtain ⟨-, -, -, balanced⟩ := closing before rest split first
      rwa [split, Call.runAll_append]
    · exact (Call.runAll_extends calls closed ready).balanced
  · intro before rest split first
    obtain ⟨closes, still, kept, -⟩ := closing before rest split first
    rw [split, Call.runAll_append]
    exact ⟨closes, still, opensNothing_of_idle kept idle⟩

end BrowserManager

/-- A scripted browser that opens no pages. -/
structure PagelessBrowser where
  inner : ScriptedBrowser := {}

instance : Remote PagelessBrowser where
  answer browser command :=
    match command with
    | .openPage _ => (.error "Target crashed", browser)
    | other =>
      let (answer, inner) := browser.inner.answer other
      (answer, { inner })

namespace Trial

open BrowserManager (Call Balanced)

/-- A world with a manager, whose browser opens no pages, and closes no contexts since they are closed
already. -/
def crashing : World PagelessBrowser where
  browser := { inner := { start := { errors := [("context_close", "Target closed")] } } }
  clock := default
  managers := [{ headless := .bool true, browserType := "chromium" }]

/-- The world after its manager has been started. A tab that was asked for before was not opened. -/
def launched : World PagelessBrowser :=
  after (BrowserManager.start 0) (Call.runAll 0 [.newSession []] crashing)

/-- A context whose page was not opened is closed as well, after the one that was opened later. -/
theorem contexts_closed_once :
    crashing.managers[0]? = some { headless := .bool true, browserType := "chromium" } ∧
      BrowserManager.start 0 (Call.runAll 0 [.newSession []] crashing) = .ok () launched ∧
      (let later := Call.runAll 0 [.newSession [], .newContext [], .close, .newSession [], .close]
        launched
      AllEnd (later.since launched) ∧ Balanced 0 launched later ∧
        contextsOpened (later.since launched) = [⟨0, 0⟩, ⟨0, 1⟩] ∧
        contextsClosed (later.since launched) = [⟨0, 1⟩, ⟨0, 0⟩]) := by
  have found : crashing.managers[0]? =
      some { headless := .bool true, browserType := "chromium" } := rfl
  have starts : BrowserManager.start 0 (Call.runAll 0 [.newSession []] crashing) =
      .ok () launched := rfl
  have ends : AllEnd ((Call.runAll 0
      [.newSession [], .newContext [], .close, .newSession [], .close] launched).since launched) := by
    decide +kernel
  obtain ⟨-, _, _, -, closes⟩ := BrowserManager.closesOnce_of_run found rfl [.newSession []] starts
  exact ⟨found, starts, ends, (closes _ ends).1, by decide +kernel, by decide +kernel⟩

end Trial
end PageContracts
