import PageContracts.Proofs.Using
import Mathlib.Data.List.Perm.Subperm

/-! # The ledger of what is open

Automation drivers, browsers and contexts are opened for a page driver and have to be closed again.
A manager records what it has opened until it has closed it: what comes of starting it is in its
records, and what comes of closing it is that everything in its records is closed. -/
namespace PageContracts

open Runs
open World (Adds)

variable {β α : Type}

/-- What is opened for a page driver and has to be closed. -/
inductive Resource where
  | automation (driver : Nat)
  | browser (driver : Nat)
  | context (ref : ContextRef)
  deriving DecidableEq, Repr

namespace Event

/-- What an event opened. -/
def opened? : Event → Option Resource
  | .command .startDriver (.done (some driver)) => some (.automation driver)
  | .command (.launch driver _ _) (.done _) => some (.browser driver)
  | .command (.openContext driver _) (.done (some number)) => some (.context { driver, number })
  | _ => none

/-- What an event closed. -/
def closed? : Event → Option Resource
  | .command (.closeContext ref) (.done _) => some (.context ref)
  | .command (.closeBrowser driver) (.done _) => some (.browser driver)
  | .command (.stopDriver driver) (.done _) => some (.automation driver)
  | _ => none

/-- Whether the browser refused to close something. -/
def clings : Event → Bool
  | .command (.closeContext _) .refused => true
  | .command (.closeBrowser _) .refused => true
  | .command (.stopDriver _) .refused => true
  | _ => false

/-- The browser did not refuse to close anything. -/
def AllYield (events : List Event) : Prop :=
  ∀ event ∈ events, event.clings = false

instance (events : List Event) : Decidable (AllYield events) :=
  inferInstanceAs (Decidable (∀ event ∈ events, event.clings = false))

theorem AllYield.left {first second : List Event} (h : AllYield (first ++ second)) :
    AllYield first :=
  fun event listed => h event (List.mem_append_left second listed)

theorem AllYield.right {first second : List Event} (h : AllYield (first ++ second)) :
    AllYield second :=
  fun event listed => h event (List.mem_append_right first listed)

/-- An event that neither opens nor closes anything. -/
structure Plain (event : Event) : Prop where
  opens : event.opened? = none
  closes : event.closed? = none
  yields : event.clings = false

theorem plain_of_passing (event : Event) (passing : event.Passing) : event.Plain := by
  unfold Passing at passing
  split at passing
  · exact ⟨rfl, rfl, rfl⟩
  · exact ⟨rfl, rfl, rfl⟩
  · exact ⟨rfl, rfl, rfl⟩
  · exact ⟨rfl, rfl, rfl⟩
  · exact ⟨rfl, rfl, rfl⟩
  · exact ⟨rfl, rfl, rfl⟩
  · exact passing.elim

/-- What some events opened, in order. -/
def opened (events : List Event) : List Resource :=
  events.filterMap opened?

/-- What some events closed, in order. -/
def closed (events : List Event) : List Resource :=
  events.filterMap closed?

/-- What is still open of what some events opened. -/
def stillOpen (events : List Event) : List Resource :=
  (opened events).diff (closed events)

@[simp] theorem opened_append (first second : List Event) :
    opened (first ++ second) = opened first ++ opened second :=
  List.filterMap_append

@[simp] theorem closed_append (first second : List Event) :
    closed (first ++ second) = closed first ++ closed second :=
  List.filterMap_append

theorem opened_of_plain {events : List Event} (plain : ∀ event ∈ events, event.Plain) :
    opened events = [] :=
  List.filterMap_eq_nil_iff.mpr fun event listed => (plain event listed).opens

theorem closed_of_plain {events : List Event} (plain : ∀ event ∈ events, event.Plain) :
    closed events = [] :=
  List.filterMap_eq_nil_iff.mpr fun event listed => (plain event listed).closes

/-- If everything opened has been closed but for some of it, this is what is still open. -/
theorem stillOpen_perm {events : List Event} {rest : List Resource}
    (h : (opened events).Perm (closed events ++ rest)) : (stillOpen events).Perm rest := by
  have taken (first : List Resource) : (first ++ rest).diff first = rest := by
    induction first with
    | nil => rfl
    | cons resource more ih =>
      rw [List.diff_cons, List.cons_append, List.erase_cons_head, ih]
  have left := h.diff_right (closed events)
  rwa [taken] at left

end Event

open Event (opened closed AllYield Plain stillOpen)

/-- A world with a manager changed. -/
def World.withManager (world : World β) (number : Nat)
    (update : BrowserManager → BrowserManager) : World β :=
  { world with managers := world.managers.modify number update }

namespace BrowserManager

/-- What a manager has on record as open. -/
def holds (manager : BrowserManager) : List Resource :=
  manager.driver.toList.map .automation ++ manager.browser.toList.map .browser ++
    manager.contexts.map .context

variable {number : Nat} {manager : BrowserManager} {base world later : World β}

theorem find_of_found (found : world.managers[number]? = some manager) :
    find number world = .ok manager world := by
  rw [find, bind_of_ok (get_apply world), found]
  rfl

theorem find_of_missing (missing : world.managers[number]? = none) :
    find number world = .error (.missing "manager") world := by
  rw [find, bind_of_ok (get_apply world), missing]
  rfl

/-- A manager as it is made for a browser type: it has nothing open, and where it is not called by
the type that was asked for, that type could be told in a message. -/
structure MadeFor (manager : BrowserManager) (headless asked : Value) : Prop where
  idle : manager.holds = []
  headless : manager.headless = headless
  shown : manager.shownType = asked ∨ ∃ shown, asked.spoken = .ok shown

/-- A new manager is the last one, and is made for what was asked for. -/
theorem create_eq_ok {headless asked : Value} (h : create headless asked world = .ok number later) :
    number = world.managers.length ∧ later.events = world.events ∧
      ∃ manager, later.managers = world.managers ++ [manager] ∧ manager.MadeFor headless asked := by
  have enrolled {before : World β} {manager : BrowserManager} (events : before.events = world.events)
      (managers : before.managers = world.managers) (made : manager.MadeFor headless asked)
      (h : enroll manager before = .ok number later) :
      number = world.managers.length ∧ later.events = world.events ∧
        ∃ manager, later.managers = world.managers ++ [manager] ∧ manager.MadeFor headless asked := by
    cases h
    exact ⟨congrArg List.length managers, events, manager, congrArg (· ++ [manager]) managers, made⟩
  rw [create_eq] at h
  replace h := get_bind_eq_ok.mp h
  obtain ⟨known, -, h⟩ := ofExcept_bind_eq_ok.mp h
  cases known with
  | some browserType => exact enrolled rfl rfl ⟨rfl, rfl, .inl rfl⟩ h
  | none =>
    obtain ⟨shown, told, h⟩ := ofExcept_bind_eq_ok.mp h
    obtain ⟨_, logged, logging, h⟩ := bind_eq_ok.mp h
    cases logging
    refine enrolled ?_ ?_ ⟨rfl, rfl, .inr ⟨shown, told⟩⟩ h <;> rfl

/-- Where no manager can be made, nothing happens. -/
theorem create_eq_error {headless asked : Value} {failure : Failure}
    (h : create headless asked world = .error failure later) : later = world := by
  rw [create_eq, bind_of_ok (get_apply world)] at h
  cases told : typeOf? world.classes asked with
  | error other =>
    rw [told] at h
    cases h
    rfl
  | ok known =>
    rw [told, ofExcept_bind_of_ok rfl] at h
    cases known with
    | some browserType => cases h
    | none =>
      dsimp only at h
      cases spoken : asked.spoken with
      | error other =>
        rw [spoken] at h
        cases h
        rfl
      | ok shown =>
        rw [spoken] at h
        cases h

/-- What has been opened since another world is on record with a manager, and nothing has been closed
since. -/
structure Records (number : Nat) (base world : World β) (added : List Event)
    (manager : BrowserManager) : Prop where
  events : world.events = base.events ++ added
  found : world.managers[number]? = some manager
  recorded : (opened added).Perm manager.holds
  kept : closed added = []
  yields : AllYield added

theorem records_nothing (found : world.managers[number]? = some manager)
    (idle : manager.holds = []) : Records number world world [] manager where
  events := (List.append_nil _).symm
  found := found
  recorded := by rw [idle]; exact List.Perm.refl _
  kept := rfl
  yields := fun _ listed => (List.not_mem_nil listed).elim

theorem Records.add {added : List Event} (h : Records number base world added manager)
    {event : Event} {now : BrowserManager} (events : later.events = world.events ++ [event])
    (found : later.managers[number]? = some now)
    (recorded : (manager.holds ++ event.opened?.toList).Perm now.holds)
    (kept : event.closed? = none) (yields : event.clings = false) :
    Records number base later (added ++ [event]) now where
  events := by rw [events, h.events, List.append_assoc]
  found := found
  recorded := by
    have one : opened [event] = event.opened?.toList := by
      cases opens : event.opened? <;> simp [opened, opens]
    rw [Event.opened_append, one]
    exact (h.recorded.append_right _).trans recorded
  kept := by
    have none : closed [event] = [] := by simp [closed, kept]
    rw [Event.closed_append, h.kept, none]
    rfl
  yields := by
    intro other listed
    rcases List.mem_append.mp listed with early | late
    · exact h.yields other early
    · rw [List.mem_singleton.mp late]
      exact yields

theorem Records.adds {added : List Event} (h : Records number base world added manager)
    (moved : Adds Plain world later) :
    ∃ more, Records number base later (added ++ more) manager := by
  obtain ⟨more, grown, plain⟩ := moved.events
  refine ⟨more, ?_, ?_, ?_, ?_, ?_⟩
  · rw [grown, h.events, List.append_assoc]
  · rw [moved.managers, h.found]
  · rw [Event.opened_append, Event.opened_of_plain plain, List.append_nil]
    exact h.recorded
  · rw [Event.closed_append, Event.closed_of_plain plain, h.kept]
    rfl
  · intro event listed
    rcases List.mem_append.mp listed with early | late
    · exact h.yields event early
    · exact (plain event late).yields

/-- Something has been asked of the browser since another world, and a manager has on record what has
been opened. -/
def Recording (number : Nat) (base world : World β) : Prop :=
  ∃ added manager, Records number base world added manager ∧ added ≠ []

theorem Recording.adds (h : Recording number base world) (moved : Adds Plain world later) :
    Recording number base later := by
  obtain ⟨added, manager, records, some⟩ := h
  obtain ⟨more, records⟩ := records.adds moved
  exact ⟨added ++ more, manager, records, List.append_ne_nil_of_left_ne_nil some more⟩

theorem Recording.elsewhere (h : Recording number base world) (events : later.events = world.events)
    (managers : later.managers = world.managers) : Recording number base later := by
  obtain ⟨added, manager, records, nonempty⟩ := h
  refine ⟨added, manager, ?_, nonempty⟩
  exact { records with
    events := events.trans records.events
    found := by rw [managers, records.found] }

theorem recording_of_addsOnly {run : Run β α} (h : AddsOnly Plain run) :
    Ensures (Recording number base) run fun _ => True :=
  Ensures.of_moves fun world recording => recording.adds (h world)

theorem found_of_withManager (world : World β) (found : world.managers[number]? = some manager)
    (update : BrowserManager → BrowserManager) :
    (world.withManager number update).managers[number]? = some (update manager) := by
  rw [World.withManager, List.getElem?_modify_eq, found]
  rfl

variable [Remote β]

/-- Something is opened and put on record with a manager, or the request is refused and ends the
run. -/
theorem open_cases (found : world.managers[number]? = some manager) (command : Command)
    (update : command.Answer → BrowserManager → BrowserManager) (next : command.Answer → Run β α) :
    (∃ failure later, (do
        let answer ← Run.ask command
        change number (update answer)
        next answer) world = .error failure later ∧
      later.events = world.events ++ [.command command .refused] ∧
      later.managers = world.managers) ∨
    ∃ answer later, (do
        let answer ← Run.ask command
        change number (update answer)
        next answer) world = next answer later ∧
      later.events = world.events ++ [.command command (.done (command.opened? answer))] ∧
      later.managers[number]? = some (update answer manager) := by
  rcases Run.ask_cases command world with ⟨answer, browser, asked⟩ | ⟨_, browser, asked⟩
  · refine .inr ⟨answer, _, bind_of_ok asked _, rfl, ?_⟩
    exact found_of_withManager { world with browser, events := _ } found _
  · exact .inl ⟨_, _, bind_of_error asked _, rfl, rfl⟩

/-- What is opened stays on record as long as nothing else is done but to open more. -/
theorem Records.after_open {command : Command} {added : List Event}
    {update : command.Answer → BrowserManager → BrowserManager} {next : command.Answer → Run β α}
    (h : Records number base world added manager)
    (refused : Plain (.command command .refused))
    (kept : ∀ opened, Event.closed? (.command command (.done opened)) = none)
    (recorded : ∀ answer : command.Answer,
      (manager.holds ++ (Event.opened? (.command command (.done (command.opened? answer)))).toList).Perm
        (update answer manager).holds)
    (hn : ∀ answer later added, Records number base later added (update answer manager) →
      added ≠ [] → Recording number base (after (next answer) later)) :
    Recording number base (after (do
      let answer ← Run.ask command
      change number (update answer)
      next answer) world) := by
  rcases open_cases h.found command update next with
    ⟨failure, later, failed, events, managers⟩ | ⟨answer, later, goes, events, found⟩
  · rw [after_of_error failed]
    refine ⟨added ++ [.command command .refused], manager, ?_, by simp⟩
    refine h.add events (by rw [managers, h.found]) ?_ refused.closes refused.yields
    simp [refused.opens]
  · rw [after, goes]
    refine hn answer later (added ++ [.command command (.done (command.opened? answer))]) ?_ (by simp)
    refine h.add events found (recorded answer) (kept _) ?_
    cases command <;> rfl

/-- However the start of an idle manager ends, what has been opened is on record. -/
theorem start_records (found : world.managers[number]? = some manager)
    (idle : manager.holds = []) : Recording number world (after (start number) world) := by
  have empty : manager.driver = none ∧ manager.browser = none ∧ manager.contexts = [] := by
    simpa [holds] using idle
  obtain ⟨noDriver, noBrowser, noContexts⟩ := empty
  refine (records_nothing found idle).after_open ⟨rfl, rfl, rfl⟩ (fun _ => rfl) ?_ ?_
  · intro driver
    simp [holds, noDriver, noBrowser, noContexts, Event.opened?, Command.opened?]
  · intro driver driven added first nonempty
    rw [after_bind_of_ok (find_of_found first.found)]
    refine first.after_open ⟨rfl, rfl, rfl⟩ (fun _ => rfl) ?_ ?_
    · intro _
      simp [holds, noBrowser, noContexts, Event.opened?]
    · intro _ running added second nonempty
      have announcing : AddsOnly Plain (do
          Run.log .debug ("Launched " ++ (← Run.ofExcept manager.shownType.spoken) ++
            " (headless=" ++ (← Run.ofExcept manager.headless.spoken) ++ ")") : Run β Unit) :=
        (Moves.ofExcept _).bind fun _ => (Moves.ofExcept _).bind fun _ => AddsOnly.log _ _
      exact Recording.adds ⟨added, _, second, nonempty⟩ (announcing running)

/-- Opening a tab puts its context on record. -/
theorem newSession_records (options : List (String × Value)) :
    Ensures (Recording number base) (newSession number options : Run β Session)
      fun _ => True := by
  have opening : Ensures (Recording number base) (newContext number options : Run β ContextRef)
      fun _ => True := by
    rintro world ⟨added, manager, records, nonempty⟩
    refine ⟨?_, fun _ _ _ => trivial⟩
    rw [newContext, after_bind_of_ok (find_of_found records.found)]
    cases running : manager.browser with
    | none => exact ⟨added, manager, records, nonempty⟩
    | some driver =>
      refine records.after_open ⟨rfl, rfl, rfl⟩ (fun _ => rfl) ?_ ?_
      · intro opened
        simp [holds, Event.opened?, Command.opened?]
      · intro opened later added records nonempty
        exact ⟨added, _, records, nonempty⟩
  refine opening.bind fun context _ => ?_
  have asking : Ensures (Recording number base) (Run.ask (.openPage context) : Run β Nat)
      fun _ => True := by
    refine recording_of_addsOnly (AddsOnly.ask fun outcome => ?_)
    cases outcome <;> exact ⟨rfl, rfl, rfl⟩
  exact asking.bind fun _ _ => Ensures.pure trivial

end BrowserManager

/-- The journal of the second world goes on from that of the first. -/
structure World.GoesOn (before later : World β) : Prop where
  journal : before.events <+: later.events

instance : IsPreorder (World β) World.GoesOn where
  refl _ := ⟨List.prefix_refl _⟩
  trans _ _ _ hab hbc := ⟨hab.journal.trans hbc.journal⟩

/-- A run that takes nothing back from the journal. -/
abbrev GoesOn (run : Run β α) : Prop :=
  Moves World.GoesOn run

theorem logging_goesOn (level : LogLevel) (message : String) :
    GoesOn (Run.log level message : Run β Unit) :=
  Moves.modify fun _ => ⟨List.prefix_refl _⟩

theorem asking_goesOn [Remote β] (command : Command) :
    GoesOn (Run.ask command : Run β command.Answer) := by
  intro world
  rcases Run.ask_cases command world with ⟨_, _, asked⟩ | ⟨_, _, asked⟩
  · rw [after_of_ok asked]
    exact ⟨List.prefix_append _ _⟩
  · rw [after_of_error asked]
    exact ⟨List.prefix_append _ _⟩

namespace BrowserManager

variable {number : Nat} {manager : BrowserManager} {base world later : World β}

theorem change_goesOn (update : BrowserManager → BrowserManager) :
    GoesOn (change number update : Run β Unit) :=
  Moves.modify fun _ => ⟨List.prefix_refl _⟩

/-- What a run comes to that closes what a manager has on record: unless the browser refuses to close
something, the run closes it in order, and opens nothing. -/
def Closes (number : Nat) (run : Run β Unit) (world : World β) (resources : List Resource)
    (left : BrowserManager) : Prop :=
  ∃ added, (after run world).events = world.events ++ added ∧
    (AllYield added →
      opened added = [] ∧ closed added = resources ∧ run world = .ok () (after run world) ∧
        (after run world).managers[number]? = some left)

theorem Closes.bind {run next : Run β Unit} {resources more : List Resource}
    {left : BrowserManager} (h : Closes number run world resources manager) (goesOn : GoesOn next)
    (hn : ∀ later, later.managers[number]? = some manager → Closes number next later more left) :
    Closes number (run >>= fun _ => next) world (resources ++ more) left := by
  obtain ⟨added, grown, closes⟩ := h
  cases ran : run world with
  | error failure middle =>
    rw [after_of_error ran] at grown
    refine ⟨added, by rw [after_bind_of_error ran, grown], fun yields => ?_⟩
    rw [ran] at closes
    cases (closes yields).2.2.1
  | ok u middle =>
    rw [after_of_ok ran] at grown closes
    unfold Closes
    rw [after_bind_of_ok ran, bind_of_ok ran]
    by_cases yields : AllYield added
    · obtain ⟨opensNone, closesAll, -, found⟩ := closes yields
      obtain ⟨rest, grows, closesRest⟩ := hn middle found
      refine ⟨added ++ rest, by rw [grows, grown, List.append_assoc], fun yields => ?_⟩
      obtain ⟨opensNone', closesAll', ran', found'⟩ :=
        closesRest yields.right
      refine ⟨?_, ?_, ran', found'⟩
      · rw [Event.opened_append, opensNone, opensNone']
        rfl
      · rw [Event.closed_append, closesAll, closesAll']
    · obtain ⟨rest, grows⟩ := (goesOn middle).journal
      refine ⟨added ++ rest, by rw [← grows, grown, List.append_assoc], fun never => ?_⟩
      exact (yields never.left).elim

theorem change_closes (found : world.managers[number]? = some manager)
    (update : BrowserManager → BrowserManager) :
    Closes number (change number update) world [] (update manager) :=
  ⟨[], (List.append_nil _).symm, fun _ => ⟨rfl, rfl, rfl, found_of_withManager world found update⟩⟩

/-- A request to close something that is carried out, or refused. -/
theorem closes_of_asked {run : Run β Unit} (command : Command) {resource : Resource}
    (found : world.managers[number]? = some manager)
    (clings : Event.clings (.command command .refused) = true)
    (closes : ∀ opened, Event.closed? (.command command (.done opened)) = some resource)
    (asked : (∃ opened browser, run world = .ok () { world with
        browser, events := world.events ++ [.command command (.done opened)] }) ∨
      (after run world).events = world.events ++ [.command command .refused]) :
    Closes number run world [resource] manager := by
  rcases asked with ⟨opened, browser, ran⟩ | refused
  · refine ⟨[.command command (.done opened)], by rw [after_of_ok ran], fun _ => ?_⟩
    refine ⟨?_, by simp [closed, closes], by rw [after_of_ok ran, ran], by rw [after_of_ok ran, found]⟩
    cases command <;> first | rfl | cases clings
  · refine ⟨_, refused, fun yields => ?_⟩
    rw [yields _ List.mem_cons_self] at clings
    cases clings

variable [Remote β]

theorem closeContexts_goesOn (contexts : List ContextRef) :
    GoesOn (closeContexts number contexts : Run β Unit) := by
  induction contexts with
  | nil => exact Moves.pure _
  | cons context rest ih =>
    refine (change_goesOn _).bind fun _ => Moves.bind ?_ fun _ => ih
    refine Moves.tryCatch (asking_goesOn _) fun failure => ?_
    split
    · exact logging_goesOn _ _
    · exact Moves.throw _

theorem closeContext_closes (found : world.managers[number]? = some manager)
    (context : ContextRef) :
    Closes number (tryCatch (Run.ask (.closeContext context)) fun failure =>
        if failure.kind = .browser then
          Run.log .debug ("Context already closed: " ++ failure.message)
        else throw failure : Run β Unit) world [.context context] manager := by
  refine closes_of_asked (.closeContext context) found rfl (fun _ => rfl) ?_
  rcases Run.ask_cases (.closeContext context) world with ⟨_, browser, asked⟩ | ⟨_, browser, asked⟩
  · refine .inl ⟨none, browser, ?_⟩
    rw [tryCatch_apply, asked]
    rfl
  · refine .inr ?_
    rw [after, tryCatch_apply, asked]
    rfl

/-- Unless the browser refuses to close one, contexts are closed in the order they are given in. -/
theorem closeContexts_closes (contexts : List ContextRef)
    (found : world.managers[number]? = some manager) (all : manager.contexts.reverse = contexts) :
    Closes number (closeContexts number contexts) world (contexts.map .context)
      { manager with contexts := [] } := by
  induction contexts generalizing world manager with
  | nil =>
    have none : manager.contexts = [] := List.reverse_eq_nil_iff.mp all
    have same : manager = { manager with contexts := [] } := by
      cases manager
      cases none
      rfl
    exact ⟨[], (List.append_nil _).symm, fun _ => ⟨rfl, rfl, rfl, found.trans (congrArg some same)⟩⟩
  | cons context rest ih =>
    have inner : manager.contexts.dropLast.reverse = rest := by
      have listed : manager.contexts = rest.reverse ++ [context] := by
        rw [← List.reverse_cons, ← all, List.reverse_reverse]
      rw [listed, List.dropLast_concat, List.reverse_reverse]
    have dropped := change_closes found fun manager =>
      { manager with contexts := manager.contexts.dropLast }
    refine dropped.bind ?_ fun world found => ?_
    · refine Moves.bind (Moves.tryCatch (asking_goesOn _) fun failure => ?_)
        fun _ => closeContexts_goesOn rest
      split
      · exact logging_goesOn _ _
      · exact Moves.throw _
    · refine (closeContext_closes found context).bind (closeContexts_goesOn rest) ?_
      intro later found
      have others := ih found inner
      exact others

theorem closeBrowser_closes (found : world.managers[number]? = some manager) :
    Closes number (closeBrowser number manager.browser) world
      (manager.browser.toList.map .browser) { manager with browser := none } := by
  cases running : manager.browser with
  | none =>
    have same : manager = { manager with browser := none } := by
      cases manager
      cases running
      rfl
    exact ⟨[], (List.append_nil _).symm, fun _ => ⟨rfl, rfl, rfl, found.trans (congrArg some same)⟩⟩
  | some browser =>
    have closing : Closes number (Run.ask (.closeBrowser browser) : Run β Unit) world
        [.browser browser] manager := by
      refine closes_of_asked (.closeBrowser browser) found rfl (fun _ => rfl) ?_
      rcases Run.ask_cases (.closeBrowser browser) world with ⟨_, left, asked⟩ | ⟨_, left, asked⟩
      · exact .inl ⟨_, left, asked⟩
      · exact .inr (by rw [after_of_error asked])
    exact closing.bind (change_goesOn _) fun later found => change_closes found _

theorem stopDriver_closes (found : world.managers[number]? = some manager) :
    Closes number (stopDriver number manager.driver) world
      (manager.driver.toList.map .automation) { manager with driver := none } := by
  cases started : manager.driver with
  | none =>
    have same : manager = { manager with driver := none } := by
      cases manager
      cases started
      rfl
    exact ⟨[], (List.append_nil _).symm, fun _ => ⟨rfl, rfl, rfl, found.trans (congrArg some same)⟩⟩
  | some driver =>
    have stopping : Closes number (Run.ask (.stopDriver driver) : Run β Unit) world
        [.automation driver] manager := by
      refine closes_of_asked (.stopDriver driver) found rfl (fun _ => rfl) ?_
      rcases Run.ask_cases (.stopDriver driver) world with ⟨_, left, asked⟩ | ⟨_, left, asked⟩
      · exact .inl ⟨_, left, asked⟩
      · exact .inr (by rw [after_of_error asked])
    exact stopping.bind (change_goesOn _) fun later found => change_closes found _

theorem closeBrowser_goesOn (browser : Option Nat) :
    GoesOn (closeBrowser number browser : Run β Unit) := by
  cases browser with
  | none => exact Moves.pure _
  | some browser => exact (asking_goesOn _).bind fun _ => change_goesOn _

theorem stopDriver_goesOn (driver : Option Nat) :
    GoesOn (stopDriver number driver : Run β Unit) := by
  cases driver with
  | none => exact Moves.pure _
  | some driver => exact (asking_goesOn _).bind fun _ => change_goesOn _

/-- Unless the browser refuses to close something, closing a manager closes all that it has on
record. -/
theorem close_closes (found : world.managers[number]? = some manager) :
    ∃ added, (after (close number) world).events = world.events ++ added ∧
      (AllYield added →
        opened added = [] ∧ (closed added).Perm manager.holds ∧
          ∃ left, (after (close number) world).managers[number]? = some left ∧
            left.holds = []) := by
  let emptying : Run β Unit := do
    closeContexts number manager.contexts.reverse
    closeBrowser number manager.browser
    stopDriver number manager.driver
  let noting : Run β Unit := do
    Run.log .debug ("Closed " ++ (← Run.ofExcept manager.shownType.spoken))
  have parts : after (close number) world = after (emptying >>= fun _ => noting) world := by
    simp only [emptying, noting, bind_assoc]
    rw [close, after_bind_of_ok (find_of_found found)]
  have noted : AddsOnly Plain noting :=
    (Moves.ofExcept _).bind fun _ => AddsOnly.log _ _
  have empties : Closes number emptying world (manager.contexts.reverse.map .context ++
      (manager.browser.toList.map .browser ++ manager.driver.toList.map .automation))
      { manager with contexts := [], browser := none, driver := none } := by
    refine (closeContexts_closes _ found rfl).bind ?_ fun later found => ?_
    · exact (closeBrowser_goesOn _).bind fun _ => stopDriver_goesOn _
    · refine (closeBrowser_closes found).bind (stopDriver_goesOn _) fun later found => ?_
      exact stopDriver_closes found
  obtain ⟨added, grown, empties⟩ := empties
  rw [parts]
  cases ran : emptying world with
  | error failure middle =>
    rw [after_of_error ran] at grown
    refine ⟨added, by rw [after_bind_of_error ran, grown], fun yields => ?_⟩
    rw [ran] at empties
    cases (empties yields).2.2.1
  | ok u middle =>
    rw [after_of_ok ran] at grown empties
    rw [after_bind_of_ok ran]
    obtain ⟨same, managers, more, grows, plain⟩ := noted middle
    refine ⟨added ++ more, by rw [grows, grown, List.append_assoc], fun yields => ?_⟩
    obtain ⟨opensNone, closesAll, -, left⟩ :=
      empties yields.left
    refine ⟨?_, ?_, _, by rw [managers, left], rfl⟩
    · rw [Event.opened_append, opensNone, Event.opened_of_plain plain]
      rfl
    · rw [Event.closed_append, closesAll, Event.closed_of_plain plain, List.append_nil]
      have contexts : (manager.contexts.reverse.map Resource.context).Perm
          (manager.contexts.map Resource.context) :=
        (List.reverse_perm _).map _
      exact (contexts.append List.perm_append_comm).trans List.perm_append_comm

end BrowserManager
end PageContracts
