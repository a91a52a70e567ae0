import PageContracts.Proofs.Addresses
import PageContracts.Proofs.Inward
import PageContracts.Proofs.Starting

/-! # Departures

Going to a page takes three steps: the address is made, the tab is sent there, and an object of the page
is created. Whatever is wrong with the address is found out in the first step, before the tab is told
anything; whatever is wrong with the contract is found out in the third, when the tab has left. -/
namespace PageContracts

open Runs
open World (SameInside)

variable {β α : Type}

/-- Nothing has come of it but log records. -/
def World.OnlyLogs (before later : World β) : Prop :=
  later = { before with records := later.records }

namespace World.OnlyLogs

instance : IsPreorder (World β) World.OnlyLogs where
  refl _ := rfl
  trans a b c hab hbc := by
    cases a
    cases b
    cases c
    simp_all [World.OnlyLogs]

variable {before later : World β}

theorem events_eq (h : OnlyLogs before later) : later.events = before.events :=
  (congrArg World.events h :)

theorem browser_eq (h : OnlyLogs before later) : later.browser = before.browser :=
  (congrArg World.browser h :)

theorem drivers_eq (h : OnlyLogs before later) : later.drivers = before.drivers :=
  (congrArg World.drivers h :)

theorem sameInside (h : OnlyLogs before later) : SameInside before later := by
  rw [show later = _ from h]
  rfl

end World.OnlyLogs

open World (OnlyLogs)

namespace PageDriver

variable {number : Nat} {driver : PageDriver} {session : Session} {world later : World β}

/-- The address that a driver is to go to. -/
def destination (number : Nat) (type : TypeRef) (arguments : List Value) : Run β String := do
  let address ← Run.ofExcept (addressOf (← get).classes type)
  let base ← Run.ofExcept (trimmedBase (← find number).baseUrl)
  makeUrl (← Run.ofExcept (joinAddress base address)) arguments

theorem sessionOf_of_found (found : world.drivers[number]? = some driver)
    (held : driver.session = some session) : sessionOf number world = .ok session world := by
  rw [sessionOf, bind_of_ok (find_of_found found), held]
  rfl

theorem factoryOf_of_found {factory : Factory} (found : world.drivers[number]? = some driver)
    (held : driver.factory = some factory) : factoryOf number world = .ok factory world := by
  rw [factoryOf, bind_of_ok (find_of_found found), held]
  rfl

theorem makeUrl_onlyLogs (template : String) (arguments : List Value) :
    Moves OnlyLogs (makeUrl template arguments : Run β String) := by
  rw [makeUrl_eq]
  refine Moves.bind ?_ fun _ => Moves.ofExcept _
  rw [logSenseless]
  generalize arguments.filter Url.isSenseless = senseless
  induction senseless with
  | nil => exact Moves.pure _
  | cons argument rest ih =>
    have logs (message : String) : Moves OnlyLogs (Run.log .error message : Run β Unit) :=
      Moves.modify fun _ => rfl
    exact ((Moves.ofExcept _).bind logs).bind fun _ => ih

theorem find_onlyLogs (number : Nat) : Moves OnlyLogs (find number : Run β PageDriver) := by
  refine Moves.get.bind fun world => ?_
  split
  · exact Moves.pure _
  · exact Moves.throw _

theorem destination_onlyLogs (number : Nat) (type : TypeRef) (arguments : List Value) :
    Moves OnlyLogs (destination number type arguments : Run β String) := by
  refine Moves.get.bind fun world => (Moves.ofExcept _).bind fun address => ?_
  refine (find_onlyLogs number).bind fun driver => (Moves.ofExcept _).bind fun base => ?_
  exact (Moves.ofExcept _).bind fun template => makeUrl_onlyLogs template arguments

theorem addressOf_onlyMishaps (table : ClassTable) (type : TypeRef) :
    OnlyMishaps (addressOf table type) := by
  refine (table.capability_onlyMishaps _).bind fun mark _ => ?_
  dsimp only
  split
  · exact .error rfl
  · refine (table.valueOf_onlyMishaps _ _).bind fun url _ => ?_
    split
    · exact .error rfl
    · exact .ok _

/-- A type that is no page, or that has no address, is not gone to. -/
theorem addressOf_of_lacking {table : ClassTable} {type : TypeRef} {mark : Option Capability}
    (marked : table.capability type = .ok mark)
    (lacking : mark ≠ some .page ∨ table.urlOf type = .ok .none) :
    addressOf table type = .error (addressOf.noAddress type) := by
  rw [addressOf, marked]
  by_cases page : mark = some .page
  · rcases lacking with other | bare
    · exact absurd page other
    · rw [page, bare]
      rfl
  · simp only [bind, Except.bind, ne_eq, page, not_false_eq_true, if_true]
    rfl

theorem trimmedBase_onlyMishaps (base : Value) : OnlyMishaps (trimmedBase base) := by
  unfold trimmedBase
  split
  · exact .ok _
  · exact .typeBreach _
  · exact .missing _

theorem joinAddress_onlyMishaps (base : String) (address : Value) :
    OnlyMishaps (joinAddress base address) := by
  unfold joinAddress
  split
  · exact .ok _
  · exact .typeBreach _

theorem make_onlyMishaps (template : String) (arguments : List Value) :
    OnlyMishaps (Url.make template arguments) := by
  refine OnlyMishaps.bind ?_ fun _ _ => .ok _
  exact .ite (.ok _) (Template.fill_onlyMishaps _ _)

theorem makeUrl_failsByMishap (template : String) (arguments : List Value) :
    FailsByMishap (makeUrl template arguments : Run β String) := by
  rw [makeUrl_eq]
  refine FailsByMishap.bind ?_ fun _ => .ofExcept (make_onlyMishaps _ _)
  rw [logSenseless]
  generalize arguments.filter Url.isSenseless = senseless
  induction senseless with
  | nil => exact .pure _
  | cons argument rest ih =>
    have told : OnlyMishaps (Url.senselessMessage argument) :=
      (Value.written_onlyMishaps _ _).map _
    exact ((FailsByMishap.ofExcept told).bind fun _ => .log _ _).bind fun _ => ih

/-- Nothing that is wrong with an address has to do with compiling a contract. -/
theorem destination_failsByMishap (number : Nat) (type : TypeRef) (arguments : List Value) :
    FailsByMishap (destination number type arguments : Run β String) := by
  refine FailsByMishap.get_bind fun world => ?_
  refine (FailsByMishap.ofExcept (addressOf_onlyMishaps _ _)).bind fun address => ?_
  refine FailsByMishap.bind ?_ fun driver => ?_
  · refine FailsByMishap.get_bind fun world => ?_
    split
    · exact .pure _
    · exact .throw rfl
  refine (FailsByMishap.ofExcept (trimmedBase_onlyMishaps _)).bind fun base => ?_
  refine (FailsByMishap.ofExcept (joinAddress_onlyMishaps _ _)).bind fun template => ?_
  exact makeUrl_failsByMishap _ _

variable [Remote β]

/-- Send the tab of a driver to an address, as a step of the report. -/
def depart (number : Nat) (target : String) : Run β Unit :=
  Run.inStep ("Navigate to " ++ target) do
    let session ← sessionOf number
    session.goTo (.text target) (.text "load")

theorem goTo_eq (number : Nat) (type : TypeRef) (arguments : List Value) :
    (goTo number type arguments : Run β Nat) =
      (destination number type arguments >>= fun target => depart number target >>= fun _ =>
        createObject number type) := by
  simp only [goTo, destination, bind_assoc]
  rfl

/-- The command that sends a tab to an address. -/
abbrev sending (session : Session) (target : String) : Command :=
  .goTo session.page (.text target) (.text "load")

/-- What is noted of sending a tab to an address. -/
def departure (session : Session) (target : String) (outcome : CommandOutcome)
    (failure : Option FailureKind) : List Event :=
  [.step ("Navigate to " ++ target), .command (sending session target) outcome, .endStep failure]

theorem depart_cases (found : world.drivers[number]? = some driver)
    (held : driver.session = some session) (target : String) :
    (∃ answer later, (Remote.answer world.browser (sending session target)).1 = .ok answer ∧
      depart number target world = .ok () later ∧ SameInside world later ∧
        later.events = world.events ++ departure session target (.done none) none) ∨
    ∃ message later, (Remote.answer world.browser (sending session target)).1 = .error message ∧
      depart number target world = .error (.own .browser message) later ∧ SameInside world later ∧
        later.events = world.events ++ departure session target .refused (some .browser) := by
  have told : (do
      let session ← sessionOf number
      session.goTo (.text target) (.text "load") : Run β Unit)
        (world.noted (.step ("Navigate to " ++ target))) =
      Run.ask (sending session target)
        { world.noted (.step ("Navigate to " ++ target)) with
          records := world.records ++
            [{ level := .debug, message := "Navigating to " ++ target }] } := by
    have found' : (world.noted (.step ("Navigate to " ++ target))).drivers[number]? = some driver :=
      found
    rw [bind_of_ok (sessionOf_of_found found' held), Session.goTo]
    rfl
  rw [depart, inStep_apply, told, Run.ask]
  have same : (world.noted (.step ("Navigate to " ++ target))).browser = world.browser := rfl
  dsimp only
  rw [same]
  rcases Remote.answer world.browser (sending session target) with ⟨message | answer, browser⟩
  · refine .inr ⟨message, _, rfl, rfl, rfl, ?_⟩
    simp [World.noted, departure, Failure.own]
  · refine .inl ⟨answer, _, rfl, rfl, rfl, ?_⟩
    simp [World.noted, departure, Command.opened?]

end PageDriver

namespace World

variable [Remote β]

/-- How a driver that has a tab and a factory goes to pages: all that can be wrong with the address is
found out before, and all that can be wrong with the contract after the tab has been sent there. -/
structure Departs (world : World β) (number : Nat) (driver : PageDriver) (session : Session)
    (factory : Factory) : Prop where
  unaddressed : ∀ type arguments mark, world.classes.capability type = .ok mark →
    mark ≠ some .page ∨ world.classes.urlOf type = .ok .none →
      PageDriver.goTo number type arguments world =
        .error (PageDriver.addressOf.noAddress type) world
  unfilled : ∀ type arguments base template failure later,
    PageDriver.trimmedBase driver.baseUrl = .ok base →
      PageDriver.addressOf world.classes type = .ok (.text template) →
        PageDriver.makeUrl (base ++ template) arguments world = .error failure later →
          PageDriver.goTo number type arguments world = .error failure later
  /-- Whatever else is wrong with the address, nothing but log records comes of it. -/
  grounded : ∀ type arguments failure later,
    PageDriver.destination number type arguments world = .error failure later →
      PageDriver.goTo number type arguments world = .error failure later ∧
        OnlyLogs world later ∧ failure.kind.isSynthesis = false
  unsent : ∀ type arguments target middle message,
    PageDriver.destination number type arguments world = .ok target middle →
      (Remote.answer world.browser (PageDriver.sending session target)).1 = .error message →
        ∃ later, PageDriver.goTo number type arguments world = .error (.own .browser message) later ∧
          later.events =
            world.events ++ PageDriver.departure session target .refused (some .browser)
  /-- A contract is refused that would have been refused before, if only the tab has got there. -/
  refused : ∀ type arguments failure, failure.kind.isSynthesis = true →
    ((∃ later, PageDriver.goTo number type arguments world = .error failure later) ↔
      (∃ target middle answer,
        PageDriver.destination number type arguments world = .ok target middle ∧
          (Remote.answer world.browser (PageDriver.sending session target)).1 = .ok answer) ∧
        ∃ later, world.Refuses type factory.base failure later)
  late : ∀ type arguments failure later, failure.kind.isSynthesis = true →
    PageDriver.goTo number type arguments world = .error failure later →
      ∃ target, later.events =
        world.events ++ PageDriver.departure session target (.done none) none

variable {world later : World β} {number : Nat} {driver : PageDriver} {session : Session}
  {factory : Factory}

/-- With an address, a driver sends its tab there, and creates an object if the tab has gone. -/
theorem goTo_cases (found : world.drivers[number]? = some driver)
    (tab : driver.session = some session) {type : TypeRef} {arguments : List Value} {target : String}
    {middle : World β} (made : PageDriver.destination number type arguments world = .ok target middle) :
    (∃ answer arrived, (Remote.answer world.browser (PageDriver.sending session target)).1 =
        .ok answer ∧
      PageDriver.goTo number type arguments world = PageDriver.createObject number type arrived ∧
        SameInside world arrived ∧ arrived.events =
          world.events ++ PageDriver.departure session target (.done none) none) ∨
    ∃ message later, (Remote.answer world.browser (PageDriver.sending session target)).1 =
        .error message ∧
      PageDriver.goTo number type arguments world = .error (.own .browser message) later ∧
        later.events =
          world.events ++ PageDriver.departure session target .refused (some .browser) := by
  have logged : OnlyLogs world middle := (PageDriver.destination_onlyLogs _ _ _).of_eq_ok made
  have found' : middle.drivers[number]? = some driver := by rw [logged.drivers_eq, found]
  have outcome := PageDriver.depart_cases found' tab target
  rw [logged.browser_eq, logged.events_eq] at outcome
  rcases outcome with
    ⟨answer, arrived, sent, departed, inside, noted⟩ |
      ⟨message, later, unsent, departed, -, noted⟩
  · refine .inl ⟨answer, arrived, sent, ?_, IsTrans.trans _ _ _ logged.sameInside inside, noted⟩
    rw [PageDriver.goTo_eq, bind_of_ok made, bind_of_ok departed]
  · refine .inr ⟨message, later, unsent, ?_, noted⟩
    rw [PageDriver.goTo_eq, bind_of_ok made, bind_of_error departed]

theorem refuses_iff_createObject (found : world.drivers[number]? = some driver)
    (maker : driver.factory = some factory) {type : TypeRef} {failure : Failure}
    (synthesis : failure.kind.isSynthesis = true) :
    PageDriver.createObject number type world = .error failure later ↔
      world.Refuses type factory.base failure later := by
  rw [PageDriver.createObject, bind_of_ok (PageDriver.factoryOf_of_found found maker)]
  exact Factory.refuses_iff_createIn synthesis

/-- A contract is refused when the tab has been sent to the address of its page. -/
theorem arrived_of_goTo (found : world.drivers[number]? = some driver)
    (tab : driver.session = some session) (maker : driver.factory = some factory) {type : TypeRef}
    {arguments : List Value} {failure : Failure} (synthesis : failure.kind.isSynthesis = true)
    (failed : PageDriver.goTo number type arguments world = .error failure later) :
    ∃ target middle answer arrived,
      PageDriver.destination number type arguments world = .ok target middle ∧
        (Remote.answer world.browser (PageDriver.sending session target)).1 = .ok answer ∧
          SameInside world arrived ∧
            arrived.events =
              world.events ++ PageDriver.departure session target (.done none) none ∧
              arrived.Refuses type factory.base failure later := by
  have going := failed
  rw [PageDriver.goTo_eq] at going
  obtain ⟨target, middle, made, -⟩ :=
    (PageDriver.destination_failsByMishap _ _ _).exists_ok_of_bind going synthesis
  rcases goTo_cases found tab made with
    ⟨answer, arrived, sent, goes, inside, noted⟩ | ⟨message, ended, -, stops, -⟩
  · have found' : arrived.drivers[number]? = some driver := by rw [inside.drivers_eq, found]
    rw [goes] at failed
    exact ⟨target, middle, answer, arrived, made, sent, inside, noted,
      (refuses_iff_createObject found' maker synthesis).mp failed⟩
  -- What the browser reports has nothing to do with compiling a contract.
  · rw [stops] at failed
    cases failed
    cases synthesis

theorem departs_of_found (found : world.drivers[number]? = some driver)
    (tab : driver.session = some session) (maker : driver.factory = some factory) :
    world.Departs number driver session factory where
  unaddressed type arguments mark marked lacking := by
    have failed : PageDriver.destination number type arguments world =
        .error (PageDriver.addressOf.noAddress type) world := by
      rw [PageDriver.destination, bind_of_ok (get_apply world),
        PageDriver.addressOf_of_lacking marked lacking]
      rfl
    rw [PageDriver.goTo_eq, bind_of_error failed]
  unfilled type arguments base template failure later trimmed addressed failed := by
    have made : PageDriver.destination number type arguments world = .error failure later := by
      rw [PageDriver.destination, bind_of_ok (get_apply world), ofExcept_bind_of_ok addressed,
        bind_of_ok (PageDriver.find_of_found found), ofExcept_bind_of_ok trimmed]
      exact failed
    rw [PageDriver.goTo_eq, bind_of_error made]
  grounded type arguments failure later failed := by
    refine ⟨?_, ?_, ?_⟩
    · rw [PageDriver.goTo_eq, bind_of_error failed]
    · exact (PageDriver.destination_onlyLogs _ _ _).of_eq_error failed
    · exact PageDriver.destination_failsByMishap _ _ _ _ _ _ failed
  unsent type arguments target middle message made refused := by
    rcases goTo_cases found tab made with
      ⟨answer, -, sent, -⟩ | ⟨told, later, unsent, stops, noted⟩
    · cases sent.symm.trans refused
    · cases unsent.symm.trans refused
      exact ⟨later, stops, noted⟩
  refused type arguments failure synthesis := by
    constructor
    · rintro ⟨later, failed⟩
      obtain ⟨target, middle, answer, arrived, made, sent, inside, -, refused⟩ :=
        arrived_of_goTo found tab maker synthesis failed
      exact ⟨⟨target, middle, answer, made, sent⟩, inside.refuses_iff.mp ⟨later, refused⟩⟩
    · rintro ⟨⟨target, middle, answer, made, sent⟩, refused⟩
      rcases goTo_cases found tab made with
        ⟨_, arrived, -, goes, inside, -⟩ | ⟨message, -, unsent, -⟩
      · have found' : arrived.drivers[number]? = some driver := by rw [inside.drivers_eq, found]
        obtain ⟨later, refused⟩ := inside.refuses_iff.mpr refused
        refine ⟨later, ?_⟩
        rw [goes]
        exact (refuses_iff_createObject found' maker synthesis).mpr refused
      · cases unsent.symm.trans sent
  late type arguments failure later synthesis failed := by
    obtain ⟨target, middle, answer, arrived, -, -, -, noted, refused⟩ :=
      arrived_of_goTo found tab maker synthesis failed
    exact ⟨target, (Compilation.quiet_of_refuses refused).events.trans noted⟩

end World

namespace Halls

/-- The class of halls: pages with an address and without operations. -/
def hall : ClassRef := { number := 0, name := "Hall" }

/-- A hall. -/
def classes : ClassTable where
  classes := [
    { ref := hall, key := "Hall", ancestry := [.defined hall, .page]
      members := [(urlMember, .constant (.text "/hall"))] }]

/-- The tab that a driver opens first. -/
def session : Session := { page := 0, context := some ⟨0, 0⟩ }

/-- What a driver makes its pages with. -/
def factory : Factory := { session, actions := .live session .standard }

/-- A driver that has been started. -/
def driver : PageDriver :=
  { Trial.driver with manager := some 0, session := some session, factory := some factory }

/-- A world with halls to go to, and a driver to get there. -/
def world : World ScriptedBrowser where
  browser := { pages := [{}] }
  clock := default
  classes := classes
  drivers := [driver]

/-- A hall is refused, after the tab has been sent there. -/
theorem hall_refused :
    world.drivers[0]? = some driver ∧ driver.session = some session ∧
      driver.factory = some factory ∧
      (∃ unmoved, world.Refuses (.defined hall) .plain (Compilation.noOperations hall) unmoved) ∧
      ∃ later target, PageDriver.goTo 0 (.defined hall) [] world =
          .error (Compilation.noOperations hall) later ∧
        later.events = world.events ++ PageDriver.departure session target (.done none) none := by
  have found : world.drivers[0]? = some driver := rfl
  have departs : world.Departs 0 driver session factory := World.departs_of_found found rfl rfl
  obtain ⟨later, failed⟩ : ∃ later, PageDriver.goTo 0 (.defined hall) [] world =
      .error (Compilation.noOperations hall) later := ⟨_, rfl⟩
  have refused := ((departs.refused _ _ _ rfl).mp ⟨later, failed⟩).2
  obtain ⟨target, noted⟩ := departs.late _ _ _ _ rfl failed
  exact ⟨found, rfl, rfl, refused, later, target, failed, noted⟩

/-- Halls can be known to be without operations, and a driver still goes there first. -/
theorem hall_visited :
    ∃ unmoved later, Compilation.compile (.defined hall) world =
        .error (Compilation.noOperations hall) unmoved ∧ unmoved.events = [] ∧
      PageDriver.goTo 0 (.defined hall) [] world = .error (Compilation.noOperations hall) later ∧
        later.events = [.step "Navigate to http://localhost/hall",
          .command (.goTo 0 (.text "http://localhost/hall") (.text "load")) (.done none),
          .endStep none] :=
  ⟨_, _, rfl, rfl, rfl, rfl⟩

end Halls
end PageContracts
