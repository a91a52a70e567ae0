import PageContracts.Proofs.Departures
import PageContracts.Proofs.Prefixes

/-! # Bases

Where a driver goes is the address of its base and the page's template together. The two are set one
behind the other before the template is filled, so a percent sign of the base is one of the template as
soon as there are arguments; without arguments nothing is filled, and the base stands as it is. -/
namespace PageContracts

open Runs

variable {β : Type}

/-- The URL that a tab has been told to go to. -/
def Event.visit? : Event → Option String
  | .command (.goTo _ (.text url) _) _ => some url
  | _ => none

/-- The URLs that tabs have been told to go to since a state before. -/
def World.visits (later before : World β) : List String :=
  (later.since before).filterMap Event.visit?

theorem Event.visit?_of_asksAddress {event : Event} (asks : event.AsksAddress) :
    event.visit? = none := by
  obtain ⟨page, outcome, rfl⟩ := asks
  rfl

namespace Url

variable {arguments : List Value} {template target url : String} (base : String)
  (filling : ∀ argument ∈ arguments, fills argument = true)

include filling

/-- A base stands as it is before an address, if no percent sign of it meets arguments. -/
theorem make_behind_bare (bare : arguments = [] ∨ '%' ∉ base.toList) (template : String) :
    (make (base ++ template) arguments).toOption =
      (make template arguments).toOption.map (base ++ ·) := by
  by_cases none : arguments = []
  · subst none
    rfl
  · have bare := bare.resolve_left none
    simp only [make_of_fills filling, filled_of_fills filling none, Template.fill, Template.pieces,
      String.toList_append, toOption_bind, Template.filled_behind_bare bare]
    cases (Template.fillPieces _ _).toOption with
    | none => rfl
    | some text =>
      refine congrArg some ?_
      rw [String.ofList_append, String.ofList_toList]

/-- A base with a percent sign does not stand as it is before an address with arguments. -/
theorem make_behind_percent {base : String} (some : arguments ≠ []) (percent : '%' ∈ base.toList)
    (rooted : template.toList.head? = .some '/')
    (together : make (base ++ template) arguments = .ok target)
    (alone : make template arguments = .ok url) : target ≠ base ++ url := by
  rw [make_of_fills filling, filled_of_fills filling some] at together alone
  obtain ⟨text, filled, ended⟩ := except_bind_eq_ok.mp together
  obtain ⟨text', filled', ended'⟩ := except_bind_eq_ok.mp alone
  cases ended
  cases ended'
  obtain ⟨behind, spelled⟩ := List.head?_eq_some_iff.mp rooted
  rw [Template.pieces, String.toList_append, spelled] at filled
  rw [Template.pieces, spelled] at filled'
  intro same
  apply Template.filled_behind_percent percent filled filled'
  have letters := congrArg String.toList same
  rwa [String.toList_append, String.toList_ofList, String.toList_ofList] at letters

end Url

namespace PageDriver

variable {number : Nat} {driver : PageDriver} {session : Session} {world : World β}
  {type : TypeRef} {arguments : List Value} {text template : String} {address : Value}

/-- The base of a driver in front of the addresses of pages. -/
def baseText (text : String) : String :=
  Characters.dropTrailing '/' text

theorem given_destination (found : world.drivers[number]? = some driver)
    (based : driver.baseUrl.core = .text text)
    (addressed : addressOf world.classes type = .ok address) (spelled : address.core = .text template) :
    given (destination number type arguments world) =
      given (makeUrl (baseText text ++ template) arguments world) := by
  have trimmed : trimmedBase driver.baseUrl = .ok (baseText text) := by
    rw [trimmedBase, based]
    rfl
  have joined : joinAddress (baseText text) address = .ok (baseText text ++ template) := by
    rw [joinAddress, spelled]
  rw [destination, bind_of_ok (get_apply world), ofExcept_bind_of_ok addressed,
    bind_of_ok (find_of_found found), ofExcept_bind_of_ok trimmed, ofExcept_bind_of_ok joined]

variable [Remote β]

theorem createObject_adds (number : Nat) (type : TypeRef) :
    AddsOnly Event.AsksAddress (createObject number type : Run β Nat) :=
  (factoryOf_adds number).bind fun factory => factory.createIn_adds type _

/-- Going to a page tells the tab of one URL, or of none where none can be made. -/
theorem visits_of_goTo (found : world.drivers[number]? = some driver)
    (tab : driver.session = some session) (type : TypeRef) (arguments : List Value) :
    (after (goTo number type arguments) world).visits world =
      (given (destination number type arguments world)).toOption.toList := by
  cases made : destination number type arguments world with
  | error failure later =>
    have logged := (destination_onlyLogs number type arguments).of_eq_error made
    have silent : later.events = world.events ++ [] := by
      rw [logged.events_eq, List.append_nil]
    rw [goTo_eq, after_bind_of_error made, World.visits, World.since_of_events silent]
    rfl
  | ok target middle =>
    rcases World.goTo_cases found tab made with
      ⟨answer, arrived, -, goes, -, noted⟩ | ⟨message, later, -, stops, noted⟩
    · obtain ⟨added, grown, asks⟩ := (createObject_adds number type arrived).events
      have silent : added.filterMap Event.visit? = [] :=
        List.filterMap_eq_nil_iff.mpr fun event listed =>
          Event.visit?_of_asksAddress (asks event listed)
      rw [after_of_eq goes, World.visits, World.since_of_events (by rw [grown, noted,
        List.append_assoc]), List.filterMap_append, silent]
      rfl
    · rw [after_of_error stops, World.visits, World.since_of_events noted]
      rfl

/-- Where a driver goes for a page: to what its base and the page's template make together. -/
structure GoesUnder (world : World β) (number : Nat) (base : String) (type : TypeRef)
    (template : String) (arguments : List Value) : Prop where
  together : (after (goTo number type arguments) world).visits world =
    (given (makeUrl (base ++ template) arguments world)).toOption.toList
  /-- Unless a percent sign of the base meets arguments, it goes to the page's own URL behind the base
  whenever there is such a URL. -/
  under : arguments = [] ∨ '%' ∉ base.toList →
    (after (goTo number type arguments) world).visits world =
      ((given (makeUrl template arguments world)).toOption.map (base ++ ·)).toList
  /-- Otherwise it never goes there. -/
  astray : arguments ≠ [] → '%' ∈ base.toList →
    ∀ url, given (makeUrl template arguments world) = .ok url →
      base ++ url ∉ (after (goTo number type arguments) world).visits world

/-- A driver goes to the pages' own URLs behind its base, as long as no percent sign of the base meets
arguments. -/
theorem goesUnder_of_goTo (found : world.drivers[number]? = some driver)
    (tab : driver.session = some session) (based : driver.baseUrl.core = .text text)
    (addressed : addressOf world.classes type = .ok address) (spelled : address.core = .text template)
    (rooted : template.toList.head? = some '/')
    (filling : ∀ argument ∈ arguments, Url.fills argument = true) :
    GoesUnder world number (baseText text) type template arguments := by
  have shown := Url.shown_of_fills filling
  have together : (after (goTo number type arguments) world).visits world =
      (given (makeUrl (baseText text ++ template) arguments world)).toOption.toList := by
    rw [visits_of_goTo found tab, given_destination found based addressed spelled]
  refine ⟨together, ?_, ?_⟩
  · intro bare
    rw [together, given_makeUrl shown, given_makeUrl shown,
      Url.make_behind_bare (baseText text) filling bare]
  · intro some percent url alone listed
    rw [together, given_makeUrl shown] at listed
    rw [given_makeUrl shown] at alone
    have made := toOption_eq_some.mp (Option.mem_toList.mp listed)
    exact Url.make_behind_percent filling some percent rooted made alone rfl

end PageDriver

namespace Floors

/-- The class of floors. -/
def floor : ClassRef := { number := 0, name := "Floor" }

/-- A floor, which is found by its number. -/
def classes : ClassTable where
  classes := [
    { ref := floor, key := "Floor", ancestry := [.defined floor, .page]
      members := [
        (urlMember, .constant (.text "/floors/%d")),
        ("click_lift", .function
          { name := "click_lift", locator := some { kind := .id, template := "lift" }
            returns := some "None" })] }]

/-- A driver with percent signs in its base. -/
def driver : PageDriver :=
  { Halls.driver with baseUrl := .text "http://x/a%%b/" }

/-- A world with a floor to go to. -/
def world : World ScriptedBrowser :=
  { Halls.world with classes, drivers := [driver] }

/-- Without arguments a driver goes to a floor under its base; with one it goes astray. -/
theorem floor_sought :
    PageDriver.GoesUnder world 0 "http://x/a%%b" (.defined floor) "/floors/%d" [.int 3] ∧
      (after (PageDriver.goTo 0 (.defined floor) []) world).visits world =
        ["http://x/a%%b/floors/%d"] ∧
      "http://x/a%%b/floors/3" ∉
        (after (PageDriver.goTo 0 (.defined floor) [.int 3]) world).visits world := by
  have found : world.drivers[0]? = some driver := rfl
  have based : driver.baseUrl.core = .text "http://x/a%%b/" := rfl
  have addressed : PageDriver.addressOf world.classes (.defined floor) = .ok (.text "/floors/%d") := rfl
  have base : PageDriver.baseText "http://x/a%%b/" = "http://x/a%%b" := by decide +kernel
  have one : ∀ argument ∈ [Value.int 3], Url.fills argument = true := by
    intro argument listed
    rw [List.mem_singleton.mp listed]
    rfl
  have numbered := PageDriver.goesUnder_of_goTo found rfl based addressed rfl (by decide) one
  have plain : PageDriver.GoesUnder world 0 _ (.defined floor) "/floors/%d" [] :=
    PageDriver.goesUnder_of_goTo found rfl based addressed rfl (by decide) nofun
  rw [base] at numbered plain
  have made : given (PageDriver.makeUrl "/floors/%d" [.int 3] world) = .ok "/floors/3" := by
    decide +kernel
  exact ⟨numbered, plain.under (.inl rfl), numbered.astray nofun (by decide) _ made⟩

/-- A doubled percent sign of the base is halved on the way to the third floor. -/
theorem third_floor_missed :
    given (PageDriver.makeUrl "/floors/%d" [.int 3] world) = .ok "/floors/3" ∧
      (after (PageDriver.goTo 0 (.defined floor) [.int 3]) world).visits world =
        ["http://x/a%b/floors/3"] := by
  refine ⟨?_, ?_⟩ <;> decide +kernel

end Floors
end PageContracts
