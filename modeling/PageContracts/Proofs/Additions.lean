import PageContracts.Driver.Navigation
import PageContracts.Proofs.Settled

/-! # Additions to the journal

Most of what the library does adds events of a few kinds to the journal, takes none back, and is no
matter of the page drivers and their managers. Making an object asks a tab at most for its address. -/
namespace PageContracts

open Runs

variable {β α : Type}

namespace World

/-- The second world comes of the first by adding events of some kind, and by changes that are no
matter of page drivers. -/
structure Adds (kind : Event → Prop) (before later : World β) : Prop where
  drivers : later.drivers = before.drivers
  managers : later.managers = before.managers
  events : ∃ added, later.events = before.events ++ added ∧ ∀ event ∈ added, kind event

variable {kind wider : Event → Prop} {before later : World β}

theorem Adds.of_eq (drivers : later.drivers = before.drivers)
    (managers : later.managers = before.managers) (events : later.events = before.events) :
    Adds kind before later :=
  ⟨drivers, managers, [], by simp [events], by simp⟩

instance : IsPreorder (World β) (Adds kind) where
  refl _ := .of_eq rfl rfl rfl
  trans a b c hab hbc := by
    obtain ⟨first, added, firstKind⟩ := hab.events
    obtain ⟨second, more, secondKind⟩ := hbc.events
    refine ⟨hbc.drivers.trans hab.drivers, hbc.managers.trans hab.managers, first ++ second, ?_, ?_⟩
    · rw [more, added, List.append_assoc]
    · intro event listed
      rcases List.mem_append.mp listed with early | late
      · exact firstKind event early
      · exact secondKind event late

theorem Adds.imp (h : Adds kind before later) (weaker : ∀ event, kind event → wider event) :
    Adds wider before later := by
  obtain ⟨added, grown, kinds⟩ := h.events
  exact ⟨h.drivers, h.managers, added, grown, fun event listed => weaker event (kinds event listed)⟩

end World

open World (Adds)

/-- The events by which the journal of one world has grown to that of another. -/
def World.since (later before : World β) : List Event :=
  later.events.drop before.events.length

theorem World.since_of_events {before later : World β} {added : List Event}
    (grown : later.events = before.events ++ added) : later.since before = added := by
  rw [since, grown]
  exact List.drop_left

/-- A question for the address a tab shows. -/
def Event.AsksAddress (event : Event) : Prop :=
  ∃ page outcome, event = .command (.url page) outcome

/-- The browser carries a command out, or refuses it. -/
theorem Run.ask_cases [Remote β] (command : Command) (world : World β) :
    (∃ answer browser, Run.ask command world = .ok answer { world with
        browser, events := world.events ++ [.command command (.done (command.opened? answer))] }) ∨
      ∃ message browser, Run.ask command world = .error (.own .browser message) { world with
        browser, events := world.events ++ [.command command .refused] } := by
  unfold Run.ask
  rcases Remote.answer world.browser command with ⟨answer | message, browser⟩
  · exact .inr ⟨_, browser, rfl⟩
  · exact .inl ⟨_, browser, rfl⟩

/-- A run that adds events of some kind to the journal, and is no matter of page drivers. -/
abbrev AddsOnly (kind : Event → Prop) (run : Run β α) : Prop :=
  Moves (Adds kind) run

namespace AddsOnly

variable {kind wider : Event → Prop}

theorem mono {run : Run β α} (h : AddsOnly kind run)
    (weaker : ∀ event, kind event → wider event) : AddsOnly wider run :=
  Moves.imp h fun _ _ added => added.imp weaker

theorem note {event : Event} (h : kind event) : AddsOnly kind (Run.note event : Run β Unit) := by
  refine Moves.modify fun world => ⟨rfl, rfl, [event], rfl, ?_⟩
  simpa using h

theorem log (level : LogLevel) (message : String) :
    AddsOnly kind (Run.log level message : Run β Unit) :=
  Moves.modify fun _ => .of_eq rfl rfl rfl

theorem logAbout (panel : Value) (message : String) :
    AddsOnly kind (Run.logAbout panel message : Run β Unit) :=
  Moves.modify fun _ => .of_eq rfl rfl rfl

theorem changeFiles (change : FileChange) :
    AddsOnly kind (Run.changeFiles change : Run β Unit) := by
  intro world
  unfold after Run.changeFiles
  cases change world.files <;> exact .of_eq rfl rfl rfl

theorem ask [Remote β] {command : Command} (h : ∀ outcome, kind (.command command outcome)) :
    AddsOnly kind (Run.ask command : Run β command.Answer) := by
  intro world
  rcases Run.ask_cases command world with ⟨answer, browser, asked⟩ | ⟨message, browser, asked⟩
  · rw [after_of_ok asked]
    exact ⟨rfl, rfl, _, rfl, by simpa using h _⟩
  · rw [after_of_error asked]
    exact ⟨rfl, rfl, _, rfl, by simpa using h _⟩

theorem inStep {title : String} {run : Run β α} (begins : kind (.step title))
    (ends : ∀ failure, kind (.endStep failure)) (h : AddsOnly kind run) :
    AddsOnly kind (Run.inStep title run) := by
  intro world
  have noted {event : Event} (fits : kind event) (world : World β) :
      Adds kind world (world.noted event) :=
    (note fits).of_eq_ok (a := ()) rfl
  have moved : Adds kind world (after run (world.noted (.step title))) :=
    IsTrans.trans _ _ _ (noted begins world) (h _)
  rw [after, inStep_apply]
  cases ran : run (world.noted (.step title)) with
  | ok a later =>
    rw [after_of_ok ran] at moved
    exact IsTrans.trans _ _ _ moved (noted (ends none) later)
  | error failure later =>
    rw [after_of_error ran] at moved
    exact IsTrans.trans _ _ _ moved (noted (ends _) later)

end AddsOnly

namespace LiveObject

variable {kind : Event → Prop} (object : LiveObject)

theorem orInstead_adds (name : String) (arguments : List Value) (form : Value → α)
    {run : Run β α} (h : AddsOnly kind run) :
    AddsOnly kind (object.orInstead name arguments form run) := by
  unfold orInstead
  split
  · exact h
  · exact Moves.get.bind fun _ => (Moves.ofExcept _).bind fun _ => Moves.pure _

theorem log_adds {message : Run β String} (h : AddsOnly kind message) :
    AddsOnly kind (object.log message) := by
  refine Moves.get.bind fun world => (Moves.ofExcept _).bind fun held => ?_
  cases held with
  | inl panel => exact Moves.bind h fun _ => AddsOnly.logAbout _ _
  | inr value =>
    refine (Moves.ofExcept _).bind fun _ => Moves.bind h fun _ => ?_
    exact (Moves.ofExcept _).bind fun _ => Moves.pure _

theorem logAction_adds (action : Value) (target : Target) :
    AddsOnly kind (object.logAction action target : Run β Unit) := by
  refine object.orInstead_adds _ _ _ (Moves.get.bind fun world => ?_)
  refine object.log_adds ((Moves.ofExcept _).bind fun name => ?_)
  exact (Moves.ofExcept _).bind fun _ => (Moves.ofExcept _).bind fun _ => Moves.pure _

variable [Remote β]

theorem currentUrl_adds : AddsOnly Event.AsksAddress (object.currentUrl : Run β Value) := by
  refine Moves.get.bind fun world => ?_
  cases object.attributes.lookup "current_url" with
  | some value => exact Moves.ofExcept _
  | none =>
    refine (Moves.ofExcept _).bind fun held => ?_
    cases held with
    | inl session => exact AddsOnly.ask fun outcome => ⟨session.page, outcome, rfl⟩
    | inr value => exact Moves.ofExcept _

theorem announce_adds : AddsOnly Event.AsksAddress (object.announce : Run β Unit) := by
  refine Moves.get.bind fun world => Moves.bind ?_ fun _ => (Moves.ofExcept _).bind fun isPage => ?_
  · exact object.log_adds ((Moves.ofExcept _).bind fun _ => Moves.pure _)
  · split
    · refine object.log_adds (object.currentUrl_adds.bind fun url => ?_)
      exact (Moves.ofExcept _).bind fun _ => Moves.pure _
    · exact Moves.pure _

theorem equip_adds (given : Equipment) :
    AddsOnly Event.AsksAddress (object.equip given : Run β LiveObject) := by
  refine Moves.get.bind fun world => ?_
  split
  · exact Moves.get.bind fun _ => (announce_adds _).bind fun _ => Moves.pure _
  · exact Moves.throw _

end LiveObject

namespace Compilation

variable {kind : Event → Prop}

theorem afterReading_adds (world : World β) (memory : Language.Memory) :
    Adds kind world (world.afterReading memory) := by
  unfold World.afterReading
  dsimp only
  split <;> exact .of_eq rfl rfl rfl

theorem compile_adds (type : TypeRef) :
    AddsOnly kind (compile type : Run β CompiledContract) := by
  have afresh (contract : ClassRef) :
      AddsOnly kind (compileAfresh contract : Run β CompiledContract) := by
    refine fun world => compileAfresh_moves AddsOnly.log ?_
    rw [World.after_reading]
    exact afterReading_adds world _
  cases type with
  | defined contract =>
    refine Moves.get.bind fun world => ?_
    split
    · exact Moves.pure _
    · refine (afresh contract).bind fun compiled => ?_
      exact Moves.bind (Moves.modify fun _ => .of_eq rfl rfl rfl) fun _ => Moves.pure _
  | _ => exact Moves.throw _

theorem implement_adds (type : TypeRef) (base : BaseClass) :
    AddsOnly kind (implement type base : Run β Implementation) := by
  refine Moves.get.bind fun world => ?_
  split
  · exact Moves.pure _
  · refine (compile_adds type).bind fun compiled => Moves.get.bind fun world => ?_
    split
    · exact Moves.throw_bind _ _
    · refine (Moves.ofExcept _).bind fun methods => (Moves.ofExcept _).bind fun _ => ?_
      refine Moves.get.bind fun _ => ?_
      exact Moves.bind (Moves.modify fun _ => .of_eq rfl rfl rfl) fun _ => Moves.pure _

end Compilation

namespace Factory

variable [Remote β] (factory : Factory)

/-- Making an object asks a tab at most for its address. -/
theorem createIn_adds (contract : TypeRef) (outer : Nesting ⊕ Value) :
    AddsOnly Event.AsksAddress (factory.createIn contract outer : Run β Nat) := by
  refine (Compilation.implement_adds _ _).bind fun implementation => ?_
  refine Moves.get.bind fun _ => (Moves.ofExcept _).bind fun nesting => ?_
  refine Moves.get.bind fun _ => (Moves.ofExcept _).bind fun _ => ?_
  refine Moves.get.bind fun _ => (LiveObject.equip_adds _ _).bind fun made => ?_
  refine Moves.get.bind fun _ => ?_
  exact Moves.bind (Moves.modify fun _ => .of_eq rfl rfl rfl) fun _ => Moves.pure _

theorem createOffered_adds (offered : Value) (outer : Nesting ⊕ Value) :
    AddsOnly Event.AsksAddress (factory.createOffered offered outer : Run β Nat) := by
  unfold createOffered
  split
  · exact factory.createIn_adds _ _
  · split
    · exact (Moves.ofExcept _).bind fun _ => Moves.throw _
    · exact Moves.throw _

end Factory
end PageContracts
