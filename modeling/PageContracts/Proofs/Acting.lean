import PageContracts.Objects.Running
import PageContracts.Proofs.Runs

/-! # What acting leaves alone

Finding elements, acting on them, waiting and logging concern the browser and the records. The
classes, what has been compiled of them, and the objects stay as they are. -/
namespace PageContracts

open Runs

variable {β α : Type}

/-- The second world differs from the first at most in its browser and in what has been recorded. -/
def World.SameInside (before later : World β) : Prop :=
  later = { before with
    browser := later.browser
    events := later.events
    records := later.records }

namespace World.SameInside

instance : IsPreorder (World β) World.SameInside where
  refl _ := rfl
  trans a b c hab hbc := by
    cases a
    cases b
    cases c
    simp_all [World.SameInside]

variable {before later : World β}

theorem classes_eq (h : SameInside before later) : later.classes = before.classes :=
  (congrArg World.classes h :)

theorem objects_eq (h : SameInside before later) : later.objects = before.objects :=
  (congrArg World.objects h :)

theorem compiled_eq (h : SameInside before later) : later.compiled = before.compiled :=
  (congrArg World.compiled h :)

theorem implementations_eq (h : SameInside before later) :
    later.implementations = before.implementations :=
  (congrArg World.implementations h :)

end World.SameInside

open World (SameInside)

/-- A world with one more event. -/
def World.noted (world : World β) (event : Event) : World β :=
  { world with events := world.events ++ [event] }

@[simp] theorem note_apply (event : Event) (world : World β) :
    (Run.note event : Run β Unit) world = .ok () (world.noted event) := rfl

/-- A step of the report runs between two events, and ends as what is run in it ends. -/
theorem inStep_apply (title : String) (run : Run β α) (world : World β) :
    Run.inStep title run world =
      match run (world.noted (.step title)) with
      | .ok a later => .ok a (later.noted (.endStep none))
      | .error failure later => .error failure (later.noted (.endStep (some failure.kind))) := by
  cases hr : run (world.noted (.step title)) with
  | ok a later =>
    simp only [Run.inStep, bind, EStateM.bind, note_apply, tryCatch_apply, ExceptT.run, hr]
    rfl
  | error failure later =>
    simp only [Run.inStep, bind, EStateM.bind, note_apply, tryCatch_apply, ExceptT.run, hr]
    rfl

/-- Running changes nothing but the browser and the records. -/
abbrev StaysOutside (run : Run β α) : Prop :=
  Moves SameInside run

namespace StaysOutside

theorem note (event : Event) : StaysOutside (Run.note event : Run β Unit) :=
  Moves.modify fun _ => rfl

theorem log (level : LogLevel) (message : String) :
    StaysOutside (Run.log level message : Run β Unit) :=
  Moves.modify fun _ => rfl

theorem logAbout (panel : Value) (message : String) :
    StaysOutside (Run.logAbout panel message : Run β Unit) :=
  Moves.modify fun _ => rfl

theorem inStep (title : String) {run : Run β α} (h : StaysOutside run) :
    StaysOutside (Run.inStep title run) := by
  intro world
  have moved : SameInside world (after run (world.noted (.step title))) :=
    IsTrans.trans world (world.noted (.step title)) _ rfl (h _)
  rw [after, inStep_apply]
  cases hr : run (world.noted (.step title)) with
  | ok a later =>
    rw [after_of_ok hr] at moved
    exact IsTrans.trans _ later _ moved rfl
  | error failure later =>
    rw [after_of_error hr] at moved
    exact IsTrans.trans _ later _ moved rfl

theorem retry_after (budget : RetryBudget Value) (name : String) (expected : Failure → Bool)
    {body : Run β α} (h : StaysOutside body) (left : Nat) (pause : Value) (attempt : Nat)
    (failure : Failure) :
    StaysOutside (Retry.after budget name expected body left pause attempt failure) := by
  have giveUp : ∀ attempt failure,
      StaysOutside (Retry.after.giveUp name attempt failure : Run β α) := by
    intro attempt failure
    exact (log _ _).bind fun _ => Moves.throw _
  induction left generalizing pause attempt failure with
  | zero => unfold Retry.after; exact giveUp attempt failure
  | succ left ih =>
    by_cases hp : pause = .none
    · subst hp
      exact giveUp attempt failure
    · rw [Retry.after.eq_3 _ _ _ _ _ _ _ _ hp]
      refine (Moves.ofExcept _).bind fun _ => (log _ _).bind fun _ => (note _).bind fun _ => ?_
      refine Moves.tryCatch h fun later => ?_
      split
      · exact (Moves.ofExcept _).bind fun next => ih next _ later
      · exact Moves.throw _

theorem retry (budget : RetryBudget Value) (name : String) (expected : Failure → Bool)
    {body : Run β α} (h : StaysOutside body) :
    StaysOutside (Retry.run budget name expected body) := by
  refine Moves.tryCatch h fun failure => ?_
  split
  · exact (Moves.ofExcept _).bind fun left => retry_after budget name expected h left _ _ _
  · exact Moves.throw _

section Browser

variable [Remote β]

theorem ask (command : Command) : StaysOutside (Run.ask command : Run β command.Answer) := by
  intro world
  unfold after Run.ask
  rcases Remote.answer world.browser command with ⟨answer | message, browser⟩ <;> rfl

theorem waitVisible (page : Nat) (timeout : Value) (locator : ResolvedLocator) :
    StaysOutside (Finder.waitVisible page timeout locator : Run β String) := by
  refine (note _).bind fun _ => Moves.bind ?_ fun _ => (log _ _).bind fun _ => Moves.pure _
  refine Moves.tryCatch (ask _) fun failure => ?_
  split <;> exact Moves.throw _

theorem find (finder : Finder) (page : Nat) (locator : ResolvedLocator) :
    StaysOutside (finder.find page locator : Run β String) := by
  cases finder with
  | impatient timeout => exact waitVisible page timeout locator
  | patient timeout budget => exact retry _ _ _ (waitVisible page timeout locator)

end Browser
end StaysOutside

/-- The four primitive actions of a surface change nothing but the browser and the records. -/
structure Surface.StaysOutside (surface : Surface β) : Prop where
  click : ∀ locator, PageContracts.StaysOutside (surface.click locator)
  setText : ∀ locator text, PageContracts.StaysOutside (surface.setText locator text)
  readText : ∀ locator, PageContracts.StaysOutside (surface.readText locator)
  readAttribute : ∀ locator name, PageContracts.StaysOutside (surface.readAttribute locator name)

namespace Rehearsal

theorem surface_stays_outside (texts : List (String × Value))
    (attributes : List ((String × String) × Value)) :
    (surface texts attributes : Surface β).StaysOutside where
  click _ := StaysOutside.note _
  setText _ _ := StaysOutside.note _
  readText locator := by
    refine (StaysOutside.note _).bind fun _ => ?_
    split
    · exact Moves.pure _
    · exact Moves.throw _
  readAttribute locator name := by
    refine (StaysOutside.note _).bind fun _ => ?_
    dsimp only
    split
    · exact (Moves.throw _).bind fun _ => Moves.pure _
    · exact Moves.pure _

end Rehearsal

namespace Live

variable [Remote β]

theorem surface_stays_outside (session : Session) (finder : Finder) :
    (surface session finder : Surface β).StaysOutside where
  click locator := by
    refine StaysOutside.inStep _ ((StaysOutside.find _ _ _).bind fun selector => ?_)
    exact StaysOutside.ask _
  setText locator text := by
    refine (Moves.ofExcept _).bind fun shown => StaysOutside.inStep _ ?_
    exact (StaysOutside.find _ _ _).bind fun selector => StaysOutside.ask _
  readText locator := by
    refine StaysOutside.inStep _ ((StaysOutside.find _ _ _).bind fun selector => ?_)
    refine (StaysOutside.ask _).bind fun tag => (Moves.ofExcept _).bind fun isValue => ?_
    split <;> exact StaysOutside.ask _
  readAttribute locator name := by
    refine (Moves.ofExcept _).bind fun shown => StaysOutside.inStep _ ?_
    refine (StaysOutside.find _ _ _).bind fun selector => (StaysOutside.ask _).bind fun value => ?_
    split
    · exact (StaysOutside.log _ _).bind fun _ => Moves.pure _
    · exact Moves.pure _

end Live

theorem Actions.surface_stays_outside [Remote β] (actions : Actions) :
    (actions.surface : Surface β).StaysOutside := by
  cases actions with
  | rehearsed texts attributes => exact Rehearsal.surface_stays_outside texts attributes
  | live session finder => exact Live.surface_stays_outside session finder

namespace LiveObject

theorem orInstead_stays_outside (object : LiveObject) (name : String) (arguments : List Value)
    (form : Value → α) {run : Run β α} (h : StaysOutside run) :
    StaysOutside (object.orInstead name arguments form run) := by
  unfold orInstead
  split
  · exact h
  · exact Moves.get.bind fun _ => (Moves.ofExcept _).bind fun _ => Moves.pure _

theorem log_stays_outside (object : LiveObject) {message : Run β String}
    (h : StaysOutside message) : StaysOutside (object.log message) := by
  refine Moves.get.bind fun world => (Moves.ofExcept _).bind fun held => ?_
  cases held with
  | inl panel => exact h.bind fun _ => StaysOutside.logAbout _ _
  | inr value =>
    refine (Moves.ofExcept _).bind fun _ => h.bind fun _ => ?_
    exact (Moves.ofExcept _).bind fun _ => Moves.pure _

theorem logAction_stays_outside (object : LiveObject) (action : Value) (target : Target) :
    StaysOutside (object.logAction action target : Run β Unit) := by
  refine object.orInstead_stays_outside _ _ _ (Moves.get.bind fun world => ?_)
  refine object.log_stays_outside ((Moves.ofExcept _).bind fun name => ?_)
  exact (Moves.ofExcept _).bind fun _ => (Moves.ofExcept _).bind fun _ => Moves.pure _

theorem askSession_stays_outside (object : LiveObject) (name : String)
    {ask : Session → Run β Value} (h : ∀ session, StaysOutside (ask session)) :
    StaysOutside (object.askSession name ask) := by
  refine Moves.get.bind fun world => ?_
  cases object.attributes.lookup name with
  | some value => exact Moves.ofExcept _
  | none =>
    refine (Moves.ofExcept _).bind fun held => ?_
    cases held with
    | inl session => exact h session
    | inr value => exact Moves.ofExcept _

variable [Remote β]

theorem announce_stays_outside (object : LiveObject) :
    StaysOutside (object.announce : Run β Unit) := by
  refine Moves.get.bind fun world => Moves.bind ?_ fun _ => (Moves.ofExcept _).bind fun isPage => ?_
  · exact object.log_stays_outside ((Moves.ofExcept _).bind fun _ => Moves.pure _)
  · split
    · refine object.log_stays_outside (Moves.bind ?_ fun url => ?_)
      · exact object.askSession_stays_outside _ fun session => StaysOutside.ask _
      · exact (Moves.ofExcept _).bind fun _ => Moves.pure _
    · exact Moves.pure _

theorem equip_stays_outside (object : LiveObject) (given : Equipment) :
    StaysOutside (object.equip given : Run β LiveObject) := by
  refine Moves.get.bind fun world => ?_
  split
  · exact Moves.get.bind fun _ => (announce_stays_outside _).bind fun _ => Moves.pure _
  · exact Moves.throw _

theorem act_stays_outside (object : LiveObject) (name : String) (target : Target)
    (more : List Value) (title : Except Failure String)
    {run : Surface β → ResolvedLocator → Run β Value}
    (h : ∀ (actions : Actions) locator, StaysOutside (run actions.surface locator)) :
    StaysOutside (object.act name target more title run) := by
  refine Moves.get.bind fun world => (Moves.ofExcept _).bind fun held => ?_
  cases held with
  | inl actions =>
    dsimp only
    split
    · exact h _ _
    · exact (Moves.ofExcept _).bind fun _ => StaysOutside.inStep _ (Moves.throw _)
    · exact Moves.throw _
  | inr value => exact Moves.ofExcept _

theorem clickWithin_stays_outside (object : LiveObject) (target : Target) (fuel : Nat) :
    StaysOutside (object.clickWithin target fuel : Run β Unit) := by
  induction fuel generalizing object with
  | zero => exact Moves.throw _
  | succ fuel ih =>
    refine (object.logAction_stays_outside _ _).bind fun _ => Moves.get.bind fun world => ?_
    refine (Moves.ofExcept _).bind fun held => ?_
    split
    · split
      · exact ih _
      · exact Moves.throw _
    · refine Moves.bind ?_ fun _ => Moves.pure _
      refine object.act_stays_outside _ _ _ _ fun actions locator => ?_
      exact (actions.surface_stays_outside.click locator).bind fun _ => Moves.pure _

theorem click_stays_outside (object : LiveObject) (target : Target) :
    StaysOutside (object.click target : Run β Unit) :=
  Moves.get.bind fun _ => object.clickWithin_stays_outside target _

theorem fill_stays_outside (object : LiveObject) (target : Target) (text : Value) :
    StaysOutside (object.fill target text : Run β Unit) := by
  refine Moves.get.bind fun world => (Moves.ofExcept _).bind fun masked => ?_
  refine (Moves.ofExcept _).bind fun shown => (object.logAction_stays_outside _ _).bind fun _ => ?_
  refine Moves.bind ?_ fun _ => Moves.pure _
  refine object.act_stays_outside _ _ _ _ fun actions locator => ?_
  exact (actions.surface_stays_outside.setText locator text).bind fun _ => Moves.pure _

theorem readText_stays_outside (object : LiveObject) (target : Target) :
    StaysOutside (object.readText target : Run β Value) := by
  refine (object.logAction_stays_outside _ _).bind fun _ => ?_
  exact object.act_stays_outside _ _ _ _ fun actions => actions.surface_stays_outside.readText

theorem readAttribute_stays_outside (object : LiveObject) (target : Target) (name : Value) :
    StaysOutside (object.readAttribute target name : Run β Value) := by
  refine (Moves.ofExcept _).bind fun shown => (object.logAction_stays_outside _ _).bind fun _ => ?_
  exact object.act_stays_outside _ _ _ _ fun actions locator =>
    actions.surface_stays_outside.readAttribute locator name

theorem runCall_stays_outside (object : LiveObject) (arguments : List Value) (sliceAt : Nat)
    (last : Value) (call : PrimitiveCall) :
    StaysOutside (object.runCall arguments sliceAt last call : Run β Value) := by
  refine Moves.get.bind fun world => (Moves.ofExcept _).bind fun target => ?_
  cases call with
  | click locator =>
    refine (object.orInstead_stays_outside _ _ _ ?_).bind fun _ => Moves.pure _
    exact object.click_stays_outside target
  | setText locator argument field =>
    refine Moves.get.bind fun world => ?_
    refine (object.orInstead_stays_outside _ _ _ (Moves.ofExcept _)).bind fun value => ?_
    split
    · exact Moves.pure _
    · refine (Moves.ofExcept _).bind fun text => ?_
      refine (object.orInstead_stays_outside _ _ _ ?_).bind fun _ => Moves.pure _
      exact object.fill_stays_outside target _
  | readText locator => exact object.orInstead_stays_outside _ _ _ (object.readText_stays_outside _)
  | readAttribute locator name =>
    exact object.orInstead_stays_outside _ _ _ (object.readAttribute_stays_outside _ _)

theorem runCalls_stays_outside (object : LiveObject) (arguments : List Value) (sliceAt : Nat)
    (last : Value) (calls : List PrimitiveCall) :
    StaysOutside (object.runCalls arguments sliceAt last calls : Run β Value) := by
  induction calls generalizing last with
  | nil => exact Moves.pure _
  | cons call rest ih =>
    exact (object.runCall_stays_outside arguments sliceAt last call).bind fun next => ih next

end LiveObject
end PageContracts
