import PageContracts.Proofs.Declarations
import PageContracts.Proofs.Unaware
import PageContracts.Proofs.Untyped

/-! # Secrecy

What is typed into an element that hides it shows nowhere but in the browser: neither in the log nor
in the titles of the report's steps, whatever becomes of the operation that types it. -/
namespace PageContracts

open Runs
open World (SameInside Twins)
open World.Twins (get_bind)

variable {β α γ : Type} {alike : β → β → Prop}

/-- The title of the step of the report that an event begins. -/
def Event.stepTitle? : Event → Option String
  | .step title => some title
  | _ => none

/-- The titles of the steps of the report, in order. -/
def World.stepTitles (world : World β) : List String :=
  world.events.filterMap Event.stepTitle?

theorem Event.Alike.stepTitle?_eq {one other : Event} (h : one.Alike other) :
    one.stepTitle? = other.stepTitle? := by
  cases h <;> rfl

theorem World.Twins.records_eq {one other : World β} (h : Twins alike one other) :
    one.records = other.records :=
  (congrArg World.records h.inside :).symm

theorem stepTitles_of_alike {events events' : List Event}
    (h : List.Forall₂ Event.Alike events events') :
    events.filterMap Event.stepTitle? = events'.filterMap Event.stepTitle? := by
  induction h with
  | nil => rfl
  | cons first _ ih => simp only [List.filterMap_cons, first.stepTitle?_eq, ih]

theorem World.Twins.stepTitles_eq {one other : World β} (h : Twins alike one other) :
    one.stepTitles = other.stepTitles :=
  stepTitles_of_alike h.events

/-- Texts of one length look the same where they are hidden. -/
theorem maskValue_of_hidden {locator : ResolvedLocator} {text text' : String}
    (hidden : hidesText locator = true) (length : text.length = text'.length) :
    maskValue locator text = maskValue locator text' := by
  simp only [maskValue, hidden, if_true, length]

/-- Two rows of arguments of a plan differ at most in what it types into elements that hide it: the
elements are the same, and into each of them either the same is typed or a text of the same
length. -/
structure LiveObject.SameButHidden (object : LiveObject) (world : World β) (plan : CallPlan)
    (arguments arguments' : List Value) : Prop where
  aims : arguments.drop plan.sliceAt = arguments'.drop plan.sliceAt
  typed : ∀ locator argument field, .setText locator argument field ∈ plan.calls →
    object.valueFor world arguments argument field =
        object.valueFor world arguments' argument field ∨
      ∃ element value value' text text',
        object.resolve world.classes locator (arguments.drop plan.sliceAt) =
            .ok (.located element) ∧
          hidesText element = true ∧
          object.valueFor world arguments argument field = .ok value ∧ value ≠ .none ∧
          object.valueFor world arguments' argument field = .ok value' ∧ value' ≠ .none ∧
          value.spoken = .ok text ∧ value'.spoken = .ok text' ∧ text.length = text'.length

/-- A plan that does nothing but type. -/
def CallPlan.Types (plan : CallPlan) : Prop :=
  ∀ call ∈ plan.calls, ∃ locator argument field, call = .setText locator argument field

/-- Operations that set something do nothing but type. -/
theorem types_of_compiled {operation : Operation} {plan : CallPlan} {world later : World β}
    (accepted : Compilation.compileOperation {} operation world = .ok plan later)
    (sets : operation.hasVerb "set" = true) : plan.Types := by
  obtain ⟨rule, selected, -, rfl, -⟩ := Compilation.compileOperation_eq_ok accepted
  obtain ⟨listed, accepts⟩ := Registry.accepts_of_select selected
  have named := Rule.named_of_accepts accepts
  simp only [Rule.standard, List.mem_cons, List.not_mem_nil, or_false] at listed
  rcases listed with rfl | rfl | rfl | rfl
  · exact absurd named (by simp [Rule.verb, Rule.not_namedAfter (by decide : 's' ≠ 'c') sets])
  · exact absurd named (by simp [Rule.verb, Rule.not_namedAfter (by decide : 's' ≠ 'r') sets])
  · intro call listed
    obtain ⟨field, -, rfl⟩ := List.mem_map.mp listed
    exact ⟨_, _, _, rfl⟩
  · intro call listed
    obtain ⟨locator, -, rfl⟩ := List.mem_map.mp listed
    exact ⟨_, _, _, rfl⟩

/-- Twins of which the first is inside as it was at a start. -/
structure World.TwinsSince (alike : β → β → Prop) (start one other : World β) : Prop where
  inside : SameInside start one
  twins : Twins alike one other

open World (TwinsSince)

variable {start : World β}

namespace World.TwinsSince

theorem of_alike {run other : Run β α} (h : Alike (Twins alike) run other)
    (stays : StaysOutside run) : Alike (TwinsSince alike start) run other := by
  intro one two since
  have moved : SameInside start (after run one) := IsTrans.trans _ _ _ since.inside (stays one)
  have agreed := h one two since.twins
  unfold after at moved
  generalize run one = ended, other two = ended' at agreed moved
  cases agreed with
  | ok a twins => exact .ok a ⟨moved, twins⟩
  | error failure twins => exact .error failure ⟨moved, twins⟩

theorem get_bind {next next' : World β → Run β γ}
    (h : ∀ (world : World β) browser events, SameInside start world →
      Alike (TwinsSince alike start) (next world) (next' { world with browser, events })) :
    Alike (TwinsSince alike start) (get >>= next) (get >>= next') := by
  refine Alike.get_bind fun one other since => ?_
  rw [since.twins.inside]
  exact h one _ _ since.inside

theorem ofExcept (result : Except Failure α) :
    Alike (TwinsSince alike start) (Run.ofExcept result : Run β α) (Run.ofExcept result) :=
  of_alike (Twins.ofExcept result) (Moves.ofExcept result)

end World.TwinsSince

theorem LiveObject.valueFor_inside {object : LiveObject} {world : World β} (inside : SameInside start world)
    (arguments : List Value) (argument : Nat) (field : Option String) :
    object.valueFor world arguments argument field = object.valueFor start arguments argument field := by
  rw [inside]
  rfl

section Typing

variable [Remote β]

theorem Live.setText_unaware (answers : Remote.AnswersAlike alike) (session : Session)
    (finder : Finder) (locator : ResolvedLocator) (text : Value) :
    Unaware alike (Live.setText session finder locator text : Run β Unit) := by
  refine (Twins.ofExcept _).bind fun shown => Twins.inStep _ ?_
  exact (Twins.find answers _ _ _).bind fun selector => Twins.ask answers trivial

/-- The step of the report and the search for the element do not tell what is typed. -/
theorem Live.setText_hidden (answers : Remote.AnswersAlike alike) (session : Session)
    (finder : Finder) {locator : ResolvedLocator} {text text' : String}
    (hidden : hidesText locator = true) (length : text.length = text'.length) :
    Alike (Twins alike) (Live.setText session finder locator (.text text) : Run β Unit)
      (Live.setText session finder locator (.text text')) := by
  have shown : maskOffered locator (.text text) = maskOffered locator (.text text') :=
    congrArg Except.ok (maskValue_of_hidden hidden length)
  unfold Live.setText
  rw [shown]
  refine (Twins.ofExcept _).bind fun shown => Twins.inStep _ ?_
  refine Alike.bind_of_gives (Twins.find answers _ _ _) (finder.find_gives _ _) ?_
  rintro _ rfl
  exact Twins.type answers _ hidden length

theorem Actions.setText_unaware (answers : Remote.AnswersAlike alike) (actions : Actions)
    (locator : ResolvedLocator) (text : Value) :
    Unaware alike ((actions.surface : Surface β).setText locator text) := by
  cases actions with
  | rehearsed texts attributes => exact Twins.note _
  | live session finder => exact Live.setText_unaware answers _ _ _ _

namespace LiveObject

theorem act_unaware (object : LiveObject) (name : String) (target : Target) (more : List Value)
    (title : Except Failure String) {run : Surface β → ResolvedLocator → Run β Value}
    (h : ∀ (actions : Actions) locator, Unaware alike (run actions.surface locator)) :
    Unaware alike (object.act name target more title run) := by
  refine get_bind fun world browser events => (Twins.ofExcept _).bind fun held => ?_
  cases held with
  | inl actions =>
    dsimp only
    split
    · exact h _ _
    · exact (Twins.ofExcept _).bind fun _ => Twins.inStep _ (Alike.throw _)
    · exact Alike.throw _
  | inr value => exact Twins.ofExcept _

theorem fill_unaware (answers : Remote.AnswersAlike alike) (object : LiveObject) (target : Target)
    (text : Value) : Unaware alike (object.fill target text : Run β Unit) := by
  refine get_bind fun world browser events => (Twins.ofExcept _).bind fun masked => ?_
  refine (Twins.ofExcept _).bind fun shown => (object.logAction_unaware _ _).bind fun _ => ?_
  refine Alike.bind (object.act_unaware _ _ _ _ fun actions locator => ?_) fun _ => Alike.pure _
  exact (actions.setText_unaware answers locator text).bind fun _ => Alike.pure _

variable {object : LiveObject} {session : Session} {finder : Finder}

/-- Neither the log nor the report tells what is typed into an element that hides it. -/
theorem fill_hidden (answers : Remote.AnswersAlike alike)
    (live : object.heldAt start.classes "actions" object.actions =
      .ok (.inl (.live session finder)))
    {locator : ResolvedLocator} {text text' : String} (hidden : hidesText locator = true)
    (length : text.length = text'.length) :
    Alike (TwinsSince alike start) (object.fill (.located locator) (.text text) : Run β Unit)
      (object.fill (.located locator) (.text text')) := by
  have masked (table : ClassTable) : Target.mask table (.located locator) (.text text) =
      Target.mask table (.located locator) (.text text') :=
    congrArg (Except.ok ∘ Value.text) (maskValue_of_hidden hidden length)
  refine TwinsSince.get_bind fun world browser events _ => ?_
  rw [masked]
  refine (TwinsSince.ofExcept _).bind fun masked => (TwinsSince.ofExcept _).bind fun shown => ?_
  refine Alike.bind (TwinsSince.of_alike (object.logAction_unaware _ _)
    (object.logAction_stays_outside _ _)) fun _ => ?_
  refine Alike.bind (TwinsSince.get_bind fun world browser events inside => ?_) fun _ => Alike.pure _
  rw [← inside.classes_eq] at live
  dsimp only
  rw [ofExcept_bind_of_ok live, ofExcept_bind_of_ok live]
  refine Alike.bind (TwinsSince.of_alike ?_ ?_) fun _ => Alike.pure _
  · exact Live.setText_hidden answers _ _ hidden length
  · exact (Live.surface_stays_outside session finder).setText _ _

variable {plan : CallPlan} {arguments arguments' : List Value}

theorem runCall_hidden (answers : Remote.AnswersAlike alike) (untouched : object.attributes = [])
    (live : object.heldAt start.classes "actions" object.actions =
      .ok (.inl (.live session finder)))
    (same : object.SameButHidden start plan arguments arguments') {locator : LocatorDescriptor}
    {argument : Nat} {field : Option String}
    (planned : .setText locator argument field ∈ plan.calls) (last : Value) :
    Alike (TwinsSince alike start)
      (object.runCall arguments plan.sliceAt last (.setText locator argument field) : Run β Value)
      (object.runCall arguments' plan.sliceAt last (.setText locator argument field)) := by
  refine TwinsSince.get_bind fun world browser events inside => ?_
  rw [← same.aims]
  simp only [orInstead_of_untouched untouched, PrimitiveCall.locator]
  rcases same.typed locator argument field planned with
    equal | ⟨element, value, value', text, text', aimed, hidden, taken, some, taken', some', said,
      said', length⟩
  · refine (TwinsSince.ofExcept _).bind fun target => ?_
    refine TwinsSince.get_bind fun world browser events inside => ?_
    have elsewhere : object.valueFor { world with browser, events } arguments' argument field =
        object.valueFor world arguments' argument field := rfl
    rw [elsewhere, valueFor_inside inside, valueFor_inside inside, ← equal]
    refine (TwinsSince.ofExcept _).bind fun value => ?_
    split
    · exact Alike.pure _
    · refine (TwinsSince.ofExcept _).bind fun text => Alike.bind ?_ fun _ => Alike.pure _
      exact TwinsSince.of_alike (fill_unaware answers _ _ _) (object.fill_stays_outside _ _)
  · rw [← inside.classes_eq] at aimed
    rw [ofExcept_bind_of_ok aimed, ofExcept_bind_of_ok aimed]
    refine TwinsSince.get_bind fun world browser events inside => ?_
    have elsewhere : object.valueFor { world with browser, events } arguments' argument field =
        object.valueFor world arguments' argument field := rfl
    rw [← valueFor_inside inside] at taken taken'
    rw [elsewhere, ofExcept_bind_of_ok taken, ofExcept_bind_of_ok taken']
    split
    · exact absurd rfl some
    · rw [ofExcept_bind_of_ok said, ofExcept_bind_of_ok said']
      exact (fill_hidden answers live hidden length).bind fun _ => Alike.pure _

theorem runCalls_hidden (answers : Remote.AnswersAlike alike) (untouched : object.attributes = [])
    (live : object.heldAt start.classes "actions" object.actions =
      .ok (.inl (.live session finder)))
    (same : object.SameButHidden start plan arguments arguments') (types : plan.Types)
    {calls : List PrimitiveCall} (planned : calls ⊆ plan.calls) (last : Value) :
    Alike (TwinsSince alike start) (object.runCalls arguments plan.sliceAt last calls : Run β Value)
      (object.runCalls arguments' plan.sliceAt last calls) := by
  induction calls generalizing last with
  | nil => exact Alike.pure _
  | cons call rest ih =>
    obtain ⟨first, others⟩ := List.cons_subset.mp planned
    obtain ⟨locator, argument, field, rfl⟩ := types call first
    exact (runCall_hidden answers untouched live same first last).bind fun next => ih others next

/-- Two runs of an operation that sets something, which differ at most in texts of one length that are
typed into elements that hide them, log the same and report the same steps, and they end alike. -/
theorem runPlan_keeps_secrets {declaring declared world : World β} {operation : Operation}
    (accepted : Compilation.compileOperation {} operation declaring = .ok plan declared)
    (sets : operation.hasVerb "set" = true) (untouched : object.attributes = [])
    (live : object.heldAt world.classes "actions" object.actions =
      .ok (.inl (.live session finder)))
    (answers : Remote.AnswersAlike alike) {other : World β} (twins : Twins alike world other)
    (same : object.SameButHidden world plan arguments arguments') (number : Nat) :
    Agree (fun later later' =>
        later.records = later'.records ∧ later.stepTitles = later'.stepTitles)
      (object.runPlan number plan arguments world) (object.runPlan number plan arguments' other) := by
  have types : plan.Types := types_of_compiled accepted sets
  have typed (last : Value) :
      Alike (TwinsSince alike world) (object.runCalls arguments plan.sliceAt last plan.calls : Run β _)
        (object.runCalls arguments' plan.sliceAt last plan.calls) :=
    runCalls_hidden answers untouched live same types (List.Subset.refl _) last
  have typed : Agree (Twins alike) (object.runCalls arguments plan.sliceAt .none plan.calls world)
      (object.runCalls arguments' plan.sliceAt .none plan.calls other) :=
    (typed .none world other ⟨rfl, twins⟩).imp fun _ _ since => since.twins
  have ran : Agree (Twins alike) (object.runPlan number plan arguments world)
      (object.runPlan number plan arguments' other) := by
    rw [runPlan, runPlan, bind_apply, bind_apply]
    generalize object.runCalls arguments plan.sliceAt .none plan.calls world = ended,
      object.runCalls arguments' plan.sliceAt .none plan.calls other = ended' at typed
    cases typed with
    | ok result twins => exact object.finish_unaware answers number plan result _ _ twins
    | error failure twins => exact .error failure twins
  exact ran.imp fun _ _ twins => ⟨twins.records_eq, twins.stepTitles_eq⟩

end LiveObject
end Typing

namespace SignUp

/-- The class of accounts. -/
def account : ClassRef := { number := 0, name := "Account" }

/-- The class of forms in which an account is opened. -/
def form : ClassRef := { number := 1, name := "Form" }

/-- A model with two fields, and a panel. -/
def classes : ClassTable where
  classes := [
    { ref := account, key := "Account", ancestry := [.defined account]
      members := [(modelMember, .constant (.bool true))]
      fields := some [{ name := "login" }, { name := "word" }] },
    { ref := form, key := "Form", ancestry := [.defined form, .panel] }]

/-- The operation that fills the form in. -/
def fillIn : Operation where
  owner := form.name
  name := "set_form"
  parameterTypes := [.defined account]
  returnKind := some .void
  locator := some { kind := .id, template := "pass" }

/-- An account. -/
def accountOf (login word : String) : Value :=
  .record account [("login", .text login), ("word", .text word)] {} none

/-- The form, worked on in a browser. -/
def object : LiveObject where
  implementation :=
    { number := 0, name := "FormImpl", contract := form, base := .plain, methods := [] }
  actions := .proper (.live { page := 0 } .standard)
  name := some (.text form.name)
  logger := .proper (.text form.name)
  nesting := .proper ⟨[.locator { kind := .id, template := "My" }]⟩

/-- A browser that shows the form. -/
def browser : ScriptedBrowser where
  pages := [{ elements := [("[id=\"Mypasslogin\"]", {}), ("[id=\"Mypassword\"]", {})] }]

/-- A world in which nothing has happened. -/
def world : World ScriptedBrowser where
  browser := browser
  clock := default
  classes := classes

/-- The element that the password is typed into: it is one of passwords because of the operation's
locator and the name of the field together. -/
def element : ResolvedLocator := { kind := .id, value := "Mypassword" }

theorem hidden : hidesText element = true := by decide +kernel

theorem same : object.SameButHidden world (Rule.setModel.plan classes fillIn)
    [accountOf "me" "monkey"] [accountOf "me" "dragon"] := by
  refine ⟨rfl, fun locator argument field listed => ?_⟩
  rcases List.mem_pair.mp listed with login | word
  · cases login
    exact .inl rfl
  · cases word
    exact .inr ⟨element, _, _, "monkey", "dragon", rfl, hidden, rfl, nofun, rfl, nofun, rfl, rfl, rfl⟩

/-- Two passwords of one length leave the same records and the same titles of steps. -/
theorem passwords_look_alike :
    ∃ plan declared,
      Compilation.compileOperation {} fillIn world = .ok plan declared ∧
        Agree (fun later later' =>
            later.records = later'.records ∧ later.stepTitles = later'.stepTitles)
          (object.runPlan 0 plan [accountOf "me" "monkey"] world)
          (object.runPlan 0 plan [accountOf "me" "dragon"] world) ∧
        (after (object.runPlan 0 plan [accountOf "me" "monkey"]) world).stepTitles =
          ["Set By.id: Mypasslogin: me", "Set By.id: Mypassword: ******"] := by
  have twins : Twins ScriptedBrowser.SameUntyped world world := ⟨rfl, .nil, rfl⟩
  obtain ⟨declared, accepted⟩ : ∃ declared,
      Compilation.compileOperation {} fillIn world =
        .ok (Rule.setModel.plan classes fillIn) declared := ⟨_, rfl⟩
  refine ⟨_, declared, accepted, ?_, ?_⟩
  · exact LiveObject.runPlan_keeps_secrets accepted (by decide +kernel) rfl rfl
      ScriptedBrowser.answersAlike twins same 0
  · decide +kernel

end SignUp
end PageContracts
