import PageContracts.Browser.Scripted
import PageContracts.Proofs.Selection
import PageContracts.Proofs.Workplace

/-! # Operations do what they declare

What an operation does can be read off its declaration, without a plan. Running the plan that an
accepted operation is compiled to does just that, whatever the action surface makes of it. -/
namespace PageContracts

open Runs
open World (SameInside)

variable {β α : Type}

namespace World

/-- What a model has under the name of one of its fields. -/
def modelField (world : World β) (model : Value) (field : String) : Except Failure Value :=
  match model with
  | .record ofClass attributes _ _ => world.classes.attributeOf ofClass attributes field
  | .object ref =>
    match world.objects[ref.number]? with
    | some object => object.attributeNow world.classes field
    | none => .error (.missing field)
  | _ => .error (.missing field)

/-- A value is an instance of a type with fields. -/
def HasInstance (world : World β) (type : TypeRef) (value : Value) : Prop :=
  match value with
  | .record ofClass _ _ _ =>
    world.classes.descends (.defined ofClass) type = true ∧
      world.classes.isRecordType (.defined ofClass) = true
  | .object ref =>
    ∃ object, world.objects[ref.number]? = some object ∧
      world.classes.descends (.defined object.contract) type = true ∧
      world.classes.isRecordType (.defined object.contract) = true
  | _ => False

theorem HasInstance.later {world later : World β} {type : TypeRef} {value : Value}
    (given : world.HasInstance type value) (moved : SameInside world later) :
    later.HasInstance type value := by
  unfold HasInstance
  rw [moved.classes_eq, moved.objects_eq]
  exact given

/-- A value may be given for a parameter of a type: a text where a text is asked for, and an
instance of the model where that is one. -/
def Admits (world : World β) (declared : ClassTable) (type : TypeRef) (value : Value) : Prop :=
  (type = .text → ∃ text, value.core = .text text) ∧
    (declared.isModel type = true → world.HasInstance type value)

end World

/-- A way to fill in one field of a model, given the locator of its element. -/
abbrev FieldStep (β : Type) : Type :=
  Workplace → LocatorDescriptor → Value → String → Run β Unit

namespace Operation

/-- The operation is named after a verb. -/
def hasVerb (operation : Operation) (verb : String) : Bool :=
  Rule.namedAfter verb.toList operation.name.toList

/-- The model that the operation takes, if it takes one and nothing else. -/
def model? (declared : ClassTable) (operation : Operation) : Option TypeRef :=
  match operation.parameterTypes with
  | [type] => if declared.isModel type then some type else none
  | _ => none

/-- The names of the fields of a type, in the order they are declared. -/
def fieldNames (declared : ClassTable) (type : TypeRef) : List String :=
  match declared.fieldsOf type with
  | .ok (some fields) => fields.map Field.name
  | _ => []

/-- The element that the operation is about. -/
def aim (operation : Operation) (workplace : Workplace) (arguments : List Value) :
    Except Failure ResolvedLocator :=
  match operation.locator with
  | some locator => workplace.place.resolve locator arguments
  | none => .error (Registry.unmatched operation)

/-- The locator of one field of the model that the operation takes. -/
def fieldAim (operation : Operation) (field : String) : LocatorDescriptor :=
  match operation.locator with
  | some locator => locator.extended field
  | none => { kind := .id, template := LocatorDescriptor.escapePercent field }

/-- How the operation ends unless it reads: with the object itself, with a panel inside it, or with
a page of its own. -/
def conclude [Remote β] (operation : Operation) (workplace : Workplace) : Run β Outcome :=
  let target := operation.returnType.getD .nothing
  match operation.returnKind with
  | some .panel => .object <$> workplace.factory.create target workplace.place
  | some .page => .object <$> workplace.factory.create target .outermost
  | _ => pure (.object workplace.number)

/-- Read an element: the attribute that the operation's locator names, or else the text. -/
def readAt [Remote β] (operation : Operation) (workplace : Workplace)
    (locator : ResolvedLocator) : Run β Value :=
  match operation.locator.bind LocatorDescriptor.readsAttribute with
  | some name =>
    if name.isEmpty then workplace.readText locator else workplace.readAttribute locator name
  | none => workplace.readText locator

/-- What the operation does, read off its declaration. -/
def perform [Remote β] (fill : FieldStep β) (declared : ClassTable) (operation : Operation)
    (workplace : Workplace) (arguments : List Value) : Run β Outcome :=
  if operation.hasVerb "read" then do
    let locator ← Run.ofExcept (operation.aim workplace arguments)
    return .ofValue (← operation.readAt workplace locator)
  else if operation.hasVerb "click" then do
    workplace.click (← Run.ofExcept (operation.aim workplace arguments))
    operation.conclude workplace
  else
    match operation.model? declared with
    | some type => do
      (fieldNames declared type).forM fun field =>
        fill workplace (operation.fieldAim field) (arguments.headD .none) field
      operation.conclude workplace
    | none => do
      let locator ← Run.ofExcept (operation.aim workplace (arguments.drop 1))
      let text ← Run.ofExcept (arguments.headD .none).spoken
      workplace.setText locator text
      operation.conclude workplace

end Operation

namespace Workplace

variable [Remote β]

/-- Fill in a field: find its element, then type what the model has for it, if that is anything. -/
def fillField : FieldStep β := fun workplace aim model field => do
  let locator ← Run.ofExcept (workplace.place.resolve aim [])
  match ← Run.ofExcept ((← get).modelField model field) with
  | .none => return ()
  | value => workplace.setText locator (← Run.ofExcept value.spoken)

/-- Fill in a field, but look for its element only if the model has something for it. -/
def fillGivenField : FieldStep β := fun workplace aim model field => do
  match ← Run.ofExcept ((← get).modelField model field) with
  | .none => return ()
  | value => do
    let locator ← Run.ofExcept (workplace.place.resolve aim [])
    workplace.setText locator (← Run.ofExcept value.spoken)

end Workplace

namespace LiveObject.WorksAt

variable {object : LiveObject} {workplace : Workplace} {world : World β} {arguments : List Value}
  {sliceAt : Nat} {last : Value} {locator : LocatorDescriptor}

theorem aimed (h : object.WorksAt world.classes workplace) (next : Target → Run β α) :
    (Run.ofExcept (object.resolve world.classes locator arguments) >>= next) =
      Run.ofExcept (workplace.place.resolve locator arguments) >>= fun found =>
        next (.located found) := by
  rw [h.resolve]
  cases workplace.place.resolve locator arguments <;> rfl

/-- A model's field is what the model has under its name. -/
theorem fieldOf_eq (object : LiveObject) {type : TypeRef} {model : Value}
    (given : world.HasInstance type model) (field : String) :
    object.fieldOf world model field = world.modelField model field := by
  cases model with
  | record ofClass attributes traits core =>
    obtain ⟨-, isRecord⟩ := given
    simp only [LiveObject.fieldOf, World.modelField, isRecord, if_true]
  | object ref =>
    obtain ⟨other, found, -, isRecord⟩ := given
    simp only [LiveObject.fieldOf, World.modelField, found, isRecord, if_true]
  | _ => exact given.elim

variable [Remote β]

theorem runCall_click (h : object.WorksAt world.classes workplace) :
    object.runCall arguments sliceAt last (.click locator) world =
      (do
        workplace.click (← Run.ofExcept (workplace.place.resolve locator (arguments.drop sliceAt)))
        return last : Run β Value) world := by
  rw [LiveObject.runCall, bind_of_ok (get_apply world)]
  simp only [PrimitiveCall.locator, h.aimed, orInstead_of_untouched h.untouched]
  refine bind_congr_apply rfl fun element _ found => ?_
  obtain ⟨-, rfl⟩ := ofExcept_eq_ok.mp found
  exact bind_congr_apply (h.click element) fun _ _ _ => rfl

theorem runCall_readText (h : object.WorksAt world.classes workplace) :
    object.runCall arguments sliceAt last (.readText locator) world =
      (do
        workplace.readText (← Run.ofExcept
          (workplace.place.resolve locator (arguments.drop sliceAt))) : Run β Value) world := by
  rw [LiveObject.runCall, bind_of_ok (get_apply world)]
  simp only [PrimitiveCall.locator, h.aimed, orInstead_of_untouched h.untouched]
  refine bind_congr_apply rfl fun element _ found => ?_
  obtain ⟨-, rfl⟩ := ofExcept_eq_ok.mp found
  exact h.readText element

theorem runCall_readAttribute (h : object.WorksAt world.classes workplace) (name : String) :
    object.runCall arguments sliceAt last (.readAttribute locator name) world =
      (do
        workplace.readAttribute (← Run.ofExcept
          (workplace.place.resolve locator (arguments.drop sliceAt))) name :
            Run β Value) world := by
  rw [LiveObject.runCall, bind_of_ok (get_apply world)]
  simp only [PrimitiveCall.locator, h.aimed, orInstead_of_untouched h.untouched]
  refine bind_congr_apply rfl fun element _ found => ?_
  obtain ⟨-, rfl⟩ := ofExcept_eq_ok.mp found
  exact h.readAttribute element name

theorem typing (h : object.WorksAt world.classes workplace) (element : ResolvedLocator)
    (value : Value) :
    (do
      object.fill (.located element) (.text (← Run.ofExcept value.spoken))
      return last : Run β Value) world =
      (do
        workplace.setText element (← Run.ofExcept value.spoken)
        return last : Run β Value) world := by
  refine bind_congr_apply rfl fun text _ said => ?_
  obtain ⟨-, rfl⟩ := ofExcept_eq_ok.mp said
  exact bind_congr_apply (h.fill element text) fun _ _ _ => rfl

theorem runCall_setText (h : object.WorksAt world.classes workplace) {value : Value}
    (first : arguments.head? = some value) (something : value ≠ .none) :
    object.runCall arguments sliceAt last (.setText locator 0 none) world =
      (do
        let element ← Run.ofExcept (workplace.place.resolve locator (arguments.drop sliceAt))
        workplace.setText element (← Run.ofExcept value.spoken)
        return last : Run β Value) world := by
  rw [LiveObject.runCall, bind_of_ok (get_apply world)]
  simp only [PrimitiveCall.locator, h.aimed, orInstead_of_untouched h.untouched]
  refine bind_congr_apply rfl fun element _ found => ?_
  obtain ⟨-, rfl⟩ := ofExcept_eq_ok.mp found
  have taken : object.valueFor world arguments 0 none = .ok value := by
    rw [List.head?_eq_getElem?] at first
    simp only [LiveObject.valueFor, first]
  rw [bind_of_ok (get_apply world), ofExcept_bind_of_ok taken]
  split
  · exact absurd rfl something
  · exact h.typing element value

theorem runCall_setField (h : object.WorksAt world.classes workplace) {type : TypeRef}
    {model : Value} (given : world.HasInstance type model) (field : String)
    (locator : LocatorDescriptor) (last : Value) :
    object.runCall [model] 1 last (.setText locator 0 (some field)) world =
      (do
        Workplace.fillField workplace locator model field
        return last : Run β Value) world := by
  rw [LiveObject.runCall, bind_of_ok (get_apply world)]
  simp only [PrimitiveCall.locator, h.aimed, orInstead_of_untouched h.untouched]
  rw [Workplace.fillField, bind_assoc]
  refine bind_congr_apply rfl fun element _ found => ?_
  obtain ⟨-, rfl⟩ := ofExcept_eq_ok.mp found
  have taken : object.valueFor world [model] 0 (some field) = world.modelField model field :=
    fieldOf_eq object given field
  rw [bind_of_ok (get_apply world), bind_assoc, bind_of_ok (get_apply world), taken, bind_assoc]
  refine bind_congr_apply rfl fun value _ had => ?_
  obtain ⟨-, rfl⟩ := ofExcept_eq_ok.mp had
  by_cases something : value = .none
  · subst something
    rfl
  · simp only [bind_assoc]
    exact h.typing element value

/-- Filling in field after field: nothing that is done to one field bears on what the model has for
the next. -/
theorem runCalls_fields (h : object.WorksAt world.classes workplace) {type : TypeRef}
    {model : Value} (given : world.HasInstance type model) (aim : String → LocatorDescriptor)
    (fields : List String) (last : Value) :
    object.runCalls [model] 1 last (fields.map fun field => .setText (aim field) 0 (some field))
        world =
      (do
        fields.forM fun field => Workplace.fillField workplace (aim field) model field
        return last : Run β Value) world := by
  induction fields generalizing world with
  | nil => rfl
  | cons field rest ih =>
    have first := h.runCall_setField given field (aim field) last
    rw [List.map_cons, LiveObject.runCalls, bind_apply, first, ← bind_apply]
    rw [List.forM, bind_assoc, bind_assoc]
    refine bind_congr_apply rfl fun _ later filled => ?_
    rw [bind_of_ok filled] at first
    -- Filling in a field changes the browser, but no model: the next field is read as at the start.
    have moved : SameInside world later := (object.runCall_stays_outside _ _ _ _).of_eq_ok first
    rw [pure_bind]
    exact ih (h.later moved) (given.later moved)

theorem makePanel (h : object.WorksAt world.classes workplace) (contract : TypeRef) :
    object.makePanel (.type contract) world =
      (Outcome.object <$> workplace.factory.create contract workplace.place) world := by
  rw [LiveObject.makePanel, LiveObject.createThrough, bind_of_ok (get_apply world)]
  rw [ofExcept_bind_of_ok h.factory]
  dsimp only
  rw [if_pos rfl, ofExcept_bind_of_ok h.place]
  rfl

theorem navigateTo (h : object.WorksAt world.classes workplace) (contract : TypeRef) :
    object.navigateTo (.type contract) world =
      (Outcome.object <$> workplace.factory.create contract .outermost) world := by
  rw [LiveObject.navigateTo, LiveObject.createThrough, bind_of_ok (get_apply world)]
  rw [ofExcept_bind_of_ok h.factory]
  rfl

theorem finish_eq (h : object.WorksAt world.classes workplace) {plan : CallPlan}
    (ending : plan.ending = plan.operation.returnKind) (standard : plan.operation.returnsStandard)
    (value : Value) :
    object.finish workplace.number plan value world = plan.operation.conclude workplace world := by
  obtain ⟨kind, known⟩ := Option.isSome_iff_exists.mp standard
  simp only [LiveObject.finish, ending, known, orInstead_of_untouched h.untouched,
    Operation.conclude, CallPlan.target]
  cases kind with
  | void => rfl
  | self => rfl
  | panel => exact h.makePanel _
  | page => exact h.navigateTo _

end LiveObject.WorksAt

namespace Rule

variable {operation : Operation} {declared : ClassTable}

theorem clicks (accepted : click.accepts declared operation = true) :
    operation.hasVerb "read" = false ∧ operation.hasVerb "click" = true :=
  ⟨not_namedAfter (by decide) (named_of_accepts accepted), named_of_accepts accepted⟩

theorem sets {rule : Rule} (accepted : rule.accepts declared operation = true)
    (sets : rule.verb = "set") :
    operation.hasVerb "read" = false ∧ operation.hasVerb "click" = false := by
  have named := named_of_accepts accepted
  rw [sets] at named
  exact ⟨not_namedAfter (by decide) named, not_namedAfter (by decide) named⟩

/-- A model is filled in field by field, each in its own element. -/
theorem calls_setModel {type : TypeRef} (listed : operation.parameterTypes = [type]) :
    setModel.calls declared operation =
      (Operation.fieldNames declared type).map fun field =>
        .setText (operation.fieldAim field) 0 (some field) := by
  have aims : fieldLocator operation.locator = operation.fieldAim := by
    funext field
    cases located : operation.locator <;> simp only [fieldLocator, Operation.fieldAim, located]
  simp only [calls, aims, modelFields, listed, List.head?_cons, Operation.fieldNames]
  rcases declared.fieldsOf type with failure | _ | fields
  · rfl
  · rfl
  · simp only [List.map_map]
    rfl

end Rule

namespace LiveObject.WorksAt

variable [Remote β] {object : LiveObject} {workplace : Workplace} {world : World β}
  {arguments : List Value} {operation : Operation} {declared : ClassTable}

theorem runCalls_single (object : LiveObject) (sliceAt : Nat) (last : Value)
    (call : PrimitiveCall) :
    (object.runCalls arguments sliceAt last [call] : Run β Value) =
      object.runCall arguments sliceAt last call :=
  bind_pure _

theorem runs_click (h : object.WorksAt world.classes workplace)
    (accepted : Rule.click.accepts declared operation = true) :
    object.runPlan workplace.number (Rule.click.plan declared operation) arguments world =
      operation.perform Workplace.fillField declared workplace arguments world := by
  obtain ⟨reads, clicks⟩ := Rule.clicks accepted
  obtain ⟨locator, located⟩ := Rule.located_of_accepts accepted rfl
  have standard := Rule.standard_of_accepts accepted (by simp)
  simp only [Operation.perform, reads, clicks, if_true, Operation.aim, located]
  simp only [LiveObject.runPlan, Rule.plan, Rule.calls, Rule.sliceAt, located, Option.toList_some,
    List.map_cons, List.map_nil, runCalls_single]
  rw [bind_apply, h.runCall_click, ← bind_apply]
  simp only [bind_assoc, pure_bind]
  refine bind_congr_apply rfl fun element _ found => ?_
  obtain ⟨-, rfl⟩ := ofExcept_eq_ok.mp found
  refine bind_congr_apply rfl fun _ later clicked => ?_
  have h := h.later ((workplace.click_stays_outside element).of_eq_ok clicked)
  exact h.finish_eq rfl standard _

theorem runs_read (h : object.WorksAt world.classes workplace)
    (accepted : Rule.read.accepts declared operation = true) :
    object.runPlan workplace.number (Rule.read.plan declared operation) arguments world =
      operation.perform Workplace.fillField declared workplace arguments world := by
  have reads : operation.hasVerb "read" = true := Rule.named_of_accepts accepted
  obtain ⟨locator, located⟩ := Rule.located_of_accepts accepted rfl
  simp only [Operation.perform, reads, if_true, Operation.aim, Operation.readAt, located,
    Option.bind_some]
  simp only [LiveObject.runPlan, Rule.plan, Rule.calls, Rule.sliceAt, located, Option.toList_some,
    List.map_cons, List.map_nil, runCalls_single, Rule.ending, LiveObject.finish]
  cases named : locator.readsAttribute with
  | none =>
    rw [bind_apply, h.runCall_readText, ← bind_apply, bind_assoc]
    rfl
  | some name =>
    by_cases empty : name.isEmpty = true
    · simp only [empty, if_true]
      rw [bind_apply, h.runCall_readText, ← bind_apply, bind_assoc]
      rfl
    · simp only [empty, Bool.false_eq_true, if_false]
      rw [bind_apply, h.runCall_readAttribute, ← bind_apply, bind_assoc]
      rfl

theorem runs_setInput (h : object.WorksAt world.classes workplace)
    (accepted : Rule.setInput.accepts declared operation = true)
    (given : List.Forall₂ (world.Admits declared) operation.parameterTypes arguments) :
    object.runPlan workplace.number (Rule.setInput.plan declared operation) arguments world =
      operation.perform Workplace.fillField declared workplace arguments world := by
  obtain ⟨reads, clicks⟩ := Rule.sets accepted rfl
  obtain ⟨locator, located⟩ := Rule.located_of_accepts accepted rfl
  have standard := Rule.standard_of_accepts accepted (by simp)
  have takesText := Rule.parameters_of_setInput accepted
  obtain ⟨first, rest, rfl, something⟩ :
      ∃ first rest, arguments = first :: rest ∧ first ≠ .none := by
    generalize operation.parameterTypes = types at given takesText
    cases given with
    | nil => cases takesText
    | cons admitted _ =>
      obtain ⟨text, isText⟩ := admitted.1 (Option.some.inj takesText)
      refine ⟨_, _, rfl, ?_⟩
      rintro rfl
      cases isText
  have modelless : operation.model? declared = none := by
    unfold Operation.model?
    split
    · next type listed =>
      rw [listed] at takesText
      rw [Option.some.inj takesText, Rule.isModel_text]
      rfl
    · rfl
  simp only [Operation.perform, reads, clicks, modelless, Operation.aim, located, List.drop_one,
    List.tail_cons, List.headD_cons]
  simp only [LiveObject.runPlan, Rule.plan, Rule.calls, Rule.sliceAt, located, Option.toList_some,
    List.map_cons, List.map_nil, runCalls_single]
  rw [bind_apply, h.runCall_setText rfl something, ← bind_apply]
  simp only [bind_assoc, pure_bind, List.drop_one, List.tail_cons]
  refine bind_congr_apply rfl fun element _ found => ?_
  obtain ⟨-, rfl⟩ := ofExcept_eq_ok.mp found
  refine bind_congr_apply rfl fun text _ said => ?_
  obtain ⟨-, rfl⟩ := ofExcept_eq_ok.mp said
  refine bind_congr_apply rfl fun _ later typed => ?_
  have h := h.later ((workplace.setText_stays_outside element text).of_eq_ok typed)
  exact h.finish_eq rfl standard _

theorem runs_setModel (h : object.WorksAt world.classes workplace)
    (accepted : Rule.setModel.accepts declared operation = true)
    (given : List.Forall₂ (world.Admits declared) operation.parameterTypes arguments) :
    object.runPlan workplace.number (Rule.setModel.plan declared operation) arguments world =
      operation.perform Workplace.fillField declared workplace arguments world := by
  obtain ⟨reads, clicks⟩ := Rule.sets accepted rfl
  have standard := Rule.standard_of_accepts accepted (by simp)
  obtain ⟨type, listed, isModel⟩ := Rule.parameters_of_setModel accepted
  have takesModel : operation.model? declared = some type := by
    simp only [Operation.model?, listed, isModel, if_true]
  obtain ⟨model, rfl, instanced⟩ :
      ∃ model, arguments = [model] ∧ world.HasInstance type model := by
    rw [listed] at given
    cases given with
    | cons admitted rest =>
      cases rest
      exact ⟨_, rfl, admitted.2 isModel⟩
  simp only [Operation.perform, reads, clicks, takesModel, List.headD_cons]
  simp only [LiveObject.runPlan, Rule.plan, Rule.sliceAt, Rule.calls_setModel listed]
  have filling := h.runCalls_fields instanced operation.fieldAim
    (Operation.fieldNames declared type) .none
  rw [bind_apply, filling, ← bind_apply, bind_assoc]
  refine bind_congr_apply rfl fun _ later filled => ?_
  rw [bind_of_ok filled] at filling
  have h := h.later ((object.runCalls_stays_outside _ _ _ _).of_eq_ok filling)
  exact h.finish_eq rfl standard _

end LiveObject.WorksAt

namespace AddressForm

/-- The class of addresses. -/
def address : ClassRef := { number := 0, name := "Address" }

/-- The class of a screen with a form for an address. -/
def form : ClassRef := { number := 1, name := "Form" }

/-- A model with one field, and a page. -/
def classes : ClassTable where
  classes := [
    { ref := address, key := "Address", ancestry := [.defined address]
      members := [(modelMember, .constant (.bool true))], fields := some [{ name := "street" }] },
    { ref := form, key := "Form", ancestry := [.defined form, .page] }]

/-- The operation that fills the form in, located by a template. -/
def fillIn (template : String) : Operation where
  owner := form.name
  name := "set_form"
  parameterTypes := [.defined address]
  returnKind := some .void
  locator := some { kind := .id, template }

/-- An address. -/
def addressOn (street : Value) : Value := .record address [("street", street)] {} none

/-- Where the form is worked on. -/
def workplace : Workplace where
  number := 0
  name := form.name
  panel := .text form.name
  place := .outermost
  actions := .rehearsed [] []
  factory := { session := { page := 0 }, actions := .rehearsed [] [] }

/-- The page with the form. -/
def object : LiveObject where
  implementation :=
    { number := 0, name := "FormImpl", contract := form, base := .plain, methods := [] }
  actions := .proper workplace.actions
  factory := .proper workplace.factory
  name := some (.text workplace.name)
  logger := .proper workplace.panel
  nesting := .proper workplace.place

/-- A world in which nothing has happened. -/
def world : World ScriptedBrowser where
  browser := {}
  clock := default
  classes := classes

theorem works : object.WorksAt world.classes workplace where
  untouched := rfl
  place := rfl
  actions := rfl
  factory := rfl
  logger := rfl
  name := rfl

theorem admits (street : Value) :
    List.Forall₂ (world.Admits world.classes) [.defined address] [addressOn street] :=
  .cons ⟨nofun, fun _ => ⟨by decide, by decide⟩⟩ .nil

end AddressForm
end PageContracts
