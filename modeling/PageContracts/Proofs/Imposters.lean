import PageContracts.Proofs.Declarations

/-! # Imposters

An operation that fills in a model asks of its argument only that it has fields, whichever they are,
and it asks for one field at a time. What it types before it comes to a field that the argument lacks
has been typed already, so an argument of another type is turned away as a whole only if the very first
field that matters gives it away. -/
namespace PageContracts

open Runs
open World (SameInside)

variable {β : Type}

namespace World

/-- A value has fields: it is an instance of some type with fields. -/
def hasFields (world : World β) (value : Value) : Bool :=
  match value with
  | .record ofClass _ _ _ => world.classes.isRecordType (.defined ofClass)
  | .object ref =>
    match world.objects[ref.number]? with
    | some object => world.classes.isRecordType (.defined object.contract)
    | none => false
  | _ => false

/-- What a value offers under the name of a field, when something that goes by a name asks for it. -/
def offers (world : World β) (asker : String) (value : Value) (field : String) :
    Except Failure Value :=
  if world.hasFields value then world.modelField value field
  else .error (.typeStated ("[" ++ asker ++ "] expected a model instance, got " ++ value.typeName))

theorem offers_later {world later : World β} (moved : SameInside world later) (asker : String)
    (value : Value) (field : String) :
    later.offers asker value field = world.offers asker value field := by
  unfold offers hasFields modelField
  rw [moved.classes_eq, moved.objects_eq]

end World

/-- What is found to be typed for the fields of a model, each text with its element, up to the first
field that something is wrong with, and what is wrong. -/
structure Entries where
  typed : List (ResolvedLocator × String) := []
  failure : Option Failure := none

/-- Nothing is to be typed, because something is wrong from the start. -/
def Entries.Refused (entries : Entries) : Prop :=
  entries.typed = [] ∧ ∃ failure, entries.failure = some failure

namespace Workplace

/-- What is to be typed for one field: nothing if the value has nothing under its name. -/
def entry (workplace : Workplace) (world : World β) (aim : LocatorDescriptor) (value : Value)
    (field : String) : Except Failure (Option (ResolvedLocator × String)) := do
  let element ← workplace.place.resolve aim []
  match ← world.offers workplace.name value field with
  | .none => return none
  | offered => return some (element, ← offered.spoken)

/-- What is to be typed for some fields. -/
def entries (workplace : Workplace) (world : World β) (aim : String → LocatorDescriptor)
    (value : Value) : List String → Entries
  | [] => {}
  | field :: rest =>
    let more := entries workplace world aim value rest
    match workplace.entry world (aim field) value field with
    | .error failure => { failure := some failure }
    | .ok none => more
    | .ok (some entry) => { more with typed := entry :: more.typed }

/-- Type some entries one after the other, then fail if something is wrong. -/
def enter [Remote β] (workplace : Workplace) (entries : Entries) : Run β Unit := do
  entries.typed.forM fun entry => workplace.setText entry.1 entry.2
  match entries.failure with
  | some failure => throw failure
  | none => return ()

variable {workplace : Workplace} {world later : World β} {aim : String → LocatorDescriptor}
  {value : Value} {field : String} {fields : List String}

section Entry

variable {locator : LocatorDescriptor} {element : ResolvedLocator} {found : Value} {failure : Failure}

theorem entry_of_unresolved (unresolved : workplace.place.resolve locator [] = .error failure) :
    workplace.entry world locator value field = .error failure := by
  rw [entry, unresolved]
  rfl

variable (resolved : workplace.place.resolve locator [] = .ok element)
include resolved

theorem entry_of_unoffered (unoffered : world.offers workplace.name value field = .error failure) :
    workplace.entry world locator value field = .error failure := by
  rw [entry, resolved, unoffered]
  rfl

theorem entry_of_nothing (offered : world.offers workplace.name value field = .ok .none) :
    workplace.entry world locator value field = .ok none := by
  rw [entry, resolved, offered]
  rfl

theorem entry_of_something (offered : world.offers workplace.name value field = .ok found)
    (something : found ≠ .none) :
    workplace.entry world locator value field =
      found.spoken.map fun text => some (element, text) := by
  rw [entry, resolved, offered]
  simp only [bind, Except.bind]
  cases found.spoken <;> rfl

end Entry

theorem entry_later (moved : SameInside world later) (locator : LocatorDescriptor) :
    workplace.entry later locator value field = workplace.entry world locator value field := by
  unfold entry
  rw [World.offers_later moved]

theorem entries_later (moved : SameInside world later) (fields : List String) :
    workplace.entries later aim value fields = workplace.entries world aim value fields := by
  induction fields with
  | nil => rfl
  | cons field rest ih => rw [entries, entries, ih, entry_later moved]

section Cases

variable (rest : List String)

theorem entries_of_error {failure : Failure}
    (failed : workplace.entry world (aim field) value field = .error failure) :
    workplace.entries world aim value (field :: rest) = { failure := some failure } := by
  rw [entries, failed]

theorem entries_of_none (skipped : workplace.entry world (aim field) value field = .ok none) :
    workplace.entries world aim value (field :: rest) = workplace.entries world aim value rest := by
  rw [entries, skipped]

theorem entries_of_some {entry : ResolvedLocator × String}
    (found : workplace.entry world (aim field) value field = .ok (some entry)) :
    workplace.entries world aim value (field :: rest) =
      { workplace.entries world aim value rest with
        typed := entry :: (workplace.entries world aim value rest).typed } := by
  rw [entries, found]

end Cases

/-- The entries are refused as a whole just when something is wrong with the first field that is not
passed over. -/
theorem refused_iff :
    (workplace.entries world aim value fields).Refused ↔
      ∃ before field after, fields = before ++ field :: after ∧
        (∀ other ∈ before, workplace.entry world (aim other) value other = .ok none) ∧
          ∃ failure, workplace.entry world (aim field) value field = .error failure := by
  induction fields with
  | nil =>
    constructor
    · rintro ⟨-, failure, failed⟩
      cases failed
    · rintro ⟨before, field, after, split, -⟩
      exact (List.append_ne_nil_of_right_ne_nil before (List.cons_ne_nil field after) split.symm).elim
  | cons first rest ih =>
    cases found : workplace.entry world (aim first) value first with
    | error failure =>
      rw [entries_of_error rest found]
      constructor
      · intro _
        exact ⟨[], first, rest, rfl, fun _ listed => (List.not_mem_nil listed).elim, failure, found⟩
      · intro _
        exact ⟨rfl, failure, rfl⟩
    | ok entry =>
      cases entry with
      | none =>
        rw [entries_of_none rest found, ih]
        constructor
        · rintro ⟨before, field, after, rfl, skipped, failed⟩
          exact ⟨first :: before, field, after, rfl, List.forall_mem_cons.mpr ⟨found, skipped⟩, failed⟩
        · rintro ⟨before, field, after, split, skipped, failure, failed⟩
          cases before with
          | nil =>
            cases split
            rw [found] at failed
            cases failed
          | cons other before =>
            cases split
            exact ⟨before, field, after, rfl, (List.forall_mem_cons.mp skipped).2, failure, failed⟩
      | some entry =>
        rw [entries_of_some rest found]
        constructor
        · rintro ⟨empty, -⟩
          cases empty
        · rintro ⟨before, field, after, split, skipped, failure, failed⟩
          -- the first field is typed, so it is neither passed over nor wrong
          cases before with
          | nil =>
            cases split
            rw [found] at failed
            cases failed
          | cons other before =>
            cases split
            have passed := (List.forall_mem_cons.mp skipped).1
            rw [found] at passed
            cases passed

end Workplace

namespace LiveObject.WorksAt

variable {object : LiveObject} {workplace : Workplace} {world : World β}

theorem fieldOf_eq_offers (h : object.WorksAt world.classes workplace) (value : Value)
    (field : String) :
    object.fieldOf world value field = world.offers workplace.name value field := by
  have refuse : object.notModel world.classes value =
      .typeStated ("[" ++ workplace.name ++ "] expected a model instance, got " ++ value.typeName) := by
    rw [LiveObject.notModel, h.name]
  cases value with
  | record ofClass attributes traits core =>
    rw [LiveObject.fieldOf, refuse]
    rfl
  | object ref =>
    cases found : world.objects[ref.number]? with
    | none => simp only [LiveObject.fieldOf, World.offers, World.hasFields, found, refuse]; rfl
    | some other =>
      simp only [LiveObject.fieldOf, World.offers, World.hasFields, World.modelField, found, refuse]
  | _ => exact congrArg Except.error refuse

variable [Remote β]

theorem runCall_entry (h : object.WorksAt world.classes workplace) (locator : LocatorDescriptor)
    (value : Value) (field : String) (last : Value) :
    object.runCall [value] 1 last (.setText locator 0 (some field)) world =
      (match workplace.entry world locator value field with
        | .error failure => throw failure
        | .ok none => pure last
        | .ok (some entry) => do
          workplace.setText entry.1 entry.2
          return last : Run β Value) world := by
  rw [LiveObject.runCall, bind_of_ok (get_apply world)]
  simp only [PrimitiveCall.locator, h.aimed, orInstead_of_untouched h.untouched]
  cases resolved : workplace.place.resolve locator [] with
  | error failure =>
    rw [Workplace.entry_of_unresolved resolved]
    change (Run.ofExcept (workplace.place.resolve locator []) >>= _) world = _
    rw [resolved]
    rfl
  | ok element =>
    change (Run.ofExcept (workplace.place.resolve locator []) >>= _) world = _
    have taken : object.valueFor world [value] 0 (some field) =
        world.offers workplace.name value field := h.fieldOf_eq_offers value field
    rw [ofExcept_bind_of_ok resolved, bind_of_ok (get_apply world), taken]
    cases offered : world.offers workplace.name value field with
    | error failure =>
      rw [Workplace.entry_of_unoffered resolved offered]
      rfl
    | ok found =>
      rw [ofExcept_bind_of_ok rfl]
      split
      · rw [Workplace.entry_of_nothing resolved offered]
      · next something =>
        rw [Workplace.entry_of_something resolved offered something, h.typing]
        cases found.spoken <;> rfl

/-- Filling in field after field enters what there is to be typed: typing changes nothing that the value
offers for the fields behind. -/
theorem runCalls_entries (h : object.WorksAt world.classes workplace)
    (aim : String → LocatorDescriptor) (value : Value) (fields : List String) (last : Value) :
    object.runCalls [value] 1 last (fields.map fun field => .setText (aim field) 0 (some field))
        world =
      (do
        workplace.enter (workplace.entries world aim value fields)
        return last : Run β Value) world := by
  induction fields generalizing world with
  | nil => rfl
  | cons field rest ih =>
    rw [List.map_cons, LiveObject.runCalls, bind_apply, h.runCall_entry, ← bind_apply]
    cases found : workplace.entry world (aim field) value field with
    | error failure =>
      rw [Workplace.entries_of_error rest found]
      rfl
    | ok entry =>
      cases entry with
      | none =>
        rw [Workplace.entries_of_none rest found]
        exact ih h
      | some entry =>
        rw [Workplace.entries_of_some rest found]
        simp only [Workplace.enter, List.forM, bind_assoc, pure_bind]
        refine bind_congr_apply rfl fun _ later typed => ?_
        have moved : SameInside world later :=
          (workplace.setText_stays_outside entry.1 entry.2).of_eq_ok typed
        rw [ih (h.later moved), Workplace.entries_later moved]
        simp only [Workplace.enter, bind_assoc]

end LiveObject.WorksAt

namespace Operation

/-- What a call of an operation that fills in a model of some type finds to be typed. -/
def entries (operation : Operation) (declared : ClassTable) (type : TypeRef) (workplace : Workplace)
    (world : World β) (value : Value) : Entries :=
  workplace.entries world operation.fieldAim value (fieldNames declared type)

variable {operation : Operation} {declared : ClassTable} {type : TypeRef} {workplace : Workplace}
  {world : World β} {value : Value}

/-- What has no fields at all is refused by the first field. -/
theorem refused_of_fieldless (some : fieldNames declared type ≠ [])
    (fieldless : world.hasFields value = false) :
    (operation.entries declared type workplace world value).Refused := by
  obtain ⟨first, rest, listed⟩ := List.exists_cons_of_ne_nil some
  have unoffered : ∃ failure, world.offers workplace.name value first = .error failure := by
    rw [World.offers, fieldless]
    exact ⟨_, rfl⟩
  obtain ⟨reason, unoffered⟩ := unoffered
  have failed : ∃ failure,
      workplace.entry world (operation.fieldAim first) value first = .error failure := by
    cases resolved : workplace.place.resolve (operation.fieldAim first) [] with
    | error failure => exact ⟨failure, Workplace.entry_of_unresolved resolved⟩
    | ok element => exact ⟨reason, Workplace.entry_of_unoffered resolved unoffered⟩
  refine Workplace.refused_iff.mpr ⟨[], first, rest, listed, ?_, failed⟩
  exact fun _ none => (List.not_mem_nil none).elim

end Operation

namespace LiveObject

variable [Remote β] {object : LiveObject} {workplace : Workplace} {operation : Operation}
  {declared : ClassTable} {type : TypeRef} {world : World β}

/-- A call that fills in a model enters what it finds to be typed, then concludes. -/
theorem runPlan_eq_enter (works : object.WorksAt world.classes workplace)
    (accepted : Rule.setModel.accepts declared operation = true)
    (listed : operation.parameterTypes = [type]) (value : Value) :
    object.runPlan workplace.number (Rule.setModel.plan declared operation) [value] world =
      (do
        workplace.enter (operation.entries declared type workplace world value)
        operation.conclude workplace : Run β Outcome) world := by
  have standard := Rule.standard_of_accepts accepted (.inr (.inl rfl))
  simp only [LiveObject.runPlan, Rule.plan, Rule.sliceAt, Rule.calls_setModel listed]
  have entering := works.runCalls_entries operation.fieldAim value
    (Operation.fieldNames declared type) .none
  rw [bind_apply, entering, ← bind_apply, bind_assoc]
  refine bind_congr_apply rfl fun _ later entered => ?_
  change workplace.enter (workplace.entries world operation.fieldAim value
    (Operation.fieldNames declared type)) world = _ at entered
  rw [bind_of_ok entered] at entering
  have works := works.later ((object.runCalls_stays_outside _ _ _ _).of_eq_ok entering)
  exact works.finish_eq rfl standard _

/-- Whatever is given for a model, the call enters what it finds to be typed field by field. It is
refused without anything being typed just when something is wrong with the first field that the value
does not leave empty; what has no fields at all always is. -/
theorem refuses_iff_of_accepts (works : object.WorksAt world.classes workplace)
    (accepted : Rule.setModel.accepts declared operation = true)
    (listed : operation.parameterTypes = [type])
    (some : Operation.fieldNames declared type ≠ []) (value : Value) :
    object.runPlan workplace.number (Rule.setModel.plan declared operation) [value] world =
        (do
          workplace.enter (operation.entries declared type workplace world value)
          operation.conclude workplace : Run β Outcome) world ∧
      ((operation.entries declared type workplace world value).Refused →
        ∃ failure, object.runPlan workplace.number (Rule.setModel.plan declared operation) [value]
          world = .error failure world) ∧
      (world.hasFields value = false →
        (operation.entries declared type workplace world value).Refused) ∧
      ((operation.entries declared type workplace world value).Refused ↔
        ∃ before field after, Operation.fieldNames declared type = before ++ field :: after ∧
          (∀ other ∈ before,
            workplace.entry world (operation.fieldAim other) value other = .ok none) ∧
          ∃ failure,
            workplace.entry world (operation.fieldAim field) value field = .error failure) := by
  have runs := runPlan_eq_enter works accepted listed value
  refine ⟨runs, ?_, Operation.refused_of_fieldless some, Workplace.refused_iff⟩
  rintro ⟨nothing, failure, failed⟩
  refine ⟨failure, ?_⟩
  rw [runs, Workplace.enter, nothing, failed]
  rfl

end LiveObject

namespace ParcelForm

/-- The class of addresses, which have a street and a city. -/
def address : ClassRef := { number := 0, name := "Address" }

/-- The class of parcels, which have a street as well. -/
def parcel : ClassRef := { number := 1, name := "Parcel" }

/-- The class of a screen with a form for an address. -/
def form : ClassRef := { number := 2, name := "Form" }

/-- Two models and a page. -/
def classes : ClassTable where
  classes := [
    { ref := address, key := "Address", ancestry := [.defined address]
      members := [(modelMember, .constant (.bool true))]
      fields := some [{ name := "street" }, { name := "city" }] },
    { ref := parcel, key := "Parcel", ancestry := [.defined parcel]
      members := [(modelMember, .constant (.bool true))], fields := some [{ name := "street" }] },
    { ref := form, key := "Form", ancestry := [.defined form, .page] }]

/-- The operation that fills in an address. -/
def fillIn : Operation where
  owner := form.name
  name := "set_form"
  parameterTypes := [.defined address]
  returnKind := some .void

/-- A parcel for a street. -/
def parcelTo (street : String) : Value := .record parcel [("street", .text street)] {} none

/-- A world in which nothing has happened. -/
def world : World ScriptedBrowser where
  browser := {}
  clock := default
  classes := classes

/-- The page with the form. -/
def object : LiveObject :=
  { AddressForm.object with
    implementation := { AddressForm.object.implementation with contract := form } }

theorem works : object.WorksAt world.classes AddressForm.workplace where
  untouched := rfl
  place := rfl
  actions := rfl
  factory := rfl
  logger := rfl
  name := rfl

/-- A parcel that is given for an address is no address, but its street has been typed before the call
fails for want of a city. -/
theorem street_typed :
    Rule.setModel.accepts world.classes fillIn = true ∧
      object.WorksAt world.classes AddressForm.workplace ∧
      fillIn.parameterTypes = [.defined address] ∧
      Operation.fieldNames world.classes (.defined address) = ["street", "city"] ∧
      ¬ world.HasInstance (.defined address) (parcelTo "Main") ∧
      ¬ (fillIn.entries world.classes (.defined address) AddressForm.workplace world
          (parcelTo "Main")).Refused ∧
      (after (object.runPlan AddressForm.workplace.number (Rule.setModel.plan world.classes fillIn)
          [parcelTo "Main"]) world).events = [.setText ⟨.id, "street"⟩ (.text "Main")] := by
  have accepted : Rule.setModel.accepts world.classes fillIn = true := by decide +kernel
  have fields : Operation.fieldNames world.classes (.defined address) = ["street", "city"] := rfl
  have some : Operation.fieldNames world.classes (.defined address) ≠ [] := by
    rw [fields]
    exact List.cons_ne_nil _ _
  have answer := LiveObject.refuses_iff_of_accepts works accepted rfl some (parcelTo "Main")
  refine ⟨accepted, works, rfl, fields, ?_, ?_, ?_⟩
  · rintro ⟨descends, -⟩
    exact absurd descends (by decide)
  · rintro ⟨empty, -⟩
    cases empty
  · rw [after, answer.1]
    rfl

end ParcelForm

end PageContracts
