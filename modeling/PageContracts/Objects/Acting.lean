import PageContracts.Elements.Surface
import PageContracts.Objects.Creation

/-! # Acting

The primitive actions of objects: each is logged and then carried out on the object's action
surface. An object whose attributes have been tampered with gets as far as they let it.
-/
namespace PageContracts

/-- What an action is aimed at: an element, or something that is offered in the place of one. -/
inductive Target where
  | located (locator : ResolvedLocator)
  | offered (value : Value)
  deriving Repr, Inhabited

namespace Target

/-- A target as messages show it. -/
def spoken : Target → Except Failure String
  | .located locator => .ok locator.display
  | .offered value => value.spoken

/-- A target as it is handed to a function of the author. -/
def toValue : Target → Value
  | .located locator => .other "ResolvedLocator" locator.display
  | .offered value => value

/-- A text that is typed into a target as messages show it. -/
def mask (table : ClassTable) (target : Target) (text : Value) : Except Failure Value := do
  match target with
  | .located locator =>
    match text with
    | .text text => return .text (maskValue locator text)
    | text =>
      if hidesText locator then return .text (← maskOffered locator text) else return text
  | .offered value =>
    match ← table.memberOf value "value" with
    | .text place =>
      let stand : ResolvedLocator := { kind := .id, value := place }
      if hidesText stand then return .text (← maskOffered stand text) else return text
    | _ => throw (.missing "lower")

end Target

namespace LiveObject

variable {β : Type}

/-- What has been put in the place of a method of an object is called instead of the method. -/
def orInstead {α : Type} (object : LiveObject) (name : String) (arguments : List Value)
    (form : Value → α) (run : Run β α) : Run β α := do
  match object.attributes.lookup name with
  | none => run
  | some value => return form (← Run.ofExcept ((← get).classes.callValue value arguments []))

/-- Log an action of an object. -/
def logAction (object : LiveObject) (action : Value) (target : Target) : Run β Unit :=
  object.orInstead "_log" [action, target.toValue] (fun _ => ()) do
    let table := (← get).classes
    object.log do
      let name ← Run.ofExcept (object.shownName table)
      let action ← Run.ofExcept action.spoken
      return "[" ++ name ++ "] " ++ action ++ " - " ++ (← Run.ofExcept target.spoken)

variable [Remote β]

/-- Act on the action surface of an object. The report of a live browser tells of an attempt to act
on something that is no element. -/
def act (object : LiveObject) (name : String) (target : Target) (more : List Value)
    (title : Except Failure String) (run : Surface β → ResolvedLocator → Run β Value) :
    Run β Value := do
  let table := (← get).classes
  match ← Run.ofExcept (object.heldAt table "actions" object.actions) with
  | .inl actions =>
    match target, actions with
    | .located locator, actions => run actions.surface locator
    | .offered _, .live .. => do
      Run.inStep (← Run.ofExcept title) (throw (.missing "to_selector"))
    | .offered _, .rehearsed .. => throw (.missing "kind")
  | .inr value => Run.ofExcept (table.callMember value name (target.toValue :: more) [])

/-- Click. Another object in the place of the action surface clicks in turn, for as long as the fuel
allows. -/
def clickWithin (object : LiveObject) (target : Target) : Nat → Run β Unit
  | 0 => throw (.breach .tooDeep "maximum recursion depth exceeded")
  | fuel + 1 => do
    object.logAction (.text "click") target
    let world ← get
    match ← Run.ofExcept (object.heldAt world.classes "actions" object.actions) with
    | .inr (.object ref) =>
      match world.objects[ref.number]? with
      | some other => (world.refreshed other).clickWithin target fuel
      | none => throw (.missing "click")
    | _ => do
      let _ ← object.act "click" target [] (target.spoken.map ("Click: " ++ ·))
        fun surface locator => do surface.click locator; return .none

/-- Click an element. -/
def click (object : LiveObject) (target : Target) : Run β Unit := do
  object.clickWithin target ((← get).objects.length + 2)

/-- Type a text into an element. -/
def fill (object : LiveObject) (target : Target) (text : Value) : Run β Unit := do
  let masked ← Run.ofExcept (target.mask (← get).classes text)
  object.logAction (.text ("set " ++ (← Run.ofExcept masked.spoken))) target
  let _ ← object.act "set_text" target [text] (.ok "") fun surface locator => do
    surface.setText locator text
    return .none

/-- Read the text of an element. -/
def readText (object : LiveObject) (target : Target) : Run β Value := do
  object.logAction (.text "read") target
  object.act "read_text" target [] (target.spoken.map ("Read: " ++ ·))
    fun surface locator => surface.readText locator

/-- Read an attribute of an element. -/
def readAttribute (object : LiveObject) (target : Target) (name : Value) : Run β Value := do
  let shown ← Run.ofExcept name.spoken
  object.logAction (.text ("read attribute " ++ shown)) target
  object.act "read_attribute" target [name]
    (target.spoken.map fun text => "Read " ++ shown ++ " of " ++ text)
    fun surface locator => surface.readAttribute locator name

end LiveObject
end PageContracts
