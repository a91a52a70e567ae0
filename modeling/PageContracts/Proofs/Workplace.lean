import PageContracts.Proofs.Acting

/-! # Workplaces

What an object works with, as long as nobody has tampered with its attributes. Its actions are those
of its surface, each announced in the log before it is carried out. -/
namespace PageContracts

open Runs
open World (SameInside)

variable {β α : Type}

/-- What an object works with: its number, the name it goes by and the one its log records carry,
the place it stands in, its action surface and its factory. -/
structure Workplace where
  number : Nat
  name : String
  panel : Value
  place : Nesting
  actions : Actions
  factory : Factory

namespace Workplace

/-- Tell in the log what is about to be done to an element. -/
def announce (workplace : Workplace) (action : String) (locator : ResolvedLocator) : Run β Unit :=
  Run.logAbout workplace.panel
    ("[" ++ workplace.name ++ "] " ++ action ++ " - " ++ locator.display)

variable [Remote β]

/-- Click an element. -/
def click (workplace : Workplace) (locator : ResolvedLocator) : Run β Unit := do
  workplace.announce "click" locator
  workplace.actions.surface.click locator

/-- Type a text into an element; a password is not told. -/
def setText (workplace : Workplace) (locator : ResolvedLocator) (text : String) : Run β Unit := do
  workplace.announce ("set " ++ maskValue locator text) locator
  workplace.actions.surface.setText locator (.text text)

/-- Read the text of an element. -/
def readText (workplace : Workplace) (locator : ResolvedLocator) : Run β Value := do
  workplace.announce "read" locator
  workplace.actions.surface.readText locator

/-- Read an attribute of an element. -/
def readAttribute (workplace : Workplace) (locator : ResolvedLocator) (name : String) :
    Run β Value := do
  workplace.announce ("read attribute " ++ name) locator
  workplace.actions.surface.readAttribute locator (.text name)

theorem click_stays_outside (workplace : Workplace) (locator : ResolvedLocator) :
    StaysOutside (workplace.click locator : Run β Unit) :=
  (StaysOutside.logAbout _ _).bind fun _ => workplace.actions.surface_stays_outside.click locator

theorem setText_stays_outside (workplace : Workplace) (locator : ResolvedLocator) (text : String) :
    StaysOutside (workplace.setText locator text : Run β Unit) :=
  (StaysOutside.logAbout _ _).bind fun _ =>
    workplace.actions.surface_stays_outside.setText locator _

end Workplace

/-- An object works with what belongs in its places, and has its own methods. -/
structure LiveObject.WorksAt (object : LiveObject) (table : ClassTable) (workplace : Workplace) :
    Prop where
  untouched : object.attributes = []
  place : object.heldAt table "scope_stack" object.nesting = .ok (.inl workplace.place)
  actions : object.heldAt table "actions" object.actions = .ok (.inl workplace.actions)
  factory : object.heldAt table "factory" object.factory = .ok (.inl workplace.factory)
  logger : object.heldAt table "logger" object.logger = .ok (.inl workplace.panel)
  name : object.shownName table = .ok workplace.name

namespace LiveObject

variable {object : LiveObject} {workplace : Workplace} {world : World β}

@[simp] theorem orInstead_of_untouched (h : object.attributes = []) (name : String)
    (arguments : List Value) (form : Value → α) (run : Run β α) :
    object.orInstead name arguments form run = run := by
  simp [orInstead, h]

namespace WorksAt

theorem later (h : object.WorksAt world.classes workplace) {later : World β}
    (moved : SameInside world later) : object.WorksAt later.classes workplace := by
  rw [moved.classes_eq]
  exact h

theorem resolve (h : object.WorksAt world.classes workplace) (locator : LocatorDescriptor)
    (arguments : List Value) :
    object.resolve world.classes locator arguments =
      (workplace.place.resolve locator arguments).map .located := by
  simp only [LiveObject.resolve, h.place]
  cases found : workplace.place.resolve locator arguments with
  | error failure => simp [bind, Except.bind, Except.map, found]
  | ok element => simp [bind, Except.bind, Except.map, found, pure, Except.pure]

theorem logAction (h : object.WorksAt world.classes workplace) (action : String)
    (locator : ResolvedLocator) :
    object.logAction (.text action) (.located locator) world =
      workplace.announce action locator world := by
  rw [LiveObject.logAction, orInstead_of_untouched h.untouched, bind_of_ok (get_apply world)]
  rw [LiveObject.log, bind_of_ok (get_apply world), h.logger, h.name]
  rfl

theorem act (h : object.WorksAt world.classes workplace) [Remote β] (name : String)
    (locator : ResolvedLocator) (more : List Value) (title : Except Failure String)
    (run : Surface β → ResolvedLocator → Run β Value) :
    object.act name (.located locator) more title run world =
      run workplace.actions.surface locator world := by
  rw [LiveObject.act, bind_of_ok (get_apply world), h.actions]
  rfl

variable [Remote β]

theorem click (h : object.WorksAt world.classes workplace) (locator : ResolvedLocator) :
    object.click (.located locator) world = workplace.click locator world := by
  rw [LiveObject.click, bind_of_ok (get_apply world), LiveObject.clickWithin]
  refine bind_congr_apply (h.logAction "click" locator) fun _ logged hl => ?_
  have h := h.later ((object.logAction_stays_outside _ _).of_eq_ok hl)
  rw [bind_of_ok (get_apply logged), ofExcept_bind_of_ok h.actions]
  dsimp only
  rw [bind_apply, h.act, ← bind_apply]
  simp only [bind_assoc, pure_bind, bind_pure_unit]

theorem fill (h : object.WorksAt world.classes workplace) (locator : ResolvedLocator)
    (text : String) :
    object.fill (.located locator) (.text text) world = workplace.setText locator text world := by
  rw [LiveObject.fill, bind_of_ok (get_apply world)]
  refine bind_congr_apply (h.logAction _ locator) fun _ logged hl => ?_
  have h := h.later ((object.logAction_stays_outside _ _).of_eq_ok hl)
  rw [bind_apply, h.act, ← bind_apply]
  simp only [bind_assoc, pure_bind, bind_pure_unit]

theorem readText (h : object.WorksAt world.classes workplace) (locator : ResolvedLocator) :
    object.readText (.located locator) world = workplace.readText locator world := by
  refine bind_congr_apply (h.logAction "read" locator) fun _ logged hl => ?_
  exact (h.later ((object.logAction_stays_outside _ _).of_eq_ok hl)).act _ _ _ _ _

theorem readAttribute (h : object.WorksAt world.classes workplace) (locator : ResolvedLocator)
    (name : String) :
    object.readAttribute (.located locator) (.text name) world =
      workplace.readAttribute locator name world := by
  rw [LiveObject.readAttribute, ofExcept_bind_of_ok (rfl : (Value.text name).spoken = .ok name)]
  refine bind_congr_apply (h.logAction _ locator) fun _ logged hl => ?_
  exact (h.later ((object.logAction_stays_outside _ _).of_eq_ok hl)).act _ _ _ _ _

end WorksAt
end LiveObject
end PageContracts
