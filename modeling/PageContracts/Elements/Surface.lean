import PageContracts.Elements.Finding

/-! # Action surfaces

The four primitive actions everything else is made of, and the two ways to carry them out: noting
them for a rehearsal, or performing them in a browser tab.
-/
namespace PageContracts

/-- The primitive actions. -/
structure Surface (β : Type) where
  click : ResolvedLocator → Run β Unit
  setText : ResolvedLocator → Value → Run β Unit
  readText : ResolvedLocator → Run β Value
  readAttribute : ResolvedLocator → Value → Run β Value

/-- Whether what is typed into an element is hidden. -/
def hidesText (locator : ResolvedLocator) : Bool :=
  Characters.occursIn "password".toList (Characters.lowerAscii locator.value).toList

/-- A typed text as logs and reports show it: hidden when it goes into a password field. -/
def maskValue (locator : ResolvedLocator) (value : String) : String :=
  if hidesText locator then String.ofList (List.replicate value.length '*') else value

/-- Whatever is typed as logs and reports show it. -/
def maskOffered (locator : ResolvedLocator) (value : Value) : Except Failure String :=
  match value with
  | .text text => .ok (maskValue locator text)
  | value =>
    if hidesText locator then
      match value.length? with
      | some length => .ok (String.ofList (List.replicate length '*'))
      | none => .error (.typeBreach "object has no length")
    else value.spoken

namespace Rehearsal

variable {β : Type}

/-- Read a prepared text. -/
def readText (texts : List (String × Value)) (locator : ResolvedLocator) : Run β Value := do
  Run.note (.readText locator)
  match texts.lookup locator.value with
  | some text => return text
  | none => throw (.own .elementNotFound ("Element not found: " ++ locator.display))

/-- Read a prepared attribute; one that was not prepared is empty. -/
def readAttribute (attributes : List ((String × String) × Value)) (locator : ResolvedLocator)
    (name : Value) : Run β Value := do
  Run.note (.readAttribute locator name)
  if !name.hashable then throw (.typeBreach "unhashable type")
  let found := attributes.find? fun known =>
    known.1.1 = locator.value && name.isText known.1.2
  return (found.map Prod.snd).getD (.text "")

/-- The surface that only notes what is done. -/
def surface (texts : List (String × Value)) (attributes : List ((String × String) × Value)) :
    Surface β where
  click locator := Run.note (.click locator)
  setText locator text := Run.note (.setText locator text)
  readText := readText texts
  readAttribute := readAttribute attributes

end Rehearsal

namespace Live

variable {β : Type} [Remote β]

/-- The tags of elements whose text is their current value. -/
def valueTags : List String := ["input", "textarea", "select"]

/-- Whether a tag is one of elements whose text is their current value. -/
def isValueTag (tag : Value) : Except Failure Bool :=
  match tag with
  | .text tag => .ok (valueTags.contains (Characters.lowerAscii tag))
  | .bytes _ => .ok false
  | _ => .error (.missing "lower")

/-- Click an element. -/
def click (session : Session) (finder : Finder) (locator : ResolvedLocator) : Run β Unit :=
  Run.inStep ("Click: " ++ locator.display) do
    let selector ← finder.find session.page locator
    Run.ask (.click session.page selector)

/-- Type a text into an element. -/
def setText (session : Session) (finder : Finder) (locator : ResolvedLocator) (text : Value) :
    Run β Unit := do
  let shown ← Run.ofExcept (maskOffered locator text)
  Run.inStep ("Set " ++ locator.display ++ ": " ++ shown) do
    let selector ← finder.find session.page locator
    Run.ask (.fill session.page selector text)

/-- Read the text of an element, which is its value when it is a form control. -/
def readText (session : Session) (finder : Finder) (locator : ResolvedLocator) : Run β Value :=
  Run.inStep ("Read: " ++ locator.display) do
    let selector ← finder.find session.page locator
    let tag ← Run.ask (.tagName session.page selector)
    if ← Run.ofExcept (isValueTag tag) then Run.ask (.inputValue session.page selector)
    else Run.ask (.innerText session.page selector)

/-- Read an attribute of an element; an absent one is empty. -/
def readAttribute (session : Session) (finder : Finder) (locator : ResolvedLocator)
    (name : Value) : Run β Value := do
  let shown ← Run.ofExcept name.spoken
  Run.inStep ("Read " ++ shown ++ " of " ++ locator.display) do
    let selector ← finder.find session.page locator
    match ← Run.ask (.readAttribute session.page selector name) with
    | .none =>
      Run.log .debug (locator.display ++ " has no attribute '" ++ shown ++ "'")
      return .text ""
    | value => return value

/-- The surface that acts in a browser tab. -/
def surface (session : Session) (finder : Finder) : Surface β where
  click := click session finder
  setText := setText session finder
  readText := readText session finder
  readAttribute := readAttribute session finder

end Live

/-- The action surface of a factory. -/
def Actions.surface {β : Type} [Remote β] : Actions → Surface β
  | .rehearsed texts attributes => Rehearsal.surface texts attributes
  | .live session finder => Live.surface session finder

end PageContracts
