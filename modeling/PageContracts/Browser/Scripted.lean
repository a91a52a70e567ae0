import PageContracts.Browser.Command

/-! # Scripted browsers

A remote end whose answers are prepared in advance, for trying contracts out without a browser.
Its pages hold elements under their selectors; what is not there never becomes visible.
-/
namespace PageContracts

/-- An element of a scripted page. While `failures` is not zero waiting for it fails, counted
down by one each time; a negative number never ends. -/
structure ScriptedElement where
  tag : Value := .text "div"
  text : Value := .text ""
  value : Value := .text ""
  attributes : List (String × Value) := []
  failures : Int := 0
  failMessage : Option String := none
  /-- The address a click leads to. -/
  leadsTo : Option Value := none
  /-- The messages of the actions that fail. -/
  errors : List (String × String) := []
  deriving Repr, Inhabited

/-- A scripted page. -/
structure ScriptedPage where
  url : Value := .text "about:blank"
  content : Value := .text "<html></html>"
  elements : List (String × ScriptedElement) := []
  errors : List (String × String) := []
  deriving Repr, Inhabited

/-- A scripted browser: the page every tab starts from, the pages of the open tabs, and for every
automation driver the number of contexts opened through it. -/
structure ScriptedBrowser where
  start : ScriptedPage := {}
  pages : List ScriptedPage := []
  contexts : List Nat := []
  deriving Repr, Inhabited

namespace ScriptedElement

/-- What stands under a selector that no element has. -/
def absent : ScriptedElement := { failures := -1 }

/-- The message of a wait that was in vain. -/
def timeoutMessage (element : ScriptedElement) (timeout : Value) : String :=
  element.failMessage.getD
    ("Timeout " ++ timeout.display ++ "ms exceeded.\nwaiting for locator")

/-- Wait for the element once. -/
def wait (element : ScriptedElement) (timeout : Value) : Except String Unit × ScriptedElement :=
  if element.failures = 0 then (.ok (), element)
  else
    let left := if 0 < element.failures then element.failures - 1 else element.failures
    (.error (element.timeoutMessage timeout), { element with failures := left })

/-- The answer to an action, unless the action fails. -/
def guarded {α : Type} (element : ScriptedElement) (action : String) (answer : α) :
    Except String α :=
  match element.errors.lookup action with
  | some message => .error message
  | none => .ok answer

/-- An attribute of the element; an absent one is nothing. -/
def attributeAt (element : ScriptedElement) (name : Value) : Value :=
  ((element.attributes.find? fun known => name.isText known.1).map Prod.snd).getD .none

end ScriptedElement

namespace ScriptedPage

/-- The element under a selector. -/
def element (page : ScriptedPage) (selector : String) : ScriptedElement :=
  (page.elements.lookup selector).getD .absent

/-- Set the element under a selector. -/
def put (page : ScriptedPage) (selector : String) (element : ScriptedElement) : ScriptedPage :=
  { page with
    elements := (selector, element) :: page.elements.filter fun known => known.1 ≠ selector }

/-- The answer to an action on the page, unless the action fails. -/
def guarded {α : Type} (page : ScriptedPage) (action : String) (answer : α) : Except String α :=
  match page.errors.lookup action with
  | some message => .error message
  | none => .ok answer

/-- Go to an address. -/
def visit (page : ScriptedPage) (url : Value) : Except String Unit × ScriptedPage :=
  match page.guarded "goto" () with
  | .ok _ => (.ok (), { page with url })
  | .error message => (.error message, page)

/-- Wait for an element once. -/
def wait (page : ScriptedPage) (selector : String) (timeout : Value) :
    Except String Unit × ScriptedPage :=
  let (answer, element) := (page.element selector).wait timeout
  (answer, page.put selector element)

/-- Click an element. -/
def click (page : ScriptedPage) (selector : String) : Except String Unit × ScriptedPage :=
  let element := page.element selector
  match element.guarded "click" () with
  | .error message => (.error message, page)
  | .ok _ => (.ok (), { page with url := element.leadsTo.getD page.url })

/-- Type a text into an element. -/
def fill (page : ScriptedPage) (selector : String) (text : Value) :
    Except String Unit × ScriptedPage :=
  let element := page.element selector
  match element.guarded "fill" () with
  | .error message => (.error message, page)
  | .ok _ => (.ok (), page.put selector { element with value := text })

end ScriptedPage

namespace ScriptedBrowser

/-- The page of a tab. -/
def page (browser : ScriptedBrowser) (number : Nat) : ScriptedPage :=
  (browser.pages[number]?).getD {}

/-- Open a tab on a page. -/
def openTab (browser : ScriptedBrowser) (page : ScriptedPage) : Nat × ScriptedBrowser :=
  (browser.pages.length, { browser with pages := browser.pages ++ [page] })

/-- Change the page of a tab. -/
def withPage {α : Type} (browser : ScriptedBrowser) (number : Nat)
    (act : ScriptedPage → α × ScriptedPage) : α × ScriptedBrowser :=
  let (answer, page) := act (browser.page number)
  (answer, { browser with pages := browser.pages.set number page })

/-- Answer a command. -/
def answer (browser : ScriptedBrowser) : (command : Command) →
    Except String command.Answer × ScriptedBrowser
  | .startDriver =>
    (.ok browser.contexts.length, { browser with contexts := browser.contexts ++ [0] })
  | .launch .. => (.ok (), browser)
  | .openContext driver _ =>
    (.ok ((browser.contexts[driver]?).getD 0),
      { browser with contexts := browser.contexts.modify driver (· + 1) })
  | .openPage _ =>
    let (number, browser) := browser.openTab browser.start
    (.ok number, browser)
  | .closeContext _ => (browser.start.guarded "context_close" (), browser)
  | .closeBrowser _ => (.ok (), browser)
  | .stopDriver _ => (.ok (), browser)
  | .closePage _ => (.ok (), browser)
  | .goTo page url _ => browser.withPage page fun p => p.visit url
  | .url page => (.ok (browser.page page).url, browser)
  | .content page => (.ok (browser.page page).content, browser)
  | .screenshot page _ _ => ((browser.page page).guarded "screenshot" "PNG", browser)
  | .waitVisible page selector timeout => browser.withPage page fun p => p.wait selector timeout
  | .click page selector => browser.withPage page fun p => p.click selector
  | .fill page selector text => browser.withPage page fun p => p.fill selector text
  | .tagName page selector =>
    let element := (browser.page page).element selector
    (element.guarded "evaluate" element.tag, browser)
  | .inputValue page selector =>
    let element := (browser.page page).element selector
    (element.guarded "input_value" element.value, browser)
  | .innerText page selector =>
    let element := (browser.page page).element selector
    (element.guarded "inner_text" element.text, browser)
  | .readAttribute page selector name =>
    let element := (browser.page page).element selector
    (element.guarded "get_attribute" (element.attributeAt name), browser)

instance : Remote ScriptedBrowser where
  answer := answer

end ScriptedBrowser
end PageContracts
