import PageContracts.Browser.Scripted
import PageContracts.Proofs.Twins

/-! # What a scripted browser lets show

A scripted browser keeps what is typed, and tells it to whoever asks for the value of an element. As
long as nobody does, browsers answer alike that differ in nothing else. -/
namespace PageContracts

/-- An element without what has been typed into it. -/
def ScriptedElement.untyped (element : ScriptedElement) : ScriptedElement :=
  { element with value := .text "" }

/-- A page without what has been typed into its elements. -/
def ScriptedPage.untyped (page : ScriptedPage) : ScriptedPage :=
  { page with elements := page.elements.map fun known => (known.1, known.2.untyped) }

/-- A browser without what has been typed on its pages. -/
def ScriptedBrowser.untyped (browser : ScriptedBrowser) : ScriptedBrowser :=
  { browser with pages := browser.pages.map ScriptedPage.untyped }

theorem ScriptedElement.wait_untyped (element : ScriptedElement) (timeout : Value) :
    element.untyped.wait timeout =
      ((element.wait timeout).1, (element.wait timeout).2.untyped) := by
  unfold wait
  by_cases there : element.failures = 0
  · simp [untyped, there]
  · simp [untyped, there, timeoutMessage]
    rfl

namespace ScriptedPage

theorem element_untyped (page : ScriptedPage) (selector : String) :
    page.untyped.element selector = (page.element selector).untyped := by
  have looked (known : List (String × ScriptedElement)) :
      (known.map fun entry => (entry.1, entry.2.untyped)).lookup selector =
        (known.lookup selector).map ScriptedElement.untyped := by
    induction known with
    | nil => rfl
    | cons first rest ih =>
      obtain ⟨key, element⟩ := first
      by_cases same : selector == key <;> simp [List.lookup_cons, same, ih]
  unfold element untyped
  rw [looked]
  cases page.elements.lookup selector <;> rfl

theorem put_untyped (page : ScriptedPage) (selector : String) (element : ScriptedElement) :
    (page.put selector element).untyped = page.untyped.put selector element.untyped := by
  simp only [put, untyped, List.map_cons, List.filter_map]
  rfl

theorem wait_untyped (page : ScriptedPage) (selector : String) (timeout : Value) :
    page.untyped.wait selector timeout =
      ((page.wait selector timeout).1, (page.wait selector timeout).2.untyped) := by
  simp only [wait, element_untyped, ScriptedElement.wait_untyped, put_untyped]

/-- Whatever is typed, the page is the same without it. -/
theorem fill_untyped (page : ScriptedPage) (selector : String) (text text' : Value) :
    (page.fill selector text).1 = (page.untyped.fill selector text').1 ∧
      (page.fill selector text).2.untyped = (page.untyped.fill selector text').2.untyped := by
  have same : (page.untyped.element selector).guarded "fill" () =
      (page.element selector).guarded "fill" () := by
    rw [element_untyped]
    rfl
  have twice : page.untyped.untyped = page.untyped := by
    simp [untyped, ScriptedElement.untyped]
  unfold fill
  dsimp only
  rw [same]
  cases (page.element selector).guarded "fill" () with
  | error message => exact ⟨rfl, twice.symm⟩
  | ok _ =>
    refine ⟨rfl, ?_⟩
    rw [put_untyped, put_untyped, twice, element_untyped]
    rfl

end ScriptedPage

namespace ScriptedBrowser

theorem page_untyped (browser : ScriptedBrowser) (number : Nat) :
    browser.untyped.page number = (browser.page number).untyped := by
  unfold page untyped
  rw [List.getElem?_map]
  cases browser.pages[number]? <;> rfl

/-- Browsers that differ at most in what has been typed. -/
def SameUntyped (one other : ScriptedBrowser) : Prop :=
  one.untyped = other.untyped

theorem page_of_sameUntyped {one other : ScriptedBrowser} (same : SameUntyped one other) (n : Nat) :
    (one.page n).untyped = (other.page n).untyped := by
  rw [← page_untyped, ← page_untyped, same]

theorem withPage_untyped {α : Type} {one other : ScriptedBrowser} (same : SameUntyped one other)
    (number : Nat) {act act' : ScriptedPage → α × ScriptedPage}
    (h : ∀ p p' : ScriptedPage, p.untyped = p'.untyped →
      (act p).1 = (act' p').1 ∧ (act p).2.untyped = (act' p').2.untyped) :
    (one.withPage number act).1 = (other.withPage number act').1 ∧
      SameUntyped (one.withPage number act).2 (other.withPage number act').2 := by
  obtain ⟨answered, left⟩ := h _ _ (page_of_sameUntyped same number)
  refine ⟨answered, ?_⟩
  have start : one.start = other.start := (congrArg ScriptedBrowser.start same :)
  have pages : one.pages.map ScriptedPage.untyped = other.pages.map ScriptedPage.untyped :=
    (congrArg ScriptedBrowser.pages same :)
  have contexts : one.contexts = other.contexts := (congrArg ScriptedBrowser.contexts same :)
  simp only [SameUntyped, withPage, untyped, List.map_set, left, start, pages, contexts]

/-- What has been typed does not show while a form is filled in. -/
theorem answersAlike : Remote.AnswersAlike SameUntyped where
  told one other command fillsIn same := by
    cases command with
    | waitVisible page selector timeout =>
      refine withPage_untyped same page fun p p' equal => ?_
      have waited := p.wait_untyped selector timeout
      rw [equal, p'.wait_untyped] at waited
      exact ⟨(congrArg Prod.fst waited).symm, (congrArg Prod.snd waited).symm⟩
    | fill page selector text =>
      refine withPage_untyped same page fun p p' equal => ?_
      have filled := p.fill_untyped selector text text
      rw [equal] at filled
      obtain ⟨answered, left⟩ := p'.fill_untyped selector text text
      exact ⟨filled.1.trans answered.symm, filled.2.trans left.symm⟩
    | url page =>
      have url : (one.page page).untyped.url = (other.page page).untyped.url := by
        rw [page_of_sameUntyped same]
      exact ⟨congrArg Except.ok url, same⟩
    | _ => exact fillsIn.elim
  typed one other page locator text text' _ _ same := by
    refine withPage_untyped same page fun p p' equal => ?_
    have filled := p.fill_untyped locator.selector (.text text) (.text text')
    rw [equal] at filled
    obtain ⟨answered, left⟩ := p'.fill_untyped locator.selector (.text text') (.text text')
    exact ⟨filled.1.trans answered.symm, filled.2.trans left.symm⟩

end ScriptedBrowser
end PageContracts
