import PageContracts.Elements.Surface
import PageContracts.Proofs.Additions

/-! # Searching for elements

However a finder waits and tries again, what it does on a page is to wait for the one element it is
to find. It gives that element only when the last of these waits has been in time. -/
namespace PageContracts

open Runs
open World (Adds)

variable {β α γ : Type}

namespace Event

/-- The page and the selector of the element that an event touches. -/
def touches? : Event → Option (Nat × String)
  | .command (.click page selector) _
  | .command (.fill page selector _) _
  | .command (.tagName page selector) _
  | .command (.inputValue page selector) _
  | .command (.innerText page selector) _
  | .command (.readAttribute page selector _) _ => some (page, selector)
  | _ => none

/-- An event that touches no element. -/
def Untouching (event : Event) : Prop :=
  event.touches? = none

/-- An event of a search that has not succeeded yet: the element is named, it does not become
visible in time, or there is a pause. -/
inductive Seeks (page : Nat) (selector : String) : Event → Prop
  | locate : Seeks page selector (.locate page selector)
  | wait (timeout : Value) :
      Seeks page selector (.command (.waitVisible page selector timeout) .refused)
  | pause (pause : Value) : Seeks page selector (.sleep pause)

/-- An element has become visible in time. -/
def appears (page : Nat) (selector : String) (timeout : Value) : Event :=
  .command (.waitVisible page selector timeout) (.done none)

theorem Seeks.untouching {page : Nat} {selector : String} {event : Event}
    (h : event.Seeks page selector) : event.Untouching := by
  cases h <;> rfl

end Event

/-- How a search ends that starts in a world: with the selector, just when the element has become
visible, or with a failure. -/
inductive Sought (page : Nat) (selector : String) (world : World β) :
    EStateM.Result Failure (World β) String → Prop
  | found {later : World β} (search : List Event) (timeout : Value)
      (events : later.events = world.events ++ search ++ [.appears page selector timeout])
      (seeks : ∀ event ∈ search, event.Seeks page selector) :
      Sought page selector world (.ok selector later)
  | lost {failure : Failure} {later : World β} (search : List Event)
      (events : later.events = world.events ++ search)
      (seeks : ∀ event ∈ search, event.Seeks page selector) :
      Sought page selector world (.error failure later)

/-- Whatever world a run starts in, it is a search for an element. -/
def Searches (page : Nat) (selector : String) (run : Run β String) : Prop :=
  ∀ world, Sought page selector world (run world)

variable {page : Nat} {selector : String}

/-- A search goes on where it has not succeeded yet. -/
theorem Sought.after {world middle : World β} {result : EStateM.Result Failure (World β) String}
    {first : List Event} (grown : middle.events = world.events ++ first)
    (seeks : ∀ event ∈ first, event.Seeks page selector)
    (goes : Sought page selector middle result) : Sought page selector world result := by
  have both {search : List Event} (more : ∀ event ∈ search, event.Seeks page selector) :
      ∀ event ∈ first ++ search, event.Seeks page selector := by
    intro event listed
    rcases List.mem_append.mp listed with early | late
    · exact seeks event early
    · exact more event late
  cases goes with
  | found search timeout events more =>
    refine .found (first ++ search) timeout ?_ (both more)
    rw [events, grown, List.append_assoc world.events]
  | lost search events more =>
    refine .lost (first ++ search) ?_ (both more)
    rw [events, grown, List.append_assoc]

namespace Searches

theorem throw (failure : Failure) : Searches page selector (throw failure : Run β String) :=
  fun _ => .lost [] (List.append_nil _).symm nofun

theorem bind {run : Run β α} {next : α → Run β String}
    (h : AddsOnly (Event.Seeks page selector) run)
    (hn : ∀ a, Searches page selector (next a)) : Searches page selector (run >>= next) := by
  intro world
  obtain ⟨first, grown, seeks⟩ := (h world).events
  cases ran : run world with
  | ok a middle =>
    rw [after_of_ok ran] at grown
    rw [bind_of_ok ran]
    exact .after grown seeks (hn a middle)
  | error failure middle =>
    rw [after_of_error ran] at grown
    rw [bind_of_error ran]
    exact .lost first grown seeks

/-- What is tried after a search that has not succeeded has to be a search for the same element. -/
theorem tryCatch {run : Run β String} {handle : Failure → Run β String}
    (h : Searches page selector run) (hh : ∀ failure, Searches page selector (handle failure)) :
    Searches page selector (tryCatch run handle) := by
  intro world
  rw [tryCatch_apply]
  have first := h world
  cases ran : run world with
  | ok found later =>
    rw [ran] at first
    exact first
  | error failure middle =>
    rw [ran] at first
    cases first with
    | lost search events seeks => exact .after events seeks (hh failure middle)

/-- Waiting once succeeds just when the element becomes visible. -/
theorem waitVisible [Remote β] (page : Nat) (timeout : Value) (locator : ResolvedLocator) :
    Searches page locator.selector (Finder.waitVisible page timeout locator : Run β String) := by
  refine Searches.bind (AddsOnly.note .locate) fun _ world => ?_
  rcases Run.ask_cases (.waitVisible page locator.selector timeout) world with
    ⟨answer, browser, asked⟩ | ⟨message, browser, asked⟩
  · rw [bind_apply, tryCatch_apply, asked]
    exact .found [] timeout (by rw [List.append_nil]; rfl) nofun
  · rw [bind_apply, tryCatch_apply, asked]
    exact .lost _ rfl (by simpa using .wait timeout)

theorem retry_after (budget : RetryBudget Value) (name : String) (expected : Failure → Bool)
    {body : Run β String} (h : Searches page selector body) (left : Nat) (pause : Value)
    (attempt : Nat) (failure : Failure) :
    Searches page selector (Retry.after budget name expected body left pause attempt failure) := by
  have givesUp (attempt : Nat) (failure : Failure) :
      Searches page selector (Retry.after.giveUp name attempt failure : Run β String) :=
    Searches.bind (AddsOnly.log _ _) fun _ => throw _
  induction left generalizing pause attempt failure with
  | zero =>
    unfold Retry.after
    exact givesUp attempt failure
  | succ left ih =>
    by_cases none : pause = .none
    · subst none
      exact givesUp attempt failure
    · rw [Retry.after.eq_3 _ _ _ _ _ _ _ _ none]
      refine Searches.bind (Moves.ofExcept _) fun _ => Searches.bind (AddsOnly.log _ _) fun _ => ?_
      refine Searches.bind (AddsOnly.note (.pause pause)) fun _ => tryCatch h fun later => ?_
      split
      · exact Searches.bind (Moves.ofExcept _) fun next => ih next _ later
      · exact throw _

theorem retry (budget : RetryBudget Value) (name : String) (expected : Failure → Bool)
    {body : Run β String} (h : Searches page selector body) :
    Searches page selector (Retry.run budget name expected body) := by
  refine tryCatch h fun failure => ?_
  split
  · exact Searches.bind (Moves.ofExcept _) fun left => retry_after budget name expected h left _ _ _
  · exact throw _

/-- A finder finds the element of a locator, or nothing. -/
theorem find [Remote β] (finder : Finder) (page : Nat) (locator : ResolvedLocator) :
    Searches page locator.selector (finder.find page locator : Run β String) := by
  cases finder with
  | impatient timeout => exact waitVisible page timeout locator
  | patient timeout budget => exact retry _ _ _ (waitVisible page timeout locator)

end Searches
end PageContracts
