import PageContracts.Browser.Scripted
import PageContracts.Elements.Finding
import PageContracts.Proofs.Retrying

/-! # Waiting for elements

A finder waits for an element once, or again and again within its budget. What a refused wait comes to
hangs on the words of the refusal: with words it is an element that was not found, which is what a patient
finder waits again for; without any it is another failure, which ends the waiting at once. -/
namespace PageContracts.Finder

open Runs Retry

variable {β : Type} [Remote β] {page : Nat} {timeout : Value} {locator : ResolvedLocator}
  {world : World β}

/-- What the browser answers to a wait. -/
def answerTo (page : Nat) (timeout : Value) (locator : ResolvedLocator) (world : World β) :
    Except String Unit × β :=
  Remote.answer world.browser (.waitVisible page locator.selector timeout)

/-- The world after a wait that has ended in some way. -/
def waited (page : Nat) (timeout : Value) (locator : ResolvedLocator) (world : World β)
    (outcome : CommandOutcome) : World β :=
  { world with
    browser := (answerTo page timeout locator world).2
    events := world.events ++ [.locate page locator.selector] ++
      [.command (.waitVisible page locator.selector timeout) outcome] }

def seen (page : Nat) (timeout : Value) (locator : ResolvedLocator) (world : World β) : World β :=
  { waited page timeout locator world (.done none) with
    records := world.records ++
      [{ level := .debug, message := "Element found: " ++ locator.selector }] }

/-- The failure of a wait that has been refused without a word. -/
def speechless : Failure := .breach .outOfBounds "list index out of range"

theorem firstLine?_eq_none_iff (message : String) :
    Characters.firstLine? message = none ↔ message = "" := by
  simp [Characters.firstLine?]

theorem notFound_of_words {failure : Failure} (words : failure.message ≠ "") :
    (notFound locator failure).kind = .elementNotFound := by
  unfold notFound
  split
  · next line => exact absurd ((firstLine?_eq_none_iff _).mp line) words
  · rfl

theorem notFound_without_words {failure : Failure} (silent : failure.message = "") :
    notFound locator failure = speechless := by
  rw [notFound, (firstLine?_eq_none_iff _).mpr silent]
  rfl

/-- One wait finds the element or fails, as the browser answers. -/
theorem waitVisible_apply (page : Nat) (timeout : Value) (locator : ResolvedLocator)
    (world : World β) :
    waitVisible page timeout locator world =
      match (answerTo page timeout locator world).1 with
      | .ok () => .ok locator.selector (seen page timeout locator world)
      | .error message =>
        .error (notFound locator (.own .browser message))
          (waited page timeout locator world .refused) := by
  unfold waitVisible seen waited answerTo
  rw [bind_apply]
  change (tryCatch (Run.ask (.waitVisible page locator.selector timeout)) _ >>= _)
    { world with events := world.events ++ [.locate page locator.selector] } = _
  rw [bind_apply, tryCatch_apply, Run.ask]
  dsimp only
  generalize Remote.answer world.browser (.waitVisible page locator.selector timeout) = reply
  rcases reply with ⟨_ | message, browser⟩
  · rfl
  · rfl

/-- A wait is refused with words: the element has not been found. -/
structure Misses (page : Nat) (timeout : Value) (locator : ResolvedLocator) (world : World β)
    (failure : Failure) (later : World β) : Prop where
  refused : ∃ message, (answerTo page timeout locator world).1 = .error message ∧ message ≠ "" ∧
    failure = notFound locator (.own .browser message)
  missing : failure.kind = .elementNotFound
  later : later = waited page timeout locator world .refused

theorem waitVisible_cases (page : Nat) (timeout : Value) (locator : ResolvedLocator)
    (world : World β) :
    ((answerTo page timeout locator world).1 = .ok () ∧ waitVisible page timeout locator world =
        .ok locator.selector (seen page timeout locator world)) ∨
      ((answerTo page timeout locator world).1 = .error "" ∧
        waitVisible page timeout locator world =
          .error speechless (waited page timeout locator world .refused)) ∨
      ∃ failure later, Misses page timeout locator world failure later ∧
        waitVisible page timeout locator world = .error failure later := by
  rw [waitVisible_apply]
  cases answered : (answerTo page timeout locator world).1 with
  | ok _ => exact .inl ⟨rfl, rfl⟩
  | error message =>
    by_cases words : message = ""
    · subst words
      have silent : notFound locator (.own .browser "") = speechless := notFound_without_words rfl
      rw [← silent]
      exact .inr (.inl ⟨rfl, rfl⟩)
    · have missing : (notFound locator (.own .browser message)).kind = .elementNotFound :=
        notFound_of_words words
      exact .inr (.inr ⟨_, _, ⟨⟨message, answered, words, rfl⟩, missing, rfl⟩, rfl⟩)

def isMissing (failure : Failure) : Bool :=
  failure.kind.within .elementNotFound

theorem isMissing_iff (failure : Failure) :
    isMissing failure = true ↔ failure.kind = .elementNotFound := by
  unfold isMissing
  cases failure.kind <;> simp [FailureKind.within, FailureKind.parent?]

/-- The waits of a finder that have been followed by others, and the world of the last one. An
impatient finder waits only once. -/
def Repeated (finder : Finder) (page : Nat) (locator : ResolvedLocator) (world : World β)
    (repeated : List (Failure × Value)) (middle : World β) : Prop :=
  match finder with
  | .impatient _ => repeated = [] ∧ middle = world
  | .patient timeout budget =>
    Repeats budget attemptName isMissing (waitVisible page timeout locator) world repeated middle

/-- What comes of the last wait of a finder. -/
inductive Ends (page : Nat) (locator : ResolvedLocator) (repeated : Nat) (middle : World β) :
    Finder → EStateM.Result Failure (World β) String → Prop
  | finds {finder : Finder} (answered : (answerTo page finder.timeout locator middle).1 = .ok ()) :
      Ends page locator repeated middle finder
        (.ok locator.selector (seen page finder.timeout locator middle))
  /-- The one wait of an impatient finder has been in vain. -/
  | misses {timeout : Value} {failure : Failure} {later : World β}
      (missed : Misses page timeout locator middle failure later) :
      Ends page locator repeated middle (.impatient timeout) (.error failure later)
  /-- A wait of a patient finder has been in vain, and no attempts remain. -/
  | givesUp {timeout : Value} {budget : RetryBudget Value} {failure : Failure} {later : World β}
      (missed : Misses page timeout locator middle failure later)
      (spent : budget.next? repeated = .ok none) :
      Ends page locator repeated middle (.patient timeout budget)
        (.error failure (givenUp later (giveUpMessage attemptName (repeated + 1) failure)))
  | fallsSilent {finder : Finder}
      (silent : (answerTo page finder.timeout locator middle).1 = .error "") :
      Ends page locator repeated middle finder
        (.error speechless (waited page finder.timeout locator middle .refused))
  /-- A wait of a patient finder has been in vain, and there is no going on. -/
  | breaksOff {timeout : Value} {budget : RetryBudget Value} {failure mishap : Failure}
      {later : World β} (missed : Misses page timeout locator middle failure later)
      (breaks : Breaks budget attemptName repeated failure mishap) :
      Ends page locator repeated middle (.patient timeout budget) (.error mishap later)

/-- How a finder has searched for an element. -/
structure Searched (finder : Finder) (page : Nat) (locator : ResolvedLocator) (world : World β)
    (result : EStateM.Result Failure (World β) String) (repeated : List (Failure × Value))
    (middle : World β) : Prop where
  waits : finder.Repeated page locator world repeated middle
  missed : ∀ attempt ∈ repeated, attempt.1.kind = .elementNotFound
  ends : Ends page locator repeated.length middle finder result
  /-- No other failure comes of it, unless the last wait has been refused without a word or there is no
  going on after it. -/
  fails : ∀ failure later, result = .error failure later → failure.kind ≠ .elementNotFound →
    (answerTo page finder.timeout locator middle).1 = .error "" ∨
      ∃ timeout budget missed, finder = .patient timeout budget ∧
        Breaks budget attemptName repeated.length missed failure

theorem Ends.fails {finder : Finder} {repeated : Nat} {middle later : World β} {failure : Failure}
    (h : Ends page locator repeated middle finder (.error failure later))
    (other : failure.kind ≠ .elementNotFound) :
    (answerTo page finder.timeout locator middle).1 = .error "" ∨
      ∃ timeout budget missed, finder = .patient timeout budget ∧
        Breaks budget attemptName repeated missed failure := by
  cases h with
  | misses missed => exact absurd missed.missing other
  | givesUp missed => exact absurd missed.missing other
  | fallsSilent silent => exact .inl silent
  | breaksOff missed breaks => exact .inr ⟨_, _, _, rfl, breaks⟩

theorem ends_impatient (page : Nat) (timeout : Value) (locator : ResolvedLocator)
    (world : World β) :
    Ends page locator 0 world (.impatient timeout) (waitVisible page timeout locator world) := by
  rcases waitVisible_cases page timeout locator world with
    ⟨answered, waits⟩ | ⟨silent, waits⟩ | ⟨failure, later, missed, waits⟩
  · rw [waits]
    exact .finds answered
  · rw [waits]
    exact .fallsSilent silent
  · rw [waits]
    exact .misses missed

theorem ends_patient {budget : RetryBudget Value} {repeated : Nat} {middle : World β}
    {result : EStateM.Result Failure (World β) String}
    (concludes : Concludes budget attemptName isMissing (waitVisible page timeout locator) repeated
      middle result) : Ends page locator repeated middle (.patient timeout budget) result := by
  rcases waitVisible_cases page timeout locator middle with
    ⟨answered, waits⟩ | ⟨silent, waits⟩ | ⟨failure, later, missed, waits⟩
  · cases concludes with
    | returns succeeds =>
      cases waits.symm.trans succeeds
      exact .finds answered
    | passes fails => cases waits.symm.trans fails
    | givesUp fails => cases waits.symm.trans fails
    | breaksOff fails => cases waits.symm.trans fails
  · cases concludes with
    | returns succeeds => cases waits.symm.trans succeeds
    | passes fails =>
      cases waits.symm.trans fails
      exact .fallsSilent silent
    | givesUp fails expects =>
      cases waits.symm.trans fails
      cases expects
    | breaksOff fails expects =>
      cases waits.symm.trans fails
      cases expects
  · cases concludes with
    | returns succeeds => cases waits.symm.trans succeeds
    | passes fails unexpected =>
      cases waits.symm.trans fails
      rw [(isMissing_iff failure).mpr missed.missing] at unexpected
      cases unexpected
    | givesUp fails _ spent =>
      cases waits.symm.trans fails
      exact .givesUp missed spent
    | breaksOff fails _ breaks =>
      cases waits.symm.trans fails
      exact .breaksOff missed breaks

/-- However the browser answers its waits, a finder gives the selector of the element or fails with the
report that it was not found, unless the last wait has been refused without a word or there is no
going on after it; and a patient finder goes on waiting after every other wait in vain. -/
theorem searched_of_find (finder : Finder) (page : Nat) (locator : ResolvedLocator)
    (world : World β) :
    ∃ repeated middle,
      Searched finder page locator world (finder.find page locator world) repeated middle := by
  have ended : ∃ repeated middle, finder.Repeated page locator world repeated middle ∧
      (∀ attempt ∈ repeated, attempt.1.kind = .elementNotFound) ∧
      Ends page locator repeated.length middle finder (finder.find page locator world) := by
    cases finder with
    | impatient timeout =>
      exact ⟨[], world, ⟨rfl, rfl⟩, nofun, ends_impatient page timeout locator world⟩
    | patient timeout budget =>
      obtain ⟨repeated, middle, repeats, concludes⟩ :=
        spends_run budget attemptName isMissing (waitVisible page timeout locator) world
      refine ⟨repeated, middle, repeats, fun attempt listed => ?_, ends_patient concludes⟩
      obtain ⟨k, found⟩ := List.getElem?_of_mem listed
      exact (isMissing_iff _).mp (repeats.pauses found).1
  obtain ⟨repeated, middle, waits, missed, ends⟩ := ended
  refine ⟨repeated, middle, waits, missed, ends, fun failure later failed other => ?_⟩
  rw [failed] at ends
  exact ends.fails other

namespace Trial

def gate : ResolvedLocator where
  kind := .id
  value := "gate"

/-- A world with a tab in which a gate becomes visible when it is waited for once more, and in which
waiting in vain is answered by a message. -/
def gateway (message : String) : World ScriptedBrowser where
  browser :=
    { pages := [{ elements := [(gate.selector, { failures := 1, failMessage := some message })] }] }
  clock := default

/-- A patient finder finds the gate when the first wait is refused with words, but not when it is
refused without any. -/
theorem silence_not_waited_out :
    failure? (find (.patient (.int 100) .standard) 0 gate (gateway "Timeout 100ms exceeded.\n")) =
        none ∧
      failure? (find (.patient (.int 100) .standard) 0 gate (gateway "")) = some speechless ∧
      speechless.kind ≠ .elementNotFound ∧
      (Runs.after (find (.patient (.int 100) .standard) 0 gate) (gateway "")).events.length = 2 := by
  exact ⟨by decide +kernel, by decide +kernel, by decide, by decide +kernel⟩

end Trial
end PageContracts.Finder
