import PageContracts.Proofs.Acting

/-! # Twins

Two runs side by side. They go on alike for as long as they are told the same, and also when one
types another text than the other, provided that the browsers do not let it show. -/
namespace PageContracts

open Runs

namespace Runs

variable {ε σ α γ : Type}

/-- Two runs end alike: with the same result or the same failure, in states that are related. -/
inductive Agree (R : σ → σ → Prop) : EStateM.Result ε σ α → EStateM.Result ε σ α → Prop where
  | ok (a : α) {s t : σ} (related : R s t) : Agree R (.ok a s) (.ok a t)
  | error (e : ε) {s t : σ} (related : R s t) : Agree R (.error e s) (.error e t)

theorem Agree.imp {R S : σ → σ → Prop} {ended ended' : EStateM.Result ε σ α}
    (h : Agree R ended ended') (weaker : ∀ s t, R s t → S s t) : Agree S ended ended' := by
  cases h with
  | ok a related => exact .ok a (weaker _ _ related)
  | error e related => exact .error e (weaker _ _ related)

/-- Two programs that end alike whenever they start in related states. -/
def Alike (R : σ → σ → Prop) (run other : EStateM ε σ α) : Prop :=
  ∀ s t, R s t → Agree R (run s) (other t)

namespace Alike

variable {R : σ → σ → Prop}

theorem pure (a : α) : Alike R (pure a : EStateM ε σ α) (pure a) :=
  fun _ _ related => .ok a related

theorem throw (e : ε) : Alike R (throw e : EStateM ε σ α) (throw e) :=
  fun _ _ related => .error e related

theorem modify {change change' : σ → σ} (h : ∀ s t, R s t → R (change s) (change' t)) :
    Alike R (modify change : EStateM ε σ Unit) (modify change') :=
  fun s t related => .ok () (h s t related)

theorem bind {run other : EStateM ε σ α} {next next' : α → EStateM ε σ γ}
    (h : Alike R run other) (hn : ∀ a, Alike R (next a) (next' a)) :
    Alike R (run >>= next) (other >>= next') := by
  intro s t related
  have first := h s t related
  rw [bind_apply, bind_apply]
  generalize run s = ended, other t = ended' at first
  cases first with
  | ok a related => exact hn a _ _ related
  | error e related => exact .error e related

theorem throw_bind (e : ε) (next next' : α → EStateM ε σ γ) :
    Alike R ((MonadExcept.throw e : EStateM ε σ α) >>= next) (MonadExcept.throw e >>= next') :=
  (throw e : Alike R (MonadExcept.throw e : EStateM ε σ γ) _)

theorem tryCatch {run other : EStateM ε σ α} {handle handle' : ε → EStateM ε σ α}
    (h : Alike R run other) (hh : ∀ e, Alike R (handle e) (handle' e)) :
    Alike R (tryCatch run handle) (tryCatch other handle') := by
  intro s t related
  have tried := h s t related
  rw [tryCatch_apply, tryCatch_apply]
  generalize run s = ended, other t = ended' at tried
  cases tried with
  | ok a related => exact .ok a related
  | error e related => exact hh e _ _ related

theorem get_bind {next next' : σ → EStateM ε σ γ}
    (hn : ∀ s t, R s t → Alike R (next s) (next' t)) :
    Alike R (get >>= next) (get >>= next') :=
  fun s t related => hn s t related s t related

end Alike

/-- Whatever a program gives is as described. -/
def Gives (Q : α → Prop) (run : EStateM ε σ α) : Prop :=
  ∀ s a t, run s = .ok a t → Q a

namespace Gives

variable {Q : α → Prop} {Q' : γ → Prop}

theorem pure {a : α} (h : Q a) : Gives Q (pure a : EStateM ε σ α) := by
  intro s b t given
  cases given
  exact h

theorem throw (e : ε) : Gives Q (throw e : EStateM ε σ α) :=
  fun _ _ _ given => nomatch given

theorem bind (run : EStateM ε σ α) {next : α → EStateM ε σ γ} (hn : ∀ a, Gives Q' (next a)) :
    Gives Q' (run >>= next) := by
  intro s c u given
  obtain ⟨a, t, -, more⟩ := bind_eq_ok.mp given
  exact hn a t c u more

theorem tryCatch {run : EStateM ε σ α} {handle : ε → EStateM ε σ α} (h : Gives Q run)
    (hh : ∀ e, Gives Q (handle e)) : Gives Q (tryCatch run handle) := by
  intro s a t given
  rw [tryCatch_apply] at given
  cases ran : run s with
  | ok b u =>
    rw [ran] at given
    cases given
    exact h s _ _ ran
  | error e u =>
    rw [ran] at given
    exact hh e u a t given

end Gives

theorem Alike.bind_of_gives {R : σ → σ → Prop} {Q : α → Prop} {run other : EStateM ε σ α}
    {next next' : α → EStateM ε σ γ} (h : Alike R run other) (given : Gives Q run)
    (hn : ∀ a, Q a → Alike R (next a) (next' a)) : Alike R (run >>= next) (other >>= next') := by
  intro s t related
  have first := h s t related
  have holds := given s
  rw [bind_apply, bind_apply]
  generalize run s = ended, other t = ended' at first holds
  cases first with
  | ok a related => exact hn a (holds a _ rfl) _ _ related
  | error e related => exact .error e related

end Runs

/-- What one run has done to the outside world at some point and what the other has done there are
the same, but for the text that is typed. -/
inductive Event.Alike : Event → Event → Prop where
  | same (event : Event) : Alike event event
  | typed (page : Nat) (selector : String) (one other : Value) (outcome : CommandOutcome) :
    Alike (.command (.fill page selector one) outcome)
      (.command (.fill page selector other) outcome)

/-- The commands that are given to fill in a form and to tell where the browser is then. -/
def Command.FillsIn : Command → Prop
  | .waitVisible .. | .fill .. | .url _ => True
  | _ => False

/-- Browsers answer alike while a form is filled in: they give the same answers to the same commands,
and also when different texts of one length are typed into an element that hides them, and they go
on doing so. -/
structure Remote.AnswersAlike [Remote β] (alike : β → β → Prop) : Prop where
  told : ∀ one other (command : Command), command.FillsIn → alike one other →
    (Remote.answer one command).1 = (Remote.answer other command).1 ∧
      alike (Remote.answer one command).2 (Remote.answer other command).2
  typed : ∀ one other page (locator : ResolvedLocator) (text text' : String),
    hidesText locator = true → text.length = text'.length → alike one other →
      (Remote.answer one (.fill page locator.selector (.text text))).1 =
          (Remote.answer other (.fill page locator.selector (.text text'))).1 ∧
        alike (Remote.answer one (.fill page locator.selector (.text text))).2
          (Remote.answer other (.fill page locator.selector (.text text'))).2

variable {β α γ : Type}

/-- Two worlds are the same, but for what the browsers know and for the texts that have been typed. -/
structure World.Twins (alike : β → β → Prop) (one other : World β) : Prop where
  browser : alike one.browser other.browser
  events : List.Forall₂ Event.Alike one.events other.events
  inside : other = { one with browser := other.browser, events := other.events }

open World (Twins)

/-- The program goes on alike in worlds that are twins. -/
abbrev Unaware (alike : β → β → Prop) (run : Run β α) : Prop :=
  Alike (Twins alike) run run

variable {alike : β → β → Prop}

namespace World.Twins

variable {one other : World β}

theorem noted (h : Twins alike one other) {event event' : Event} (same : event.Alike event') :
    Twins alike (one.noted event) (other.noted event') where
  browser := h.browser
  events := List.rel_append h.events (.cons same .nil)
  inside := by
    rw [h.inside]
    rfl

/-- What a program learns of the world from anything but the browser and the events it learns in both
worlds. -/
theorem get_bind {next next' : World β → Run β γ}
    (h : ∀ (world : World β) browser events,
      Alike (Twins alike) (next world) (next' { world with browser, events })) :
    Alike (Twins alike) (get >>= next) (get >>= next') := by
  refine Alike.get_bind fun one other twins => ?_
  rw [twins.inside]
  exact h one _ _

/-- A change to anything but the browser and the events is made in both worlds. -/
theorem modify {change : World β → World β}
    (h : ∀ (world : World β) browser events,
      change { world with browser, events } = { change world with browser, events } ∧
        (change world).browser = world.browser ∧ (change world).events = world.events) :
    Unaware alike (modify change : Run β Unit) := by
  refine Alike.modify fun one other twins => ?_
  obtain ⟨apart, sameBrowser, sameEvents⟩ := h one other.browser other.events
  have changed : change other =
      { change one with browser := other.browser, events := other.events } := by
    rw [← apart, ← twins.inside]
  refine ⟨?_, ?_, ?_⟩
  · rw [changed, sameBrowser]
    exact twins.browser
  · rw [changed, sameEvents]
    exact twins.events
  · rw [changed]

theorem ofExcept (result : Except Failure α) :
    Unaware alike (Run.ofExcept result : Run β α) := by
  cases result with
  | ok a => exact Alike.pure a
  | error failure => exact Alike.throw failure

theorem note (event : Event) : Unaware alike (Run.note event : Run β Unit) :=
  Alike.modify fun _ _ twins => twins.noted (.same event)

theorem log (level : LogLevel) (message : String) :
    Unaware alike (Run.log level message : Run β Unit) :=
  modify fun _ _ _ => ⟨rfl, rfl, rfl⟩

theorem logAbout (panel : Value) (message : String) :
    Unaware alike (Run.logAbout panel message : Run β Unit) :=
  modify fun _ _ _ => ⟨rfl, rfl, rfl⟩

theorem inStep (title : String) {run other : Run β α} (h : Alike (Twins alike) run other) :
    Alike (Twins alike) (Run.inStep title run) (Run.inStep title other) := by
  intro one two twins
  have ran := h _ _ (twins.noted (.same (.step title)))
  rw [inStep_apply, inStep_apply]
  generalize run (one.noted _) = ended, other (two.noted _) = ended' at ran
  cases ran with
  | ok a twins => exact .ok a (twins.noted (.same _))
  | error failure twins => exact .error failure (twins.noted (.same _))

theorem retry_after (budget : RetryBudget Value) (name : String) (expected : Failure → Bool)
    {body : Run β α} (h : Unaware alike body) (left : Nat) (pause : Value)
    (attempt : Nat) (failure : Failure) :
    Unaware alike (Retry.after budget name expected body left pause attempt failure) := by
  have giveUp : ∀ attempt failure,
      Unaware alike (Retry.after.giveUp name attempt failure : Run β α) := by
    intro attempt failure
    exact (log _ _).bind fun _ => Alike.throw _
  induction left generalizing pause attempt failure with
  | zero => unfold Retry.after; exact giveUp attempt failure
  | succ left ih =>
    by_cases hp : pause = .none
    · subst hp
      exact giveUp attempt failure
    · rw [Retry.after.eq_3 _ _ _ _ _ _ _ _ hp]
      refine (ofExcept _).bind fun _ => (log _ _).bind fun _ => (note _).bind fun _ => ?_
      refine Alike.tryCatch h fun later => ?_
      split
      · exact (ofExcept _).bind fun next => ih next _ later
      · exact Alike.throw _

theorem retry (budget : RetryBudget Value) (name : String) (expected : Failure → Bool)
    {body : Run β α} (h : Unaware alike body) :
    Unaware alike (Retry.run budget name expected body) := by
  refine Alike.tryCatch h fun failure => ?_
  split
  · exact (ofExcept _).bind fun left => retry_after budget name expected h left _ _ _
  · exact Alike.throw _

section Browser

variable [Remote β]

theorem ask (answers : Remote.AnswersAlike alike) {command : Command} (fillsIn : command.FillsIn) :
    Unaware alike (Run.ask command : Run β command.Answer) := by
  intro one other twins
  obtain ⟨same, after⟩ := answers.told _ _ command fillsIn twins.browser
  have inside := twins.inside
  unfold Run.ask
  rcases h : Remote.answer one.browser command with ⟨answer | message, browser⟩ <;>
    rcases h' : Remote.answer other.browser command with ⟨answer' | message', browser'⟩ <;>
    rw [h, h'] at same after <;> cases same
  · refine .error _ ⟨after, List.rel_append twins.events (.cons (.same _) .nil), ?_⟩
    rw [inside]
  · refine .ok _ ⟨after, List.rel_append twins.events (.cons (.same _) .nil), ?_⟩
    rw [inside]

/-- Different texts of one length may be typed into an element that hides them. -/
theorem type (answers : Remote.AnswersAlike alike) (page : Nat) {locator : ResolvedLocator}
    {text text' : String} (hidden : hidesText locator = true) (length : text.length = text'.length) :
    Alike (Twins alike) (Run.ask (.fill page locator.selector (.text text)) : Run β Unit)
      (Run.ask (.fill page locator.selector (.text text'))) := by
  intro one other twins
  obtain ⟨same, after⟩ := answers.typed _ _ page locator text text' hidden length twins.browser
  have inside := twins.inside
  unfold Run.ask
  rcases h : Remote.answer one.browser (.fill page locator.selector (.text text)) with
    ⟨answer | message, browser⟩ <;>
    rcases h' : Remote.answer other.browser (.fill page locator.selector (.text text')) with
      ⟨answer' | message', browser'⟩ <;>
    rw [h, h'] at same after <;> cases same
  · refine .error _ ⟨after, List.rel_append twins.events (.cons (.typed _ _ _ _ _) .nil), ?_⟩
    rw [inside]
  · refine .ok _ ⟨after, List.rel_append twins.events (.cons (.typed _ _ _ _ _) .nil), ?_⟩
    rw [inside]

theorem waitVisible (answers : Remote.AnswersAlike alike) (page : Nat) (timeout : Value)
    (locator : ResolvedLocator) :
    Unaware alike (Finder.waitVisible page timeout locator : Run β String) := by
  refine (note _).bind fun _ => Alike.bind ?_ fun _ => (log _ _).bind fun _ => Alike.pure _
  refine Alike.tryCatch (ask answers trivial) fun failure => ?_
  split <;> exact Alike.throw _

theorem find (answers : Remote.AnswersAlike alike) (finder : Finder) (page : Nat)
    (locator : ResolvedLocator) : Unaware alike (finder.find page locator : Run β String) := by
  cases finder with
  | impatient timeout => exact waitVisible answers page timeout locator
  | patient timeout budget => exact retry _ _ _ (waitVisible answers page timeout locator)

end Browser
end World.Twins

namespace Finder

variable [Remote β]

theorem waitVisible_gives (page : Nat) (timeout : Value) (locator : ResolvedLocator) :
    Gives (· = locator.selector) (waitVisible page timeout locator : Run β String) :=
  Gives.bind _ fun _ => Gives.bind _ fun _ => Gives.bind _ fun _ => Gives.pure rfl

omit [Remote β] in
theorem retry_after_gives {Q : α → Prop} (budget : RetryBudget Value) (name : String)
    (expected : Failure → Bool) {body : Run β α} (h : Gives Q body) (left : Nat) (pause : Value)
    (attempt : Nat) (failure : Failure) :
    Gives Q (Retry.after budget name expected body left pause attempt failure) := by
  induction left generalizing pause attempt failure with
  | zero =>
    unfold Retry.after
    exact Gives.bind _ fun _ => Gives.throw _
  | succ left ih =>
    by_cases hp : pause = .none
    · subst hp
      exact Gives.bind _ fun _ => Gives.throw _
    · rw [Retry.after.eq_3 _ _ _ _ _ _ _ _ hp]
      refine Gives.bind _ fun _ => Gives.bind _ fun _ => Gives.bind _ fun _ => ?_
      refine Gives.tryCatch h fun later => ?_
      split
      · exact Gives.bind _ fun next => ih next _ later
      · exact Gives.throw _

/-- What is found is the selector of the locator. -/
theorem find_gives (finder : Finder) (page : Nat) (locator : ResolvedLocator) :
    Gives (· = locator.selector) (finder.find page locator : Run β String) := by
  cases finder with
  | impatient timeout => exact waitVisible_gives page timeout locator
  | patient timeout budget =>
    refine Gives.tryCatch (waitVisible_gives page timeout locator) fun failure => ?_
    split
    · refine Gives.bind _ fun left => ?_
      exact retry_after_gives _ _ _ (waitVisible_gives page timeout locator) _ _ _ _
    · exact Gives.throw _

end Finder
end PageContracts
