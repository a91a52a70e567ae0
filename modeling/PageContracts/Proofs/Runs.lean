import PageContracts.World
import Mathlib.Data.List.Forall2
import Mathlib.Order.Defs.Unbundled

/-! # Runs

How a program in a state with failures ends, and what it does to the state whether it succeeds or
fails. A relation that every step of a program keeps to is kept to by the whole program. -/
namespace PageContracts.Runs

variable {ε σ α γ : Type}

@[simp] theorem pure_apply (a : α) (s : σ) : (pure a : EStateM ε σ α) s = .ok a s := rfl

@[simp] theorem throw_apply (e : ε) (s : σ) : (throw e : EStateM ε σ α) s = .error e s := rfl

@[simp] theorem get_apply (s : σ) : (get : EStateM ε σ σ) s = .ok s s := rfl

@[simp] theorem modify_apply (change : σ → σ) (s : σ) :
    (modify change : EStateM ε σ Unit) s = .ok () (change s) := rfl

theorem bind_apply (run : EStateM ε σ α) (next : α → EStateM ε σ γ) (s : σ) :
    (run >>= next) s =
      match run s with
      | .ok a t => next a t
      | .error e t => .error e t := rfl

theorem map_apply (f : α → γ) (run : EStateM ε σ α) (s : σ) :
    (f <$> run) s =
      match run s with
      | .ok a t => .ok (f a) t
      | .error e t => .error e t := rfl

theorem tryCatch_apply (run : EStateM ε σ α) (handle : ε → EStateM ε σ α) (s : σ) :
    (tryCatch run handle) s =
      match run s with
      | .ok a t => .ok a t
      | .error e t => handle e t := by
  change EStateM.tryCatch run handle s = _
  simp only [EStateM.tryCatch]
  cases run s <;> rfl

theorem bind_of_ok {run : EStateM ε σ α} {s t : σ} {a : α} (h : run s = .ok a t)
    (next : α → EStateM ε σ γ) : (run >>= next) s = next a t := by
  rw [bind_apply, h]

theorem bind_of_error {run : EStateM ε σ α} {s t : σ} {e : ε} (h : run s = .error e t)
    (next : α → EStateM ε σ γ) : (run >>= next) s = .error e t := by
  rw [bind_apply, h]

theorem bind_eq_ok {run : EStateM ε σ α} {next : α → EStateM ε σ γ} {s u : σ} {c : γ} :
    (run >>= next) s = .ok c u ↔ ∃ a t, run s = .ok a t ∧ next a t = .ok c u := by
  rw [bind_apply]
  cases run s with
  | ok a t =>
    constructor
    · intro h
      exact ⟨a, t, rfl, h⟩
    · rintro ⟨_, _, h, hn⟩
      cases h
      exact hn
  | error e t => simp

theorem bind_eq_error {run : EStateM ε σ α} {next : α → EStateM ε σ γ} {s u : σ} {e : ε} :
    (run >>= next) s = .error e u ↔
      run s = .error e u ∨ ∃ a t, run s = .ok a t ∧ next a t = .error e u := by
  rw [bind_apply]
  cases run s with
  | ok a t =>
    constructor
    · intro h
      exact .inr ⟨a, t, rfl, h⟩
    · rintro (h | ⟨_, _, h, hn⟩)
      · cases h
      · cases h
        exact hn
  | error e t => simp

theorem get_bind_eq_ok {next : σ → EStateM ε σ γ} {s u : σ} {c : γ} :
    (MonadState.get >>= next) s = .ok c u ↔ next s s = .ok c u :=
  Iff.rfl

/-- Programs that begin alike and go on alike from where the beginning ends are alike. -/
theorem bind_congr_apply {run run' : EStateM ε σ α} {next next' : α → EStateM ε σ γ} {s : σ}
    (h : run s = run' s) (hn : ∀ a t, run s = .ok a t → next a t = next' a t) :
    (run >>= next) s = (run' >>= next') s := by
  rw [bind_apply, bind_apply, ← h]
  cases hr : run s with
  | ok a t => exact hn a t hr
  | error e t => rfl

theorem except_bind_eq_ok {result : Except ε α} {next : α → Except ε γ} {c : γ} :
    (result >>= next) = .ok c ↔ ∃ a, result = .ok a ∧ next a = .ok c := by
  cases result with
  | error e =>
    constructor
    · intro h
      cases h
    · rintro ⟨_, h, -⟩
      cases h
  | ok a =>
    constructor
    · intro h
      exact ⟨a, rfl, h⟩
    · rintro ⟨_, h, hn⟩
      cases h
      exact hn

theorem except_bind_of_error {result : Except ε α} {e : ε} (h : result = .error e)
    (next : α → Except ε γ) : (result >>= next) = .error e := by
  rw [h]
  rfl

/-- What comes of items one by one, if something comes of each. -/
theorem mapM_eq_ok {make : α → Except ε γ} {items : List α} {results : List γ}
    (h : items.mapM make = .ok results) :
    List.Forall₂ (fun item result => make item = .ok result) items results := by
  induction items generalizing results with
  | nil =>
    cases h
    exact .nil
  | cons item rest ih =>
    rw [List.mapM_cons] at h
    cases made : make item with
    | error failure =>
      rw [made] at h
      cases h
    | ok result =>
      cases others : rest.mapM make with
      | error failure =>
        rw [made, others] at h
        cases h
      | ok more =>
        rw [made, others] at h
        cases h
        exact .cons made (ih others)

section Worlds

variable {β : Type} {world later : World β}

@[simp] theorem ofExcept_ok (a : α) : (Run.ofExcept (.ok a) : Run β α) = pure a := rfl

@[simp] theorem ofExcept_error (failure : Failure) :
    (Run.ofExcept (.error failure) : Run β α) = throw failure := rfl

theorem ofExcept_bind_of_ok {result : Except Failure α} {a : α} (h : result = .ok a)
    (next : α → Run β γ) : (Run.ofExcept result >>= next) = next a := by
  rw [h]
  rfl

theorem ofExcept_eq_ok {result : Except Failure α} {a : α} :
    (Run.ofExcept result : Run β α) world = .ok a later ↔ result = .ok a ∧ world = later := by
  cases result with
  | ok b => simp
  | error failure => simp

theorem ofExcept_bind_eq_ok {result : Except Failure α} {next : α → Run β γ}
    {world later : World β} {c : γ} :
    (Run.ofExcept result >>= next) world = .ok c later ↔
      ∃ a, result = .ok a ∧ next a world = .ok c later := by
  rw [bind_eq_ok]
  constructor
  · rintro ⟨a, middle, had, more⟩
    obtain ⟨given, rfl⟩ := ofExcept_eq_ok.mp had
    exact ⟨a, given, more⟩
  · rintro ⟨a, given, more⟩
    exact ⟨a, world, ofExcept_eq_ok.mpr ⟨given, rfl⟩, more⟩

theorem forM_ofExcept {ι : Type} (check : ι → Except Failure Unit) (items : List ι) :
    (items.forM fun i => Run.ofExcept (check i) : Run β Unit) = Run.ofExcept (items.forM check) := by
  induction items with
  | nil => rfl
  | cons i rest ih =>
    rw [List.forM, List.forM, ih]
    cases check i with
    | ok _ => rfl
    | error failure => rfl

theorem forM_ofExcept_eq_ok {ι : Type} {check : ι → Except Failure Unit} {items : List ι} {u : Unit}
    (h : (items.forM fun i => Run.ofExcept (check i) : Run β Unit) world = .ok u later) :
    (∀ i ∈ items, check i = .ok ()) ∧ world = later := by
  induction items with
  | nil =>
    cases h
    exact ⟨by simp, rfl⟩
  | cons i rest ih =>
    obtain ⟨_, middle, first, tail⟩ := bind_eq_ok.mp h
    obtain ⟨checked, rfl⟩ := ofExcept_eq_ok.mp first
    obtain ⟨others, same⟩ := ih tail
    exact ⟨by simpa using ⟨checked, others⟩, same⟩

end Worlds

/-- The state a program leaves behind, however it ends. -/
def after (run : EStateM ε σ α) (s : σ) : σ :=
  match run s with
  | .ok _ t => t
  | .error _ t => t

theorem after_of_ok {run : EStateM ε σ α} {s t : σ} {a : α} (h : run s = .ok a t) :
    after run s = t := by
  simp [after, h]

theorem after_of_error {run : EStateM ε σ α} {s t : σ} {e : ε} (h : run s = .error e t) :
    after run s = t := by
  simp [after, h]

theorem after_get_bind (next : σ → EStateM ε σ α) (s : σ) :
    after (get >>= next) s = after (next s) s := rfl

theorem after_bind_of_ok {run : EStateM ε σ α} {s t : σ} {a : α} (h : run s = .ok a t)
    (next : α → EStateM ε σ γ) : after (run >>= next) s = after (next a) t := by
  rw [after, bind_of_ok h, after]

theorem after_bind_of_error {run : EStateM ε σ α} {s t : σ} {e : ε} (h : run s = .error e t)
    (next : α → EStateM ε σ γ) : after (run >>= next) s = t := by
  rw [after, bind_of_error h]

theorem after_of_eq {run other : EStateM ε σ α} {s t : σ} (h : run s = other t) :
    after run s = after other t := by
  rw [after, h, after]

theorem after_ignoring (run : EStateM ε σ α) (s : σ) : after (do let _ ← run) s = after run s := by
  cases ran : run s with
  | ok a t => rw [after_bind_of_ok ran, after_of_ok ran, after_of_ok (pure_apply _ _)]
  | error e t => rw [after_bind_of_error ran, after_of_error ran]

/-- The failure that a program has ended with, if it has failed. -/
def failure? : EStateM.Result ε σ α → Option ε
  | .ok _ _ => none
  | .error e _ => some e

/-- Whatever state a program starts in, the relation holds between that one and the one it leaves
behind, also when it fails. -/
def Moves (relation : σ → σ → Prop) (run : EStateM ε σ α) : Prop :=
  ∀ s, relation s (after run s)

namespace Moves

variable {R : σ → σ → Prop}

theorem of_eq_ok {run : EStateM ε σ α} (h : Moves R run) {s t : σ} {a : α}
    (hr : run s = .ok a t) : R s t :=
  after_of_ok hr ▸ h s

theorem of_eq_error {run : EStateM ε σ α} (h : Moves R run) {s t : σ} {e : ε}
    (hr : run s = .error e t) : R s t :=
  after_of_error hr ▸ h s

theorem imp {S : σ → σ → Prop} {run : EStateM ε σ α} (h : Moves R run)
    (weaker : ∀ s t, R s t → S s t) : Moves S run :=
  fun s => weaker _ _ (h s)

theorem get_bind {next : σ → EStateM ε σ γ}
    (hn : ∀ s, R s (after (next s) s)) : Moves R (MonadState.get >>= next) :=
  fun s => hn s

theorem modify {change : σ → σ} (h : ∀ s, R s (change s)) :
    Moves R (modify change : EStateM ε σ Unit) :=
  fun s => h s

variable [IsPreorder σ R]

theorem stay {run : EStateM ε σ α} (h : ∀ s, after run s = s) : Moves R run := by
  intro s
  rw [h s]
  exact refl s

theorem pure (a : α) : Moves R (pure a : EStateM ε σ α) := stay fun _ => rfl

theorem throw (e : ε) : Moves R (throw e : EStateM ε σ α) := stay fun _ => rfl

theorem get : Moves R (get : EStateM ε σ σ) := stay fun _ => rfl

theorem bind {run : EStateM ε σ α} {next : α → EStateM ε σ γ} (h : Moves R run)
    (hn : ∀ a, Moves R (next a)) : Moves R (run >>= next) := by
  intro s
  cases hr : run s with
  | ok a t =>
    have first : R s t := h.of_eq_ok hr
    have second : R t (after (next a) t) := hn a t
    simpa only [after, bind_of_ok hr] using IsTrans.trans _ _ _ first second
  | error e t =>
    have first : R s t := h.of_eq_error hr
    simpa only [after, bind_of_error hr] using first

/-- What follows a beginning that keeps to the relation from one state has to keep to it from any. -/
theorem after_bind {run : EStateM ε σ α} {next : α → EStateM ε σ γ} {s : σ}
    (h : R s (after run s)) (hn : ∀ a, Moves R (next a)) : R s (after (run >>= next) s) := by
  cases hr : run s with
  | ok a t =>
    rw [after_of_ok hr] at h
    rw [after_bind_of_ok hr]
    exact IsTrans.trans _ _ _ h (hn a t)
  | error e t =>
    rw [after_of_error hr] at h
    rw [after_bind_of_error hr]
    exact h

theorem throw_bind (e : ε) (next : α → EStateM ε σ γ) :
    Moves R ((MonadExcept.throw e : EStateM ε σ α) >>= next) :=
  (throw e : Moves R (MonadExcept.throw e : EStateM ε σ γ))

theorem tryCatch {run : EStateM ε σ α} {handle : ε → EStateM ε σ α} (h : Moves R run)
    (hh : ∀ e, Moves R (handle e)) : Moves R (tryCatch run handle) := by
  intro s
  cases hr : run s with
  | ok a t => simpa only [after, tryCatch_apply, hr] using h.of_eq_ok hr
  | error e t =>
    have first : R s t := h.of_eq_error hr
    have second : R t (after (handle e) t) := hh e t
    simpa only [after, tryCatch_apply, hr] using IsTrans.trans _ _ _ first second

theorem ofExcept {β : Type} {R : World β → World β → Prop} [IsPreorder (World β) R]
    (result : Except Failure α) : Moves R (Run.ofExcept result : Run β α) := by
  cases result with
  | ok a => exact Moves.pure a
  | error failure => exact Moves.throw failure

theorem ofExcept_bind {β : Type} {R : World β → World β → Prop} [IsPreorder (World β) R]
    {result : Except Failure α} {next : α → Run β γ}
    (hn : ∀ a, result = .ok a → Moves R (next a)) : Moves R (Run.ofExcept result >>= next) := by
  cases result with
  | ok a => exact hn a rfl
  | error failure => exact Moves.throw_bind failure next

end Moves

/-- Whenever a program starts where a condition holds, the condition holds where it ends, also when
it fails, and its result is as described. -/
def Ensures (condition : σ → Prop) (run : EStateM ε σ α) (result : α → Prop) : Prop :=
  ∀ s, condition s → condition (after run s) ∧ ∀ a t, run s = .ok a t → result a

namespace Ensures

variable {P : σ → Prop} {Q : α → Prop} {R : γ → Prop}

theorem of_eq_ok {run : EStateM ε σ α} (h : Ensures P run Q) {s t : σ} {a : α} (hs : P s)
    (hr : run s = .ok a t) : P t ∧ Q a := by
  obtain ⟨ended, given⟩ := h s hs
  exact ⟨after_of_ok hr ▸ ended, given a t hr⟩

theorem of_moves {run : EStateM ε σ α} (h : Moves (fun s t => P s → P t) run) :
    Ensures P run fun _ => True :=
  fun s hs => ⟨h s hs, fun _ _ _ => trivial⟩

theorem pure {a : α} (h : Q a) : Ensures P (pure a : EStateM ε σ α) Q := by
  refine fun s hs => ⟨hs, fun b t hr => ?_⟩
  cases hr
  exact h

theorem get : Ensures P (MonadState.get : EStateM ε σ σ) P := by
  refine fun s hs => ⟨hs, fun _ _ hr => ?_⟩
  cases hr
  exact hs

theorem modify {change : σ → σ} (h : ∀ s, P s → P (change s)) :
    Ensures P (modify change : EStateM ε σ Unit) fun _ => True :=
  of_moves (Moves.modify h)

theorem throw (e : ε) : Ensures P (throw e : EStateM ε σ α) Q :=
  fun s hs => ⟨hs, fun _ _ hr => by cases hr⟩

theorem bind {run : EStateM ε σ α} {next : α → EStateM ε σ γ} (h : Ensures P run Q)
    (hn : ∀ a, Q a → Ensures P (next a) R) : Ensures P (run >>= next) R := by
  intro s hs
  cases hr : run s with
  | ok a t =>
    obtain ⟨ht, ha⟩ := h.of_eq_ok hs hr
    simpa only [after, bind_of_ok hr] using hn a ha t ht
  | error e t =>
    refine ⟨?_, fun c u hc => ?_⟩
    · simpa only [after, hr, bind_of_error hr] using (h s hs).1
    · rw [bind_of_error hr] at hc
      cases hc

/-- What follows a beginning that ends where the condition holds keeps to the condition. -/
theorem after_bind {run : EStateM ε σ α} {next : α → EStateM ε σ γ} {s : σ}
    (h : P (after run s)) (hn : ∀ a, Ensures P (next a) fun _ => True) :
    P (after (run >>= next) s) := by
  cases hr : run s with
  | ok a t =>
    rw [after_of_ok hr] at h
    rw [after_bind_of_ok hr]
    exact (hn a t h).1
  | error e t =>
    rw [after_of_error hr] at h
    rw [after_bind_of_error hr]
    exact h

theorem ofExcept {β : Type} {P : World β → Prop} {result : Except Failure α}
    (h : ∀ a, result = .ok a → Q a) : Ensures P (Run.ofExcept result : Run β α) Q := by
  cases result with
  | ok a => exact Ensures.pure (h a rfl)
  | error failure => exact Ensures.throw failure

/-- A check ensures nothing but what held before. -/
theorem check {β : Type} {P : World β → Prop} (result : Except Failure α) :
    Ensures P (Run.ofExcept result : Run β α) fun _ => True :=
  ofExcept fun _ _ => trivial

theorem throw_bind (e : ε) (next : α → EStateM ε σ γ) :
    Ensures P ((MonadExcept.throw e : EStateM ε σ α) >>= next) R :=
  (throw e).bind fun _ (never : False) => never.elim

end Ensures
end PageContracts.Runs
