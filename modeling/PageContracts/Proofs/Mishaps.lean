import PageContracts.Objects.Creation
import PageContracts.Proofs.Runs

/-! # What can go wrong with objects

Making an object of a contract that has been compiled, and letting it log and look at its tab, fails
by mishaps at worst: nothing in it says that a contract could not be compiled. -/
namespace PageContracts

open Runs

variable {β σ α γ : Type}

namespace Runs

/-- A program that can only fail by a mishap. -/
def FailsByMishap (run : EStateM Failure σ α) : Prop :=
  ∀ s failure t, run s = .error failure t → failure.kind.isSynthesis = false

namespace FailsByMishap

theorem pure (a : α) : FailsByMishap (pure a : EStateM Failure σ α) :=
  fun _ _ _ failed => nomatch failed

theorem throw {failure : Failure} (apart : failure.kind.isSynthesis = false) :
    FailsByMishap (throw failure : EStateM Failure σ α) := by
  intro s other t failed
  cases failed
  exact apart

theorem modify (change : σ → σ) : FailsByMishap (modify change : EStateM Failure σ Unit) :=
  fun _ _ _ failed => nomatch failed

theorem bind {run : EStateM Failure σ α} {next : α → EStateM Failure σ γ}
    (h : FailsByMishap run) (hn : ∀ a, FailsByMishap (next a)) :
    FailsByMishap (run >>= next) := by
  intro s failure u failed
  rw [bind_apply] at failed
  cases ran : run s with
  | ok a t =>
    rw [ran] at failed
    exact hn a t failure u failed
  | error other t =>
    rw [ran] at failed
    cases failed
    exact h _ _ _ ran

theorem throw_bind {failure : Failure} (apart : failure.kind.isSynthesis = false)
    (next : α → EStateM Failure σ γ) :
    FailsByMishap ((MonadExcept.throw failure : EStateM Failure σ α) >>= next) :=
  (throw apart : FailsByMishap (MonadExcept.throw failure : EStateM Failure σ γ))

/-- If what follows can only fail by a mishap, any other failure is that of the beginning. -/
theorem eq_error_of_bind {run : EStateM Failure σ α} {next : α → EStateM Failure σ γ} {s t : σ}
    {failure : Failure} (hn : ∀ a, FailsByMishap (next a))
    (failed : (run >>= next) s = .error failure t) (synthesis : failure.kind.isSynthesis = true) :
    run s = .error failure t := by
  rw [bind_apply] at failed
  cases ran : run s with
  | ok a u =>
    rw [ran] at failed
    rw [hn a u failure t failed] at synthesis
    cases synthesis
  | error other u =>
    rw [ran] at failed
    cases failed
    rfl

/-- If the beginning can only fail by a mishap, any other failure is that of what follows. -/
theorem exists_ok_of_bind {run : EStateM Failure σ α} {next : α → EStateM Failure σ γ} {s t : σ}
    {failure : Failure} (h : FailsByMishap run) (failed : (run >>= next) s = .error failure t)
    (synthesis : failure.kind.isSynthesis = true) :
    ∃ a u, run s = .ok a u ∧ next a u = .error failure t := by
  rw [bind_apply] at failed
  cases ran : run s with
  | ok a u =>
    rw [ran] at failed
    exact ⟨a, u, rfl, failed⟩
  | error other u =>
    rw [ran] at failed
    cases failed
    rw [h s failure t ran] at synthesis
    cases synthesis

theorem get_bind {next : σ → EStateM Failure σ γ} (hn : ∀ s, FailsByMishap (next s)) :
    FailsByMishap (get >>= next) :=
  fun s => hn s s

theorem tryCatch {run : EStateM Failure σ α} {handle : Failure → EStateM Failure σ α}
    (h : FailsByMishap run)
    (hh : ∀ failure, failure.kind.isSynthesis = false → FailsByMishap (handle failure)) :
    FailsByMishap (tryCatch run handle) := by
  intro s failure u failed
  rw [tryCatch_apply] at failed
  cases ran : run s with
  | ok a t =>
    rw [ran] at failed
    cases failed
  | error other t =>
    rw [ran] at failed
    exact hh other (h _ _ _ ran) _ _ _ failed

theorem ofExcept {result : Except Failure α} (h : OnlyMishaps result) :
    FailsByMishap (Run.ofExcept result : Run β α) := by
  cases result with
  | ok a => exact pure a
  | error failure => exact throw (h failure rfl)

theorem ofExcept_ok_of_bind {result : Except Failure α} {next : α → Run β γ} {world later : World β}
    {failure : Failure} (h : OnlyMishaps result)
    (failed : (Run.ofExcept result >>= next) world = .error failure later)
    (synthesis : failure.kind.isSynthesis = true) :
    ∃ a, result = .ok a ∧ next a world = .error failure later := by
  obtain ⟨a, middle, had, failed⟩ := (ofExcept h).exists_ok_of_bind failed synthesis
  obtain ⟨given, rfl⟩ := ofExcept_eq_ok.mp had
  exact ⟨a, given, failed⟩

theorem note (event : Event) : FailsByMishap (Run.note event : Run β Unit) := modify _

theorem log (level : LogLevel) (message : String) :
    FailsByMishap (Run.log level message : Run β Unit) := modify _

theorem logAbout (panel : Value) (message : String) :
    FailsByMishap (Run.logAbout panel message : Run β Unit) := modify _

theorem ask [Remote β] (command : Command) :
    FailsByMishap (Run.ask command : Run β command.Answer) := by
  intro world failure later failed
  unfold Run.ask at failed
  rcases answered : Remote.answer world.browser command with ⟨answer | message, browser⟩ <;>
    rw [answered] at failed <;> cases failed
  rfl

end FailsByMishap
end Runs

namespace Compilation

variable (table : ClassTable)

theorem signatureOf_onlyMishaps (found : Member) : OnlyMishaps (signatureOf table found) := by
  have classes (type : TypeRef) : OnlyMishaps (classSignature table type) := by
    unfold classSignature
    split
    · exact .ok _
    · split <;> first | exact .ok _ | exact .typeBreach _
  have behind (parameters : List Parameter) :
      OnlyMishaps (signatureOf.behindFirst parameters) := by
    unfold signatureOf.behindFirst
    split
    · exact .valueBreach _
    · split <;> first | exact .ok _ | exact .valueBreach _
  unfold signatureOf
  split
  · exact .ok _
  · exact .ok _
  · split
    · exact .ite (.ok _) (.ite (.ok _) (.ite (.ok _) (.valueBreach _)))
    · exact .ok _
    · exact .ok _
    · exact classes _
  · split
    · exact .ok _
    · exact .ok _
    · exact behind _
    · exact .typeBreach _

theorem methodOf_onlyMishaps (compiled : CompiledContract) (entry : String × CallPlan) :
    OnlyMishaps (methodOf table compiled entry) := by
  unfold methodOf
  split
  · exact .missing _
  · exact (signatureOf_onlyMishaps table _).bind fun _ _ => .ok _

theorem requireDescent_onlyMishaps (found : Option Member) :
    OnlyMishaps (ClassBody.requireDescent found) := by
  unfold ClassBody.requireDescent
  split
  · exact .ok _
  · exact (Binding.enter_onlyMishaps _ _ _).map _
  · exact (Binding.enter_onlyMishaps _ _ _).map _
  · exact (Binding.enter_onlyMishaps _ _ _).map _
  · exact .ok _
  · exact .typeBreach _

end Compilation

theorem World.sessionBehind_onlyMishaps (world : World β) (fuel : Nat) (object : LiveObject) :
    OnlyMishaps (world.sessionBehind fuel object) := by
  induction fuel generalizing object with
  | zero => exact .breach rfl _
  | succ fuel ih =>
    refine (object.heldAt_onlyMishaps _ _ _).bind fun held _ => ?_
    split
    · split
      · exact ih _
      · exact .ok _
    · exact .ok _

namespace LiveObject

variable (table : ClassTable)

theorem assign_failsByMishap (name : String) (change : LiveObject → LiveObject) :
    FailsByMishap (assign table name change) := by
  refine .get_bind fun object => ?_
  have told := table.assigning_onlyMishaps (.defined object.contract) name
  split
  · split
    · exact .modify _
    · exact .pure _
  · next failure fails => exact .throw (told failure fails)

theorem setUp_ofExcept_failsByMishap {result : Except Failure α} (h : OnlyMishaps result) :
    FailsByMishap (setUp.ofExcept result) := by
  cases result with
  | ok a => exact .pure a
  | error failure => exact .throw (h failure rfl)

theorem nameFor_onlyMishaps (object : LiveObject) (given : Value) :
    OnlyMishaps (object.nameFor given) := by
  refine .ite (.ok _) ?_
  split
  · exact .ok _
  · exact .missing _

theorem loggerFor_onlyMishaps (object : LiveObject) (given : Value) :
    OnlyMishaps (object.loggerFor table given) := by
  refine (object.rawName_onlyMishaps table).bind fun name _ => .ite ?_ (.ok _)
  exact (table.callMember_onlyMishaps _ _ _ _).bind fun _ _ => .ok _

theorem setUp_failsByMishap (given : Equipment) : FailsByMishap (setUp table given) := by
  have assigned := assign_failsByMishap table
  refine (assigned _ _).bind fun _ => (assigned _ _).bind fun _ => (assigned _ _).bind fun _ => ?_
  refine .get_bind fun object => ?_
  refine (setUp_ofExcept_failsByMishap (object.nameFor_onlyMishaps _)).bind fun name => ?_
  refine (assigned _ _).bind fun _ => .get_bind fun object => ?_
  refine (setUp_ofExcept_failsByMishap (object.loggerFor_onlyMishaps table _)).bind fun logger => ?_
  exact (assigned _ _).bind fun _ => assigned _ _

theorem isPage_onlyMishaps (object : LiveObject) : OnlyMishaps (object.isPage table) := by
  unfold isPage
  split
  · exact (table.capability_onlyMishaps _).map _
  · exact .ok _

theorem log_failsByMishap (object : LiveObject) {message : Run β String}
    (h : FailsByMishap message) : FailsByMishap (object.log message) := by
  refine .get_bind fun world => ?_
  refine (FailsByMishap.ofExcept (object.heldAt_onlyMishaps _ _ _)).bind fun held => ?_
  cases held with
  | inl panel => exact h.bind fun _ => .logAbout _ _
  | inr value =>
    refine (FailsByMishap.ofExcept (ClassTable.memberOf_onlyMishaps _ _ _)).bind fun _ => ?_
    refine h.bind fun text => ?_
    exact (FailsByMishap.ofExcept (ClassTable.callMember_onlyMishaps _ _ _ _ _)).bind fun _ =>
      .pure _

theorem askSession_failsByMishap (object : LiveObject) (name : String)
    {ask : Session → Run β Value} (h : ∀ session, FailsByMishap (ask session)) :
    FailsByMishap (object.askSession name ask) := by
  refine .get_bind fun world => ?_
  split
  · exact .ofExcept (ClassTable.callValue_onlyMishaps _ _ _ _)
  · refine (FailsByMishap.ofExcept (world.sessionBehind_onlyMishaps _ _)).bind fun held => ?_
    cases held with
    | inl session => exact h session
    | inr value => exact .ofExcept (ClassTable.callMember_onlyMishaps _ _ _ _ _)

variable [Remote β]

theorem announce_failsByMishap (object : LiveObject) :
    FailsByMishap (object.announce : Run β Unit) := by
  refine .get_bind fun world => FailsByMishap.bind ?_ fun _ => ?_
  · refine object.log_failsByMishap ?_
    exact (FailsByMishap.ofExcept (object.shownName_onlyMishaps _)).bind fun _ => .pure _
  · refine (FailsByMishap.ofExcept (isPage_onlyMishaps _ object)).bind fun isPage => ?_
    split
    · refine object.log_failsByMishap (FailsByMishap.bind ?_ fun url => ?_)
      · exact object.askSession_failsByMishap _ fun session => .ask _
      · exact (FailsByMishap.ofExcept url.spoken_onlyMishaps).bind fun _ => .pure _
    · exact .pure _

theorem equip_failsByMishap (object : LiveObject) (given : Equipment) :
    FailsByMishap (object.equip given : Run β LiveObject) := by
  refine .get_bind fun world => ?_
  split
  · exact .get_bind fun _ => (announce_failsByMishap _).bind fun _ => .pure _
  · next failure _ failed => exact .throw (setUp_failsByMishap _ given _ _ _ failed)

end LiveObject

namespace Factory

variable (table : ClassTable) (contract : TypeRef)

theorem ownScope_onlyMishaps : OnlyMishaps (ownScope table contract) :=
  (table.scopeOf_onlyMishaps _).bind fun _ _ => .ok _

theorem placeFor_onlyMishaps (outer : Nesting) : OnlyMishaps (placeFor table contract outer) := by
  refine (table.capability_onlyMishaps _).bind fun capability _ => .ite (.ok _) ?_
  exact (ownScope_onlyMishaps _ _).bind fun _ _ => .ok _

theorem placeIn_onlyMishaps (outer : Nesting ⊕ Value) :
    OnlyMishaps (placeIn table contract outer) := by
  unfold placeIn
  split
  · exact (placeFor_onlyMishaps _ _ _).bind fun _ _ => .ok _
  · exact (placeFor_onlyMishaps _ _ _).bind fun _ _ => .ok _
  · refine (table.capability_onlyMishaps _).bind fun capability _ => .ite (.ok _) ?_
    refine (ownScope_onlyMishaps _ _).bind fun scope _ => ?_
    refine (table.callMember_onlyMishaps _ _ _ _).bind fun value _ => ?_
    split <;> exact .ok _

theorem requireMakeable_onlyMishaps : OnlyMishaps (requireMakeable table contract) := by
  have assigned : OnlyMishaps (givenAttributes.forM fun name =>
      (table.assigning contract name).map fun _ => ()) :=
    .forM (fun name => (table.assigning_onlyMishaps _ _).map _) _
  have read (failure : Failure)
      (told : table.callSpecial? contract "__getattribute__" [.none] [] = some (.error failure)) :
      OnlyMishaps (.error failure : Except Failure Unit) :=
    table.callSpecial_onlyMishaps _ _ _ _ _ told
  unfold requireMakeable
  dsimp only
  split
  · next result made =>
    refine (table.callMaker_onlyMishaps _ _ _ _ made).bind fun _ _ => assigned.bind fun _ _ => ?_
    split
    · next failure told => exact read failure told
    · exact .missing _
    · exact .ok _
  · refine .ite (.typeBreach _) (assigned.bind fun _ _ => ?_)
    split
    · next failure told => exact read failure told
    · exact .missing _
    · exact .ok _

end Factory
end PageContracts
