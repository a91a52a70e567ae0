import PageContracts.Objects.Running
import PageContracts.Proofs.Twins

/-! # What twins do alike

Contracts are compiled, objects are made and messages are logged without regard to what the browser
knows and to what has been typed. Only a page that tells its address asks the browser for it. -/
namespace PageContracts

open Runs
open World (Twins)

variable {β α : Type} {alike : β → β → Prop}

namespace World

variable (world : World β) (browser : β) (events : List Event)

theorem current_elsewhere (fuel : Nat) (ref : ObjectRef) :
    current { world with browser, events } fuel ref = current world fuel ref := by
  induction fuel generalizing ref with
  | zero => rfl
  | succ fuel ih =>
    have same : current { world with browser, events } fuel = current world fuel := funext ih
    simp only [current, same]

theorem refresh_elsewhere :
    refresh { world with browser, events } = refresh world :=
  funext fun value => congrArg value.mapObjects (funext (current_elsewhere world browser events _))

theorem refreshed_elsewhere :
    refreshed { world with browser, events } = refreshed world :=
  funext fun object => congrArg object.mapValues (refresh_elsewhere world browser events)

theorem sessionBehind_elsewhere (fuel : Nat) (object : LiveObject) :
    sessionBehind { world with browser, events } fuel object = sessionBehind world fuel object := by
  induction fuel generalizing object with
  | zero => rfl
  | succ fuel ih => simp only [sessionBehind, ih]

theorem afterReading_elsewhere (memory : Language.Memory) :
    afterReading { world with browser, events } memory =
        { world.afterReading memory with browser, events } ∧
      (world.afterReading memory).browser = world.browser ∧
      (world.afterReading memory).events = world.events := by
  unfold afterReading
  dsimp only
  split <;> exact ⟨rfl, rfl, rfl⟩

end World

namespace World.Twins

theorem afterReading {one other : World β} (h : Twins alike one other) (memory : Language.Memory) :
    Twins alike (one.afterReading memory) (other.afterReading memory) := by
  obtain ⟨apart, sameBrowser, sameEvents⟩ := one.afterReading_elsewhere other.browser other.events memory
  rw [← h.inside] at apart
  refine ⟨?_, ?_, ?_⟩
  · rw [apart, sameBrowser]
    exact h.browser
  · rw [apart, sameEvents]
    exact h.events
  · rw [apart]

theorem reading (run : Language.Eval α) :
    Unaware alike (Run.reading run : Run β α) := by
  intro one other twins
  have same : other.memory = one.memory := by
    rw [twins.inside]
    rfl
  unfold Run.reading
  rw [same]
  cases run one.memory with
  | ok result memory => exact .ok result (twins.afterReading memory)
  | error failure memory => exact .error failure (twins.afterReading memory)

end World.Twins

open World.Twins (get_bind)

namespace Compilation

theorem compileOperation_unaware (registry : Registry) (operation : Operation) :
    Unaware alike (compileOperation registry operation : Run β CallPlan) := by
  refine get_bind fun world browser events => Alike.bind ?_ fun _ => ?_
  · induction registry.rules with
    | nil => exact Alike.pure _
    | cons rule rest ih => exact (Twins.ofExcept _).bind fun _ => ih
  · refine (Twins.ofExcept _).bind fun rule => (Twins.ofExcept _).bind fun _ => ?_
    exact (Twins.log _ _).bind fun _ => Alike.pure _

theorem compileOperations_unaware (operations : List Operation) (plans : List (String × CallPlan)) :
    Unaware alike (compileOperations {} operations plans : Run β _) := by
  induction operations generalizing plans with
  | nil => exact Alike.pure _
  | cons operation rest ih => exact (compileOperation_unaware _ operation).bind fun plan => ih _

theorem compileAfresh_unaware (contract : ClassRef) :
    Unaware alike (compileAfresh contract : Run β CompiledContract) := by
  refine (Twins.reading _).bind fun operations => get_bind fun world browser events => ?_
  dsimp only
  split
  · exact Alike.throw_bind _ _ _
  · refine (compileOperations_unaware operations []).bind fun plans => (Twins.ofExcept _).bind fun _ => ?_
    refine (Twins.log _ _).bind fun _ => get_bind fun _ _ _ => Alike.pure _

theorem compile_unaware (type : TypeRef) :
    Unaware alike (compile type : Run β CompiledContract) := by
  cases type with
  | defined contract =>
    refine get_bind fun world browser events => ?_
    have same : cached? { world with browser, events } contract = cached? world contract := rfl
    rw [same]
    cases cached? world contract with
    | some compiled => exact Alike.pure _
    | none =>
      refine (compileAfresh_unaware contract).bind fun compiled => ?_
      refine Alike.bind (Twins.modify fun _ _ _ => ?_) fun _ => Alike.pure _
      exact ⟨rfl, rfl, rfl⟩
  | _ => exact Alike.throw _

theorem implement_unaware (type : TypeRef) (base : BaseClass) :
    Unaware alike (implement type base : Run β Implementation) := by
  refine get_bind fun world browser events => ?_
  have same : implemented? { world with browser, events } type base = implemented? world type base :=
    rfl
  rw [same]
  cases implemented? world type base with
  | some implementation => exact Alike.pure _
  | none =>
    refine (compile_unaware type).bind fun compiled => get_bind fun world browser events => ?_
    dsimp only
    split
    · exact Alike.throw_bind _ _ _
    · refine (Twins.ofExcept _).bind fun methods => (Twins.ofExcept _).bind fun _ => ?_
      refine get_bind fun _ _ _ => ?_
      refine Alike.bind (Twins.modify fun _ _ _ => ?_) fun _ => Alike.pure _
      exact ⟨rfl, rfl, rfl⟩

end Compilation

namespace LiveObject

theorem orInstead_alike (object : LiveObject) (name : String) (arguments : List Value)
    (form : Value → α) {run other : Run β α} (h : Alike (Twins alike) run other) :
    Alike (Twins alike) (object.orInstead name arguments form run)
      (object.orInstead name arguments form other) := by
  unfold orInstead
  split
  · exact h
  · exact get_bind fun _ _ _ => (Twins.ofExcept _).bind fun _ => Alike.pure _

theorem log_unaware (object : LiveObject) {message : Run β String}
    (h : Unaware alike message) :
    Unaware alike (object.log message) := by
  refine get_bind fun world browser events => (Twins.ofExcept _).bind fun held => ?_
  cases held with
  | inl panel => exact h.bind fun _ => Twins.logAbout _ _
  | inr value =>
    refine (Twins.ofExcept _).bind fun _ => h.bind fun _ => ?_
    exact (Twins.ofExcept _).bind fun _ => Alike.pure _

theorem logAction_unaware (object : LiveObject) (action : Value) (target : Target) :
    Unaware alike (object.logAction action target : Run β Unit) := by
  refine object.orInstead_alike _ _ _ (get_bind fun world browser events => ?_)
  refine object.log_unaware ((Twins.ofExcept _).bind fun name => (Twins.ofExcept _).bind fun _ => ?_)
  exact (Twins.ofExcept _).bind fun _ => Alike.pure _

theorem askSession_unaware (object : LiveObject) (name : String) {ask : Session → Run β Value}
    (h : ∀ session, Unaware alike (ask session)) :
    Unaware alike (object.askSession name ask) := by
  refine get_bind fun world browser events => ?_
  cases object.attributes.lookup name with
  | some value => exact Twins.ofExcept _
  | none =>
    rw [world.sessionBehind_elsewhere browser events]
    refine (Twins.ofExcept _).bind fun held => ?_
    cases held with
    | inl session => exact h session
    | inr value => exact Twins.ofExcept _

variable [Remote β]

theorem announce_unaware (answers : Remote.AnswersAlike alike) (object : LiveObject) :
    Unaware alike (object.announce : Run β Unit) := by
  refine get_bind fun world browser events => Alike.bind ?_ fun _ => ?_
  · exact object.log_unaware ((Twins.ofExcept _).bind fun _ => Alike.pure _)
  · refine (Twins.ofExcept _).bind fun isPage => ?_
    split
    · refine object.log_unaware (Alike.bind ?_ fun url => (Twins.ofExcept _).bind fun _ => Alike.pure _)
      exact object.askSession_unaware _ fun session => Twins.ask answers trivial
    · exact Alike.pure _

theorem equip_unaware (answers : Remote.AnswersAlike alike) (object : LiveObject)
    (given : Equipment) :
    Unaware alike (object.equip given : Run β LiveObject) := by
  refine get_bind fun world browser events => ?_
  dsimp only
  split
  · refine get_bind fun world browser events => ?_
    rw [world.refreshed_elsewhere browser events]
    exact (announce_unaware answers _).bind fun _ => Alike.pure _
  · exact Alike.throw _

end LiveObject

namespace Factory

variable [Remote β]

theorem createIn_unaware (answers : Remote.AnswersAlike alike) (factory : Factory)
    (contract : TypeRef) (outer : Nesting ⊕ Value) :
    Unaware alike (factory.createIn contract outer : Run β Nat) := by
  refine (Compilation.implement_unaware _ _).bind fun implementation => ?_
  refine get_bind fun _ _ _ => (Twins.ofExcept _).bind fun nesting => ?_
  refine get_bind fun _ _ _ => (Twins.ofExcept _).bind fun _ => get_bind fun world browser events => ?_
  refine (LiveObject.equip_unaware answers _ _).bind fun made => get_bind fun _ _ _ => ?_
  refine Alike.bind (Twins.modify fun _ _ _ => ?_) fun _ => Alike.pure _
  exact ⟨rfl, rfl, rfl⟩

theorem createOffered_unaware (answers : Remote.AnswersAlike alike) (factory : Factory)
    (offered : Value) (outer : Nesting ⊕ Value) :
    Unaware alike (factory.createOffered offered outer : Run β Nat) := by
  unfold createOffered
  split
  · exact createIn_unaware answers _ _ _
  · split
    · exact (Twins.ofExcept _).bind fun _ => Alike.throw _
    · exact Alike.throw _

end Factory

namespace LiveObject

variable [Remote β]

theorem createThrough_unaware (answers : Remote.AnswersAlike alike) (object : LiveObject)
    (contract : Value) (inside : Bool) :
    Unaware alike (object.createThrough contract inside : Run β Outcome) := by
  refine get_bind fun world browser events => (Twins.ofExcept _).bind fun held => ?_
  cases held with
  | inl factory =>
    have created (outer : Nesting ⊕ Value) :
        Unaware alike (do return Outcome.object (← factory.createOffered contract outer)) :=
      (factory.createOffered_unaware answers _ _).bind fun _ => Alike.pure _
    cases inside with
    | false => exact (Alike.pure _).bind created
    | true => exact (Twins.ofExcept _).bind created
  | inr value =>
    have called (outer : List Value) :
        Unaware alike (do return Outcome.ofValue (← Run.ofExcept
          (world.classes.callMember value "create" (contract :: outer) []))) :=
      (Twins.ofExcept _).bind fun _ => Alike.pure _
    refine (Twins.ofExcept _).bind fun _ => ?_
    cases inside with
    | false => exact (Alike.pure _).bind called
    | true =>
      refine (Twins.ofExcept _).bind fun held => ?_
      cases held <;> exact (Alike.pure _).bind called

theorem finish_unaware (answers : Remote.AnswersAlike alike) (object : LiveObject) (number : Nat)
    (plan : CallPlan) (result : Value) :
    Unaware alike (object.finish number plan result : Run β Outcome) := by
  unfold finish
  cases plan.ending with
  | none => exact Alike.pure _
  | some kind =>
    refine object.orInstead_alike _ _ _ ?_
    cases kind with
    | void => exact Alike.pure _
    | self => exact Alike.pure _
    | panel => exact object.orInstead_alike _ _ _ (object.createThrough_unaware answers _ true)
    | page => exact object.orInstead_alike _ _ _ (object.createThrough_unaware answers _ false)

end LiveObject
end PageContracts
