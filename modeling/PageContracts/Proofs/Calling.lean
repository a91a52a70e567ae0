import PageContracts.Contract.Calling
import PageContracts.Proofs.Runs

/-! # What calling a value gives

Functions of the author give nothing and classes make instances, so that no call of a value gives an
object that a factory has made. -/
namespace PageContracts

namespace ClassTable

/-- Whatever comes of it is no object. -/
def Objectless (result : Except Failure Value) : Prop :=
  ∀ ref, result ≠ .ok (.object ref)

namespace Objectless

theorem error (failure : Failure) : Objectless (.error failure) :=
  fun _ => nofun

theorem bind {α : Type} {result : Except Failure α} {next : α → Except Failure Value}
    (h : ∀ a, result = .ok a → Objectless (next a)) : Objectless (result >>= next) := by
  cases result with
  | error failure => exact error failure
  | ok a => exact h a rfl

theorem map {α : Type} (result : Except Failure α) {form : α → Value}
    (h : ∀ a, Objectless (.ok (form a))) : Objectless (result.map form) := by
  cases result with
  | error failure => exact error failure
  | ok a => exact h a

end Objectless

theorem callFunction_objectless (f : DeclaredFunction) (positions : List Value)
    (named : List (String × Value)) : Objectless (callFunction f positions named) :=
  Objectless.map _ fun _ _ => nofun

theorem instantiate_objectless (table : ClassTable) (ref : ClassRef) (positions : List Value)
    (named : List (String × Value)) : Objectless (table.instantiate ref positions named) := by
  unfold instantiate
  dsimp only
  split
  · exact Objectless.map _ fun _ _ => nofun
  · exact Objectless.bind fun _ _ => Objectless.bind fun _ _ => fun _ => nofun

theorem mapOf_objectless (entries known : List (Value × Value)) :
    Objectless (Value.mapOf entries known) := by
  induction entries generalizing known with
  | nil => exact fun _ => nofun
  | cons entry rest ih =>
    unfold Value.mapOf
    split
    · exact ih _
    · exact Objectless.error _

theorem filledCore_objectless (name : String) (fills : Bool) (positions : List Value)
    (named : List (String × Value)) :
    Objectless (do return (← filledCore name fills positions named).getD .none) := by
  unfold filledCore
  split
  · split
    · exact fun _ => nofun
    · exact fun _ => nofun
    · cases itemsOf _ <;> exact fun _ => nofun
    · exact Objectless.error _
  · split
    · exact fun _ => nofun
    · exact fun _ => nofun
    · simp only [bind_assoc, pure_bind]
      refine Objectless.bind fun entries _ => Objectless.bind fun value made ref held => ?_
      cases held
      exact mapOf_objectless _ _ ref made
    · exact Objectless.error _

theorem makeBuiltin_objectless (name : String) (positions : List Value)
    (named : List (String × Value)) : Objectless (makeBuiltin name positions named) := by
  unfold makeBuiltin
  split
  · exact Objectless.bind fun _ _ _ => nofun
  · exact Objectless.bind fun _ _ _ => nofun
  · exact Objectless.bind fun _ _ _ => nofun
  · exact filledCore_objectless _ _ _ _
  · exact filledCore_objectless _ _ _ _
  · split
    · split <;> exact fun _ => nofun
    · split
      · exact fun _ => nofun
      · exact Objectless.bind fun _ _ _ => nofun
    · exact Objectless.error _
  · split
    · split <;> exact fun _ => nofun
    · split
      · exact fun _ => nofun
      · exact Objectless.bind fun _ _ _ => nofun
    · exact Objectless.error _
  · split
    · exact fun _ => nofun
    · exact Objectless.error _
  · exact Objectless.error _

theorem callValue_objectless (table : ClassTable) (called : Value) (positions : List Value)
    (named : List (String × Value)) : Objectless (table.callValue called positions named) := by
  have calling (ofClass : ClassRef) :
      Objectless (callValue.callInstance table called positions named ofClass) := by
    unfold callValue.callInstance
    split
    · exact callFunction_objectless _ _ _
    · exact Objectless.error _
  unfold callValue
  split
  · exact instantiate_objectless _ _ _ _
  · exact makeBuiltin_objectless _ _ _
  · exact calling _
  · exact calling _
  · exact Objectless.error _

theorem callOn_objectless (table : ClassTable) (found : Member) (owner : Value)
    (positions : List Value) (named : List (String × Value)) :
    Objectless (table.callOn found owner positions named) := by
  unfold callOn
  split
  · exact callFunction_objectless _ _ _
  · exact callFunction_objectless _ _ _
  · exact callFunction_objectless _ _ _
  · exact Objectless.error _
  · exact Objectless.bind fun _ _ => callValue_objectless _ _ _ _

/-- Calling a member of a value makes no object. -/
theorem callMember_objectless (table : ClassTable) (owner : Value) (name : String)
    (positions : List Value) (named : List (String × Value)) :
    Objectless (table.callMember owner name positions named) := by
  unfold callMember
  split
  · split
    · exact callValue_objectless _ _ _ _
    · exact callOn_objectless _ _ _ _ _
    · exact Objectless.error _
  · split
    · exact callFunction_objectless _ _ _
    · exact callOn_objectless _ _ _ _ _
    · exact Objectless.error _
  · exact Objectless.error _

end ClassTable
end PageContracts
