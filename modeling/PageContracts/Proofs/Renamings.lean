import PageContracts.Proofs.Orderly

/-! # Annotations that give a class another name

An annotation is evaluated for its type, and may give a class another name by the way: it then stands
for nothing, and what it leaves behind is a memory in which the class goes by the new name. -/
namespace PageContracts.Language

open Runs

variable {machine : Machine} {memory : Memory} {ref : ClassRef} {label new : String}

namespace Memory

/-- The memory in which a class goes by another name. -/
def rename (memory : Memory) (ref : ClassRef) (new : String) : Memory :=
  let member : Member := .constant (.text new)
  let renamed := ClassBody.renamed ref "__name__" member
  let table := memory.table.update ref fun info => ClassTable.withMember info "__name__" member
  let table := if renamed = ref then table else table.mapClasses (ClassRef.follow renamed)
  Classes.keeping { memory with table } ref.number "__name__" (.text new)

end Memory

namespace Expression

/-- The expression that gives the class of a name another one. -/
def renames (label new : String) : Expression :=
  .call (.name "setattr") [.name label, .constant (.text "__name__"), .constant (.text new)]

/-- Whether an expression is that one. -/
def isRenames (label new : String) : Expression → Bool
  | .call (.name f) [.name owner, .constant (.text part), .constant (.text text)] =>
    f = "setattr" && owner = label && part = "__name__" && text = new
  | _ => false

theorem eq_renames {expression : Expression} (h : expression.isRenames label new = true) :
    expression = renames label new := by
  unfold isRenames at h
  split at h
  · simp only [Bool.and_eq_true, decide_eq_true_eq] at h
    obtain ⟨⟨⟨rfl, rfl⟩, rfl⟩, rfl⟩ := h
    rfl
  · cases h

end Expression

theorem Classes.setMember_name (clean : new.contains (Char.ofNat 0) = false) :
    Classes.setMember ref "__name__" (.text new) memory = .ok () (memory.rename ref new) := by
  have settable : ClassBody.requireSettable "__name__" (.constant (.text new)) = .ok () := by
    simp [ClassBody.requireSettable, ClassBody.fixedNames, clean]
  have found : Classes.memberOf (.text new) = .constant (.text new) := rfl
  rw [Classes.setMember, found, settable]
  rfl

theorem Calls.call_setattr (clean : new.contains (Char.ofNat 0) = false) :
    Calls.call machine (.function "setattr") [.type (.defined ref), .text "__name__", .text new] []
      memory = .ok .nothing (memory.rename (memory.table.current ref) new) := by
  have calling : Calls.call machine (.function "setattr")
      [.type (.defined ref), .text "__name__", .text new] [] memory =
        (Classes.setMember (memory.table.current ref) "__name__" (.text new) >>= fun _ =>
          pure Meaning.nothing) memory := rfl
  rw [calling, bind_of_ok (Classes.setMember_name clean)]
  rfl

/-- Giving a class another name by an expression stands for nothing. -/
theorem Expression.evaluate_renames (clean : new.contains (Char.ofNat 0) = false)
    (known : Names.resolve memory none "setattr" = .ok (.function "setattr"))
    (named : Names.resolve memory none label = .ok (.type (.defined ref))) :
    (renames label new).evaluate memory =
      .ok .nothing (memory.rename (memory.table.current ref) new) := by
  have f (fuel : Nat) : (Language.machine (fuel + 1)).evaluate none (.name "setattr") memory =
      .ok (.function "setattr") memory := by
    change ((monadLift (Names.resolve memory none "setattr") : Eval Meaning) >>= Eval.owned)
      memory = _
    rw [known]
    rfl
  have class' (fuel : Nat) : (Language.machine (fuel + 1)).evaluate none (.name label) memory =
      .ok (.type (.defined ref)) memory := by
    change ((monadLift (Names.resolve memory none label) : Eval Meaning) >>= Eval.owned) memory = _
    rw [named]
    rfl
  have given (fuel : Nat) : Evaluation.arguments (Language.machine (fuel + 1)) none
      [.name label, .constant (.text "__name__"), .constant (.text new)] [] [] memory =
        .ok ([.type (.defined ref), .text "__name__", .text new], []) memory :=
    (bind_of_ok (class' fuel) _).trans rfl
  have calling (fuel : Nat) : (Language.machine (fuel + 1)).call (.function "setattr")
      [.type (.defined ref), .text "__name__", .text new] [] memory =
        .ok .nothing (memory.rename (memory.table.current ref) new) :=
    (bind_of_ok (Calls.call_setattr clean) _).trans rfl
  have called (fuel : Nat) : Evaluation.callWith (Language.machine (fuel + 1)) none
      (.name "setattr") [.name label, .constant (.text "__name__"), .constant (.text new)] memory =
        .ok .nothing (memory.rename (memory.table.current ref) new) := by
    rw [Evaluation.callWith, bind_of_ok (f fuel), bind_of_ok (given fuel)]
    exact calling fuel
  have evaluated (fuel : Nat) : (Language.machine (fuel + 2)).evaluate none (renames label new)
      memory = .ok .nothing (memory.rename (memory.table.current ref) new) :=
    (bind_of_ok (called fuel) _).trans rfl
  -- The call takes one level and each of its parts another; the others stay unopened.
  obtain ⟨fuel, deep⟩ : ∃ fuel, depthLimit = fuel + 2 := ⟨9998, rfl⟩
  rw [Expression.evaluate, deep]
  exact (bind_of_ok (evaluated fuel) _).trans rfl

end PageContracts.Language

namespace PageContracts

open Language Runs

variable {memory : Memory} {contract ref : ClassRef} {label new text : String} {f : DeclaredFunction}

/-- An annotation that is such an expression is the type of nothing. -/
theorem TypeText.resolve_renames
    (spelled : (Meaning.expressionOf text).toOption.any (Expression.isRenames label new) = true)
    (clean : new.contains (Char.ofNat 0) = false)
    (known : Names.resolve memory none "setattr" = .ok (.function "setattr"))
    (named : Names.resolve memory none label = .ok (.type (.defined ref))) :
    TypeText.resolve text memory =
      .ok .nothing (memory.rename (memory.table.current ref) new) := by
  have read : Meaning.asType (.text text) = .ok (.later text (.renames label new)) := by
    have reading : Meaning.asType (.text text) =
        (Meaning.expressionOf text).map (.later text) := rfl
    rw [reading]
    cases found : Meaning.expressionOf text with
    | error failure =>
      rw [found] at spelled
      cases spelled
    | ok expression =>
      rw [found] at spelled
      obtain rfl : expression = .renames label new := Expression.eq_renames spelled
      rfl
  have settled (fuel : Nat) : TypeText.settle (fuel + 2) [] (.later text (.renames label new))
      memory = .ok Meaning.nothingType (memory.rename (memory.table.current ref) new) :=
    (bind_of_ok (Expression.evaluate_renames clean known named) _).trans rfl
  obtain ⟨fuel, deep⟩ : ∃ fuel, TypeText.depthLimit = fuel + 2 := ⟨898, rfl⟩
  rw [TypeText.resolve, read, deep]
  exact (bind_of_ok (settled fuel) _).trans rfl

/-- The types of a function without other annotations, once its class has another name. -/
theorem Operation.typesOf_renames (label new : String)
    (bare : ∀ parameter ∈ f.parameters, parameter.typeText = none) (returns : f.returns = some text)
    (spelled : (Meaning.expressionOf text).toOption.any (Expression.isRenames label new) = true)
    (clean : new.contains (Char.ofNat 0) = false)
    (known : Names.resolve (TypeText.inside contract memory) none "setattr" =
      .ok (.function "setattr"))
    (named : Names.resolve (TypeText.inside contract memory) none label =
      .ok (.type (.defined ref))) :
    typesOf contract f memory = .ok (f.parameters.map fun _ => .anything, some .nothing)
      ((TypeText.inside contract memory).rename (memory.table.current ref) new) := by
  have declared : declaredReturn f (TypeText.inside contract memory) = .ok (some .nothing)
      ((TypeText.inside contract memory).rename (memory.table.current ref) new) := by
    rw [declaredReturn, returns]
    exact (bind_of_ok (TypeText.resolve_renames spelled clean known named) _).trans rfl
  rw [typesOf, annotatedTypes, bind_of_ok (mapM_parameterType bare _), bind_of_ok declared]
  rfl

end PageContracts
