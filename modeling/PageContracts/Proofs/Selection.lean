import PageContracts.Objects.Compilation
import PageContracts.Proofs.Runs

/-! # Selection of rules

A registry implements an operation with a rule exactly when that is the only one among its places
that accepts the operation. -/
namespace PageContracts

open Runs

variable {β : Type} {table : ClassTable} {operation : Operation}

namespace Registry

theorem tryRule_accepted (trial : Trial) (rule : Rule) :
    (tryRule table operation trial rule).accepted =
      trial.accepted ++ [rule].filter (·.accepts table operation) := by
  unfold tryRule Rule.accepts
  by_cases shape : rule.matchesShape table operation = true
  · cases arguments : rule.checkArguments operation <;> simp [shape, arguments]
  · simp [shape]

theorem foldl_tryRule_accepted (rules : List Rule) (trial : Trial) :
    (rules.foldl (tryRule table operation) trial).accepted =
      trial.accepted ++ rules.filter (·.accepts table operation) := by
  induction rules generalizing trial with
  | nil => simp
  | cons rule rest ih =>
    rw [List.foldl_cons, ih, tryRule_accepted, List.append_assoc, ← List.filter_append]
    rfl

theorem tryAll_accepted (registry : Registry) :
    (registry.tryAll table operation).accepted =
      registry.rules.filter (·.accepts table operation) := by
  simpa [tryAll] using foldl_tryRule_accepted registry.rules {}

theorem select_eq_ok_iff (registry : Registry) (rule : Rule) :
    registry.select table operation = .ok rule ↔
      registry.rules.filter (·.accepts table operation) = [rule] := by
  rw [← tryAll_accepted]
  unfold select
  generalize registry.tryAll table operation = trial
  rcases h : trial.accepted with _ | ⟨first, _ | ⟨second, rest⟩⟩
  · cases complained : trial.complaint <;> simp [h, complained]
  · simp [h]
  · simp [h]

theorem accepts_of_select {registry : Registry} {rule : Rule}
    (h : registry.select table operation = .ok rule) :
    rule ∈ registry.rules ∧ rule.accepts table operation = true := by
  have only : rule ∈ registry.rules.filter (·.accepts table operation) := by
    rw [(select_eq_ok_iff registry rule).mp h]
    exact List.mem_singleton_self rule
  simpa using only

end Registry

namespace Rule

theorem named_of_accepts {rule : Rule} (h : rule.accepts table operation = true) :
    namedAfter rule.verb.toList operation.name.toList = true := by
  simp only [accepts, matchesShape, suits, Bool.and_eq_true] at h
  exact h.1.1.1

theorem located_of_accepts {rule : Rule} (h : rule.accepts table operation = true)
    (needed : rule.needsLocator = true) : ∃ locator, operation.locator = some locator := by
  simp only [accepts, matchesShape, suits, needed, Bool.and_eq_true, Bool.not_true,
    Bool.or_false] at h
  exact Option.isSome_iff_exists.mp h.1.1.2

theorem standard_of_accepts {rule : Rule} (h : rule.accepts table operation = true)
    (acts : rule = .click ∨ rule = .setModel ∨ rule = .setInput) :
    operation.returnsStandard = true := by
  simp only [accepts, matchesShape, Bool.and_eq_true] at h
  rcases acts with rfl | rfl | rfl <;> simp_all

theorem head_of_namedAfter {c : Char} {verb name : List Char}
    (h : namedAfter (c :: verb) name = true) : name.head? = some c := by
  cases name with
  | nil => simp [namedAfter] at h
  | cons d rest =>
    simp only [namedAfter, List.isPrefixOf, Bool.and_eq_true, beq_iff_eq] at h
    simp [h.1.1]

theorem not_namedAfter {c d : Char} (differ : c ≠ d) {verb other name : List Char}
    (h : namedAfter (c :: verb) name = true) : namedAfter (d :: other) name = false := by
  cases named : namedAfter (d :: other) name with
  | false => rfl
  | true =>
    have same : some c = some d := (head_of_namedAfter h).symm.trans (head_of_namedAfter named)
    exact absurd (Option.some.inj same) differ

theorem valueOf_text (table : ClassTable) : table.valueOf .text modelMember = .ok .none := by
  have plain : ∀ type ∈ table.ancestry .text, table.ownMembers type = [] := by
    intro type listed
    obtain ⟨name, -, rfl⟩ := List.mem_map.mp listed
    rfl
  have bare : table.member? .text modelMember = none := by
    refine List.findSome?_eq_none_iff.mpr fun type listed => ?_
    rw [plain type listed]
    rfl
  rw [ClassTable.valueOf, bare]
  rfl

theorem isModel_text (table : ClassTable) : table.isModel .text = false := by
  rw [ClassTable.isModel, valueOf_text]

theorem parameters_of_setInput (h : setInput.accepts table operation = true) :
    operation.parameterTypes.head? = some .text := by
  simp only [accepts, matchesShape, Bool.and_eq_true, decide_eq_true_eq] at h
  exact h.1.2.2

theorem parameters_of_setModel (h : setModel.accepts table operation = true) :
    ∃ type, operation.parameterTypes = [type] ∧ table.isModel type = true := by
  simp only [accepts, matchesShape, Bool.and_eq_true] at h
  obtain ⟨⟨-, -, h⟩, -⟩ := h
  split at h
  · next type listed => exact ⟨type, listed, h⟩
  · cases h

end Rule

namespace Compilation

/-- Compiling an operation is selecting a rule that knows the fields it needs, and nothing but a log
record comes of it beside the plan. -/
theorem compileOperation_eq_ok {registry : Registry} {plan : CallPlan} {world later : World β}
    (h : compileOperation registry operation world = .ok plan later) :
    ∃ rule, registry.select world.classes operation = .ok rule ∧
      rule.requireFields world.classes operation = .ok () ∧
      plan = rule.plan world.classes operation ∧
      Run.log .debug (operationMessage rule plan) world = .ok () later := by
  replace h := get_bind_eq_ok.mp h
  obtain ⟨_, _, marks, h⟩ := bind_eq_ok.mp h
  obtain ⟨-, rfl⟩ := forM_ofExcept_eq_ok marks
  obtain ⟨rule, selected, h⟩ := ofExcept_bind_eq_ok.mp h
  obtain ⟨_, fields, h⟩ := ofExcept_bind_eq_ok.mp h
  obtain ⟨_, _, logged, h⟩ := bind_eq_ok.mp h
  cases h
  exact ⟨rule, selected, fields, rfl, logged⟩

end Compilation
end PageContracts
