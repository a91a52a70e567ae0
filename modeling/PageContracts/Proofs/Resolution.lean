import PageContracts.Nesting
import Mathlib.Data.List.Infix
import Mathlib.Data.List.TakeWhile

/-! # Resolution

What a stack of scopes puts in front of a fragment are the templates of the innermost entries that
let fragments of its kind through. It depends on the stack and the kind alone, and entries without a
template of their own make no difference to it. -/
namespace PageContracts

namespace ScopeStack

variable {kind : LocatorKind} {stack : ScopeStack} {entry descriptor : LocatorDescriptor}
  {arguments : List Value}

/-- An entry lets fragments of a kind through: it is a fragment itself, and of that kind unless its
template is empty. -/
def Admits (kind : LocatorKind) (entry : LocatorDescriptor) : Prop :=
  entry.isFragment = true ∧ (entry.template = "" ∨ entry.kind = kind)

/-- The longest row of innermost entries that all let fragments of a kind through. -/
structure Innermost (stack : ScopeStack) (kind : LocatorKind) (inner : List LocatorDescriptor) :
    Prop where
  suffix : inner <:+ stack.entries
  admits : ∀ entry ∈ inner, Admits kind entry
  longest : ∀ other, other <:+ stack.entries → (∀ entry ∈ other, Admits kind entry) →
    other <:+ inner

/-- A fragment without a template. -/
def isBlank (entry : LocatorDescriptor) : Bool :=
  entry.isFragment && entry.template.isEmpty

/-- The entries of a stack that are not blank. -/
def substance (stack : ScopeStack) : List LocatorDescriptor :=
  stack.entries.filter fun entry => !isBlank entry

theorem blocks_eq_false_iff : blocks kind entry = false ↔ Admits kind entry := by
  by_cases fragment : entry.isFragment = true <;> by_cases empty : entry.template = "" <;>
    simp [blocks, Admits, fragment, empty]

theorem admits_of_isBlank (h : isBlank entry = true) : Admits kind entry := by
  simp only [isBlank, Bool.and_eq_true, String.isEmpty_iff] at h
  exact ⟨h.1, .inl h.2⟩

/-- Walking outwards puts the templates of the entries in front, up to the first that blocks. -/
theorem prefixFrom_eq (kind : LocatorKind) (entries : List LocatorDescriptor) (value : String) :
    prefixFrom kind entries value =
      String.join ((entries.takeWhile fun entry => !blocks kind entry).reverse.map
        LocatorDescriptor.template) ++ value := by
  -- Each step puts a template in front of the value, so the value has to vary.
  induction entries generalizing value with
  | nil => simp [prefixFrom]
  | cons entry outer ih =>
    unfold prefixFrom
    by_cases fragment : entry.isFragment = true
    · by_cases empty : entry.template = ""
      · have free : blocks kind entry = false := blocks_eq_false_iff.mpr ⟨fragment, .inl empty⟩
        simp [fragment, empty, free, ih]
      · by_cases same : entry.kind = kind
        · have free : blocks kind entry = false := blocks_eq_false_iff.mpr ⟨fragment, .inr same⟩
          simp [fragment, empty, same, free, ih, String.append_assoc]
        · have stopped : blocks kind entry = true := by simp [blocks, empty, same]
          simp [fragment, empty, same, stopped]
    · have stopped : blocks kind entry = true := by simp [blocks, fragment]
      simp [fragment, stopped]

theorem resolve_eq (stack : ScopeStack) (descriptor : LocatorDescriptor) (arguments : List Value) :
    stack.resolve descriptor arguments =
      (descriptor.format arguments).map fun text =>
        { kind := descriptor.kind
          value :=
            if descriptor.isFragment then stack.scopePrefix descriptor.kind ++ text else text } := by
  have walked (text : String) : prefixFrom descriptor.kind stack.entries.reverse text =
      stack.scopePrefix descriptor.kind ++ text := prefixFrom_eq _ _ _
  unfold resolve
  cases descriptor.format arguments with
  | error failure => rfl
  | ok text =>
    by_cases fragment : descriptor.isFragment = true
    · simp only [fragment, walked, if_true]
      rfl
    · simp only [fragment, Bool.false_eq_true, if_false]
      rfl

theorem innermost_unblocked (stack : ScopeStack) (kind : LocatorKind) :
    stack.Innermost kind (stack.unblocked kind) where
  suffix := by
    have taken := List.takeWhile_prefix (fun entry => !blocks kind entry) (l := stack.entries.reverse)
    simpa [unblocked] using List.reverse_suffix.mpr taken
  admits entry listed := by
    have free := List.mem_takeWhile_imp (List.mem_reverse.mp listed)
    exact blocks_eq_false_iff.mp (by simpa using free)
  longest other isSuffix admits := by
    -- Read from the inside, the other row is a part that the walk takes as a whole.
    obtain ⟨outer, split⟩ := isSuffix
    have free : ∀ entry ∈ other.reverse, (!blocks kind entry) = true := by
      intro entry listed
      simp [blocks_eq_false_iff.mpr (admits entry (List.mem_reverse.mp listed))]
    have taken : (other.reverse ++ outer.reverse).takeWhile (fun entry => !blocks kind entry) = _ :=
      List.takeWhile_append_of_pos free
    rw [← List.reverse_append, split] at taken
    rw [unblocked, taken, List.reverse_append, List.reverse_reverse]
    exact List.suffix_append _ _

/-- Joining templates passes over those of blank entries. -/
theorem join_substance (entries : List LocatorDescriptor) :
    String.join ((entries.filter fun entry => !isBlank entry).map LocatorDescriptor.template) =
      String.join (entries.map LocatorDescriptor.template) := by
  induction entries with
  | nil => rfl
  | cons entry rest ih =>
    by_cases blank : isBlank entry = true
    · have empty : entry.template = "" := by
        simpa using (Bool.and_eq_true_iff.mp blank).2
      simp [blank, ih, empty]
    · simp [blank, ih]

/-- The entries that are unblocked among those that are not blank. -/
theorem scopePrefix_eq_of_substance (stack : ScopeStack) (kind : LocatorKind) :
    stack.scopePrefix kind =
      String.join (((stack.substance.reverse.takeWhile fun entry => !blocks kind entry).reverse).map
        LocatorDescriptor.template) := by
  have passing (entry : LocatorDescriptor) :
      (!(!isBlank entry) || !blocks kind entry) = !blocks kind entry := by
    cases blank : isBlank entry with
    | false => rfl
    | true =>
      have free : blocks kind entry = false := blocks_eq_false_iff.mpr (admits_of_isBlank blank)
      simp [free]
  rw [substance, ← List.filter_reverse, List.takeWhile_filter]
  simp only [passing]
  rw [← List.filter_reverse, join_substance]
  rfl

theorem locatorsFrom_map (entries : List LocatorDescriptor) :
    Nesting.locatorsFrom (entries.map .locator) = entries := by
  induction entries with
  | nil => rfl
  | cons entry rest ih => rw [List.map_cons, Nesting.locatorsFrom, ih]

theorem readable_ofStack (stack : ScopeStack) : (Nesting.ofStack stack).readable = stack := by
  simp [Nesting.readable, Nesting.ofStack, ← List.map_reverse, locatorsFrom_map]

/-- Where an object stands in a place of locators, locators are resolved as the stack does it. -/
theorem resolve_ofStack (stack : ScopeStack) (descriptor : LocatorDescriptor)
    (arguments : List Value) :
    (Nesting.ofStack stack).resolve descriptor arguments = stack.resolve descriptor arguments := by
  have clear : (Nesting.ofStack stack).obstructs descriptor.kind = false := by
    rw [Nesting.obstructs, readable_ofStack]
    simp [Nesting.depth, depth, Nesting.ofStack]
  simp only [Nesting.resolve, readable_ofStack, clear, Bool.and_false, Bool.false_eq_true, if_false]
  cases stack.resolve descriptor arguments <;> rfl

/-- A locator is resolved by filling its template, and a fragment besides by putting the templates of
the innermost entries in front that let its kind through: as they stand, and whatever the locator
and its arguments. Blank entries make no difference. -/
theorem resolve_prefixes (stack : ScopeStack) (descriptor : LocatorDescriptor)
    (arguments : List Value) :
    stack.resolve descriptor arguments =
        (descriptor.format arguments).map (fun text =>
          { kind := descriptor.kind
            value :=
              if descriptor.isFragment then stack.scopePrefix descriptor.kind ++ text
              else text }) ∧
      (∀ kind, ∃ inner, stack.Innermost kind inner ∧
        stack.scopePrefix kind = String.join (inner.map LocatorDescriptor.template)) ∧
      (∀ other : ScopeStack, other.substance = stack.substance →
        other.resolve descriptor arguments = stack.resolve descriptor arguments) ∧
      (Nesting.ofStack stack).resolve descriptor arguments =
        stack.resolve descriptor arguments := by
  refine ⟨resolve_eq _ _ _, fun kind => ?_, fun other same => ?_, resolve_ofStack _ _ _⟩
  · exact ⟨stack.unblocked kind, innermost_unblocked stack kind, rfl⟩
  · have alike : other.scopePrefix descriptor.kind = stack.scopePrefix descriptor.kind := by
      rw [scopePrefix_eq_of_substance, scopePrefix_eq_of_substance, same]
    rw [resolve_eq, resolve_eq, alike]

/-- Scopes outside of an absolute one do not count, a blank one in between does not either, and what
looks like a placeholder in a scope stays. -/
example :
    (ScopeStack.mk [{ kind := .id, template := "far-" }, { kind := .xpath, template := "//form" },
      { kind := .id, template := "row-%d-" }, { kind := .css, template := "" },
      { kind := .id, template := "panel-" }]).resolve
        { kind := .id, template := "field-%d" } [.int 7] =
      .ok { kind := .id, value := "row-%d-panel-field-7" } := by
  decide +kernel

end ScopeStack
end PageContracts
