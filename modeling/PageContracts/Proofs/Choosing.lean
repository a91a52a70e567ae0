import PageContracts.Proofs.ActingMishaps
import PageContracts.Proofs.Formatting
import PageContracts.Proofs.Selection

/-! # Choosing among rules

No operation has the shapes of two different rules, so the rules of a registry that have anything to say
about an operation are all the same one. What a registry comes to is therefore settled by that rule and
by how often the registry has it: in which order the rules are tried makes no difference. -/
namespace PageContracts

open Runs

variable {β : Type} {table : ClassTable} {operation : Operation}

namespace LocatorDescriptor

/-- Trying a locator out with parameters goes wrong by itself: there are as many as placeholders, but one
whose type cannot be looked up stands in front of any that may feed no placeholder, or the samples cannot
be filled in for another reason than their types and values. -/
def Trips (descriptor : LocatorDescriptor) (types : List TypeRef) : Prop :=
  types.length = descriptor.placeholders ∧
    ((∃ fed type rest, types = fed ++ type :: rest ∧
        (∀ other ∈ fed, (sampleOf? other).isSome = true) ∧ sampleOf? type = none ∧
          type.hashable = false) ∨
      ∃ samples failure,
        List.Forall₂ (fun type sample => sampleOf? type = some sample) types samples ∧
          descriptor.format samples = .error failure ∧
          failure.kind ≠ .wrongType ∧ failure.kind ≠ .wrongValue)

end LocatorDescriptor

namespace LocatorDescriptor

variable {descriptor : LocatorDescriptor} {types : List TypeRef} {name : String}

theorem checkArguments_uncounted (uncounted : types.length ≠ descriptor.placeholders) :
    ∃ failure, checkArguments (some descriptor) types name = .error failure ∧
      failure.kind = .locatorArity := by
  unfold checkArguments
  dsimp only
  rw [if_pos uncounted]
  exact ⟨_, rfl, rfl⟩

theorem checkArguments_unknown {fed rest : List TypeRef} {type : TypeRef}
    (counted : (fed ++ type :: rest).length = descriptor.placeholders)
    (feeds : ∀ other ∈ fed, (sampleOf? other).isSome = true) (unknown : sampleOf? type = none) :
    checkArguments (some descriptor) (fed ++ type :: rest) name = .error
      (if type.hashable then
        arityFailure name ("unsupported locator argument type " ++ type.quotedName)
      else .typeBreach "unhashable type") := by
  unfold checkArguments
  dsimp only
  rw [if_neg (not_not.mpr counted), samplesOf_unknown name feeds unknown]
  rfl

/-- Parameters that all have samples are refused when these are of the wrong types or values for the
template; whatever else goes wrong in filling it goes wrong in the check. -/
theorem checkArguments_sampled {samples : List Value} (name : String)
    (counted : types.length = descriptor.placeholders)
    (sampled : List.Forall₂ (fun type sample => sampleOf? type = some sample) types samples) :
    (∃ text, descriptor.format samples = .ok text) ∧
        checkArguments (some descriptor) types name = .ok () ∨
      ∃ failure, descriptor.format samples = .error failure ∧
        checkArguments (some descriptor) types name = .error
          (if failure.kind = .wrongType ∨ failure.kind = .wrongValue then
            arityFailure name ("locator " ++ descriptor.display ++ " rejects arguments " ++
              Quoted.quotedList (types.map TypeRef.name) ++ ": " ++ failure.message)
          else failure) := by
  unfold checkArguments
  dsimp only
  rw [if_neg (not_not.mpr counted), samplesOf_known name sampled]
  cases tried : descriptor.format samples with
  | ok text => exact .inl ⟨⟨text, rfl⟩, by simp only [bind, Except.bind, tried]⟩
  | error failure =>
    refine .inr ⟨failure, rfl, ?_⟩
    simp only [bind, Except.bind, tried]
    split <;> rfl

theorem kind_of_checkArguments {located : Option LocatorDescriptor} {failure : Failure}
    (failed : checkArguments located types name = .error failure) :
    failure.kind = .locatorArity ∨ failure.kind.isSynthesis = false := by
  cases located with
  | none =>
    unfold checkArguments at failed
    dsimp only at failed
    split at failed
    · cases failed
    · cases failed
      exact .inl rfl
  | some descriptor =>
    by_cases counted : types.length = descriptor.placeholders
    · rcases samples_cases types with
        ⟨samples, sampled⟩ | ⟨fed, type, rest, rfl, feeds, unknown⟩
      · rcases checkArguments_sampled name counted sampled with ⟨-, passed⟩ | ⟨inner, tried, fails⟩
        · cases passed.symm.trans failed
        · cases fails.symm.trans failed
          split
          · exact .inl rfl
          · exact .inr (descriptor.format_onlyMishaps samples inner tried)
      · cases (checkArguments_unknown counted feeds unknown).symm.trans failed
        split
        · exact .inl rfl
        · exact .inr rfl
    · obtain ⟨refusal, refused, arity⟩ := checkArguments_uncounted counted
      cases refused.symm.trans failed
      exact .inl arity

theorem trips_iff (name : String) :
    descriptor.Trips types ↔
      ∃ failure, checkArguments (some descriptor) types name = .error failure ∧
        failure.kind ≠ .locatorArity := by
  constructor
  · rintro ⟨counted, ⟨fed, type, rest, rfl, feeds, unknown, unhashable⟩ |
      ⟨samples, failure, sampled, tried, type, value⟩⟩
    · refine ⟨_, checkArguments_unknown counted feeds unknown, ?_⟩
      rw [unhashable]
      nofun
    · rcases checkArguments_sampled name counted sampled with
        ⟨⟨text, filled⟩, -⟩ | ⟨inner, tried', fails⟩
      · cases tried.symm.trans filled
      · cases tried.symm.trans tried'
        rw [if_neg (not_or.mpr ⟨type, value⟩)] at fails
        have mishap := descriptor.format_onlyMishaps samples failure tried
        refine ⟨failure, fails, fun arity => ?_⟩
        rw [arity] at mishap
        cases mishap
  · rintro ⟨failure, failed, other⟩
    by_cases counted : types.length = descriptor.placeholders
    · refine ⟨counted, ?_⟩
      rcases samples_cases types with
        ⟨samples, sampled⟩ | ⟨fed, type, rest, rfl, feeds, unknown⟩
      · rcases checkArguments_sampled name counted sampled with ⟨-, passed⟩ | ⟨inner, tried, fails⟩
        · cases passed.symm.trans failed
        · cases fails.symm.trans failed
          by_cases unfit : inner.kind = .wrongType ∨ inner.kind = .wrongValue
          · rw [if_pos unfit] at other
            exact absurd rfl other
          · obtain ⟨type, value⟩ := not_or.mp unfit
            exact .inr ⟨samples, inner, sampled, tried, type, value⟩
      · cases (checkArguments_unknown counted feeds unknown).symm.trans failed
        cases hashes : type.hashable with
        | true =>
          rw [hashes] at other
          exact absurd rfl other
        | false => exact .inl ⟨fed, type, rest, rfl, feeds, unknown, hashes⟩
    · obtain ⟨refusal, refused, arity⟩ := checkArguments_uncounted counted
      cases refused.symm.trans failed
      exact absurd arity other

end LocatorDescriptor

namespace Rule

/-- The verb that a name beginning with a character asks for, if it asks for any. -/
def verbOf (c : Char) : String :=
  if c = 'c' then Rule.click.verb
  else if c = 'r' then Rule.read.verb
  else if c = 's' then Rule.setModel.verb
  else Rule.bare.verb

/-- What follows a verb begins with none of the letters that a verb begins with. -/
theorem verbOf_of_followsVerb {c : Char} (follows : followsVerb c = true) :
    verbOf c = Rule.bare.verb := by
  have apart (d : Char) (none : followsVerb d = false) : c ≠ d := by
    rintro rfl
    rw [none] at follows
    cases follows
  rw [verbOf, if_neg (apart 'c' (by decide)), if_neg (apart 'r' (by decide)),
    if_neg (apart 's' (by decide))]

theorem verb_of_namedAfter {rule : Rule} {name : List Char}
    (named : namedAfter rule.verb.toList name = true) :
    ∃ c, name.head? = some c ∧ rule.verb = verbOf c := by
  cases rule with
  | bare =>
    cases name with
    | nil => cases named
    | cons c rest =>
      have follows : followsVerb c = true := by simpa [namedAfter, verb] using named
      exact ⟨c, rfl, (verbOf_of_followsVerb follows).symm⟩
  | click => exact ⟨'c', head_of_namedAfter named, rfl⟩
  | read => exact ⟨'r', head_of_namedAfter named, rfl⟩
  | setModel => exact ⟨'s', head_of_namedAfter named, rfl⟩
  | setInput => exact ⟨'s', head_of_namedAfter named, rfl⟩

theorem named_of_shape {rule : Rule} (shape : rule.matchesShape table operation = true) :
    namedAfter rule.verb.toList operation.name.toList = true := by
  simp only [matchesShape, suits, Bool.and_eq_true] at shape
  exact shape.1.1

theorem verb_unique {rule other : Rule} {name : List Char}
    (named : namedAfter rule.verb.toList name = true)
    (named' : namedAfter other.verb.toList name = true) : rule.verb = other.verb := by
  obtain ⟨c, head, verb⟩ := verb_of_namedAfter named
  obtain ⟨d, head', verb'⟩ := verb_of_namedAfter named'
  cases head.symm.trans head'
  exact verb.trans verb'.symm

theorem sets_of_verb {rule : Rule} (sets : rule.verb = setModel.verb) :
    rule = .setModel ∨ rule = .setInput := by
  cases rule <;> revert sets <;> decide

/-- A model is no text, so an operation does not take both. -/
theorem not_setInput_of_setModel (shape : setModel.matchesShape table operation = true) :
    setInput.matchesShape table operation = false := by
  simp only [matchesShape, Bool.and_eq_true] at shape
  obtain ⟨-, -, models⟩ := shape
  split at models
  · next type listed =>
    have apart : type ≠ .text := by
      rintro rfl
      rw [isModel_text] at models
      cases models
    simp [matchesShape, listed, apart]
  · cases models

/-- No operation has the shapes of two rules. -/
theorem shape_unique {rule other : Rule} (shape : rule.matchesShape table operation = true)
    (shape' : other.matchesShape table operation = true) : rule = other := by
  have verbs := verb_unique (named_of_shape shape) (named_of_shape shape')
  by_cases sets : rule.verb = setModel.verb
  · -- the two rules that set something have one verb, and differ in what they take
    rcases sets_of_verb sets with rfl | rfl
    · rcases sets_of_verb (verbs.symm.trans sets) with rfl | rfl
      · rfl
      · rw [not_setInput_of_setModel shape] at shape'
        cases shape'
    · rcases sets_of_verb (verbs.symm.trans sets) with rfl | rfl
      · rw [not_setInput_of_setModel shape'] at shape
        cases shape
      · rfl
  · revert verbs sets
    cases rule <;> cases other <;> decide

/-- What a rule has to say against an operation that has its shape. -/
def complaint? (table : ClassTable) (operation : Operation) (rule : Rule) : Option Failure :=
  if rule.matchesShape table operation then
    match rule.checkArguments operation with
    | .ok _ => none
    | .error failure => some failure
  else none

theorem accepts_iff (rule : Rule) :
    rule.accepts table operation = true ↔
      rule.matchesShape table operation = true ∧ rule.checkArguments operation = .ok () := by
  unfold accepts
  cases rule.checkArguments operation <;> simp

/-- An operation is named and returns as one that fills a model and takes one parameter, but it cannot be
told whether the type of that is a model. -/
def Undecided (table : ClassTable) (operation : Operation) : Prop :=
  setModel.suits operation = true ∧ operation.returnsStandard = true ∧
    ∃ type failure, operation.parameterTypes = [type] ∧
      table.valueOf type modelMember = .error failure

theorem undecided_iff :
    Undecided table operation ↔ ∃ failure, setModel.requireMark table operation = .error failure := by
  constructor
  · rintro ⟨named, returns, type, failure, listed, untold⟩
    refine ⟨failure, ?_⟩
    simp only [requireMark, listed, named, returns, untold, Bool.and_true, if_true]
    rfl
  · rintro ⟨failure, failed⟩
    unfold requireMark at failed
    split at failed
    · next type _ listed =>
      split at failed
      · next asked =>
        obtain ⟨named, returns⟩ := (Bool.and_eq_true _ _).mp asked
        cases untold : table.valueOf type modelMember with
        | ok mark =>
          rw [untold] at failed
          cases failed
        | error inner => exact ⟨named, returns, type, inner, listed, untold⟩
      · cases failed
    · cases failed

/-- An operation of which that cannot be told has the shape of no rule at all. -/
theorem shapeless_of_undecided (undecided : Undecided table operation) (rule : Rule) :
    rule.matchesShape table operation = false := by
  obtain ⟨suits, -, type, failure, listed, untold⟩ := undecided
  by_contra fits
  have shape : rule.matchesShape table operation = true := (Bool.not_eq_false _).mp fits
  have named := ((Bool.and_eq_true _ _).mp suits).1
  rcases sets_of_verb (verb_unique (named_of_shape shape) named) with rfl | rfl
  · simp only [matchesShape, listed, Bool.and_eq_true] at shape
    obtain ⟨-, -, models⟩ := shape
    rw [ClassTable.isModel, untold] at models
    cases models
  · simp only [matchesShape, listed, Bool.and_eq_true, decide_eq_true_eq] at shape
    cases shape.2.2
    cases untold.symm.trans (valueOf_text table)

theorem requireMark_of_ne {rule : Rule} (other : rule ≠ .setModel) :
    rule.requireMark table operation = .ok () := by
  cases rule with
  | setModel => exact absurd rfl other
  | _ => rfl

theorem requireMark_onlyMishaps (table : ClassTable) (rule : Rule) (operation : Operation) :
    OnlyMishaps (rule.requireMark table operation) := by
  unfold requireMark
  split
  · exact .ite ((table.valueOf_onlyMishaps _ _).map _) (.ok _)
  · exact .ok _

/-- Trying out an operation's locator for a rule goes wrong by itself. -/
def Trips (rule : Rule) (operation : Operation) : Prop :=
  ∃ descriptor, operation.locator = some descriptor ∧
    descriptor.Trips (operation.parameterTypes.drop rule.sliceAt)

theorem trips_iff {rule : Rule} :
    rule.Trips operation ↔
      ∃ failure, rule.checkArguments operation = .error failure ∧ failure.kind ≠ .locatorArity := by
  unfold Trips checkArguments
  cases located : operation.locator with
  | none =>
    constructor
    · rintro ⟨descriptor, absent, -⟩
      cases absent
    · rintro ⟨failure, failed, other⟩
      unfold PageContracts.checkArguments at failed
      dsimp only at failed
      split at failed
      · cases failed
      · cases failed
        exact absurd rfl other
  | some descriptor =>
    rw [← LocatorDescriptor.trips_iff]
    constructor
    · rintro ⟨_, ⟨⟩, trips⟩
      exact trips
    · intro trips
      exact ⟨descriptor, rfl, trips⟩

theorem kind_of_checkArguments {rule : Rule} {failure : Failure}
    (failed : rule.checkArguments operation = .error failure) :
    failure.kind = .locatorArity ∧ ¬ rule.Trips operation ∨
      failure.kind.isSynthesis = false ∧ rule.Trips operation := by
  by_cases trips : rule.Trips operation
  · obtain ⟨_, failed', other⟩ := trips_iff.mp trips
    cases failed.symm.trans failed'
    exact .inr ⟨(LocatorDescriptor.kind_of_checkArguments failed).resolve_left other, trips⟩
  · refine .inl ⟨?_, trips⟩
    by_contra other
    exact trips (trips_iff.mpr ⟨failure, failed, other⟩)

end Rule

namespace Registry

theorem foldl_tryRule_complaint (rules : List Rule) (trial : Trial) :
    (rules.foldl (tryRule table operation) trial).complaint =
      trial.complaint.or (rules.findSome? (Rule.complaint? table operation)) := by
  induction rules generalizing trial with
  | nil => simp
  | cons rule rest ih =>
    rw [List.foldl_cons, ih, List.findSome?_cons]
    unfold tryRule Rule.complaint?
    by_cases shape : rule.matchesShape table operation = true
    · cases rule.checkArguments operation <;> simp [shape]
    · simp [shape]

theorem tryAll_complaint (registry : Registry) :
    (registry.tryAll table operation).complaint =
      registry.rules.findSome? (Rule.complaint? table operation) := by
  simpa [tryAll] using foldl_tryRule_complaint registry.rules {}

theorem select_of_shapeless {registry : Registry}
    (shapeless : ∀ rule ∈ registry.rules, rule.matchesShape table operation = false) :
    registry.select table operation = .error (unmatched operation) := by
  have accepted : (registry.tryAll table operation).accepted = [] := by
    rw [tryAll_accepted, List.filter_eq_nil_iff]
    intro rule listed accepts
    have shape := ((Rule.accepts_iff rule).mp accepts).1
    rw [shapeless rule listed] at shape
    cases shape
  have complaint : (registry.tryAll table operation).complaint = none := by
    rw [tryAll_complaint, List.findSome?_eq_none_iff]
    intro rule listed
    rw [Rule.complaint?, shapeless rule listed]
    rfl
  unfold select
  simp only [accepted, complaint]

/-- How many places of a registry accept an operation. -/
def accepting (registry : Registry) (table : ClassTable) (operation : Operation) : Nat :=
  registry.rules.countP fun rule => rule.accepts table operation

theorem filter_accepts {rules : List Rule} {rule : Rule} (accepts : rule.accepts table operation = true) :
    rules.filter (·.accepts table operation) = rules.filter (· == rule) := by
  refine List.filter_congr fun other _ => ?_
  by_cases same : other = rule
  · rw [same, accepts, beq_self_eq_true]
  · rw [beq_false_of_ne same, Bool.eq_false_iff]
    intro accepts'
    exact same (Rule.shape_unique ((Rule.accepts_iff other).mp accepts').1
      ((Rule.accepts_iff rule).mp accepts).1)

theorem accepting_eq_count {registry : Registry} {rule : Rule}
    (accepts : rule.accepts table operation = true) :
    registry.accepting table operation = registry.rules.count rule := by
  rw [accepting, List.countP_eq_length_filter, filter_accepts accepts, List.filter_beq,
    List.length_replicate]

/-- Where a rule accepts an operation, it is selected if only one place of the registry has it. -/
theorem select_of_accepts {registry : Registry} {rule : Rule} (listed : rule ∈ registry.rules)
    (accepts : rule.accepts table operation = true) :
    registry.select table operation =
      if registry.accepting table operation = 1 then .ok rule
      else .error (ambiguous operation
        (List.replicate (registry.accepting table operation) rule)) := by
  have accepted : (registry.tryAll table operation).accepted =
      List.replicate (registry.accepting table operation) rule := by
    rw [tryAll_accepted, filter_accepts accepts, List.filter_beq, accepting_eq_count accepts]
  have positive : 0 < registry.accepting table operation :=
    List.countP_pos_iff.mpr ⟨rule, listed, accepts⟩
  unfold select
  simp only [accepted]
  rcases counted : registry.accepting table operation with _ | _ | more
  · omega
  · rfl
  · rw [if_neg (by omega)]
    rfl

/-- Where a rule has the shape of an operation and its parameters do not fit, that is reported. -/
theorem select_of_complaint {registry : Registry} {rule : Rule} {failure : Failure}
    (listed : rule ∈ registry.rules) (shape : rule.matchesShape table operation = true)
    (failed : rule.checkArguments operation = .error failure) :
    registry.select table operation = .error { failure with
      contract := some operation.owner, operation := some operation.name } := by
  have accepted : (registry.tryAll table operation).accepted = [] := by
    rw [tryAll_accepted, List.filter_eq_nil_iff]
    intro other _ accepts
    obtain ⟨shape', passed⟩ := (Rule.accepts_iff other).mp accepts
    cases Rule.shape_unique shape shape'
    cases failed.symm.trans passed
  have complaint : (registry.tryAll table operation).complaint = some failure := by
    have complains : rule.complaint? table operation = some failure := by
      rw [Rule.complaint?, if_pos shape, failed]
    cases first : registry.rules.findSome? (Rule.complaint? table operation) with
    | none =>
      rw [List.findSome?_eq_none_iff] at first
      rw [first rule listed] at complains
      cases complains
    | some other =>
      -- whichever rule complains first has the same shape, so it is the same rule
      obtain ⟨earlier, -, complains'⟩ := List.exists_of_findSome?_eq_some first
      have shape' : earlier.matchesShape table operation = true := by
        by_contra shapeless
        rw [Rule.complaint?, if_neg shapeless] at complains'
        cases complains'
      cases Rule.shape_unique shape shape'
      rw [tryAll_complaint, first, ← complains', complains]
  unfold select
  simp only [accepted, complaint]

/-- Selecting a rule with the question of whether the operation takes a model asked first, wherever a rule
has to know that. -/
def choose (registry : Registry) (table : ClassTable) (operation : Operation) : Except Failure Rule := do
  registry.rules.forM fun rule => rule.requireMark table operation
  registry.select table operation

/-- A rule of the registry has to know whether the operation takes a model, and that cannot be told. -/
def Untold (registry : Registry) (table : ClassTable) (operation : Operation) : Prop :=
  .setModel ∈ registry.rules ∧ Rule.Undecided table operation

theorem forM_requireMark (rules : List Rule) :
    (rules.forM fun rule => rule.requireMark table operation) =
      if .setModel ∈ rules then Rule.setModel.requireMark table operation else .ok () := by
  induction rules with
  | nil => rfl
  | cons rule rest ih =>
    rw [List.forM, ih]
    by_cases same : rule = .setModel
    · subst same
      rw [if_pos List.mem_cons_self]
      cases Rule.setModel.requireMark table operation with
      | ok _ => split <;> rfl
      | error failure => rfl
    · have listed : .setModel ∈ rule :: rest ↔ .setModel ∈ rest := by
        rw [List.mem_cons, or_iff_right (Ne.symm same)]
      simp only [Rule.requireMark_of_ne same, listed]
      rfl

theorem choose_of_told {registry : Registry} (told : ¬ registry.Untold table operation) :
    registry.choose table operation = registry.select table operation := by
  unfold choose
  rw [forM_requireMark]
  split
  · next listed =>
    cases asked : Rule.setModel.requireMark table operation with
    | ok _ => rfl
    | error failure => exact absurd ⟨listed, Rule.undecided_iff.mpr ⟨failure, asked⟩⟩ told
  · rfl

theorem told_of_shape {registry : Registry} {rule : Rule}
    (shape : rule.matchesShape table operation = true) : ¬ registry.Untold table operation := by
  rintro ⟨-, undecided⟩
  rw [Rule.shapeless_of_undecided undecided] at shape
  cases shape

/-- What a registry comes to about an operation. -/
inductive Verdict (registry : Registry) (table : ClassTable) (operation : Operation) :
    Except Failure Rule → Prop where
  | single {rule : Rule} (listed : rule ∈ registry.rules)
      (accepts : rule.accepts table operation = true)
      (once : registry.accepting table operation = 1) : Verdict registry table operation (.ok rule)
  /-- Several places accept it, all of them with one rule. -/
  | several {rule : Rule} (listed : rule ∈ registry.rules)
      (accepts : rule.accepts table operation = true)
      (often : 2 ≤ registry.accepting table operation) :
      Verdict registry table operation (.error (ambiguous operation
        (List.replicate (registry.accepting table operation) rule)))
  /-- It has the shape of a rule, but not the parameters for it. -/
  | unfit {rule : Rule} {complaint : Failure} (listed : rule ∈ registry.rules)
      (shape : rule.matchesShape table operation = true)
      (failed : rule.checkArguments operation = .error complaint) :
      Verdict registry table operation (.error { complaint with
        contract := some operation.owner, operation := some operation.name })
  | shapeless (none : ∀ rule ∈ registry.rules, rule.matchesShape table operation = false)
      (told : ¬ registry.Untold table operation) :
      Verdict registry table operation (.error (unmatched operation))
  /-- It cannot be told what it takes. -/
  | untold {failure : Failure} (listed : .setModel ∈ registry.rules)
      (asked : Rule.setModel.requireMark table operation = .error failure) :
      Verdict registry table operation (.error failure)

namespace Verdict

variable {registry other : Registry} {result : Except Failure Rule}

theorem choose_eq (verdict : Verdict registry table operation result) :
    registry.choose table operation = result := by
  cases verdict with
  | single listed accepts once =>
    rw [choose_of_told (told_of_shape ((Rule.accepts_iff _).mp accepts).1),
      select_of_accepts listed accepts, if_pos once]
  | several listed accepts often =>
    rw [choose_of_told (told_of_shape ((Rule.accepts_iff _).mp accepts).1),
      select_of_accepts listed accepts, if_neg (by omega)]
  | unfit listed shape failed =>
    rw [choose_of_told (told_of_shape shape), select_of_complaint listed shape failed]
  | shapeless none told => rw [choose_of_told told, select_of_shapeless none]
  | untold listed asked =>
    rw [choose, forM_requireMark, if_pos listed, asked]
    rfl

theorem of_choose (registry : Registry) (table : ClassTable) (operation : Operation) :
    Verdict registry table operation (registry.choose table operation) := by
  obtain ⟨result, verdict⟩ : ∃ result, Verdict registry table operation result := by
    by_cases fitting : ∃ rule ∈ registry.rules, rule.matchesShape table operation = true
    · obtain ⟨rule, listed, shape⟩ := fitting
      cases checked : rule.checkArguments operation with
      | ok _ =>
        have accepts := (Rule.accepts_iff rule).mpr ⟨shape, checked⟩
        have positive : 0 < registry.accepting table operation :=
          List.countP_pos_iff.mpr ⟨rule, listed, accepts⟩
        by_cases once : registry.accepting table operation = 1
        · exact ⟨_, .single listed accepts once⟩
        · exact ⟨_, .several listed accepts (by omega)⟩
      | error complaint => exact ⟨_, .unfit listed shape checked⟩
    · by_cases told : registry.Untold table operation
      · obtain ⟨listed, undecided⟩ := told
        obtain ⟨failure, asked⟩ := Rule.undecided_iff.mp undecided
        exact ⟨_, .untold listed asked⟩
      · refine ⟨_, .shapeless (fun rule listed => ?_) told⟩
        by_contra shape
        exact fitting ⟨rule, listed, (Bool.not_eq_false _).mp shape⟩
  rw [verdict.choose_eq]
  exact verdict

/-- A verdict takes only from a registry which rules it has, and how often. -/
theorem perm (permuted : other.rules.Perm registry.rules)
    (verdict : Verdict registry table operation result) : Verdict other table operation result := by
  have counted : other.accepting table operation = registry.accepting table operation :=
    permuted.countP_eq _
  cases verdict with
  | single listed accepts once =>
    exact .single (permuted.mem_iff.mpr listed) accepts (counted.trans once)
  | several listed accepts often =>
    rw [← counted]
    exact .several (permuted.mem_iff.mpr listed) accepts (counted ▸ often)
  | unfit listed shape failed => exact .unfit (permuted.mem_iff.mpr listed) shape failed
  | shapeless none told =>
    refine .shapeless (fun rule listed => none rule (permuted.mem_iff.mp listed)) ?_
    rintro ⟨listed, undecided⟩
    exact told ⟨permuted.mem_iff.mp listed, undecided⟩
  | untold listed asked => exact .untold (permuted.mem_iff.mpr listed) asked

end Verdict

/-- Compiling an operation begins with choosing a rule for it. -/
theorem compileOperation_eq (registry : Registry) (operation : Operation) (world : World β) :
    Compilation.compileOperation registry operation world =
      (do
        let rule ← Run.ofExcept (registry.choose world.classes operation)
        Run.ofExcept (rule.requireFields world.classes operation)
        let plan := rule.plan world.classes operation
        Run.log .debug (Compilation.operationMessage rule plan)
        return plan : Run β CallPlan) world := by
  have asked := congrFun
    (forM_ofExcept (fun rule => rule.requireMark world.classes operation) registry.rules) world
  unfold choose
  cases marks : registry.rules.forM fun rule => rule.requireMark world.classes operation with
  | ok _ =>
    rw [marks] at asked
    exact bind_of_ok asked _
  | error failure =>
    rw [marks] at asked
    exact bind_of_error asked _

/-- The kind of a failure to choose tells the reason for it. -/
theorem reason_of_choose {registry : Registry} {failure : Failure}
    (failed : registry.choose table operation = .error failure) :
    (failure.kind = .ambiguousOperation ∧ 2 ≤ registry.accepting table operation) ∨
      (failure.kind = .locatorArity ∧ registry.accepting table operation = 0 ∧
        ∃ rule ∈ registry.rules, rule.matchesShape table operation = true ∧
          ¬ rule.Trips operation) ∨
      (failure.kind = .unsupportedShape ∧
        (∀ rule ∈ registry.rules, rule.matchesShape table operation = false) ∧
          ¬ registry.Untold table operation) ∨
      (failure.kind.isSynthesis = false ∧
        (registry.Untold table operation ∨
          ∃ rule ∈ registry.rules, rule.matchesShape table operation = true ∧
            rule.Trips operation)) := by
  have verdict := Verdict.of_choose registry table operation
  rw [failed] at verdict
  cases verdict with
  | several listed accepts often => exact .inl ⟨rfl, often⟩
  | @unfit rule complaint listed shape checked =>
    rcases Rule.kind_of_checkArguments checked with ⟨arity, stays⟩ | ⟨mishap, trips⟩
    · -- a place that accepted the operation would have this same rule, which does not
      refine .inr (.inl ⟨arity, ?_, rule, listed, shape, stays⟩)
      refine List.countP_eq_zero.mpr fun other _ accepts => ?_
      obtain ⟨shape', passed⟩ := (Rule.accepts_iff other).mp accepts
      cases Rule.shape_unique shape shape'
      cases checked.symm.trans passed
    · exact .inr (.inr (.inr ⟨mishap, .inr ⟨rule, listed, shape, trips⟩⟩))
  | shapeless none told => exact .inr (.inr (.inl ⟨rfl, none, told⟩))
  | untold listed asked =>
    exact .inr (.inr (.inr ⟨Rule.requireMark_onlyMishaps table _ operation _ asked,
      .inl ⟨listed, Rule.undecided_iff.mpr ⟨_, asked⟩⟩⟩))

/-- What a registry decides about an operation, whichever rules it has in whichever order. -/
structure Decides (registry : Registry) (table : ClassTable) (operation : Operation) : Prop where
  /-- A rule is chosen exactly when a single place accepts the operation and that rule is at it. -/
  chooses (rule : Rule) :
    registry.choose table operation = .ok rule ↔
      registry.accepting table operation = 1 ∧ rule ∈ registry.rules ∧
        rule.accepts table operation = true
  ambiguous :
    (∃ failure, registry.choose table operation = .error failure ∧
        failure.kind = .ambiguousOperation) ↔
      2 ≤ registry.accepting table operation
  /-- Its parameters are blamed exactly when no place accepts it but it has the shape of a rule for which
  its locator can be tried out. -/
  arity :
    (∃ failure, registry.choose table operation = .error failure ∧ failure.kind = .locatorArity) ↔
      registry.accepting table operation = 0 ∧
        ∃ rule ∈ registry.rules, rule.matchesShape table operation = true ∧ ¬ rule.Trips operation
  /-- Its shape is blamed exactly when it has that of no rule, as far as this can be told. -/
  shapeless :
    (∃ failure, registry.choose table operation = .error failure ∧
        failure.kind = .unsupportedShape) ↔
      (∀ rule ∈ registry.rules, rule.matchesShape table operation = false) ∧
        ¬ registry.Untold table operation
  /-- Anything else goes wrong exactly when it cannot be told what the operation takes, or trying out its
  locator goes wrong by itself. -/
  mishap :
    (∃ failure, registry.choose table operation = .error failure ∧
        failure.kind.isSynthesis = false) ↔
      registry.Untold table operation ∨
        ∃ rule ∈ registry.rules, rule.matchesShape table operation = true ∧ rule.Trips operation
  places (failure : Failure) :
    registry.choose table operation = .error failure → failure.kind.isSynthesis = true →
      failure.contract = some operation.owner ∧ failure.operation = some operation.name
  orderless (other : Registry) :
    other.rules.Perm registry.rules →
      other.choose table operation = registry.choose table operation
  /-- Compiling the operation fails as choosing a rule for it does, and leaves everything as it was. -/
  reported (β : Type) (world : World β) (failure : Failure) :
    world.classes = table → registry.choose table operation = .error failure →
      Compilation.compileOperation registry operation world = .error failure world

theorem decides_of_choose (registry : Registry) (table : ClassTable) (operation : Operation) :
    Decides registry table operation where
  chooses rule := by
    constructor
    · intro chosen
      have verdict := Verdict.of_choose registry table operation
      rw [chosen] at verdict
      cases verdict with
      | single listed accepts once => exact ⟨once, listed, accepts⟩
    · rintro ⟨once, listed, accepts⟩
      exact (Verdict.single listed accepts once).choose_eq
  ambiguous := by
    constructor
    · rintro ⟨failure, failed, kind⟩
      have reason := reason_of_choose failed
      rw [kind] at reason
      rcases reason with ⟨-, often⟩ | ⟨⟨⟩, -⟩ | ⟨⟨⟩, -⟩ | ⟨⟨⟩, -⟩
      exact often
    · intro often
      obtain ⟨rule, listed, accepts⟩ :=
        List.countP_pos_iff.mp (show 0 < registry.accepting table operation by omega)
      exact ⟨_, (Verdict.several listed accepts often).choose_eq, rfl⟩
  arity := by
    constructor
    · rintro ⟨failure, failed, kind⟩
      have reason := reason_of_choose failed
      rw [kind] at reason
      rcases reason with ⟨⟨⟩, -⟩ | ⟨-, reason⟩ | ⟨⟨⟩, -⟩ | ⟨⟨⟩, -⟩
      exact reason
    · rintro ⟨nowhere, rule, listed, shape, stays⟩
      cases checked : rule.checkArguments operation with
      | ok _ =>
        have accepts := (Rule.accepts_iff rule).mpr ⟨shape, checked⟩
        exact absurd accepts (List.countP_eq_zero.mp nowhere rule listed)
      | error complaint =>
        rcases Rule.kind_of_checkArguments checked with ⟨arity, -⟩ | ⟨-, trips⟩
        · exact ⟨_, (Verdict.unfit listed shape checked).choose_eq, arity⟩
        · exact absurd trips stays
  shapeless := by
    constructor
    · rintro ⟨failure, failed, kind⟩
      have reason := reason_of_choose failed
      rw [kind] at reason
      rcases reason with ⟨⟨⟩, -⟩ | ⟨⟨⟩, -⟩ | ⟨-, reason⟩ | ⟨⟨⟩, -⟩
      exact reason
    · rintro ⟨none, told⟩
      exact ⟨_, (Verdict.shapeless none told).choose_eq, rfl⟩
  mishap := by
    constructor
    · rintro ⟨failure, failed, apart⟩
      rcases reason_of_choose failed with ⟨kind, -⟩ | ⟨kind, -⟩ | ⟨kind, -⟩ | ⟨-, reason⟩
      · rw [kind] at apart
        cases apart
      · rw [kind] at apart
        cases apart
      · rw [kind] at apart
        cases apart
      · exact reason
    · rintro (⟨listed, undecided⟩ | ⟨rule, listed, shape, trips⟩)
      · obtain ⟨failure, asked⟩ := Rule.undecided_iff.mp undecided
        exact ⟨failure, (Verdict.untold listed asked).choose_eq,
          Rule.requireMark_onlyMishaps table _ operation failure asked⟩
      · obtain ⟨complaint, checked, other⟩ := Rule.trips_iff.mp trips
        rcases Rule.kind_of_checkArguments checked with ⟨arity, -⟩ | ⟨mishap, -⟩
        · exact absurd arity other
        · exact ⟨_, (Verdict.unfit listed shape checked).choose_eq, mishap⟩
  places failure failed synthesis := by
    have verdict := Verdict.of_choose registry table operation
    rw [failed] at verdict
    cases verdict with
    | several listed accepts often => exact ⟨rfl, rfl⟩
    | unfit listed shape checked => exact ⟨rfl, rfl⟩
    | shapeless none told => exact ⟨rfl, rfl⟩
    | untold listed asked =>
      have mishap := Rule.requireMark_onlyMishaps table _ operation failure asked
      cases mishap.symm.trans synthesis
  orderless other permuted := ((Verdict.of_choose registry table operation).perm permuted).choose_eq
  reported β world failure known failed := by
    subst known
    rw [compileOperation_eq, failed]
    rfl

namespace Rows

/-- An operation that has the shape of a click: it takes a number, and its locator has one placeholder,
behind a number that is to be written with more digits than any text has. -/
def clickRow : Operation where
  owner := "Rows"
  name := "click_row"
  parameterTypes := [.integer]
  returnType := some .nothing
  returnKind := some .void
  locator := some { kind := .id, template := "%.2147483647d%s" }

/-- No rule accepts this operation and it has the shape of a click, yet its parameters are not blamed: what
choosing fails with is a number beyond its range. -/
theorem number_not_blamed :
    ({} : Registry).accepting {} clickRow = 0 ∧ Rule.click.matchesShape {} clickRow = true ∧
      (({} : Registry).choose {} clickRow).mapError Failure.kind = .error .overflow := by
  exact ⟨by decide +kernel, by decide +kernel, by decide +kernel⟩

end Rows

/-- How the standard rules stand to each other before an operation. -/
structure Unrivalled (table : ClassTable) (operation : Operation) : Prop where
  alone (rule other : Rule) :
    rule ∈ Rule.standard → other ∈ Rule.standard →
      rule.matchesShape table operation = true → other.matchesShape table operation = true →
        rule = other
  unambiguous (failure : Failure) :
    ({} : Registry).choose table operation = .error failure → failure.kind ≠ .ambiguousOperation
  /-- Where the parameters are blamed, this is the complaint of the only rule whose shape fits. -/
  complains (failure : Failure) :
    ({} : Registry).choose table operation = .error failure → failure.kind = .locatorArity →
      ∃ rule ∈ Rule.standard, rule.matchesShape table operation = true ∧
        (∀ other ∈ Rule.standard, other ≠ rule → other.matchesShape table operation = false) ∧
          ∃ complaint, rule.checkArguments operation = .error complaint ∧
            complaint.kind = .locatorArity ∧
              failure = { complaint with
                contract := some operation.owner, operation := some operation.name }

theorem accepting_standard_le (table : ClassTable) (operation : Operation) :
    ({} : Registry).accepting table operation ≤ 1 := by
  by_cases nowhere : ({} : Registry).accepting table operation = 0
  · omega
  · obtain ⟨rule, -, accepts⟩ := List.countP_pos_iff.mp (Nat.pos_of_ne_zero nowhere)
    rw [accepting_eq_count accepts]
    exact List.nodup_iff_count.mp (show Rule.standard.Nodup by decide) rule

theorem unrivalled_of_choose (table : ClassTable) (operation : Operation) :
    Unrivalled table operation where
  alone _ _ _ _ shape shape' := Rule.shape_unique shape shape'
  unambiguous failure failed kind := by
    have once := accepting_standard_le table operation
    have reason := reason_of_choose failed
    rw [kind] at reason
    rcases reason with ⟨-, often⟩ | ⟨⟨⟩, -⟩ | ⟨⟨⟩, -⟩ | ⟨⟨⟩, -⟩
    omega
  complains failure failed kind := by
    have verdict := Verdict.of_choose {} table operation
    rw [failed] at verdict
    cases verdict with
    | several listed accepts often => cases kind
    | @unfit rule complaint listed shape checked =>
      refine ⟨rule, listed, shape, fun other _ differ => ?_, complaint, checked, kind, rfl⟩
      by_contra fits
      exact differ (Rule.shape_unique ((Bool.not_eq_false _).mp fits) shape)
    | shapeless none told => cases kind
    | untold listed asked =>
      have mishap := Rule.requireMark_onlyMishaps table _ operation failure asked
      rw [kind] at mishap
      cases mishap

end Registry
end PageContracts
