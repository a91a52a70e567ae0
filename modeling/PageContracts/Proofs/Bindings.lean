import PageContracts.Contract.Signature
import PageContracts.Proofs.Refusals
import Mathlib.Data.List.Nodup

/-! # Arguments of calls

A call gives its arguments to the parameters of the operation by position and by name, and what is left
out has its default. What becomes of the call depends on the values that the parameters get alone; if
they do not all get one, or if an argument is left over, nothing becomes of it. -/
namespace PageContracts

open Runs

variable {β : Type}

namespace Binding

/-- What a parameter gets that is given nothing by position. -/
inductive Supplied (named : List (String × Value)) (parameter : Parameter) (value : Value) : Prop where
  | byName (takes : takesName parameter = true) (given : named.lookup parameter.name = some value)
  | left (out : named.lookup parameter.name = none) (default : parameter.default = some value)

/-- Parameters get values: the first ones the positions, and those behind them what they are supplied
with. Nothing is given to a parameter twice. -/
inductive Fills (named : List (String × Value)) :
    List Parameter → List Value → List Value → Prop where
  | done : Fills named [] [] []
  | position {parameter : Parameter} {value : Value} {rest : List Parameter}
      {positions values : List Value}
      (once : named.lookup parameter.name = none) (others : Fills named rest positions values) :
      Fills named (parameter :: rest) (value :: positions) (value :: values)
  | supplied {parameter : Parameter} {value : Value} {rest : List Parameter} {values : List Value}
      (one : Supplied named parameter value) (others : Fills named rest [] values) :
      Fills named (parameter :: rest) [] (value :: values)

/-- The arguments of a call bind: every parameter gets one value, and every argument that is given by
name has a parameter that takes it. -/
structure Binds (parameters : List Parameter) (positions : List Value)
    (named : List (String × Value)) (values : List Value) : Prop where
  fills : Fills named parameters positions values
  known : ∀ entry ∈ named, ∃ parameter ∈ parameters,
    takesName parameter = true ∧ parameter.name = entry.1

/-- No argument is given by name to a parameter that takes none. -/
def KeepsToPositions (named : List (String × Value)) (parameters : List Parameter) : Prop :=
  ∀ parameter ∈ parameters, takesName parameter = false → named.lookup parameter.name = none

variable {named : List (String × Value)} {parameters : List Parameter} {parameter : Parameter}
  {positions values : List Value} {value : Value}

theorem namedValue_eq_ok (keeps : takesName parameter = false → named.lookup parameter.name = none) :
    namedValue parameter named = .ok value ↔ Supplied named parameter value := by
  rw [namedValue]
  cases given : named.lookup parameter.name with
  | some other =>
    have takes : takesName parameter = true := by
      by_contra takesNone
      rw [keeps (Bool.not_eq_true _ ▸ takesNone)] at given
      cases given
    rw [if_pos takes]
    constructor
    · intro same
      cases same
      exact .byName takes given
    · rintro (⟨-, same⟩ | ⟨out, -⟩)
      · cases given.symm.trans same
        rfl
      · cases given.symm.trans out
  | none =>
    rw [ite_self]
    constructor
    · intro same
      cases default : parameter.default with
      | none =>
        rw [default] at same
        cases same
      | some other =>
        rw [default] at same
        cases same
        exact .left given default
    · rintro (⟨-, same⟩ | ⟨-, default⟩)
      · cases given.symm.trans same
      · rw [default]

/-- Matching the positions uses them up just when the parameters are filled. -/
theorem bindPositions_eq_ok (keeps : KeepsToPositions named parameters) :
    bindPositions named parameters positions = .ok (values, []) ↔
      Fills named parameters positions values := by
  induction parameters generalizing positions values with
  | nil =>
    constructor
    · intro h
      cases h
      exact .done
    · rintro ⟨⟩
      rfl
  | cons parameter rest ih =>
    have keeps' : KeepsToPositions named rest :=
      fun other listed => keeps other (List.mem_cons_of_mem _ listed)
    have own := keeps parameter List.mem_cons_self
    cases positions with
    | nil =>
      rw [bindPositions, except_bind_eq_ok]
      constructor
      · rintro ⟨value, supplied, h⟩
        obtain ⟨⟨others, left⟩, bound, h⟩ := except_bind_eq_ok.mp h
        cases h
        exact .supplied ((namedValue_eq_ok own).mp supplied) ((ih keeps').mp bound)
      · rintro (_ | _ | ⟨one, others⟩)
        refine ⟨_, (namedValue_eq_ok own).mpr one, ?_⟩
        rw [(ih keeps').mpr others]
        rfl
    | cons position positions =>
      rw [bindPositions]
      by_cases twice : takesName parameter = true ∧ (named.lookup parameter.name).isSome = true
      · rw [if_pos (by simpa using twice)]
        constructor
        · nofun
        · rintro (_ | ⟨once, -⟩)
          rw [once] at twice
          cases twice.2
      · have once : named.lookup parameter.name = none := by
          cases takes : takesName parameter with
          | false => exact own takes
          | true =>
            rw [takes] at twice
            exact Option.not_isSome_iff_eq_none.mp fun given => twice ⟨rfl, given⟩
        rw [if_neg (by simpa using twice), except_bind_eq_ok]
        constructor
        · rintro ⟨⟨others, left⟩, bound, h⟩
          cases h
          exact .position once ((ih keeps').mp bound)
        · rintro (_ | ⟨-, others⟩)
          exact ⟨_, (ih keeps').mpr others, rfl⟩

theorem lookup_isSome_of_mem {entry : String × Value} (listed : entry ∈ named) :
    (named.lookup entry.1).isSome = true := by
  rw [List.lookup_isSome_iff]
  exact ⟨entry, listed, beq_self_eq_true _⟩

/-- Where parameters have names of their own and all arguments given by name are taken, none goes to a
parameter that takes none. -/
theorem keepsToPositions_of_known (distinct : (parameters.map Parameter.name).Nodup)
    (known : ∀ entry ∈ named, ∃ parameter ∈ parameters,
      takesName parameter = true ∧ parameter.name = entry.1) :
    KeepsToPositions named parameters := by
  intro parameter listed takesNone
  cases given : named.lookup parameter.name with
  | none => rfl
  | some value =>
    obtain ⟨before, after, rfl, -⟩ := List.lookup_eq_some_iff.mp given
    obtain ⟨other, listed', takes, same⟩ := known (parameter.name, value) (by simp)
    have equal : other = parameter := List.inj_on_of_nodup_map distinct listed' listed same
    rw [equal, takesNone] at takes
    cases takes

theorem filter_takesPosition
    (positional : ∀ parameter ∈ parameters, takesPosition parameter = true) :
    parameters.filter takesPosition = parameters :=
  List.filter_eq_self.mpr positional

theorem hasTarget_iff (positional : ∀ parameter ∈ parameters, takesPosition parameter = true)
    (name : String) :
    hasTarget parameters name = true ↔
      ∃ parameter ∈ parameters, takesName parameter = true ∧ parameter.name = name := by
  rw [hasTarget, List.any_eq_true]
  constructor
  · rintro ⟨parameter, listed, target⟩
    have kind := positional parameter listed
    refine ⟨parameter, listed, ?_⟩
    simp only [takesPosition, Bool.or_eq_true, decide_eq_true_eq, Bool.and_eq_true] at kind target
    rcases target with surplus | target
    · rw [surplus] at kind
      simp at kind
    · exact target
  · rintro ⟨parameter, listed, takes, same⟩
    exact ⟨parameter, listed, by simp [takes, same]⟩

/-- Without parameters for surplus positions, positions that are left over are refused. -/
theorem takesSurplus_eq_false
    (positional : ∀ parameter ∈ parameters, takesPosition parameter = true) :
    (parameters.any fun parameter => parameter.kind = .surplusPositions) = false := by
  rw [List.any_eq_false]
  intro parameter listed surplus
  have kind := positional parameter listed
  rw [takesPosition, decide_eq_true_eq.mp surplus] at kind
  cases kind

theorem filter_keywordOnly
    (positional : ∀ parameter ∈ parameters, takesPosition parameter = true) :
    (parameters.filter fun parameter => parameter.kind = .keywordOnly) = [] := by
  rw [List.filter_eq_nil_iff]
  intro parameter listed keyword
  have kind := positional parameter listed
  rw [takesPosition, decide_eq_true_eq.mp keyword] at kind
  cases kind

theorem known_iff (positional : ∀ parameter ∈ parameters, takesPosition parameter = true) :
    (named.find? fun entry => !hasTarget parameters entry.1) = none ↔
      ∀ entry ∈ named, ∃ parameter ∈ parameters,
        takesName parameter = true ∧ parameter.name = entry.1 := by
  rw [List.find?_eq_none]
  constructor
  · intro all entry listed
    exact (hasTarget_iff positional _).mp (by simpa using all entry listed)
  · intro known entry listed
    simpa using (hasTarget_iff positional _).mpr (known entry listed)

theorem enter_eq_ok (positional : ∀ parameter ∈ parameters, takesPosition parameter = true)
    (distinct : (parameters.map Parameter.name).Nodup) :
    enter parameters positions named = .ok values ↔ Binds parameters positions named values := by
  rw [enter, filter_takesPosition positional, except_bind_eq_ok]
  constructor
  · rintro ⟨⟨bound, surplus⟩, matched, h⟩
    simp only [takesSurplus_eq_false positional, Bool.not_false, Bool.and_true] at h
    cases surplus with
    | cons position rest => cases h
    | nil =>
      cases unknown : named.find? fun entry => !hasTarget parameters entry.1 with
      | some entry =>
        rw [unknown] at h
        cases h
      | none =>
        rw [unknown, filter_keywordOnly positional] at h
        have known := (known_iff positional).mp unknown
        have keeps := keepsToPositions_of_known distinct known
        have same : values = bound := by
          cases h
          simp
        rw [same]
        exact ⟨(bindPositions_eq_ok keeps).mp matched, known⟩
  · rintro ⟨fills, known⟩
    have keeps := keepsToPositions_of_known distinct known
    refine ⟨(values, []), (bindPositions_eq_ok keeps).mpr fills, ?_⟩
    rw [(known_iff positional).mpr known, filter_keywordOnly positional]
    simp only [List.isEmpty_nil, Bool.not_true, Bool.false_and, List.append_nil]
    rfl

/-- The arguments of a call of a function that takes positions alone bind just when every parameter
gets one value and every argument has a parameter. -/
theorem bind_eq_ok (positional : ∀ parameter ∈ parameters, takesPosition parameter = true)
    (distinct : (parameters.map Parameter.name).Nodup) :
    bind parameters positions named = .ok values ↔ Binds parameters positions named values := by
  rw [bind]
  cases strict : (unfilled parameters positions).find? fun p => (named.lookup p.name).isSome with
  | none => exact enter_eq_ok positional distinct
  | some parameter =>
    -- Something is given by name to a parameter that takes none: nothing may bind.
    constructor
    · nofun
    · rintro ⟨-, known⟩
      have given : (named.lookup parameter.name).isSome = true := by
        simpa using List.find?_some strict
      have listed : parameter ∈ unfilled parameters positions := List.mem_of_find?_eq_some strict
      rw [unfilled, filter_takesPosition positional, List.mem_filter] at listed
      have takesNone : takesName parameter = false := by
        simp [takesName, decide_eq_true_eq.mp listed.2]
      have keeps := keepsToPositions_of_known distinct known
      rw [keeps parameter (List.mem_of_mem_drop listed.1) takesNone] at given
      cases given

/-- A computation that can only fail because of something of a wrong type. -/
def OnlyWrongTypes {α : Type} (result : Except Failure α) : Prop :=
  ∀ failure, result = .error failure → failure.kind = .wrongType

theorem OnlyWrongTypes.breach {α : Type} (message : String) :
    OnlyWrongTypes (.error (.typeBreach message) : Except Failure α) := by
  intro failure same
  cases same
  rfl

theorem OnlyWrongTypes.bind {α γ : Type} {result : Except Failure α} {next : α → Except Failure γ}
    (h : OnlyWrongTypes result) (hn : ∀ a, OnlyWrongTypes (next a)) :
    OnlyWrongTypes (result >>= next) := by
  cases result with
  | ok a => exact hn a
  | error failure =>
    intro other same
    cases same
    exact h failure rfl

theorem namedValue_onlyWrongTypes (parameter : Parameter) (named : List (String × Value)) :
    OnlyWrongTypes (namedValue parameter named) := by
  unfold namedValue
  split
  · exact fun _ => nofun
  · split
    · exact fun _ => nofun
    · exact .breach _

theorem bindPositions_onlyWrongTypes (named : List (String × Value)) (parameters : List Parameter)
    (positions : List Value) : OnlyWrongTypes (bindPositions named parameters positions) := by
  induction parameters generalizing positions with
  | nil => exact fun _ => nofun
  | cons parameter rest ih =>
    cases positions with
    | nil =>
      refine (namedValue_onlyWrongTypes _ _).bind fun value => ?_
      exact (ih _).bind fun _ _ => nofun
    | cons position positions =>
      rw [bindPositions]
      split
      · exact .breach _
      · exact (ih _).bind fun _ _ => nofun

theorem enter_onlyWrongTypes
    (positional : ∀ parameter ∈ parameters, takesPosition parameter = true)
    (positions : List Value) (named : List (String × Value)) :
    OnlyWrongTypes (enter parameters positions named) := by
  refine (bindPositions_onlyWrongTypes _ _ _).bind fun ⟨bound, surplus⟩ => ?_
  simp only [filter_keywordOnly positional]
  split
  · exact .breach _
  · split
    · exact .breach _
    · exact fun _ => nofun

theorem bind_onlyWrongTypes
    (positional : ∀ parameter ∈ parameters, takesPosition parameter = true)
    (positions : List Value) (named : List (String × Value)) :
    OnlyWrongTypes (bind parameters positions named) := by
  unfold bind
  split
  · exact .breach _
  · exact enter_onlyWrongTypes positional _ _

/-- Arguments that do not bind are of a wrong type as a whole. -/
theorem bind_of_unbound (positional : ∀ parameter ∈ parameters, takesPosition parameter = true)
    (distinct : (parameters.map Parameter.name).Nodup)
    (unbound : ∀ values, ¬ Binds parameters positions named values) :
    ∃ failure, bind parameters positions named = .error failure ∧ failure.kind = .wrongType := by
  cases h : bind parameters positions named with
  | ok values => exact absurd ((bind_eq_ok positional distinct).mp h) (unbound values)
  | error failure => exact ⟨failure, rfl, bind_onlyWrongTypes positional _ _ _ h⟩

theorem takesPosition_receiver (f : DeclaredFunction) : takesPosition f.receiver = true := by
  unfold takesPosition DeclaredFunction.receiver
  split <;> rfl

/-- Arguments that bind name no receiver: it has a name of its own. -/
theorem lookup_receiver_of_binds {f : DeclaredFunction}
    (distinct : (f.signature.map Parameter.name).Nodup)
    (binds : Binds f.parameters positions named values) :
    named.lookup DeclaredFunction.receiverName = none := by
  have apart : DeclaredFunction.receiverName ∉ f.parameters.map Parameter.name :=
    (List.nodup_cons.mp distinct).1
  rw [List.lookup_eq_none_iff]
  intro entry listed
  obtain ⟨parameter, among, -, same⟩ := binds.known entry listed
  rw [bne_iff_ne]
  intro receiver
  exact apart (List.mem_map.mpr ⟨parameter, among, same.trans receiver.symm⟩)

/-- The object that a function is called on stands in front of the positions, and nothing is given by
its name. -/
theorem binds_signature_iff {f : DeclaredFunction}
    (distinct : (f.signature.map Parameter.name).Nodup) {receiver : Value} {all : List Value} :
    Binds f.signature (receiver :: positions) named all ↔
      ∃ values, all = receiver :: values ∧ Binds f.parameters positions named values := by
  constructor
  · rintro ⟨_ | ⟨once, others⟩, known⟩
    refine ⟨_, rfl, others, fun entry listed => ?_⟩
    obtain ⟨parameter, among, takes, same⟩ := known entry listed
    rcases List.mem_cons.mp among with rfl | among
    · have given := lookup_isSome_of_mem listed
      rw [← same, once] at given
      cases given
    · exact ⟨parameter, among, takes, same⟩
  · rintro ⟨values, rfl, binds⟩
    have once := lookup_receiver_of_binds distinct binds
    refine ⟨.position once binds.fills, fun entry listed => ?_⟩
    obtain ⟨parameter, among, rest⟩ := binds.known entry listed
    exact ⟨parameter, List.mem_cons_of_mem _ among, rest⟩

theorem fills_of_supplied {count : Nat} (enough : values.length = parameters.length)
    (apart : ∀ parameter ∈ parameters.take count, named.lookup parameter.name = none)
    (supplied : ∀ entry ∈ (parameters.zip values).drop count, Supplied named entry.1 entry.2) :
    Fills named parameters (values.take count) values := by
  induction parameters generalizing values count with
  | nil =>
    cases List.length_eq_zero_iff.mp enough
    rw [List.take_nil]
    exact .done
  | cons parameter rest ih =>
    obtain ⟨value, others, rfl⟩ := List.exists_cons_of_length_eq_add_one enough
    have enough' : others.length = rest.length := Nat.succ.inj enough
    cases count with
    | zero =>
      have more : Fills named rest (others.take 0) others :=
        ih enough' (by simp) fun entry listed => supplied entry (List.mem_cons_of_mem _ listed)
      exact .supplied (supplied (parameter, value) List.mem_cons_self) more
    | succ count =>
      refine .position (apart parameter List.mem_cons_self) (ih enough' ?_ supplied)
      exact fun other listed => apart other (List.mem_cons_of_mem _ listed)

/-- An argument given by name is found under it when no name is given twice. -/
theorem lookup_of_mem (distinct : (named.map Prod.fst).Nodup) {name : String}
    (listed : (name, value) ∈ named) : named.lookup name = some value := by
  obtain ⟨other, found⟩ := Option.isSome_iff_exists.mp (lookup_isSome_of_mem listed)
  obtain ⟨before, after, rfl, -⟩ := List.lookup_eq_some_iff.mp found
  have among : (name, other) ∈ before ++ (name, other) :: after := by simp
  have same : (name, value) = (name, other) := List.inj_on_of_nodup_map distinct listed among rfl
  cases same
  exact found

/-- What a parameter is given by name. -/
def asNamed (entry : Parameter × Value) : String × Value :=
  (entry.1.name, entry.2)

/-- A call that gives some parameters their values: the first `count` by position, those that are
`given` by name, in any order, and all that are left out have the value as their default. -/
structure Spells (parameters : List Parameter) (values : List Value) (count : Nat)
    (given : List (Parameter × Value)) (named : List (String × Value)) : Prop where
  enough : values.length = parameters.length
  part : given.Sublist ((parameters.zip values).drop count)
  order : named.Perm (given.map asNamed)
  takes : ∀ entry ∈ given, takesName entry.1 = true
  defaults : ∀ entry ∈ (parameters.zip values).drop count,
    entry ∈ given ∨ entry.1.default = some entry.2

section Spelling

variable {count : Nat} {given : List (Parameter × Value)}

theorem nodup_names_zip (distinct : (parameters.map Parameter.name).Nodup)
    (enough : values.length = parameters.length) :
    ((parameters.zip values).map fun entry => entry.1.name).Nodup := by
  have names : (parameters.zip values).map (fun entry => entry.1.name) =
      parameters.map Parameter.name := by
    have firsts := List.map_fst_zip (Nat.le_of_eq enough.symm)
    rw [← congrArg (List.map Parameter.name) firsts, List.map_map]
    rfl
  rwa [names]

namespace Spells

variable (distinct : (parameters.map Parameter.name).Nodup)
  (spells : Spells parameters values count given named)

include distinct spells

theorem nodup_keys : (named.map Prod.fst).Nodup := by
  have part := (spells.part.trans (List.drop_sublist _ _)).map fun entry => entry.1.name
  have keys : (given.map asNamed).map Prod.fst = given.map fun entry => entry.1.name := by
    rw [List.map_map]
    rfl
  rw [(spells.order.map Prod.fst).nodup_iff, keys]
  exact (nodup_names_zip distinct spells.enough).sublist part

theorem lookup_of_given {entry : Parameter × Value} (listed : entry ∈ given) :
    named.lookup entry.1.name = some entry.2 := by
  have among : asNamed entry ∈ named := spells.order.mem_iff.mpr (List.mem_map_of_mem listed)
  exact lookup_of_mem (spells.nodup_keys distinct) among

theorem lookup_of_left {entry : Parameter × Value} (among : entry ∈ parameters.zip values)
    (left : entry ∉ given) : named.lookup entry.1.name = none := by
  rw [List.lookup_eq_none_iff]
  intro argument listed
  rw [bne_iff_ne]
  intro same
  obtain ⟨other, chosen, rfl⟩ := List.mem_map.mp (spells.order.mem_iff.mp listed)
  have among' : other ∈ parameters.zip values :=
    List.mem_of_mem_drop (spells.part.subset chosen)
  have equal : entry = other :=
    List.inj_on_of_nodup_map (nodup_names_zip distinct spells.enough) among among' same
  exact left (equal ▸ chosen)

/-- However a call spells its arguments out, it binds the values that it spells. -/
theorem binds : Binds parameters (values.take count) named values := by
  refine ⟨fills_of_supplied spells.enough ?_ ?_, ?_⟩
  · intro parameter listed
    have taken : parameters.take count = ((parameters.zip values).take count).map Prod.fst := by
      rw [List.map_take, List.map_fst_zip (Nat.le_of_eq spells.enough.symm)]
    rw [taken] at listed
    obtain ⟨entry, among, rfl⟩ := List.mem_map.mp listed
    have apart : List.Disjoint ((parameters.zip values).take count)
        ((parameters.zip values).drop count) :=
      List.disjoint_take_drop (nodup_names_zip distinct spells.enough).of_map (Nat.le_refl _)
    have left : entry ∉ given := fun chosen => apart among (spells.part.subset chosen)
    exact spells.lookup_of_left distinct (List.mem_of_mem_take among) left
  · intro entry among
    by_cases chosen : entry ∈ given
    · exact .byName (spells.takes entry chosen) (spells.lookup_of_given distinct chosen)
    · have default := (spells.defaults entry among).resolve_left chosen
      exact .left (spells.lookup_of_left distinct (List.mem_of_mem_drop among) chosen) default
  · intro argument listed
    obtain ⟨entry, chosen, rfl⟩ := List.mem_map.mp (spells.order.mem_iff.mp listed)
    have among : (entry.1, entry.2) ∈ parameters.zip values :=
      List.mem_of_mem_drop (spells.part.subset chosen)
    exact ⟨entry.1, (List.of_mem_zip among).1, spells.takes entry chosen, rfl⟩

end Spells

end Spelling

end Binding

namespace Signature

theorem admit?_eq_some {parameter : Parameter} {progress next : Progress}
    (admitted : progress.admit? parameter = some next) :
    Names.normalForm parameter.name ∉ progress.names ∧
      next.names = Names.normalForm parameter.name :: progress.names := by
  unfold Progress.admit? at admitted
  obtain ⟨_, bindable, admitted⟩ := Option.bind_eq_some_iff.mp admitted
  obtain ⟨_, -, admitted⟩ := Option.bind_eq_some_iff.mp admitted
  cases admitted
  by_cases fresh : progress.names.contains (Names.normalForm parameter.name) = true
  · rw [fresh, Bool.not_true, Bool.and_false] at bindable
    cases bindable
  · refine ⟨fun listed => fresh ?_, rfl⟩
    rw [List.contains_eq_mem]
    exact decide_eq_true listed

/-- Parameters that are admitted one after the other have names of their own, which are none of those
that were there before. -/
theorem nodup_of_admitted {parameters : List Parameter} {progress later : Progress}
    (admitted : parameters.foldlM Progress.admit? progress = some later) :
    (parameters.map fun parameter => Names.normalForm parameter.name).Nodup ∧
      ∀ parameter ∈ parameters, Names.normalForm parameter.name ∉ progress.names := by
  induction parameters generalizing progress with
  | nil => exact ⟨.nil, nofun⟩
  | cons parameter rest ih =>
    rw [List.foldlM_cons, Option.bind_eq_bind, Option.bind_eq_some_iff] at admitted
    obtain ⟨next, first, others⟩ := admitted
    obtain ⟨fresh, names⟩ := admit?_eq_some first
    obtain ⟨distinct, apart⟩ := ih others
    rw [names] at apart
    refine ⟨List.nodup_cons.mpr ⟨?_, distinct⟩, List.forall_mem_cons.mpr ⟨fresh, ?_⟩⟩
    · intro listed
      obtain ⟨other, among, same⟩ := List.mem_map.mp listed
      exact apart other among (same ▸ List.mem_cons_self)
    · exact fun other among old => apart other among (List.mem_cons_of_mem _ old)

theorem names_fixPositions (parameters : List Parameter) :
    (DeclaredFunction.fixPositions parameters).map Parameter.name =
      parameters.map Parameter.name := by
  induction parameters with
  | nil => rfl
  | cons parameter rest ih => rw [DeclaredFunction.fixPositions, List.map_cons, ih, List.map_cons]

theorem names_fixNames (parameters : List Parameter) (byName : Bool) :
    (DeclaredFunction.fixNames byName parameters).map Parameter.name =
      parameters.map Parameter.name := by
  induction parameters generalizing byName with
  | nil => rfl
  | cons parameter rest ih => rw [DeclaredFunction.fixNames, List.map_cons, ih, List.map_cons]

/-- The parameters of a function that may be declared have names of their own. -/
theorem nodup_of_isValid {f : DeclaredFunction} (valid : f.isValid = true) :
    (f.normal.signature.map Parameter.name).Nodup := by
  obtain ⟨later, admitted⟩ := Option.isSome_iff_exists.mp valid
  obtain ⟨distinct, apart⟩ := nodup_of_admitted admitted
  have names : f.normal.parameters.map Parameter.name =
      f.parameters.map fun parameter => Names.normalForm parameter.name := by
    rw [DeclaredFunction.normal, names_fixNames, names_fixPositions, List.map_map]
    rfl
  rw [DeclaredFunction.signature, List.map_cons, names, List.nodup_cons]
  refine ⟨fun listed => ?_, distinct⟩
  obtain ⟨parameter, among, same⟩ := List.mem_map.mp listed
  have receiver : f.normal.receiver.name = DeclaredFunction.receiverName := rfl
  exact apart parameter among (by simp [same, receiver])

end Signature

theorem Runs.forM_eq_ok {ε ι : Type} {check : ι → Except ε Unit} {items : List ι} {u : Unit}
    (h : items.forM check = .ok u) : ∀ item ∈ items, check item = .ok () := by
  induction items with
  | nil => nofun
  | cons item rest ih =>
    obtain ⟨_, first, others⟩ := except_bind_eq_ok.mp h
    exact List.forall_mem_cons.mpr ⟨first, ih others⟩

/-- A function that is read as an operation takes positions alone. -/
theorem Operation.takesPosition_of_read {contract : ClassRef} {f : DeclaredFunction}
    {memory later : Language.Memory} {operation : Operation}
    (h : read contract f memory = .ok operation later) :
    ∀ parameter ∈ f.parameters, Binding.takesPosition parameter = true := by
  replace h := get_bind_eq_ok.mp h
  obtain ⟨types, middle, -, h⟩ := bind_eq_ok.mp h
  obtain ⟨_, checked, -⟩ := lift_bind_eq_ok h
  intro parameter listed
  have passed := forM_eq_ok checked parameter listed
  unfold requirePositional at passed
  unfold Binding.takesPosition
  cases kind : parameter.kind with
  | positional => rfl
  | positionalOnly => rfl
  | _ =>
    rw [kind] at passed
    cases passed

open Binding

namespace LiveObject

variable [Remote β] {object : LiveObject} {method : Method} {f : DeclaredFunction}
  {positions values : List Value} {named : List (String × Value)} {number : Nat} {world : World β}

theorem runMethod_of_binds (bare : object.attributes = []) (declared : method.signature = f.signature)
    (positional : ∀ parameter ∈ f.parameters, takesPosition parameter = true)
    (distinct : (f.signature.map Parameter.name).Nodup)
    (binds : Binds f.parameters positions named values) :
    object.runMethod number method positions named world =
      object.runPlan number method.plan (values.map world.refresh) world := by
  have takes : ∀ parameter ∈ f.signature, takesPosition parameter = true :=
    List.forall_mem_cons.mpr ⟨takesPosition_receiver f, positional⟩
  have bound : bind method.signature (.none :: positions) named = .ok (.none :: values) := by
    rw [declared, bind_eq_ok takes distinct, binds_signature_iff distinct]
    exact ⟨values, rfl, binds⟩
  have unnamed := lookup_receiver_of_binds distinct binds
  rw [runMethod, if_neg (by rw [unnamed]; exact Bool.false_ne_true), ofExcept_bind_of_ok bound]
  exact congrFun (orInstead_of_untouched bare _ _ _ _) world

theorem runMethod_of_unbound (declared : method.signature = f.signature)
    (positional : ∀ parameter ∈ f.parameters, takesPosition parameter = true)
    (distinct : (f.signature.map Parameter.name).Nodup)
    (unbound : ∀ values, ¬ Binds f.parameters positions named values) :
    ∃ failure, object.runMethod number method positions named world = .error failure world ∧
      failure.kind = .wrongType := by
  have takes : ∀ parameter ∈ f.signature, takesPosition parameter = true :=
    List.forall_mem_cons.mpr ⟨takesPosition_receiver f, positional⟩
  rw [runMethod]
  by_cases twice : (named.lookup DeclaredFunction.receiverName).isSome = true
  · rw [if_pos twice]
    exact ⟨_, rfl, rfl⟩
  · have unbound' : ∀ all, ¬ Binds f.signature (.none :: positions) named all := by
      intro all binds
      obtain ⟨values, -, binds⟩ := (binds_signature_iff distinct).mp binds
      exact unbound values binds
    obtain ⟨failure, failed, kind⟩ := bind_of_unbound takes distinct unbound'
    rw [if_neg twice, declared, failed]
    exact ⟨failure, rfl, kind⟩

end LiveObject

namespace World

/-- An object has an operation that a function declares, whose parameters take positions and have
names of their own. -/
structure Offers (world : World β) (number : Nat) (object : LiveObject) (name : String)
    (method : Method) (f : DeclaredFunction) : Prop where
  held : world.objects[number]? = some object
  found : object.implementation.methods.lookup name = some method
  declared : method.signature = f.signature
  positional : ∀ parameter ∈ f.parameters, takesPosition parameter = true
  distinct : (f.signature.map Parameter.name).Nodup

/-- A function that may be declared, and has been read as an operation, is offered under the parameters
it is declared with. -/
theorem offers_of_read {world : World β} {number : Nat} {object : LiveObject} {name : String}
    {method : Method} {g : DeclaredFunction} {contract : ClassRef} {memory later : Language.Memory}
    {operation : Operation}
    (held : world.objects[number]? = some object)
    (found : object.implementation.methods.lookup name = some method)
    (valid : g.isValid = true) (declared : method.signature = g.normal.signature)
    (reads : Operation.read contract g.normal memory = .ok operation later) :
    world.Offers number object name method g.normal where
  held := held
  found := found
  declared := declared
  positional := Operation.takesPosition_of_read reads
  distinct := Signature.nodup_of_isValid valid

variable [Remote β]

/-- What becomes of a call depends on the values that its arguments bind: its plan is run on them, and
on nothing else. Where the arguments do not bind, it fails and leaves the world as it is. -/
structure BindsCalls (world : World β) : Prop where
  bound : ∀ number object name method f positions named values,
    world.Offers number object name method f → Binds f.parameters positions named values →
      (Step.operate number name positions named).run world =
        (world.refreshed object).runPlan number method.plan (values.map world.refresh) world
  unbound : ∀ number object name method f positions named,
    world.Offers number object name method f →
      (∀ values, ¬ Binds f.parameters positions named values) →
        ∃ failure, (Step.operate number name positions named).run world = .error failure world ∧
          failure.kind = .wrongType
  alike : ∀ number object name method f positions named positions' named' values,
    world.Offers number object name method f → Binds f.parameters positions named values →
      Binds f.parameters positions' named' values →
        (Step.operate number name positions named).run world =
          (Step.operate number name positions' named').run world
  /-- However its arguments are spelled out, a call of the same values runs the plan on them. -/
  spelled : ∀ number object name method f count given named values,
    world.Offers number object name method f →
      Spells f.parameters values count given named →
        (Step.operate number name (values.take count) named).run world =
          (world.refreshed object).runPlan number method.plan (values.map world.refresh) world

variable {world : World β} {number : Nat} {object : LiveObject} {name : String} {method : Method}
  {f : DeclaredFunction}

theorem run_of_offers (sound : world.Sound) (offers : world.Offers number object name method f)
    (positions : List Value) (named : List (String × Value)) :
    (world.refreshed object).attributes = [] ∧
      (Step.operate number name positions named).run world =
        (world.refreshed object).runMethod number method positions named world := by
  obtain ⟨bare, operates⟩ := sound.objects object (List.mem_of_getElem? offers.held)
  have operation := LiveObject.operation_of_lookup operates offers.found
  refine ⟨LiveObject.refreshed_untouched bare, ?_⟩
  rw [Step.run, bind_of_ok (get_apply world)]
  simp only [offers.held, offers.found, Option.isSome_some, if_true]
  exact LiveObject.call_operation bare operation offers.found number

theorem run_of_binds (sound : world.Sound) (offers : world.Offers number object name method f)
    {positions values : List Value} {named : List (String × Value)}
    (binds : Binds f.parameters positions named values) :
    (Step.operate number name positions named).run world =
      (world.refreshed object).runPlan number method.plan (values.map world.refresh) world := by
  obtain ⟨bare, runs⟩ := run_of_offers sound offers positions named
  rw [runs]
  exact LiveObject.runMethod_of_binds bare offers.declared offers.positional offers.distinct binds

theorem Sound.bindsCalls (sound : world.Sound) : world.BindsCalls where
  bound _ _ _ _ _ _ _ _ offers binds := run_of_binds sound offers binds
  unbound number object name method f positions named offers unbound := by
    rw [(run_of_offers sound offers positions named).2]
    exact LiveObject.runMethod_of_unbound offers.declared offers.positional offers.distinct unbound
  alike _ _ _ _ _ _ _ _ _ _ offers binds binds' := by
    rw [run_of_binds sound offers binds, run_of_binds sound offers binds']
  spelled _ _ _ _ _ _ _ _ _ offers spells := by
    have distinct := (List.nodup_cons.mp offers.distinct).2
    exact run_of_binds sound offers (spells.binds distinct)

/-- However objects have been created and operated on since nothing was there, calls depend on the
values that their arguments bind alone. -/
theorem bindsCalls_of_run {start : World β} (fresh : start.Fresh) (steps : List Step) :
    (Step.runAll steps start).BindsCalls :=
  (Step.onward_runAll steps fresh.sound.onward).sound.bindsCalls

end World

namespace Lockers

/-- The class of lockers. -/
def locker : ClassRef := { number := 0, name := "Locker" }

/-- The operation of lockers: to click a row, the first one unless another is asked for. -/
def clickRow : DeclaredFunction where
  name := "click_row"
  parameters := [{ name := "group", typeText := some "str" },
    { name := "row", typeText := some "str", default := some (.text "1") }]
  locator := some { kind := .id, template := "row-%s-%s" }

/-- Lockers. -/
def classes : ClassTable where
  classes := [
    { ref := locker, key := "Locker", ancestry := [.defined locker, .page]
      members := [("click_row", .function clickRow)] }]

/-- A world in which no locker has been made. -/
def world : World ScriptedBrowser where
  browser := {}
  clock := default
  classes := classes

theorem fresh : world.Fresh := ⟨rfl, rfl, rfl⟩

/-- The creation of a locker. -/
def makeLocker : Step :=
  .create { session := { page := 0 }, actions := .rehearsed [] [] } (.defined locker) none

/-- The world with a locker in it. -/
def furnished : World ScriptedBrowser := Step.runAll [makeLocker] world

theorem offers : ∃ object method, furnished.Offers 0 object "click_row" method clickRow := by
  obtain ⟨object, held⟩ : ∃ object, furnished.objects[0]? = some object := ⟨_, rfl⟩
  obtain ⟨method, found⟩ : ∃ method,
      object.implementation.methods.lookup "click_row" = some method := by
    cases held
    exact ⟨_, rfl⟩
  refine ⟨object, method, held, found, ?_, ?_, ?_⟩
  · cases held
    cases found
    rfl
  · simp only [clickRow, List.forall_mem_cons]
    exact ⟨rfl, rfl, nofun⟩
  · decide

/-- The fourth row is asked for by position, or by names in any order. -/
theorem row_asked_for :
    world.Fresh ∧ ∃ object method, furnished.Offers 0 object "click_row" method clickRow ∧
      (Step.operate 0 "click_row" [.text "a", .text "4"] []).run furnished =
        (Step.operate 0 "click_row" [] [("row", .text "4"), ("group", .text "a")]).run
          furnished := by
  obtain ⟨object, method, offers⟩ := offers
  have calls : furnished.BindsCalls := World.bindsCalls_of_run fresh [makeLocker]
  have positions : Binds clickRow.parameters [.text "a", .text "4"] [] [.text "a", .text "4"] :=
    ⟨.position rfl (.position rfl .done), nofun⟩
  have names : Binds clickRow.parameters [] [("row", .text "4"), ("group", .text "a")]
      [.text "a", .text "4"] := by
    refine ⟨.supplied (.byName rfl rfl) (.supplied (.byName rfl rfl) .done), ?_⟩
    rintro entry (_ | ⟨_, _ | ⟨_, ⟨⟩⟩⟩)
    · exact ⟨_, List.mem_cons_of_mem _ List.mem_cons_self, rfl, rfl⟩
    · exact ⟨_, List.mem_cons_self, rfl, rfl⟩
  exact ⟨fresh, object, method, offers, calls.alike _ _ _ _ _ _ _ _ _ _ offers positions names⟩

end Lockers
end PageContracts
