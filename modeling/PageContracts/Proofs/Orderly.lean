import PageContracts.Proofs.Sources

/-! # Orderly contracts

Where reading changes no class, the operations of a contract are those of the functions it declares,
and every function that goes by its own name alone is read last of that name where it is nearest. -/
namespace PageContracts

open Runs

namespace Operation

variable {table : ClassTable} {contract owner : ClassRef}

/-- Reading a function changes no class. -/
def Quiet (table : ClassTable) (contract : ClassRef) (f : DeclaredFunction) : Prop :=
  ∀ (memory later : Language.Memory) (operation : Operation), memory.table = table →
    read contract f memory = .ok operation later → later.table = table

/-- A contract whose classes have each name once, and whose functions can be read without changing a
class. -/
structure Orderly (table : ClassTable) (contract : ClassRef) : Prop where
  current : ∀ info ∈ table.lineage (.defined contract), table.info? info.ref = some info
  distinct : ∀ info ∈ table.lineage (.defined contract), (info.members.map Prod.fst).Nodup
  quiet : ∀ info ∈ table.lineage (.defined contract), ∀ entry ∈ functionsIn info.members,
    Quiet table contract entry.2

theorem functionsIn_cons (entry : String × Member) (rest : List (String × Member)) :
    functionsIn (entry :: rest) = functionsIn [entry] ++ functionsIn rest :=
  List.filterMap_append (l := [entry])

theorem functionsIn_singleton (entry : String × Member) :
    functionsIn [entry] = [] ∨ ∃ f, functionsIn [entry] = [(entry.1, f)] := by
  obtain ⟨name, member⟩ := entry
  cases member with
  | function f =>
    by_cases shown : isPublic name
    · exact .inr ⟨f, by simp [functionsIn, shown]⟩
    · exact .inl (by simp [functionsIn, shown])
  | _ => exact .inl rfl

theorem name_of_functionsIn {members : List (String × Member)} {name : String}
    {f : DeclaredFunction} (h : (name, f) ∈ functionsIn members) :
    name ∈ members.map Prod.fst := by
  induction members with
  | nil => cases h
  | cons entry rest ih =>
    rw [functionsIn_cons] at h
    rw [List.map_cons, List.mem_cons]
    rcases List.mem_append.mp h with here | there
    · rcases functionsIn_singleton entry with none | ⟨g, only⟩
      · rw [none] at here
        cases here
      · rw [only, List.mem_singleton] at here
        exact .inl (congrArg Prod.fst here)
    · exact .inr (ih there)

/-- Where names are distinct, what a class has under the name of an entry is that entry. -/
theorem lookup_functionsIn {members : List (String × Member)}
    (distinct : (members.map Prod.fst).Nodup) {entry : String × Member} (listed : entry ∈ members) :
    (functionsIn members).lookup entry.1 = (functionsIn [entry]).lookup entry.1 := by
  induction members with
  | nil => cases listed
  | cons first rest ih =>
    obtain ⟨fresh, distinct⟩ := List.nodup_cons.mp distinct
    rw [functionsIn_cons, List.lookup_append]
    rcases List.mem_cons.mp listed with rfl | listed
    · have absent : (functionsIn rest).lookup entry.1 = none := by
        refine List.lookup_eq_none_iff.mpr fun ⟨name, f⟩ found => ?_
        refine bne_iff_ne.mpr ?_
        rintro rfl
        exact fresh (name_of_functionsIn found)
      rw [absent, Option.or_none]
    · have differs : entry.1 ≠ first.1 := by
        intro same
        exact fresh (same ▸ List.mem_map_of_mem listed)
      rw [ih distinct listed]
      rcases functionsIn_singleton first with none | ⟨g, only⟩
      · simp [none]
      · simp [only, List.lookup_cons, beq_false_of_ne differs]

theorem requireSize_eq_ok {count : Nat} {u : Unit} {memory later : Language.Memory}
    (h : requireSize owner count memory = .ok u later) : later = memory := by
  replace h := get_bind_eq_ok.mp h
  split at h
  · cases h
  · cases h
    rfl

/-- Where reading is quiet, the functions that are read from a class are those that are collected.
-/
theorem collect_of_readMembersFrom {entries : List (String × Member)}
    (known : ∀ entry ∈ entries,
      functionOf? table owner entry.1 = (functionsIn [entry]).lookup entry.1)
    (quiet : ∀ entry ∈ functionsIn entries, Quiet table contract entry.2)
    {count : Nat} {seen seen' : List String} {found : List (DeclaredFunction × Operation)}
    {memory later : Language.Memory} (same : memory.table = table)
    (h : readMembersFrom contract owner count (entries.map Prod.fst) seen memory =
      .ok (seen', found) later) :
    later.table = table ∧ ∀ more,
      collect seen (functionsIn entries ++ more) = found.map Prod.fst ++ collect seen' more := by
  -- Here `more` are the functions of the classes further on, which the names seen by then bear on.
  induction entries generalizing seen seen' found memory with
  | nil =>
    cases h
    exact ⟨same, fun more => rfl⟩
  | cons entry rest ih =>
    obtain ⟨own, known'⟩ := List.forall_mem_cons.mp known
    rw [functionsIn_cons] at quiet ⊢
    obtain ⟨quiet, quiet'⟩ := List.forall_mem_append.mp quiet
    replace h := get_bind_eq_ok.mp h
    dsimp only at h
    rw [same, own] at h
    rcases functionsIn_singleton entry with none | ⟨f, only⟩
    · rw [none] at h ⊢
      exact ih known' quiet' same (by simpa using h)
    · rw [only] at quiet h ⊢
      rw [List.lookup_cons_self] at h
      simp only [List.cons_append, collect]
      cases met : seen.contains entry.1 with
      | true =>
        simp only [met, if_true] at h ⊢
        exact ih known' quiet' same h
      | false =>
        simp only [met, Bool.false_eq_true, if_false] at h ⊢
        obtain ⟨operation, middle, read, h⟩ := bind_eq_ok.mp h
        have same' : middle.table = table := quiet _ List.mem_cons_self _ _ _ same read
        obtain ⟨_, _, sized, h⟩ := bind_eq_ok.mp h
        obtain ⟨⟨_, others⟩, _, more, h⟩ := bind_eq_ok.mp h
        cases h
        obtain rfl := requireSize_eq_ok sized
        obtain ⟨ended, collected⟩ := ih known' quiet' same' more
        exact ⟨ended, fun more => congrArg (f :: ·) (collected more)⟩

theorem collect_of_readClassesFrom {infos : List ClassInfo}
    (current : ∀ info ∈ infos, table.info? info.ref = some info)
    (distinct : ∀ info ∈ infos, (info.members.map Prod.fst).Nodup)
    (quiet : ∀ info ∈ infos, ∀ entry ∈ functionsIn info.members, Quiet table contract entry.2)
    {seen : List String} {found : List (DeclaredFunction × Operation)}
    {memory later : Language.Memory} (same : memory.table = table)
    (h : readClassesFrom contract (infos.map ClassInfo.ref) seen memory = .ok found later) :
    found.map Prod.fst = collect seen (infos.flatMap fun info => functionsIn info.members) := by
  induction infos generalizing seen found memory with
  | nil =>
    cases h
    rfl
  | cons info rest ih =>
    obtain ⟨known, current⟩ := List.forall_mem_cons.mp current
    obtain ⟨nodup, distinct⟩ := List.forall_mem_cons.mp distinct
    obtain ⟨calm, quiet⟩ := List.forall_mem_cons.mp quiet
    have members : table.ownMembers (.defined info.ref) = info.members := by
      rw [ClassTable.ownMembers, known]
      rfl
    replace h := get_bind_eq_ok.mp h
    dsimp only at h
    rw [same, members] at h
    obtain ⟨⟨seen', own⟩, middle, first, h⟩ := bind_eq_ok.mp h
    obtain ⟨others, _, more, h⟩ := bind_eq_ok.mp h
    cases h
    have offered : ∀ entry ∈ info.members,
        functionOf? table info.ref entry.1 = (functionsIn [entry]).lookup entry.1 := by
      intro entry listed
      rw [functionOf?, members]
      exact lookup_functionsIn nodup listed
    obtain ⟨same', collected⟩ := collect_of_readMembersFrom offered calm same first
    have remaining := ih current distinct quiet same' more
    rw [List.flatMap_cons, collected, List.map_append, remaining]

/-- What is read of an orderly contract are the functions it declares. -/
theorem sources_of_orderly {found : List (DeclaredFunction × Operation)}
    {memory later : Language.Memory} (orderly : Orderly memory.table contract)
    (h : sources contract memory = .ok found later) :
    found.map Prod.fst = declaredFunctions memory.table contract := by
  replace h := get_bind_eq_ok.mp h
  obtain ⟨read, _, reading, h⟩ := bind_eq_ok.mp h
  replace h := get_bind_eq_ok.mp h
  cases h
  rw [List.map_map]
  exact collect_of_readClassesFrom orderly.current orderly.distinct orderly.quiet rfl reading

theorem mapM_parameterType {parameters : List Parameter}
    (bare : ∀ parameter ∈ parameters, parameter.typeText = none) (memory : Language.Memory) :
    parameters.mapM parameterType memory = .ok (parameters.map fun _ => .anything) memory := by
  induction parameters with
  | nil => rfl
  | cons parameter rest ih =>
    obtain ⟨untyped, bare⟩ := List.forall_mem_cons.mp bare
    have here : parameterType parameter memory = .ok .anything memory := by
      rw [parameterType, untyped]
      rfl
    rw [List.mapM_cons, bind_of_ok here, bind_of_ok (ih bare)]
    rfl

/-- A function without annotations is read quietly. -/
theorem quiet_of_bare {f : DeclaredFunction} (returns : f.returns = none)
    (bare : ∀ parameter ∈ f.parameters, parameter.typeText = none) : Quiet table contract f := by
  have untyped (memory : Language.Memory) :
      annotatedTypes f memory = .ok (f.parameters.map fun _ => .anything, none) memory := by
    rw [annotatedTypes, bind_of_ok (mapM_parameterType bare memory), declaredReturn, returns]
    rfl
  intro memory later operation same h
  replace h := get_bind_eq_ok.mp h
  obtain ⟨types, middle, typed, h⟩ := bind_eq_ok.mp h
  obtain ⟨_, -, h⟩ := lift_bind_eq_ok h
  replace h := get_bind_eq_ok.mp h
  obtain ⟨_, -, h⟩ := lift_bind_eq_ok h
  cases h
  rw [typesOf, untyped] at typed
  cases typed
  exact same

/-- A contract with distinct names and without annotations is orderly. -/
theorem orderly_of_bare
    (current : ∀ info ∈ table.lineage (.defined contract), table.info? info.ref = some info)
    (distinct : ∀ info ∈ table.lineage (.defined contract), (info.members.map Prod.fst).Nodup)
    (bare : ∀ info ∈ table.lineage (.defined contract), ∀ entry ∈ functionsIn info.members,
      entry.2.returns = none ∧ ∀ parameter ∈ entry.2.parameters, parameter.typeText = none) :
    Orderly table contract where
  current := current
  distinct := distinct
  quiet info listed entry found :=
    quiet_of_bare (bare info listed entry found).1 (bare info listed entry found).2

theorem lookup_functionsIn_of_function {members : List (String × Member)} {name : String}
    {f : DeclaredFunction} (shown : isPublic name = true)
    (h : members.lookup name = some (.function f)) :
    (functionsIn members).lookup name = some f := by
  induction members with
  | nil => cases h
  | cons entry rest ih =>
    obtain ⟨key, member⟩ := entry
    by_cases here : name = key
    · subst here
      rw [List.lookup_cons_self] at h
      cases h
      simp [functionsIn, shown]
    · rw [List.lookup_cons, beq_false_of_ne here] at h
      rw [functionsIn_cons, List.lookup_append, ih h]
      rcases functionsIn_singleton (key, member) with none | ⟨g, only⟩
      · simp [none]
      · simp [only, List.lookup_cons, beq_false_of_ne here]

theorem lookup_functionsIn_of_absent {members : List (String × Member)} {name : String}
    (h : members.lookup name = none) : (functionsIn members).lookup name = none := by
  refine List.lookup_eq_none_iff.mpr fun ⟨other, f⟩ found => bne_iff_ne.mpr ?_
  rintro rfl
  obtain ⟨entry, listed, same⟩ := List.mem_map.mp (name_of_functionsIn found)
  exact bne_iff_ne.mp (List.lookup_eq_none_iff.mp h entry listed) same.symm

/-- The functions of a contract and its ancestors, nearest first, with the names they are found
under. -/
def inheritedFunctions (table : ClassTable) (contract : ClassRef) :
    List (String × DeclaredFunction) :=
  (table.lineage (.defined contract)).flatMap fun info => functionsIn info.members

/-- A nearest member that is a function is the nearest function. -/
theorem lookup_inheritedFunctions {name : String} {f : DeclaredFunction}
    (shown : isPublic name = true)
    (h : table.member? (.defined contract) name = some (.function f)) :
    (inheritedFunctions table contract).lookup name = some f := by
  unfold ClassTable.member? ClassTable.memberAmong? at h
  unfold inheritedFunctions ClassTable.lineage
  generalize table.ancestry (.defined contract) = types at h ⊢
  induction types with
  | nil => cases h
  | cons type rest ih =>
    rw [List.findSome?_cons] at h
    cases type with
    | defined ref =>
      cases known : table.info? ref with
      | none =>
        simp only [ClassTable.ownMembers, known] at h
        simpa [known] using ih h
      | some info =>
        simp only [ClassTable.ownMembers, known, Option.map_some, Option.getD_some] at h
        simp only [List.filterMap_cons, known, List.flatMap_cons, List.lookup_append]
        cases own : info.members.lookup name with
        | none =>
          rw [own] at h
          rw [lookup_functionsIn_of_absent own, Option.none_or]
          exact ih h
        | some member =>
          rw [own] at h
          cases h
          rw [lookup_functionsIn_of_function shown own, Option.some_or]
    | panel | page =>
      simp only [ClassTable.ownMembers, List.lookup_cons, List.lookup_nil] at h
      cases marked : name == Capability.memberName with
      | true =>
        rw [marked] at h
        cases h
      | false =>
        rw [marked] at h
        exact ih h
    | _ => exact ih h

/-- Where functions go by the names they are found under, only one of those with a name is
collected, and that is the first. -/
theorem lastNamed_collect {entries : List (String × DeclaredFunction)}
    (own : ∀ entry ∈ entries, entry.2.name = entry.1) (seen : List String) (name : String) :
    lastNamed name (collect seen entries) =
      if name ∈ seen then none else entries.lookup name := by
  induction entries generalizing seen with
  | nil => simp [collect, lastNamed]
  | cons entry rest ih =>
    obtain ⟨key, f⟩ := entry
    obtain ⟨named, own'⟩ := List.forall_mem_cons.mp own
    dsimp only at named
    simp only [collect, List.contains_iff_mem]
    by_cases here : name = key
    · subst here
      by_cases met : name ∈ seen
      · simp [ih own', met]
      · simp [lastNamed_cons, ih own', named, met]
    · have elsewhere : (name == key) = false := beq_false_of_ne here
      have other : f.name ≠ name := fun same => here (same.symm.trans named)
      by_cases met : key ∈ seen
      · simp [ih own', List.lookup_cons, elsewhere, met]
      · simp [lastNamed_cons, ih own', List.lookup_cons, elsewhere, other, here, met]

/-- Where the functions of an orderly contract go by the names they are found under, each that is
exposed is the one that is read last of its name. -/
theorem lastNamed_of_orderly {found : List (DeclaredFunction × Operation)}
    {memory later : Language.Memory} (orderly : Orderly memory.table contract)
    (own : ∀ entry ∈ inheritedFunctions memory.table contract, entry.2.name = entry.1)
    (h : sources contract memory = .ok found later) {name : String} {f : DeclaredFunction}
    (shown : isPublic name = true)
    (nearest : memory.table.member? (.defined contract) name = some (.function f)) :
    lastNamed name (found.map Prod.fst) = some f := by
  have collected := lastNamed_collect own [] name
  rw [lookup_inheritedFunctions shown nearest, if_neg List.not_mem_nil] at collected
  rw [sources_of_orderly orderly h]
  exact collected

end Operation
end PageContracts
