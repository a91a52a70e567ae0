import PageContracts.Proofs.Inward
import PageContracts.Proofs.Orderly

/-! # Reading one function after the other

The functions of a contract are read class by class, nearest first, and within a class in the order in
which they are defined. What is read may change what is still to be read, so a function counts as it is
when its turn comes. Reading ends with the first function that cannot be read. -/
namespace PageContracts.Operation

open Runs

variable {contract owner : ClassRef} {count : Nat} {names seen : List String}
  {owners : List ClassRef} {memory moment later : Language.Memory} {f : DeclaredFunction}
  {read : List (DeclaredFunction × Operation)} {failure : Failure}

/-- The function that a class has under a name, unless the name was met before. -/
def unmet? (owner : ClassRef) (seen : List String) (memory : Language.Memory) (name : String) :
    Option DeclaredFunction :=
  if seen.contains name then none else functionOf? memory.table owner name

/-- Reading the members of a class comes to a function at some moment, with what has been read before. -/
inductive MeetsIn (contract owner : ClassRef) (count : Nat) : List String → List String →
    Language.Memory → List (DeclaredFunction × Operation) → DeclaredFunction →
      Language.Memory → Prop where
  | here {name : String} {rest seen : List String} {memory : Language.Memory} {f : DeclaredFunction}
      (found : unmet? owner seen memory name = some f) :
      MeetsIn contract owner count (name :: rest) seen memory [] f memory
  | past {name : String} {rest seen : List String} {memory moment : Language.Memory}
      {read : List (DeclaredFunction × Operation)} {f : DeclaredFunction}
      (passed : unmet? owner seen memory name = none)
      (meets : MeetsIn contract owner count rest seen memory read f moment) :
      MeetsIn contract owner count (name :: rest) seen memory read f moment
  | behind {name : String} {rest seen : List String} {memory middle moment : Language.Memory}
      {read : List (DeclaredFunction × Operation)} {first f : DeclaredFunction}
      {operation : Operation} (found : unmet? owner seen memory name = some first)
      (reads : Operation.read contract first memory = .ok operation middle)
      (sized : requireSize owner count middle = .ok () middle)
      (meets : MeetsIn contract owner count rest (name :: seen) middle read f moment) :
      MeetsIn contract owner count (name :: rest) seen memory ((first, operation) :: read) f moment

/-- Reading classes comes to a function, in one of them or behind those that have been read. -/
inductive Meets (contract : ClassRef) : List ClassRef → List String → Language.Memory →
    List (DeclaredFunction × Operation) → DeclaredFunction → Language.Memory → Prop where
  | inside {owner : ClassRef} {rest : List ClassRef} {seen : List String}
      {memory moment : Language.Memory} {read : List (DeclaredFunction × Operation)}
      {f : DeclaredFunction}
      (meets : MeetsIn contract owner (memory.table.ownMembers (.defined owner)).length
        ((memory.table.ownMembers (.defined owner)).map Prod.fst) seen memory read f moment) :
      Meets contract (owner :: rest) seen memory read f moment
  | beyond {owner : ClassRef} {rest : List ClassRef} {seen seen' : List String}
      {memory middle moment : Language.Memory} {own read : List (DeclaredFunction × Operation)}
      {f : DeclaredFunction}
      (reads : readMembersFrom contract owner (memory.table.ownMembers (.defined owner)).length
        ((memory.table.ownMembers (.defined owner)).map Prod.fst) seen memory =
          .ok (seen', own) middle)
      (meets : Meets contract rest seen' middle read f moment) :
      Meets contract (owner :: rest) seen memory (own ++ read) f moment

/-- Reading a contract comes to a function at some moment, with what has been read of it before. -/
def Reaches (contract : ClassRef) (memory : Language.Memory)
    (read : List (DeclaredFunction × Operation)) (f : DeclaredFunction)
    (moment : Language.Memory) : Prop :=
  Meets contract ((memory.table.lineage (.defined contract)).map ClassInfo.ref) [] memory read f
    moment

theorem readMembersFrom_cons (name : String) (rest seen : List String) (memory : Language.Memory) :
    readMembersFrom contract owner count (name :: rest) seen memory =
      match unmet? owner seen memory name with
      | none => readMembersFrom contract owner count rest seen memory
      | some f => (Operation.read contract f >>= fun operation => requireSize owner count >>= fun _ =>
          readMembersFrom contract owner count rest (name :: seen) >>= fun others =>
            pure (others.1, (f, operation) :: others.2)) memory := by
  rw [readMembersFrom, bind_of_ok (get_apply memory)]
  dsimp only
  rw [← unmet?]
  cases unmet? owner seen memory name <;> rfl

/-- A class has another number of members than when the reading of them began. -/
theorem kind_of_requireSize (h : requireSize owner count memory = .error failure later) :
    failure.kind = .outOfTurn := by
  rw [requireSize, bind_of_ok (get_apply memory)] at h
  split at h
  · cases h
    rfl
  · cases h

/-- A function that cannot be read when its turn comes ends the reading of its class. -/
theorem MeetsIn.ends (meets : MeetsIn contract owner count names seen memory read f moment)
    (failed : Operation.read contract f moment = .error failure later) :
    readMembersFrom contract owner count names seen memory = .error failure later := by
  induction meets with
  | here found =>
    rw [readMembersFrom_cons, found]
    exact bind_of_error failed _
  | past passed _ ih =>
    rw [readMembersFrom_cons, passed]
    exact ih failed
  | behind found reads sized _ ih =>
    rw [readMembersFrom_cons, found]
    dsimp only
    rw [bind_of_ok reads, bind_of_ok sized, bind_of_error (ih failed)]

theorem Meets.ends (meets : Meets contract owners seen memory read f moment)
    (failed : Operation.read contract f moment = .error failure later) :
    readClassesFrom contract owners seen memory = .error failure later := by
  induction meets with
  | inside meets =>
    rw [readClassesFrom, bind_of_ok (get_apply _)]
    exact bind_of_error (meets.ends failed) _
  | beyond reads _ ih =>
    rw [readClassesFrom, bind_of_ok (get_apply _), bind_of_ok reads]
    exact bind_of_error (ih failed) _

theorem sources_of_reaches (reaches : Reaches contract memory read f moment)
    (failed : Operation.read contract f moment = .error failure later) :
    sources contract memory = .error failure later := by
  rw [sources, bind_of_ok (get_apply memory)]
  exact bind_of_error (Meets.ends reaches failed) _

/-- Reading the members of a class ends with the first function that cannot be read, unless their number
has changed. -/
theorem meetsIn_of_error
    (h : readMembersFrom contract owner count names seen memory = .error failure later)
    (other : failure.kind ≠ .outOfTurn) :
    ∃ read f moment, MeetsIn contract owner count names seen memory read f moment ∧
      Operation.read contract f moment = .error failure later := by
  induction names generalizing seen memory with
  | nil => cases h
  | cons name rest ih =>
    rw [readMembersFrom_cons] at h
    cases found : unmet? owner seen memory name with
    | none =>
      rw [found] at h
      obtain ⟨read, f, moment, meets, failed⟩ := ih h
      exact ⟨read, f, moment, .past found meets, failed⟩
    | some first =>
      rw [found] at h
      rcases bind_eq_error.mp h with failed | ⟨operation, middle, reads, h⟩
      · exact ⟨[], first, memory, .here found, failed⟩
      rcases bind_eq_error.mp h with resized | ⟨_, _, sized, going⟩
      · exact absurd (kind_of_requireSize resized) other
      obtain rfl := requireSize_eq_ok sized
      rcases bind_eq_error.mp going with ended | ⟨_, _, -, ended⟩
      · obtain ⟨read, f, moment, meets, failed⟩ := ih ended
        exact ⟨_, f, moment, .behind found reads sized meets, failed⟩
      · cases ended

theorem meets_of_error (h : readClassesFrom contract owners seen memory = .error failure later)
    (other : failure.kind ≠ .outOfTurn) :
    ∃ read f moment, Meets contract owners seen memory read f moment ∧
      Operation.read contract f moment = .error failure later := by
  induction owners generalizing seen memory with
  | nil => cases h
  | cons owner rest ih =>
    rw [readClassesFrom, bind_of_ok (get_apply memory)] at h
    rcases bind_eq_error.mp h with h | ⟨⟨seen', own⟩, middle, reads, h⟩
    · obtain ⟨read, f, moment, meets, failed⟩ := meetsIn_of_error h other
      exact ⟨read, f, moment, .inside meets, failed⟩
    rcases bind_eq_error.mp h with h | ⟨_, _, -, h⟩
    · obtain ⟨read, f, moment, meets, failed⟩ := ih h
      exact ⟨own ++ read, f, moment, .beyond reads meets, failed⟩
    · cases h

/-- What has been read was met in its turn, with all that was read before it. -/
theorem meetsIn_of_ok {seen' : List String} {front back : List (DeclaredFunction × Operation)}
    {operation : Operation}
    (h : readMembersFrom contract owner count names seen memory =
      .ok (seen', front ++ (f, operation) :: back) later) :
    ∃ moment after, MeetsIn contract owner count names seen memory front f moment ∧
      Operation.read contract f moment = .ok operation after := by
  induction names generalizing seen memory front with
  | nil =>
    cases front <;> cases h
  | cons name rest ih =>
    rw [readMembersFrom_cons] at h
    cases found : unmet? owner seen memory name with
    | none =>
      rw [found] at h
      obtain ⟨moment, after, meets, reads⟩ := ih h
      exact ⟨moment, after, .past found meets, reads⟩
    | some first =>
      rw [found] at h
      obtain ⟨one, middle, reads, h⟩ := bind_eq_ok.mp h
      obtain ⟨_, _, sized, going⟩ := bind_eq_ok.mp h
      obtain rfl := requireSize_eq_ok sized
      obtain ⟨⟨_, others⟩, _, more, ended⟩ := bind_eq_ok.mp going
      cases front with
      | nil =>
        cases ended
        exact ⟨_, _, .here found, reads⟩
      | cons source front =>
        cases ended
        obtain ⟨moment, after, meets, reads'⟩ := ih more
        exact ⟨moment, after, .behind found reads sized meets, reads'⟩

theorem meets_of_ok {front back : List (DeclaredFunction × Operation)} {operation : Operation}
    (h : readClassesFrom contract owners seen memory = .ok (front ++ (f, operation) :: back) later) :
    ∃ moment after, Meets contract owners seen memory front f moment ∧
      Operation.read contract f moment = .ok operation after := by
  induction owners generalizing seen memory front later with
  | nil =>
    cases front <;> cases h
  | cons owner rest ih =>
    rw [readClassesFrom, bind_of_ok (get_apply memory)] at h
    obtain ⟨⟨seen', own⟩, middle, reads, h⟩ := bind_eq_ok.mp h
    obtain ⟨others, _, more, h⟩ := bind_eq_ok.mp h
    have listed : own ++ others = front ++ (f, operation) :: back := (EStateM.Result.ok.inj h).1
    -- The split lies among the classes behind this one, or among its own functions.
    rcases List.append_eq_append_iff.mp listed with ⟨between, rfl, rfl⟩ | ⟨between, rfl, same⟩
    · obtain ⟨moment, after, meets, read⟩ := ih more
      exact ⟨moment, after, .beyond reads meets, read⟩
    · cases between with
      | nil =>
        rw [List.nil_append] at same
        subst same
        rw [← List.nil_append ((f, operation) :: back)] at more
        obtain ⟨moment, after, meets, read⟩ := ih more
        exact ⟨moment, after, by simpa using Meets.beyond reads meets, read⟩
      | cons source between =>
        cases same
        obtain ⟨moment, after, meets, read⟩ := meetsIn_of_ok reads
        exact ⟨moment, after, .inside meets, read⟩

theorem functionOf_of_unmet {name : String} (found : unmet? owner seen memory name = some f) :
    functionOf? memory.table owner name = some f := by
  rw [unmet?] at found
  split at found
  · cases found
  · exact found

theorem MeetsIn.held (meets : MeetsIn contract owner count names seen memory read f moment) :
    ∃ name, functionOf? moment.table owner name = some f := by
  induction meets with
  | here found => exact ⟨_, functionOf_of_unmet found⟩
  | past _ _ ih => exact ih
  | behind _ _ _ _ ih => exact ih

/-- A function that is met is one that a class has at that moment. -/
theorem Meets.held (meets : Meets contract owners seen memory read f moment) :
    ∃ owner ∈ owners, ∃ name, functionOf? moment.table owner name = some f := by
  induction meets with
  | inside meets => exact ⟨_, List.mem_cons_self, meets.held⟩
  | beyond _ _ ih =>
    obtain ⟨owner, listed, held⟩ := ih
    exact ⟨owner, List.mem_cons_of_mem _ listed, held⟩

/-- What is read of a function is of its name, and owned by the contract as it is called then. -/
theorem named_of_read {operation : Operation}
    (h : Operation.read contract f memory = .ok operation later) :
    operation.owner = (memory.table.current contract).name ∧ operation.name = f.name := by
  replace h := get_bind_eq_ok.mp h
  obtain ⟨types, _, -, h⟩ := bind_eq_ok.mp h
  obtain ⟨_, -, h⟩ := lift_bind_eq_ok h
  replace h := get_bind_eq_ok.mp h
  obtain ⟨_, -, h⟩ := lift_bind_eq_ok h
  cases h
  exact ⟨rfl, rfl⟩

/-- What is read of a contract is reached in its turn, and stands in the end as it was read then, with
every class as it is called in the end. -/
theorem reaches_of_sources {found : List (DeclaredFunction × Operation)}
    (h : sources contract memory = .ok found later) {operation : Operation}
    (listed : (f, operation) ∈ found) :
    ∃ read moment own after, Reaches contract memory read f moment ∧
      Operation.read contract f moment = .ok own after ∧
        operation = own.mapClasses later.table.current := by
  replace h := get_bind_eq_ok.mp h
  obtain ⟨own, _, reading, h⟩ := bind_eq_ok.mp h
  replace h := get_bind_eq_ok.mp h
  cases h
  obtain ⟨⟨_, declared⟩, among, same⟩ := List.mem_map.mp listed
  cases same
  obtain ⟨front, back, rfl⟩ := List.append_of_mem among
  obtain ⟨moment, after, meets, read⟩ := meets_of_ok reading
  exact ⟨front, moment, declared, after, meets, read, rfl⟩

/-- Where reading is quiet, the functions of a class are met with the classes as they were. -/
theorem MeetsIn.table_eq {table : ClassTable}
    (quiet : ∀ entry ∈ functionsIn (table.ownMembers (.defined owner)),
      Quiet table contract entry.2)
    (meets : MeetsIn contract owner count names seen memory read f moment)
    (same : memory.table = table) : moment.table = table := by
  induction meets with
  | here _ => exact same
  | past _ _ ih => exact ih same
  | @behind name rest seen memory middle _ _ first _ operation found reads _ _ ih =>
    have listed : (name, first) ∈ functionsIn (table.ownMembers (.defined owner)) := by
      have held := functionOf_of_unmet found
      rw [functionOf?, same] at held
      obtain ⟨front, back, split, -⟩ := List.lookup_eq_some_iff.mp held
      rw [split]
      simp
    exact ih (quiet _ listed _ _ _ same reads)

theorem Meets.table_eq {table : ClassTable} {infos : List ClassInfo}
    (current : ∀ info ∈ infos, table.info? info.ref = some info)
    (distinct : ∀ info ∈ infos, (info.members.map Prod.fst).Nodup)
    (quiet : ∀ info ∈ infos, ∀ entry ∈ functionsIn info.members, Quiet table contract entry.2)
    (meets : Meets contract (infos.map ClassInfo.ref) seen memory read f moment)
    (same : memory.table = table) : moment.table = table := by
  induction infos generalizing seen memory read with
  | nil => cases meets
  | cons info rest ih =>
    obtain ⟨known, current⟩ := List.forall_mem_cons.mp current
    obtain ⟨nodup, distinct⟩ := List.forall_mem_cons.mp distinct
    obtain ⟨calm, quiet⟩ := List.forall_mem_cons.mp quiet
    have members : table.ownMembers (.defined info.ref) = info.members := by
      rw [ClassTable.ownMembers, known]
      rfl
    rw [List.map_cons] at meets
    cases meets with
    | inside meets =>
      rw [← members] at calm
      exact meets.table_eq calm same
    | beyond reads meets =>
      have offered : ∀ entry ∈ info.members,
          functionOf? table info.ref entry.1 = (functionsIn [entry]).lookup entry.1 := by
        intro entry listed
        rw [functionOf?, members]
        exact lookup_functionsIn nodup listed
      rw [same, members] at reads
      have same' := (collect_of_readMembersFrom offered calm same reads).1
      exact ih current distinct quiet meets same'

/-- A function of an orderly contract is reached with the classes as they were. -/
theorem table_of_reaches (orderly : Orderly memory.table contract)
    (reaches : Reaches contract memory read f moment) : moment.table = memory.table :=
  reaches.table_eq orderly.current orderly.distinct orderly.quiet rfl

theorem memory_of_readMembersFrom_nil {seen' : List String}
    (h : readMembersFrom contract owner count names seen memory = .ok (seen', []) later) :
    later = memory := by
  induction names generalizing seen with
  | nil =>
    cases h
    rfl
  | cons name rest ih =>
    rw [readMembersFrom_cons] at h
    cases found : unmet? owner seen memory name with
    | none =>
      rw [found] at h
      exact ih h
    | some first =>
      rw [found] at h
      obtain ⟨_, _, -, h⟩ := bind_eq_ok.mp h
      obtain ⟨_, _, -, h⟩ := bind_eq_ok.mp h
      obtain ⟨_, _, -, h⟩ := bind_eq_ok.mp h
      cases h

theorem memory_of_readClassesFrom_nil
    (h : readClassesFrom contract owners seen memory = .ok [] later) : later = memory := by
  induction owners generalizing seen memory with
  | nil =>
    cases h
    rfl
  | cons owner rest ih =>
    rw [readClassesFrom, bind_of_ok (get_apply memory)] at h
    obtain ⟨⟨seen', own⟩, middle, reads, h⟩ := bind_eq_ok.mp h
    obtain ⟨others, ended, more, h⟩ := bind_eq_ok.mp h
    have nothing : own ++ others = [] := (EStateM.Result.ok.inj h).1
    obtain rfl : ended = later := (EStateM.Result.ok.inj h).2
    obtain ⟨rfl, rfl⟩ := List.append_eq_nil_iff.mp nothing
    rw [ih more, memory_of_readMembersFrom_nil reads]

/-- Where there is nothing to read, reading changes nothing. -/
theorem memory_of_sources_nil (h : sources contract memory = .ok [] later) : later = memory := by
  replace h := get_bind_eq_ok.mp h
  obtain ⟨own, _, reading, h⟩ := bind_eq_ok.mp h
  replace h := get_bind_eq_ok.mp h
  have nothing := (EStateM.Result.ok.inj h).1
  obtain rfl := (EStateM.Result.ok.inj h).2
  rw [List.map_eq_nil_iff.mp nothing] at reading
  exact memory_of_readClassesFrom_nil reading

/-- What can only fail by a mishap does not fail in compiling a contract. -/
theorem not_error_of_onlyMishaps {α : Type} {result : Except Failure α} (h : OnlyMishaps result)
    (synthesis : failure.kind.isSynthesis = true) : result ≠ .error failure := by
  intro failed
  rw [h failure failed] at synthesis
  cases synthesis

theorem lift_bind_eq_error {α γ : Type} {result : Except Failure α} {next : α → Language.Eval γ}
    (h : ((monadLift result : Language.Eval α) >>= next) memory = .error failure later) :
    result = .error failure ∨ ∃ a, result = .ok a ∧ next a memory = .error failure later := by
  cases result with
  | error other =>
    cases h
    exact .inl rfl
  | ok a => exact .inr ⟨a, rfl, h⟩

theorem isContract_onlyMishaps (table : ClassTable) (type : TypeRef) :
    OnlyMishaps (table.isContract type) :=
  (table.capability_onlyMishaps type).bind fun _ _ => .ok _

theorem classifyReturn_onlyMishaps (table : ClassTable) (type : TypeRef)
    (returned : Option TypeRef) : OnlyMishaps (classifyReturn table type returned) := by
  unfold classifyReturn
  split
  · exact .ok _
  · refine .ite (.ok _) (.ite (.ok _) ?_)
    refine (isContract_onlyMishaps table _).bind fun marked _ => ?_
    split
    · exact .ok _
    · refine (table.capability_onlyMishaps _).bind fun capability _ => ?_
      split <;> exact .ok _

theorem requirePositional_eq_error {name : String} {parameters : List Parameter}
    (h : parameters.forM (requirePositional contract name) = .error failure) :
    failure.contract = some contract.name ∧ failure.operation = some name := by
  induction parameters with
  | nil => cases h
  | cons parameter rest ih =>
    have going : (requirePositional contract name parameter >>= fun _ =>
        rest.forM (requirePositional contract name)) = .error failure := h
    cases first : requirePositional contract name parameter with
    | ok _ =>
      rw [first] at going
      exact ih going
    | error other =>
      rw [first] at going
      cases going
      unfold requirePositional at first
      split at first
      · cases first
      · cases first
      · cases first
        exact ⟨rfl, rfl⟩

/-- A function that cannot be read is blamed, unless one of its annotations has failed like that by
itself. -/
theorem blamed_of_read (h : Operation.read contract f memory = .error failure later)
    (synthesis : failure.kind.isSynthesis = true)
    (own : ∀ after, annotatedTypes f
      (TypeText.inside (memory.table.current contract) memory) ≠ .error failure after) :
    failure.contract = some (memory.table.current contract).name ∧
      failure.operation = some f.name := by
  rw [Operation.read, bind_of_ok (get_apply memory)] at h
  dsimp only at h
  rcases bind_eq_error.mp h with typed | ⟨types, middle, -, h⟩
  · rw [typesOf] at typed
    split at typed
    · cases typed
    · next inner after failed =>
      cases typed
      rw [annotationFailure] at own synthesis ⊢
      split
      · exact ⟨rfl, rfl⟩
      · next other =>
        rw [if_neg other] at own
        exact absurd failed (own _)
  · rcases lift_bind_eq_error h with refused | ⟨_, -, h⟩
    · exact requirePositional_eq_error refused
    · rw [bind_of_ok (get_apply middle)] at h
      rcases lift_bind_eq_error h with mishap | ⟨_, -, h⟩
      · exact absurd mishap (not_error_of_onlyMishaps (classifyReturn_onlyMishaps _ _ _) synthesis)
      · cases h

end PageContracts.Operation
