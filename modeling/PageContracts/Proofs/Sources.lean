import PageContracts.Proofs.Settled

/-! # Where plans come from

Reading the operations of a contract while keeping the functions that they are read from. Every plan
comes from the function that was read last of those that go by its name. -/
namespace PageContracts

open Runs

variable {β α γ : Type}

/-- Two rows have the same names in the same order, with values that match. -/
def Matching (relation : String → α → γ → Prop) : List (String × α) → List (String × γ) → Prop :=
  List.Forall₂ fun a b => a.1 = b.1 ∧ relation a.1 a.2 b.2

namespace Matching

variable {R : String → α → γ → Prop} {row : List (String × α)} {other : List (String × γ)}

theorem lookup (h : Matching R row other) (name : String) :
    (row.lookup name = none ∧ other.lookup name = none) ∨
      ∃ a b, row.lookup name = some a ∧ other.lookup name = some b ∧ R name a b := by
  induction h with
  | nil => exact .inl ⟨rfl, rfl⟩
  | @cons first second _ _ same _ ih =>
    obtain ⟨key, a⟩ := first
    obtain ⟨_, b⟩ := second
    obtain ⟨rfl, matched⟩ := same
    by_cases here : name = key
    · subst here
      exact .inr ⟨a, b, by simp, by simp, matched⟩
    · have elsewhere : (name == key) = false := by simpa using here
      simpa only [List.lookup_cons, elsewhere] using ih

theorem lookup_right (h : Matching R row other) {name : String} {b : γ}
    (found : other.lookup name = some b) : ∃ a, row.lookup name = some a ∧ R name a b := by
  rcases h.lookup name with ⟨-, absent⟩ | ⟨a, _, left, right, matched⟩
  · rw [absent] at found
    cases found
  · obtain rfl := Option.some.inj (right.symm.trans found)
    exact ⟨a, left, matched⟩

theorem lookup_left (h : Matching R row other) {name : String} {a : α}
    (found : row.lookup name = some a) : ∃ b, other.lookup name = some b ∧ R name a b := by
  rcases h.lookup name with ⟨absent, -⟩ | ⟨_, b, left, right, matched⟩
  · rw [absent] at found
    cases found
  · obtain rfl := Option.some.inj (left.symm.trans found)
    exact ⟨b, right, matched⟩

theorem assign (h : Matching R row other) {name : String} {a : α} {b : γ} (matched : R name a b) :
    Matching R (assign name a row) (assign name b other) := by
  induction h with
  | nil => exact .cons ⟨rfl, matched⟩ .nil
  | @cons first second _ _ same rest ih =>
    obtain ⟨key, old⟩ := first
    obtain ⟨_, old'⟩ := second
    obtain ⟨rfl, kept⟩ := same
    simp only [PageContracts.assign]
    split
    · exact .cons ⟨rfl, matched⟩ rest
    · exact .cons ⟨rfl, kept⟩ ih

end Matching

namespace Operation

/-- Read the operations among the members of a class, each with the function it is read from. -/
def readMembersFrom (contract owner : ClassRef) (count : Nat) :
    List String → List String →
      Language.Eval (List String × List (DeclaredFunction × Operation))
  | [], seen => return (seen, [])
  | name :: rest, seen => do
    let found := functionOf? (← get).table owner name
    match if seen.contains name then none else found with
    | none => readMembersFrom contract owner count rest seen
    | some f =>
      let operation ← read contract f
      requireSize owner count
      let (seen, sources) ← readMembersFrom contract owner count rest (name :: seen)
      return (seen, (f, operation) :: sources)

/-- Read the operations of classes, each with the function it is read from. -/
def readClassesFrom (contract : ClassRef) :
    List ClassRef → List String → Language.Eval (List (DeclaredFunction × Operation))
  | [], _ => return []
  | owner :: rest, seen => do
    let members := (← get).table.ownMembers (.defined owner)
    let (seen, own) ← readMembersFrom contract owner members.length (members.map Prod.fst) seen
    return own ++ (← readClassesFrom contract rest seen)

/-- Read every operation of a contract with the function it is read from. -/
def sources (contract : ClassRef) : Language.Eval (List (DeclaredFunction × Operation)) := do
  let lineage := (← get).table.lineage (.defined contract)
  let read ← readClassesFrom contract (lineage.map ClassInfo.ref) []
  let table := (← get).table
  return read.map fun source => (source.1, source.2.mapClasses table.current)

theorem readMembers_eq (contract owner : ClassRef) (count : Nat) (names seen : List String) :
    readMembers contract owner count names seen =
      (fun found => (found.1, found.2.map Prod.snd)) <$>
        readMembersFrom contract owner count names seen := by
  induction names generalizing seen with
  | nil => rfl
  | cons name rest ih =>
    rw [readMembers, readMembersFrom, map_bind]
    congr 1
    funext memory
    dsimp only
    generalize (if seen.contains name then none else functionOf? memory.table owner name) = found
    cases found with
    | none => exact ih seen
    | some f => simp only [ih, map_bind, bind_map_left, map_pure, List.map_cons]

theorem readClasses_eq (contract : ClassRef) (owners : List ClassRef) (seen : List String) :
    readClasses contract owners seen =
      List.map Prod.snd <$> readClassesFrom contract owners seen := by
  induction owners generalizing seen with
  | nil => rfl
  | cons owner rest ih =>
    rw [readClasses, readClassesFrom, map_bind]
    congr 1
    funext memory
    simp only [ih, readMembers_eq, map_bind, bind_map_left, map_pure, List.map_append]

theorem lift_bind_eq_ok {α γ : Type} {result : Except Failure α} {next : α → Language.Eval γ}
    {c : γ} {memory later : Language.Memory}
    (h : ((monadLift result : Language.Eval α) >>= next) memory = .ok c later) :
    ∃ a, result = .ok a ∧ next a memory = .ok c later := by
  cases result with
  | error failure => cases h
  | ok a => exact ⟨a, rfl, h⟩

/-- The operations of a contract are those that are read from its functions. -/
theorem declared_eq_ok {contract : ClassRef} {operations : List Operation}
    {memory later : Language.Memory}
    (h : declared (.defined contract) memory = .ok operations later) :
    ∃ read, sources contract memory = .ok read later ∧ operations = read.map Prod.snd := by
  replace h := get_bind_eq_ok.mp h
  obtain ⟨isContract, -, h⟩ := lift_bind_eq_ok h
  split at h
  · obtain ⟨operations, _, reading, h⟩ := bind_eq_ok.mp h
    replace h := get_bind_eq_ok.mp h
    cases h
    rw [readClasses_eq, map_apply] at reading
    split at reading
    · next read later ended =>
      cases reading
      refine ⟨read.map fun source => (source.1, source.2.mapClasses later.table.current), ?_, ?_⟩
      · exact bind_eq_ok.mpr ⟨_, _, rfl, bind_eq_ok.mpr ⟨read, later, ended, rfl⟩⟩
      · simp only [List.map_map]
        rfl
    · cases reading
  · cases h

/-- What a function of a contract declares, at some time, with the classes called what they are
called at another. -/
def Declares (contract : ClassRef) (f : DeclaredFunction) (operation : Operation) : Prop :=
  ∃ memory later declared change, read contract f memory = .ok declared later ∧
    operation = declared.mapClasses change

theorem Declares.name_eq {contract : ClassRef} {f : DeclaredFunction} {operation : Operation}
    (h : Declares contract f operation) : operation.name = f.name := by
  obtain ⟨memory, later, declared, change, h, rfl⟩ := h
  replace h := get_bind_eq_ok.mp h
  obtain ⟨⟨types, returned⟩, _, -, h⟩ := bind_eq_ok.mp h
  obtain ⟨_, _, -, h⟩ := bind_eq_ok.mp h
  obtain ⟨_, _, -, h⟩ := bind_eq_ok.mp h
  obtain ⟨_, _, -, h⟩ := bind_eq_ok.mp h
  cases h
  rfl

theorem read_of_readMembersFrom {contract owner : ClassRef} {count : Nat}
    {names seen seen' : List String} {found : List (DeclaredFunction × Operation)}
    {memory later : Language.Memory}
    (h : readMembersFrom contract owner count names seen memory = .ok (seen', found) later) :
    ∀ source ∈ found, ∃ memory later, read contract source.1 memory = .ok source.2 later := by
  induction names generalizing seen seen' found memory with
  | nil =>
    cases h
    simp
  | cons name rest ih =>
    replace h := get_bind_eq_ok.mp h
    dsimp only at h
    generalize (if seen.contains name then none else functionOf? memory.table owner name) = f? at h
    cases f? with
    | none => exact ih h
    | some f =>
      obtain ⟨operation, _, reading, h⟩ := bind_eq_ok.mp h
      obtain ⟨_, _, -, h⟩ := bind_eq_ok.mp h
      obtain ⟨⟨_, more⟩, _, others, h⟩ := bind_eq_ok.mp h
      cases h
      intro source listed
      rcases List.mem_cons.mp listed with rfl | listed
      · exact ⟨_, _, reading⟩
      · exact ih others source listed

theorem read_of_readClassesFrom {contract : ClassRef} {owners : List ClassRef}
    {seen : List String} {found : List (DeclaredFunction × Operation)}
    {memory later : Language.Memory}
    (h : readClassesFrom contract owners seen memory = .ok found later) :
    ∀ source ∈ found, ∃ memory later, read contract source.1 memory = .ok source.2 later := by
  induction owners generalizing seen found memory with
  | nil =>
    cases h
    simp
  | cons owner rest ih =>
    replace h := get_bind_eq_ok.mp h
    obtain ⟨⟨_, own⟩, _, first, h⟩ := bind_eq_ok.mp h
    obtain ⟨others, _, more, h⟩ := bind_eq_ok.mp h
    cases h
    intro source listed
    rcases List.mem_append.mp listed with listed | listed
    · exact read_of_readMembersFrom first source listed
    · exact ih more source listed

theorem declares_of_sources {contract : ClassRef} {found : List (DeclaredFunction × Operation)}
    {memory later : Language.Memory} (h : sources contract memory = .ok found later) :
    ∀ source ∈ found, Declares contract source.1 source.2 := by
  replace h := get_bind_eq_ok.mp h
  obtain ⟨read, _, reading, h⟩ := bind_eq_ok.mp h
  replace h := get_bind_eq_ok.mp h
  cases h
  intro source listed
  obtain ⟨before, known, rfl⟩ := List.mem_map.mp listed
  obtain ⟨memory, later, declared⟩ := read_of_readClassesFrom reading before known
  exact ⟨memory, later, _, _, declared, rfl⟩

end Operation

/-- The function that was met last of those that go by a name. -/
def lastNamed (name : String) (functions : List DeclaredFunction) : Option DeclaredFunction :=
  functions.reverse.find? fun f => f.name = name

theorem lastNamed_cons (name : String) (f : DeclaredFunction) (rest : List DeclaredFunction) :
    lastNamed name (f :: rest) =
      (lastNamed name rest).or (if f.name = name then some f else none) := by
  unfold lastNamed
  rw [List.reverse_cons, List.find?_append]
  by_cases same : f.name = name <;> simp [same]

theorem name_of_lastNamed {name : String} {f : DeclaredFunction} {functions : List DeclaredFunction}
    (h : lastNamed name functions = some f) : f.name = name := by
  simpa using List.find?_some h

/-- Functions by the names they have of their own; of two with one name the later counts, in the
place of the earlier. -/
def byName (functions : List DeclaredFunction) : List (String × DeclaredFunction) :=
  functions.foldl (fun known f => assign f.name f known) []

theorem lookup_assign (name other : String) (value : α) (entries : List (String × α)) :
    (assign name value entries).lookup other =
      if other = name then some value else entries.lookup other := by
  induction entries with
  | nil =>
    by_cases same : other = name
    · simp [assign, same]
    · simp [assign, List.lookup_cons, beq_false_of_ne same, same]
  | cons entry rest ih =>
    obtain ⟨key, old⟩ := entry
    unfold assign
    by_cases here : other = key
    · subst here
      by_cases same : other = name <;> simp [same]
    · have elsewhere : (other == key) = false := beq_false_of_ne here
      split
      · next same =>
        subst same
        simp [List.lookup_cons, elsewhere, here]
      · simpa [List.lookup_cons, elsewhere] using ih

theorem lookup_byName (functions : List DeclaredFunction) (name : String) :
    (byName functions).lookup name = lastNamed name functions := by
  have assigned (known : List (String × DeclaredFunction)) :
      (functions.foldl (fun known f => assign f.name f known) known).lookup name =
        (lastNamed name functions).or (known.lookup name) := by
    induction functions generalizing known with
    | nil => rfl
    | cons f rest ih =>
      rw [List.foldl_cons, ih, lookup_assign, lastNamed_cons, Option.or_assoc]
      by_cases same : f.name = name
      · simp [same]
      · simp [same, Ne.symm same]
  exact (assigned []).trans (Option.or_none ..)

/-- A plan implements what a function of a contract declares: the function has been read, and the
plan is made by the rule that accepts what was read. -/
def Implements (table : ClassTable) (contract : ClassRef)
    (read : List (DeclaredFunction × Operation)) (f : DeclaredFunction) (plan : CallPlan) : Prop :=
  ∃ operation rule, (f, operation) ∈ read ∧ Operation.Declares contract f operation ∧
    Registry.select {} table operation = .ok rule ∧ plan = rule.plan table operation

namespace Compilation

variable {world later : World β} {contract : ClassRef}
  {read : List (DeclaredFunction × Operation)}

/-- Compiling what has been read from functions, one after the other, gives plans that go by the
functions' own names. -/
theorem compileOperations_matching {table : ClassTable} (classes : world.classes = table)
    (declares : ∀ source ∈ read, Operation.Declares contract source.1 source.2)
    {rest : List (DeclaredFunction × Operation)} (among : rest ⊆ read)
    {known : List (String × DeclaredFunction)} {plans plans' : List (String × CallPlan)}
    (matching : Matching (fun _ => Implements table contract read) known plans)
    (h : compileOperations {} (rest.map Prod.snd) plans world = .ok plans' later) :
    Matching (fun _ => Implements table contract read)
      ((rest.map Prod.fst).foldl (fun known f => assign f.name f known) known) plans' := by
  -- The functions met so far and their plans are assigned under the same name, so they keep matching.
  induction rest generalizing known plans world with
  | nil =>
    cases h
    exact matching
  | cons source rest ih =>
    obtain ⟨plan, middle, compiled, h⟩ := bind_eq_ok.mp h
    have listed : source ∈ read := among List.mem_cons_self
    have declared : Operation.Declares contract source.1 source.2 := declares source listed
    have classes' : middle.classes = table :=
      ((compileOperation_moves StaysOutside.log _ _).of_eq_ok compiled).classes_eq.trans classes
    obtain ⟨rule, selected, -, rfl, -⟩ := compileOperation_eq_ok compiled
    rw [classes] at selected h
    have implements : Implements table contract read source.1 _ :=
      ⟨source.2, rule, listed, declared, selected, rfl⟩
    refine ih classes' (List.subset_of_cons_subset among) ?_ h
    rw [declared.name_eq]
    exact matching.assign implements

theorem exposedMember_eq_ok {table : ClassTable} {name : String} {exposed : String × Member}
    (h : exposedMember table contract name = .ok exposed) :
    exposed.1 = name ∧ table.member? (.defined contract) name = some exposed.2 := by
  unfold exposedMember at h
  split at h
  · next found member =>
    cases h
    exact ⟨rfl, member⟩
  · cases h

/-- What compiling a contract comes to: each plan implements the function that was read last of
those of its name, and beside it stands what the contract exposes under that name. -/
structure Compiled (table : ClassTable) (read : List (DeclaredFunction × Operation))
    (contract : ClassRef) (compiled : CompiledContract) : Prop where
  plans : Matching (fun _ => Implements table contract read) (byName (read.map Prod.fst))
    compiled.plans
  members : Matching (fun name _ found =>
    table.member? (.defined compiled.contract) name = some found)
      compiled.plans compiled.members

theorem reading_eq_ok {run : Language.Eval α} {a : α} (h : Run.reading run world = .ok a later) :
    ∃ memory, run world.memory = .ok a memory ∧ later = world.afterReading memory := by
  unfold Run.reading at h
  split at h
  · next result memory ended =>
    cases h
    exact ⟨memory, ended, rfl⟩
  · cases h

/-- The steps in which a contract is compiled afresh. -/
theorem steps_of_compileAfresh {compiled : CompiledContract}
    (h : compileAfresh contract world = .ok compiled later) :
    ∃ operations settled planned,
      Run.reading (Operation.declared (.defined contract)) world = .ok operations settled ∧
        compileOperations {} operations [] settled = .ok compiled.plans planned ∧
        compiled.contract = settled.classes.current contract ∧
        compiled.plans.mapM (fun entry =>
          exposedMember settled.classes compiled.contract entry.1) = .ok compiled.members ∧
        later.classes = settled.classes := by
  obtain ⟨operations, settled, reading, h⟩ := bind_eq_ok.mp h
  replace h := get_bind_eq_ok.mp h
  dsimp only at h
  split at h
  · obtain ⟨_, _, thrown, -⟩ := bind_eq_ok.mp h
    cases thrown
  · obtain ⟨plans, planned, planning, h⟩ := bind_eq_ok.mp h
    obtain ⟨members, exposed, h⟩ := ofExcept_bind_eq_ok.mp h
    obtain ⟨_, _, logging, h⟩ := bind_eq_ok.mp h
    replace h := get_bind_eq_ok.mp h
    cases h
    have planned' := (compileOperations_moves StaysOutside.log {} _ []).of_eq_ok planning
    have logged := (StaysOutside.log _ _).of_eq_ok logging
    exact ⟨operations, settled, planned, reading, planning, rfl, exposed,
      logged.classes_eq.trans planned'.classes_eq⟩

theorem compileAfresh_eq_ok {compiled : CompiledContract}
    (h : compileAfresh contract world = .ok compiled later) :
    ∃ read memory, Operation.sources contract world.memory = .ok read memory ∧
      Compiled later.classes read contract compiled := by
  obtain ⟨operations, settled, _, reading, planning, -, exposed, classes⟩ :=
    steps_of_compileAfresh h
  obtain ⟨memory, declared, -⟩ := reading_eq_ok reading
  obtain ⟨read, sourced, rfl⟩ := Operation.declared_eq_ok declared
  have declares := Operation.declares_of_sources sourced
  rw [classes]
  refine ⟨read, memory, sourced, ?_, ?_⟩
  · exact compileOperations_matching rfl declares (List.Subset.refl _) .nil planning
  · refine (mapM_eq_ok exposed).imp fun entry exposed made => ?_
    obtain ⟨named, member⟩ := exposedMember_eq_ok made
    exact ⟨named.symm, named ▸ member⟩

theorem compile_eq_ok {compiled : CompiledContract} (unknown : cached? world contract = none)
    (h : compile (.defined contract) world = .ok compiled later) :
    ∃ read memory, Operation.sources contract world.memory = .ok read memory ∧
      Compiled later.classes read contract compiled := by
  replace h := get_bind_eq_ok.mp h
  rw [unknown] at h
  obtain ⟨_, _, afresh, h⟩ := bind_eq_ok.mp h
  cases h
  obtain ⟨read, memory, sourced, known⟩ := compileAfresh_eq_ok afresh
  exact ⟨read, memory, sourced, known⟩

/-- What an implementation is made of: for every plan a method of its name that runs it, and takes
what the member of that name takes. -/
structure Implemented (table : ClassTable) (compiled : CompiledContract)
    (implementation : Implementation) : Prop where
  contract : implementation.contract = compiled.contract
  methods : Matching (fun name plan method => method.plan = plan ∧
    ∃ found, compiled.members.lookup name = some found ∧
      signatureOf table found = .ok method.signature)
        compiled.plans implementation.methods

/-- An implementation is built from what compiling gives, be that new or cached. -/
theorem implement_eq_ok {base : BaseClass} {implementation : Implementation}
    (unbuilt : implemented? world (.defined contract) base = none)
    (h : implement (.defined contract) base world = .ok implementation later) :
    ∃ compiled settled, compile (.defined contract) world = .ok compiled settled ∧
      later.classes = settled.classes ∧ Implemented settled.classes compiled implementation := by
  replace h := get_bind_eq_ok.mp h
  rw [unbuilt] at h
  obtain ⟨compiled, settled, compiling, h⟩ := bind_eq_ok.mp h
  replace h := get_bind_eq_ok.mp h
  dsimp only at h
  split at h
  · obtain ⟨_, _, thrown, -⟩ := bind_eq_ok.mp h
    cases thrown
  · obtain ⟨methods, built, h⟩ := ofExcept_bind_eq_ok.mp h
    obtain ⟨_, -, h⟩ := ofExcept_bind_eq_ok.mp h
    replace h := get_bind_eq_ok.mp h
    cases h
    refine ⟨compiled, settled, compiling, rfl, rfl, (mapM_eq_ok built).imp ?_⟩
    intro entry method made
    obtain ⟨found, signature, exposed, taken, rfl⟩ := methodOf_eq_ok made
    exact ⟨rfl, rfl, found, exposed, taken⟩

end Compilation
end PageContracts
