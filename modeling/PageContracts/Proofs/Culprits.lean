import PageContracts.Proofs.Choosing
import PageContracts.Proofs.Readings
import PageContracts.Proofs.Renamings

/-! # What is blamed for a contract that does not compile

A contract is compiled in two passes: all its functions are read, and then all that was read is compiled.
The failure that ends either pass names the function it arose at, and the contract as it was called when
that function was read; the failure of a class that is no contract, or has no operations, names the class
alone. -/
namespace PageContracts

open Runs
open World (SameInside)

section

variable {β : Type} {world later : World β} {failure : Failure}

namespace Compilation

theorem requireFields_onlyMishaps (table : ClassTable) (rule : Rule) (operation : Operation) :
    OnlyMishaps (rule.requireFields table operation) := by
  have fields (type : TypeRef) : OnlyMishaps (table.fieldsOf type) := by
    unfold ClassTable.fieldsOf
    split
    · exact .ok _
    · exact .ok _
    · exact .ok _
    · exact .missing _
    · exact .missing _
  have model : OnlyMishaps (Rule.modelFields table operation) := by
    unfold Rule.modelFields
    split
    · exact .ok _
    · refine (fields _).bind fun found _ => ?_
      split
      · exact .ok _
      · exact .typeBreach _
  exact .ite (model.map _) (.ok _)

/-- An operation that is refused is blamed itself. -/
theorem blamed_of_compileOperation {registry : Registry} {operation : Operation}
    (failed : compileOperation registry operation world = .error failure later)
    (synthesis : failure.kind.isSynthesis = true) :
    failure.contract = some operation.owner ∧ failure.operation = some operation.name := by
  rw [Registry.compileOperation_eq] at failed
  have verdict := Registry.Verdict.of_choose registry world.classes operation
  cases chosen : registry.choose world.classes operation with
  | ok rule =>
    rw [chosen, ofExcept_ok, pure_bind] at failed
    obtain ⟨_, -, failed⟩ := FailsByMishap.ofExcept_ok_of_bind
      (requireFields_onlyMishaps world.classes rule operation) failed synthesis
    cases failed
  | error refusal =>
    rw [chosen] at failed verdict
    have same : refusal = failure := by
      cases failed
      rfl
    subst same
    cases verdict with
    | several listed accepts often => exact ⟨rfl, rfl⟩
    | unfit listed shape checked => exact ⟨rfl, rfl⟩
    | shapeless none told => exact ⟨rfl, rfl⟩
    | untold listed asked =>
      have only := Rule.requireMark_onlyMishaps world.classes .setModel operation
      exact absurd asked (Operation.not_error_of_onlyMishaps only synthesis)

/-- Compiling operations one after the other ends with the first that is refused, and it is refused
just as it would be alone. -/
theorem compileOperations_eq_error {registry : Registry} {operations : List Operation}
    {plans : List (String × CallPlan)}
    (failed : compileOperations registry operations plans world = .error failure later) :
    ∃ front operation back, operations = front ++ operation :: back ∧
      (∀ other ∈ front, ∃ plan ended, compileOperation registry other world = .ok plan ended) ∧
        ∃ ended, compileOperation registry operation world = .error failure ended := by
  induction operations generalizing plans world with
  | nil => cases failed
  | cons first rest ih =>
    rcases bind_eq_error.mp failed with refused | ⟨plan, middle, compiled, failed⟩
    · exact ⟨[], first, rest, rfl, nofun, later, refused⟩
    have same : SameInside world middle :=
      (compileOperation_moves StaysOutside.log _ _).of_eq_ok compiled
    -- The rest was compiled after the first was logged, which makes no difference to it.
    obtain ⟨front, operation, back, rfl, passed, ended, refused⟩ := ih failed
    refine ⟨first :: front, operation, back, rfl, List.forall_mem_cons.mpr ⟨?_, ?_⟩, ?_⟩
    · exact ⟨plan, middle, compiled⟩
    · intro other listed
      obtain ⟨plan, ended, compiled⟩ := passed other listed
      obtain ⟨ended, compiled⟩ :=
        (compileOperation_looksInside registry other).eq_ok same.symm compiled
      exact ⟨plan, ended, compiled⟩
    · exact (compileOperation_looksInside registry operation).eq_error same.symm refused

theorem exposedMember_onlyMishaps (table : ClassTable) (contract : ClassRef) (name : String) :
    OnlyMishaps (exposedMember table contract name) := by
  unfold exposedMember
  split
  · exact .ok _
  · exact .missing _

theorem reading_eq_error {α : Type} {run : Language.Eval α}
    (h : Run.reading run world = .error failure later) :
    ∃ memory, run world.memory = .error failure memory := by
  unfold Run.reading at h
  split at h
  · cases h
  · next own memory ended =>
    cases h
    exact ⟨memory, ended⟩

end Compilation

namespace Operation

variable {contract : ClassRef} {memory ended : Language.Memory}

theorem isContract_of_undefined {table : ClassTable} {type : TypeRef}
    (undefined : ∀ contract, type ≠ .defined contract) : table.isContract type = .ok false := by
  have unmarked (types : List TypeRef) (bare : ∀ one ∈ types, table.ownMembers one = []) :
      table.memberAmong? types Capability.memberName = none := by
    rw [ClassTable.memberAmong?, List.findSome?_eq_none_iff]
    intro one listed
    rw [bare one listed]
    rfl
  have incapable (unmarked : table.member? type Capability.memberName = none) :
      table.isContract type = .ok false := by
    rw [ClassTable.isContract, ClassTable.capability, ClassTable.valueOf, unmarked]
    rfl
  cases type with
  | defined contract => exact absurd rfl (undefined contract)
  | page => rfl
  | panel => rfl
  | builtin name =>
    refine incapable (unmarked _ ?_)
    intro one listed
    rw [ClassTable.ancestry] at listed
    split at listed
    · rw [List.mem_singleton.mp listed]
      rfl
    · obtain ⟨ancestor, -, rfl⟩ := List.mem_map.mp listed
      rfl
  | _ => exact incapable (unmarked _ (by simp [ClassTable.ancestry, ClassTable.ownMembers]))

/-- The functions of a contract are read when it is one, and only then. -/
theorem declared_eq_error (failed : declared (.defined contract) memory = .error failure ended)
    (synthesis : failure.kind.isSynthesis = true) :
    (memory.table.isContract (.defined contract) = .ok false ∧
        failure = notContract (.defined contract)) ∨
      memory.table.isContract (.defined contract) = .ok true ∧
        ∃ read f moment, Reaches contract memory read f moment ∧
          Operation.read contract f moment = .error failure ended := by
  rw [declared, bind_of_ok (get_apply memory)] at failed
  rcases lift_bind_eq_error failed with mishap | ⟨marked, asked, failed⟩
  · have only := isContract_onlyMishaps memory.table (.defined contract)
    exact absurd mishap (not_error_of_onlyMishaps only synthesis)
  cases marked with
  | false =>
    cases failed
    exact .inl ⟨asked, rfl⟩
  | true =>
    refine .inr ⟨asked, ?_⟩
    rcases bind_eq_error.mp failed with failed | ⟨_, _, -, failed⟩
    · rw [readClasses_eq, map_apply] at failed
      split at failed
      · cases failed
      · next own later reading =>
        cases failed
        refine meets_of_error reading fun kind => ?_
        rw [kind] at synthesis
        cases synthesis
    · cases failed

theorem marked_of_declared {operations : List Operation}
    (h : declared (.defined contract) memory = .ok operations ended) :
    memory.table.isContract (.defined contract) = .ok true := by
  replace h := get_bind_eq_ok.mp h
  obtain ⟨marked, asked, h⟩ := lift_bind_eq_ok h
  cases marked with
  | true => exact asked
  | false => cases h

/-- An annotation of a function, which is an expression of the author's, fails by itself. -/
def Raises (contract : ClassRef) (f : DeclaredFunction) (moment : Language.Memory)
    (failure : Failure) : Prop :=
  ∃ after, annotatedTypes f (TypeText.inside (moment.table.current contract) moment) =
    .error failure after

end Operation

namespace World

/-- What makes a contract fail to compile, at a function of it and the moment at which reading comes to
that function. -/
inductive Rejects (world : World β) (contract : ClassRef) (f : DeclaredFunction)
    (moment : Language.Memory) (failure : Failure) : Prop where
  /-- The function cannot be read. -/
  | unread {earlier : List (DeclaredFunction × Operation)} {after : Language.Memory}
      (reaches : Operation.Reaches contract world.memory earlier f moment)
      (failed : Operation.read contract f moment = .error failure after)
  /-- All functions can be read, and what is read of this one is the first to be refused. -/
  | refused {earlier front back : List (DeclaredFunction × Operation)} {own : Operation}
      {after memory : Language.Memory}
      (reaches : Operation.Reaches contract world.memory earlier f moment)
      (reads : Operation.read contract f moment = .ok own after)
      (sourced : Operation.sources contract world.memory =
        .ok (front ++ (f, own.mapClasses memory.table.current) :: back) memory)
      (passed : ∀ source ∈ front, ∃ plan ended,
        Compilation.compileOperation {} source.2 (world.afterReading memory) = .ok plan ended)
      (failed : ∃ ended, Compilation.compileOperation {} (own.mapClasses memory.table.current)
        (world.afterReading memory) = .error failure ended)

/-- Why a type does not compile. -/
inductive Fails (world : World β) : TypeRef → Failure → Prop where
  | noContract {type : TypeRef} (unmarked : world.classes.isContract type = .ok false) :
      Fails world type (Operation.notContract type)
  | empty {contract : ClassRef} {memory : Language.Memory}
      (marked : world.classes.isContract (.defined contract) = .ok true)
      (none : Operation.sources contract world.memory = .ok [] memory) :
      Fails world (.defined contract)
        (Compilation.noOperations ((world.afterReading memory).classes.current contract))
  | rejected {contract : ClassRef} {f : DeclaredFunction} {moment : Language.Memory}
      {failure : Failure} (marked : world.classes.isContract (.defined contract) = .ok true)
      (rejects : world.Rejects contract f moment failure) :
      Fails world (.defined contract) failure

variable {contract : ClassRef} {type : TypeRef}

theorem compileAfresh_of_compile_error
    (failed : Compilation.compile (.defined contract) world = .error failure later) :
    Compilation.compileAfresh contract world = .error failure later := by
  rw [Compilation.compile_of_uncached (Compilation.uncached_of_compile_error failed)] at failed
  cases ran : Compilation.compileAfresh contract world with
  | ok compiled ended =>
    rw [ran] at failed
    cases failed
  | error other ended =>
    rw [ran] at failed
    exact failed

/-- Once all functions of a contract are read, only an operation that is refused lets it fail. -/
theorem rejects_of_compileOperations {found : List (DeclaredFunction × Operation)}
    {memory : Language.Memory}
    (sourced : Operation.sources contract world.memory = .ok found memory)
    (failed : Compilation.compileOperations {} (found.map Prod.snd) [] (world.afterReading memory) =
      .error failure later) : ∃ f moment, world.Rejects contract f moment failure := by
  obtain ⟨first, operation, last, split, passed, refused⟩ :=
    Compilation.compileOperations_eq_error failed
  obtain ⟨front, rest, rfl, rfl, others⟩ := List.map_eq_append_iff.mp split
  obtain ⟨⟨f, _⟩, back, rfl, rfl, rfl⟩ := List.map_eq_cons_iff.mp others
  obtain ⟨earlier, moment, own, after, reaches, reads, same⟩ :=
    Operation.reaches_of_sources sourced (List.mem_append_right _ List.mem_cons_self)
  dsimp only at same refused
  subst same
  refine ⟨f, moment, .refused reaches reads sourced ?_ refused⟩
  intro source listed
  exact passed source.2 (List.mem_map_of_mem listed)

theorem fails_of_compile (failed : Compilation.compile type world = .error failure later)
    (synthesis : failure.kind.isSynthesis = true) : world.Fails type failure := by
  cases type with
  | defined contract =>
    rcases bind_eq_error.mp (compileAfresh_of_compile_error failed) with
      reading | ⟨operations, settled, reading, afresh⟩
    · obtain ⟨memory, declared⟩ := Compilation.reading_eq_error reading
      rcases Operation.declared_eq_error declared synthesis with
        ⟨unmarked, rfl⟩ | ⟨marked, earlier, f, moment, reaches, unread⟩
      · exact .noContract unmarked
      · exact .rejected marked (.unread reaches unread)
    · obtain ⟨memory, declared, rfl⟩ := Compilation.reading_eq_ok reading
      have marked := Operation.marked_of_declared declared
      obtain ⟨read, sourced, rfl⟩ := Operation.declared_eq_ok declared
      rw [bind_of_ok (get_apply _)] at afresh
      dsimp only at afresh
      cases read with
      | nil =>
        cases afresh
        exact .empty marked sourced
      | cons source rest =>
        rw [if_neg (by simp)] at afresh
        -- What follows finds the members that are exposed, which fails by a mishap at most.
        have refused : Compilation.compileOperations {} ((source :: rest).map Prod.snd) []
            (world.afterReading memory) = .error failure later := by
          refine FailsByMishap.eq_error_of_bind (fun plans => ?_) afresh synthesis
          refine (FailsByMishap.ofExcept (.mapM (fun entry => ?_) plans)).bind fun members => ?_
          · exact Compilation.exposedMember_onlyMishaps _ _ _
          · exact (FailsByMishap.log _ _).bind fun _ => .get_bind fun _ => .pure _
        obtain ⟨f, moment, rejects⟩ := rejects_of_compileOperations sourced refused
        exact .rejected marked rejects
  | _ =>
    cases failed
    exact .noContract (Operation.isContract_of_undefined fun _ => nofun)

/-- A type is a contract whose classes have no function to read. -/
def Bare (world : World β) (type : TypeRef) : Prop :=
  ∃ contract, type = .defined contract ∧ world.classes.isContract type = .ok true ∧
    Operation.sources contract world.memory = .ok [] world.memory

/-- A failure is blamed on a function, and on the contract as it is called at a moment. -/
structure BlamedOn (contract : ClassRef) (f : DeclaredFunction) (moment : Language.Memory)
    (failure : Failure) : Prop where
  contract : failure.contract = some (moment.table.current contract).name
  operation : failure.operation = some f.name

/-- The failure to compile a type is put down to what has caused it. -/
structure Blames (world : World β) (type : TypeRef) (failure : Failure) : Prop where
  /-- No operation is blamed for a class that is no contract or has no operations. -/
  unspecific : world.classes.isContract type = .ok false ∨ world.Bare type →
    failure.operation = none
  noContract : world.classes.isContract type = .ok false → failure.contract = some type.name
  bare : ∀ contract, type = .defined contract → world.Bare type →
    failure.contract = some ((world.afterReading world.memory).classes.current contract).name
  /-- In all other cases a function of one of the classes is blamed, which cannot be read or is the first
  that is refused. What one of its annotations raises by itself is passed on as it is. -/
  culprit : world.classes.isContract type ≠ .ok false → ¬ world.Bare type →
    ∃ contract f moment, type = .defined contract ∧
      (∃ owner ∈ (world.classes.lineage type).map ClassInfo.ref, ∃ name,
        Operation.functionOf? moment.table owner name = some f) ∧
      world.Rejects contract f moment failure ∧
        (Operation.Raises contract f moment failure ∨ BlamedOn contract f moment failure)
  /-- The first function that cannot be read is blamed before any operation that is refused. -/
  first : ∀ contract earlier f moment own after, type = .defined contract →
    world.classes.isContract type = .ok true →
      Operation.Reaches contract world.memory earlier f moment →
        Operation.read contract f moment = .error own after → failure = own
  /-- Where reading changes no class, it is the class itself that is blamed. -/
  steady : ∀ contract, type = .defined contract → world.classes.current contract = contract →
    world.classes.Settled → Operation.Orderly world.classes contract →
      failure.contract = some contract.name ∨
        ∃ f moment, world.Rejects contract f moment failure ∧
          Operation.Raises contract f moment failure

namespace Rejects

variable {f : DeclaredFunction} {moment : Language.Memory}

theorem reaches (rejects : world.Rejects contract f moment failure) :
    ∃ earlier, Operation.Reaches contract world.memory earlier f moment := by
  cases rejects with
  | unread reaches _ => exact ⟨_, reaches⟩
  | refused reaches _ _ _ _ => exact ⟨_, reaches⟩

theorem blamedOn (rejects : world.Rejects contract f moment failure)
    (synthesis : failure.kind.isSynthesis = true) :
    Operation.Raises contract f moment failure ∨ BlamedOn contract f moment failure := by
  cases rejects with
  | unread _ failed =>
    by_cases raises : Operation.Raises contract f moment failure
    · exact .inl raises
    · have blamed := Operation.blamed_of_read failed synthesis fun after raised =>
        raises ⟨after, raised⟩
      exact .inr ⟨blamed.1, blamed.2⟩
  | refused _ reads _ _ failed =>
    obtain ⟨ended, refused⟩ := failed
    have blamed := Compilation.blamed_of_compileOperation refused synthesis
    have named := Operation.named_of_read reads
    exact .inr ⟨blamed.1.trans (congrArg some named.1), blamed.2.trans (congrArg some named.2)⟩

end Rejects

/-- If a function of a contract cannot be read when its turn comes, that is how compiling fails. -/
theorem compile_of_reaches {earlier : List (DeclaredFunction × Operation)} {f : DeclaredFunction}
    {moment after : Language.Memory} {own : Failure}
    (uncached : Compilation.cached? world contract = none)
    (marked : world.classes.isContract (.defined contract) = .ok true)
    (reaches : Operation.Reaches contract world.memory earlier f moment)
    (unread : Operation.read contract f moment = .error own after) :
    Compilation.compile (.defined contract) world = .error own (world.afterReading after) := by
  have ended := Operation.Meets.ends reaches unread
  have reading : Operation.readClasses contract
      ((world.memory.table.lineage (.defined contract)).map ClassInfo.ref) [] world.memory =
        .error own after := by
    rw [Operation.readClasses_eq, map_apply, ended]
  have declared : Operation.declared (.defined contract) world.memory = .error own after := by
    rw [Operation.declared, bind_of_ok (get_apply _)]
    dsimp only
    rw [show world.memory.table = world.classes from rfl, marked]
    exact bind_of_error reading _
  have stopped : Run.reading (Operation.declared (.defined contract)) world =
      .error own (world.afterReading after) := by
    rw [Run.reading, declared]
  have afresh : Compilation.compileAfresh contract world = .error own (world.afterReading after) :=
    bind_of_error stopped _
  rw [Compilation.compile_of_uncached uncached, afresh]

namespace Fails

theorem eq_notContract (fails : world.Fails type failure)
    (unmarked : world.classes.isContract type = .ok false) :
    failure = Operation.notContract type := by
  cases fails with
  | noContract _ => rfl
  | empty marked _ => cases unmarked.symm.trans marked
  | rejected marked _ => cases unmarked.symm.trans marked

theorem eq_noOperations (fails : world.Fails (.defined contract) failure)
    (bare : world.Bare (.defined contract)) :
    failure =
      Compilation.noOperations ((world.afterReading world.memory).classes.current contract) := by
  obtain ⟨_, same, marked, none⟩ := bare
  cases same
  cases fails with
  | noContract unmarked => cases unmarked.symm.trans marked
  | empty _ sourced =>
    rw [Operation.memory_of_sources_nil sourced]
  | rejected _ rejects =>
    cases rejects with
    | unread reaches failed => cases none.symm.trans (Operation.sources_of_reaches reaches failed)
    | refused _ _ sourced _ _ => simp [sourced] at none

theorem rejects (fails : world.Fails type failure)
    (marked : world.classes.isContract type ≠ .ok false) (full : ¬ world.Bare type) :
    ∃ contract f moment, type = .defined contract ∧ world.Rejects contract f moment failure := by
  cases fails with
  | noContract unmarked => exact absurd unmarked marked
  | @empty contract memory isMarked sourced =>
    refine absurd ⟨contract, rfl, isMarked, ?_⟩ full
    rw [Operation.memory_of_sources_nil sourced] at sourced
    exact sourced
  | @rejected contract f moment _ _ rejects => exact ⟨contract, f, moment, rfl, rejects⟩

/-- In an orderly contract the class goes by its name whenever it may be blamed. -/
theorem contract_eq (fails : world.Fails (.defined contract) failure)
    (synthesis : failure.kind.isSynthesis = true) (named : world.classes.current contract = contract)
    (settled : world.classes.Settled) (orderly : Operation.Orderly world.classes contract) :
    failure.contract = some contract.name ∨
      ∃ f moment, world.Rejects contract f moment failure ∧
        Operation.Raises contract f moment failure := by
  cases fails with
  | noContract _ => exact .inl rfl
  | @empty _ memory _ sourced =>
    have unchanged : memory.table = world.classes :=
      congrArg Language.Memory.table (Operation.memory_of_sources_nil sourced)
    have intact := World.intact_afterReading settled unchanged
    have same : (world.afterReading memory).classes.current contract = contract := by
      rw [intact.classes_eq, named]
    exact .inl (congrArg (fun ref : ClassRef => some ref.name) same)
  | @rejected _ f moment _ _ rejects =>
    obtain ⟨earlier, reaches⟩ := rejects.reaches
    have same : moment.table = world.classes := Operation.table_of_reaches orderly reaches
    rcases rejects.blamedOn synthesis with raises | blamed
    · exact .inr ⟨f, moment, rejects, raises⟩
    · have owned := blamed.contract
      rw [same, named] at owned
      exact .inl owned

end Fails

/-- A synthesis failure is put down to what has caused it. -/
theorem blames_of_compile (failed : Compilation.compile type world = .error failure later)
    (synthesis : failure.kind.isSynthesis = true) : world.Blames type failure where
  unspecific := by
    rintro (unmarked | bare)
    · rw [(fails_of_compile failed synthesis).eq_notContract unmarked]
      rfl
    · obtain ⟨contract, rfl, _, _⟩ := id bare
      rw [(fails_of_compile failed synthesis).eq_noOperations bare]
      rfl
  noContract unmarked := by
    rw [(fails_of_compile failed synthesis).eq_notContract unmarked]
    rfl
  bare contract same bare := by
    subst same
    rw [(fails_of_compile failed synthesis).eq_noOperations bare]
    rfl
  culprit marked full := by
    obtain ⟨contract, f, moment, rfl, rejects⟩ :=
      (fails_of_compile failed synthesis).rejects marked full
    obtain ⟨earlier, reaches⟩ := rejects.reaches
    have held := Operation.Meets.held reaches
    exact ⟨contract, f, moment, rfl, held, rejects, rejects.blamedOn synthesis⟩
  first contract earlier f moment own after same marked reaches unread := by
    subst same
    have uncached := Compilation.uncached_of_compile_error failed
    rw [compile_of_reaches uncached marked reaches unread] at failed
    exact (EStateM.Result.error.inj failed).1.symm
  steady contract same named settled orderly := by
    subst same
    exact (fails_of_compile failed synthesis).contract_eq synthesis named settled orderly

end World

end

namespace Attics

/-- The class of halls. -/
def hall : ClassRef := { number := 0, name := "Hall" }

/-- A function that calls its class an attic. -/
def first : DeclaredFunction where
  name := "click_a"
  returns := some "setattr(Hall, '__name__', 'Attic')"
  locator := some { kind := .id, template := "a" }

/-- A function that calls its class a loft, and takes an argument by name alone. -/
def second : DeclaredFunction where
  name := "click_b"
  parameters := [{ name := "x", kind := .keywordOnly }]
  returns := some "setattr(Hall, '__name__', 'Loft')"
  locator := some { kind := .id, template := "b" }

/-- A hall with both functions. -/
def classes : ClassTable where
  classes := [
    { ref := hall, key := "Hall", ancestry := [.defined hall, .page]
      members := [("click_a", .function first), ("click_b", .function second)] }]

/-- A world with that hall. -/
def world : World ScriptedBrowser where
  browser := { pages := [] }
  clock := default
  classes := classes
  language := { globals := [("setattr", .function "setattr")] }

/-- What is left once the first function is read. -/
def renamed : Language.Memory :=
  (TypeText.inside hall world.memory).rename hall "Attic"

/-- What is left once the second function is read as well. -/
def renamedAgain : Language.Memory :=
  (TypeText.inside (renamed.table.current hall) renamed).rename (renamed.table.current hall) "Loft"

/-- What is read of the first function. -/
def operation : Operation where
  owner := "Hall"
  name := "click_a"
  parameterTypes := []
  returnType := some .nothing
  returnKind := some .void
  locator := some { kind := .id, template := "a" }

theorem read_first : Operation.read hall first world.memory = .ok operation renamed := by
  have bare : ∀ parameter ∈ first.parameters, parameter.typeText = none := by simp [first]
  have known : Language.Names.resolve (TypeText.inside hall world.memory) none "setattr" =
      .ok (.function "setattr") := rfl
  have named : Language.Names.resolve (TypeText.inside hall world.memory) none "Hall" =
      .ok (.type (.defined hall)) := rfl
  have types := Operation.typesOf_renames "Hall" "Attic" bare rfl (by decide +kernel) (by simp)
    known named
  rw [Operation.read, bind_of_ok (get_apply _)]
  exact (bind_of_ok types _).trans rfl

theorem read_second : Operation.read hall second renamed =
    .error (Operation.shapeFailure .unsupportedShape "Attic" "click_b"
      "Attic.click_b: parameter 'x' must be positional") renamedAgain := by
  have bare : ∀ parameter ∈ second.parameters, parameter.typeText = none := by simp [second]
  have known : Language.Names.resolve
      (TypeText.inside (renamed.table.current hall) renamed) none "setattr" =
        .ok (.function "setattr") := rfl
  have named : Language.Names.resolve
      (TypeText.inside (renamed.table.current hall) renamed) none "Hall" =
        .ok (.type (.defined (renamed.table.current hall))) := rfl
  have types := Operation.typesOf_renames "Hall" "Loft" bare rfl (by decide +kernel) (by simp)
    known named
  rw [Operation.read, bind_of_ok (get_apply _)]
  exact (bind_of_ok types _).trans rfl

theorem reaches_second :
    Operation.Reaches hall world.memory [(first, operation)] second renamed :=
  .inside (.behind rfl read_first rfl (.here rfl))

/-- The second function is blamed, which takes an argument by name alone. -/
theorem second_blamed : ∃ failure later,
    Compilation.compile (.defined hall) world = .error failure later ∧
      failure.kind.isSynthesis = true ∧ world.Blames (.defined hall) failure :=
  have failed := World.compile_of_reaches rfl rfl reaches_second read_second
  ⟨_, _, failed, rfl, World.blames_of_compile failed rfl⟩

/-- It is blamed on a class that was called otherwise before, and is called otherwise again. -/
theorem second_renamed : ∃ failure later,
    Compilation.compile (.defined hall) world = .error failure later ∧
      failure.kind.isSynthesis = true ∧ failure.contract = some "Attic" ∧
        (world.classes.current hall).name = "Hall" ∧
          (later.classes.current hall).name = "Loft" :=
  ⟨_, _, World.compile_of_reaches rfl rfl reaches_second read_second, rfl, rfl, rfl, rfl⟩

end Attics
end PageContracts
