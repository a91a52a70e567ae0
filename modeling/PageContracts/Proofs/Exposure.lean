import PageContracts.Proofs.Orderly
import PageContracts.Proofs.Places

/-! # What a contract exposes

A plan goes by the name that its function has of its own, and is dispatched under that name. It
belongs to what the contract exposes there just when the function that was read last of those of
that name is the nearest member. -/
namespace PageContracts

open Runs

theorem Implements.operation_name {table : ClassTable} {contract : ClassRef}
    {read : List (DeclaredFunction × Operation)} {f : DeclaredFunction} {plan : CallPlan}
    (h : Implements table contract read f plan) : IsOperationName f.name := by
  obtain ⟨operation, rule, -, declared, selected, -⟩ := h
  obtain ⟨listed, accepted⟩ := Registry.accepts_of_select selected
  rw [← declared.name_eq]
  exact ⟨rule, listed, Rule.named_of_accepts accepted⟩

/-- A plan belongs to what is exposed under its name: the nearest member is a function, it is kept
beside the plan, and the plan is made from it. -/
def CompiledContract.Belongs (compiled : CompiledContract) (table : ClassTable)
    (read : List (DeclaredFunction × Operation)) (contract : ClassRef) (name : String)
    (plan : CallPlan) : Prop :=
  ∃ f, table.member? (.defined compiled.contract) name = some (.function f) ∧
    compiled.members.lookup name = some (.function f) ∧
      lastNamed name (read.map Prod.fst) = some f ∧ Implements table contract read f plan

/-- A name is dispatched to a function: there is a method that takes what the function takes and
runs a plan that is made from it, and a call of the name on an object runs that method. -/
def Implementation.Dispatches (β : Type) [Remote β] (implementation : Implementation)
    (table : ClassTable) (read : List (DeclaredFunction × Operation)) (contract : ClassRef)
    (name : String) (f : DeclaredFunction) : Prop :=
  ∃ method, implementation.methods.lookup name = some method ∧
    method.signature = f.signature ∧ lastNamed name (read.map Prod.fst) = some f ∧
      Implements table contract read f method.plan ∧
        ∀ (object : LiveObject) (number : Nat) (positions : List Value)
          (named : List (String × Value)) (world : World β),
            object.implementation = implementation → object.attributes = [] →
              object.call number name positions named world =
                (world.refreshed object).runMethod number method positions named world

namespace Compilation

variable {β : Type} {world later : World β} {contract : ClassRef}

/-- Of a contract that is compiled for the first time, every plan comes from the function that was
read last of those that go by its name, and belongs to what is exposed under that name just when
that is this function. -/
theorem belongs_iff_of_compile {compiled : CompiledContract}
    (first : cached? world contract = none)
    (h : compile (.defined contract) world = .ok compiled later) :
    ∃ read memory, Operation.sources contract world.memory = .ok read memory ∧
      (∀ name plan, compiled.plans.lookup name = some plan →
        ∃ f, lastNamed name (read.map Prod.fst) = some f ∧
          Implements later.classes contract read f plan ∧
            (compiled.Belongs later.classes read contract name plan ↔
              later.classes.member? (.defined compiled.contract) name = some (.function f))) ∧
      (Operation.Orderly world.classes contract →
        read.map Prod.fst = Operation.declaredFunctions world.classes contract) := by
  obtain ⟨read, memory, sourced, known⟩ := compile_eq_ok first h
  refine ⟨read, memory, sourced, fun name plan planned => ?_, fun orderly => ?_⟩
  · obtain ⟨f, source, implements⟩ := known.plans.lookup_right planned
    rw [lookup_byName] at source
    refine ⟨f, source, implements, ?_, fun nearest => ?_⟩
    · rintro ⟨g, nearest, -, source', -⟩
      obtain rfl := Option.some.inj (source.symm.trans source')
      exact nearest
    · obtain ⟨member, kept, found⟩ := known.members.lookup_left planned
      rw [nearest] at found
      cases found
      exact ⟨f, nearest, kept, source, implements⟩
  · exact Operation.sources_of_orderly orderly sourced

end Compilation

namespace Shadows

/-- The class of a page with two buttons. -/
def base : ClassRef := { number := 0, name := "Base" }

/-- The class of a page that has a number in the place of a button. -/
def shadow : ClassRef := { number := 1, name := "Shadow" }

/-- A click on an element. -/
def click (name template : String) : DeclaredFunction where
  name := name
  locator := some { kind := .id, template }

/-- Two pages, one of which descends from the other. -/
def classes : ClassTable where
  classes := [
    { ref := base, key := "Base", ancestry := [.defined base, .page]
      members := [
        ("click_a", .function (click "click_a" "a")),
        ("click_b", .function (click "click_b" "b"))] },
    { ref := shadow, key := "Shadow", ancestry := [.defined shadow, .defined base, .page]
      members := [("click_a", .constant (.int 5))] }]

/-- A world in which nothing has happened. -/
def world : World ScriptedBrowser where
  browser := {}
  clock := default
  classes := classes

theorem orderly : Operation.Orderly world.classes base := by
  refine Operation.orderly_of_bare (fun info listed => ?_) (by decide) (by decide)
  obtain rfl := List.mem_singleton.mp listed
  rfl

/-- The plan of a button of the first page belongs to its function. -/
theorem click_belongs :
    ∃ compiled later read memory plan,
      Compilation.compile (.defined base) world = .ok compiled later ∧
        Operation.sources base world.memory = .ok read memory ∧
        compiled.plans.lookup "click_a" = some plan ∧
        compiled.Belongs later.classes read base "click_a" plan := by
  obtain ⟨compiled, later, compiles⟩ :
      ∃ compiled later, Compilation.compile (.defined base) world = .ok compiled later :=
    ⟨_, _, rfl⟩
  obtain ⟨read, memory, sourced, belongs, declared⟩ :=
    Compilation.belongs_iff_of_compile rfl compiles
  cases compiles
  obtain ⟨f, source, -, exact⟩ := belongs "click_a" _ rfl
  rw [declared orderly] at source
  cases source
  exact ⟨_, _, read, memory, _, rfl, sourced, rfl, exact.mpr rfl⟩

/-- The second page has a plan for the button that it has a number for. -/
theorem number_planned :
    ∃ compiled later plan,
      Compilation.compile (.defined shadow) world = .ok compiled later ∧
        compiled.plans.lookup "click_a" = some plan ∧
        later.classes.member? (.defined shadow) "click_a" = some (.constant (.int 5)) :=
  ⟨_, _, _, rfl, rfl, rfl⟩

end Shadows

namespace Compilation

variable {β : Type} [Remote β] {world later : World β} {table : ClassTable} {contract : ClassRef}
  {read : List (DeclaredFunction × Operation)} {compiled : CompiledContract}
  {implementation : Implementation} {name : String}

/-- A function that is exposed under a name is dispatched just when it was read last of that name.
-/
theorem dispatches_iff (known : Compiled table read contract compiled)
    (built : Implemented table compiled implementation) {f : DeclaredFunction}
    (nearest : table.member? (.defined implementation.contract) name = some (.function f)) :
    implementation.Dispatches β table read contract name f ↔
      lastNamed name (read.map Prod.fst) = some f := by
  constructor
  · rintro ⟨method, -, -, source, -⟩
    exact source
  · intro source
    have goes : f.name = name := name_of_lastNamed source
    obtain ⟨plan, planned, implements⟩ :=
      known.plans.lookup_left ((lookup_byName _ _).trans source)
    obtain ⟨method, found, rfl, member, kept, taken⟩ := built.methods.lookup_left planned
    obtain ⟨_, kept', exposed⟩ := known.members.lookup_left planned
    obtain rfl := Option.some.inj (kept.symm.trans kept')
    rw [built.contract, exposed] at nearest
    cases nearest
    have signature : f.signature = method.signature := Except.ok.inj taken
    refine ⟨method, found, signature.symm, source, implements, ?_⟩
    rintro object number positions named before rfl bare
    exact LiveObject.call_operation bare (goes ▸ implements.operation_name) found number

/-- A name that no function goes by is not dispatched. -/
theorem undispatched (known : Compiled table read contract compiled)
    (built : Implemented table compiled implementation)
    (source : lastNamed name (read.map Prod.fst) = none) :
    implementation.methods.lookup name = none := by
  rw [← lookup_byName] at source
  rcases known.plans.lookup name with ⟨-, unplanned⟩ | ⟨_, _, sourced, -, -⟩
  · rcases built.methods.lookup name with ⟨-, absent⟩ | ⟨_, _, planned, -, -⟩
    · exact absent
    · rw [unplanned] at planned
      cases planned
  · rw [source] at sourced
    cases sourced

/-- The methods of an implementation that is built for the first time run the plans of its contract.
Where the contract is compiled with it, a function that is exposed under a name is dispatched just
when it was read last of those that go by this name, and no name is dispatched that no function goes
by. -/
theorem dispatches_iff_of_implement {base : BaseClass}
    (unbuilt : implemented? world (.defined contract) base = none)
    (h : implement (.defined contract) base world = .ok implementation later) :
    ∃ compiled settled, compile (.defined contract) world = .ok compiled settled ∧
      (∀ name, (implementation.methods.lookup name).map Method.plan = compiled.plans.lookup name) ∧
      (cached? world contract = none →
        ∃ read memory, Operation.sources contract world.memory = .ok read memory ∧
          (∀ name f,
            later.classes.member? (.defined implementation.contract) name = some (.function f) →
              (implementation.Dispatches β later.classes read contract name f ↔
                lastNamed name (read.map Prod.fst) = some f)) ∧
          (∀ name, lastNamed name (read.map Prod.fst) = none →
            implementation.methods.lookup name = none) ∧
          (Operation.Orderly world.classes contract →
            read.map Prod.fst = Operation.declaredFunctions world.classes contract)) := by
  obtain ⟨compiled, settled, compiling, classes, built⟩ := implement_eq_ok unbuilt h
  refine ⟨compiled, settled, compiling, fun name => ?_, fun first => ?_⟩
  · rcases built.methods.lookup name with ⟨unplanned, absent⟩ | ⟨_, _, planned, found, runs, -⟩
    · rw [unplanned, absent]
      rfl
    · rw [planned, found, ← runs]
      rfl
  · obtain ⟨read, memory, sourced, known⟩ := compile_eq_ok first compiling
    rw [classes]
    exact ⟨read, memory, sourced, fun name f nearest => dispatches_iff known built nearest,
      fun name => undispatched known built,
      fun orderly => Operation.sources_of_orderly orderly sourced⟩

end Compilation

namespace Menus

open Shadows (click)

/-- The class of a menu that opens under two names. -/
def menu : ClassRef := { number := 0, name := "Menu" }

/-- A menu whose one operation goes by the first of its names. -/
def classes : ClassTable where
  classes := [
    { ref := menu, key := "Menu", ancestry := [.defined menu, .page]
      members := [
        ("click_open", .function (click "click_open" "open")),
        ("click_start", .function (click "click_open" "open"))] }]

/-- A world in which nothing has happened. -/
def world : World ScriptedBrowser where
  browser := {}
  clock := default
  classes := classes

theorem orderly : Operation.Orderly world.classes menu := by
  refine Operation.orderly_of_bare (fun info listed => ?_) (by decide) (by decide)
  obtain rfl := List.mem_singleton.mp listed
  rfl

/-- Opening is dispatched. -/
theorem open_dispatched :
    ∃ implementation later read memory,
      Compilation.implement (.defined menu) .plain world = .ok implementation later ∧
        Operation.sources menu world.memory = .ok read memory ∧
        implementation.Dispatches ScriptedBrowser later.classes read menu "click_open"
          (click "click_open" "open") := by
  obtain ⟨implementation, later, builds⟩ :
      ∃ implementation later,
        Compilation.implement (.defined menu) .plain world = .ok implementation later :=
    ⟨_, _, rfl⟩
  obtain ⟨_, _, -, -, fresh⟩ := Compilation.dispatches_iff_of_implement rfl builds
  obtain ⟨read, memory, sourced, dispatches, -, declared⟩ := fresh rfl
  cases builds
  refine ⟨_, _, read, memory, rfl, sourced, (dispatches _ _ rfl).mpr ?_⟩
  rw [declared orderly]
  rfl

/-- The other name of the operation is exposed, but is not dispatched. -/
theorem start_undispatched :
    ∃ implementation later,
      Compilation.implement (.defined menu) .plain world = .ok implementation later ∧
        later.classes.member? (.defined menu) "click_start" =
          some (.function (click "click_open" "open")) ∧
        implementation.methods.lookup "click_start" = none :=
  ⟨_, _, rfl, rfl, rfl⟩

end Menus
end PageContracts
