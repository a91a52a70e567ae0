import PageContracts.Contract.Renaming
import PageContracts.Objects.Attributes

/-! # Renaming in the world

Changing a class changes what it is called wherever it is known: in what has been compiled of it, in
its implementations, and in the objects that hold it.
-/
namespace PageContracts

namespace CallPlan

/-- A plan in which every class has been replaced. -/
def mapClasses (change : ClassRef → ClassRef) (plan : CallPlan) : CallPlan :=
  { plan with operation := plan.operation.mapClasses change }

end CallPlan

namespace CompiledContract

/-- A compiled contract in which every class has been replaced. -/
def mapClasses (change : ClassRef → ClassRef) (compiled : CompiledContract) :
    CompiledContract :=
  { compiled with
    contract := change compiled.contract
    plans := compiled.plans.map fun entry => (entry.1, entry.2.mapClasses change)
    members := compiled.members.map fun entry => (entry.1, entry.2.mapClasses change) }

end CompiledContract

namespace Implementation

/-- An implementation in which every class has been replaced; it keeps its own name. -/
def mapClasses (change : ClassRef → ClassRef) (implementation : Implementation) :
    Implementation :=
  { implementation with
    contract := change implementation.contract
    methods := implementation.methods.map fun entry =>
      (entry.1, { entry.2 with
        plan := entry.2.plan.mapClasses change
        signature := entry.2.signature.map (Parameter.mapClasses change) }) }

end Implementation

namespace World

variable {β : Type}

/-- A world in which every class has been replaced. -/
def mapClasses (change : ClassRef → ClassRef) (world : World β) : World β :=
  { world with
    classes := world.classes.mapClasses change
    compiled := world.compiled.map (CompiledContract.mapClasses change)
    implementations := world.implementations.map (Implementation.mapClasses change)
    objects := world.objects.map fun object =>
      { object.mapValues (Value.mapClasses change) with
        implementation := object.implementation.mapClasses change } }

/-- Set a member of a class, and call the class by its new name everywhere when that is what the
member tells. -/
def setMember (ref : ClassRef) (draft : MemberDraft) : Run β Unit := do
  let (classes, renamed) ← Run.ofExcept ((← get).classes.setMember ref draft)
  modify fun world =>
    let world := { world with classes, language := world.language.forget ref.number draft.name }
    if renamed = ref then world else world.mapClasses (ClassRef.follow renamed)

end World
end PageContracts
