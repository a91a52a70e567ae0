import PageContracts.Objects.Renaming

/-! # Reading annotations

Annotations are expressions, and their evaluation may do anything that expressions can do: bind names,
make classes, and change or rename those there are. What it does it does to the world, also when it
fails in the end.
-/
namespace PageContracts

namespace World

variable {β : Type}

/-- The memory in which annotations are evaluated. -/
def memory (world : World β) : Language.Memory :=
  { world.language with table := world.classes }

/-- The world after an evaluation: its classes are as the evaluation left them, and are called so
everywhere. -/
def afterReading (world : World β) (memory : Language.Memory) : World β :=
  let isRenamed := world.classes.classes.any fun info => memory.table.current info.ref ≠ info.ref
  let world := { world with classes := memory.table, language := { memory with table := {} } }
  if isRenamed then world.mapClasses memory.table.current else world

end World

namespace Run

variable {β α : Type}

/-- Evaluate in the world. -/
def reading (run : Language.Eval α) : Run β α := fun world =>
  match run world.memory with
  | .ok result memory => .ok result (world.afterReading memory)
  | .error failure memory => .error failure (world.afterReading memory)

end Run
end PageContracts
