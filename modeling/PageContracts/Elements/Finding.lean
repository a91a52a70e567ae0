import PageContracts.Retry.Loop

/-! # Finding elements

An element is found when it becomes visible in time. The finder owns the whole policy of waiting
and retrying; nothing else ever waits.
-/
namespace PageContracts.Finder

variable {β : Type} [Remote β]

/-- How much of the browser's message goes into the report of an element that was not found. -/
def messageLimit : Nat := 80

/-- The report of an element that was not found: of the browser's message only the first line is
kept, so there has to be one. -/
def notFound (locator : ResolvedLocator) (failure : Failure) : Failure :=
  match Characters.firstLine? failure.message with
  | none => .breach .outOfBounds "list index out of range"
  | some line =>
    .own .elementNotFound ("Element not found: " ++ locator.display ++ " (" ++
      locator.selector ++ ") -> " ++ String.ofList (line.toList.take messageLimit))

/-- Wait once for an element; the result is its selector. -/
def waitVisible (page : Nat) (timeout : Value) (locator : ResolvedLocator) : Run β String := do
  let selector := locator.selector
  Run.note (.locate page selector)
  try Run.ask (.waitVisible page selector timeout)
  catch failure =>
    if failure.kind = .browser then throw (notFound locator failure) else throw failure
  Run.log .debug ("Element found: " ++ selector)
  return selector

/-- The name under which retries are logged. -/
def attemptName : String := "_wait_visible"

/-- Find the element of a locator by the policy of the finder. -/
def find (finder : Finder) (page : Nat) (locator : ResolvedLocator) : Run β String :=
  match finder with
  | .impatient timeout => waitVisible page timeout locator
  | .patient timeout budget =>
    Retry.run budget attemptName (fun failure => failure.kind.within .elementNotFound)
      (waitVisible page timeout locator)

end PageContracts.Finder
