import PageContracts.Language.Calls
import PageContracts.Language.Statement

/-! # Execution

What carrying out statements does: names are bound where the statements stand, and classes, instances
and rows are changed.
-/
namespace PageContracts.Language.Execution

open Meaning

variable (machine : Machine)

/-- Bind a name where a statement stands. -/
def bindName (place : Option Nat) (name : String) (item : Meaning) : Eval Unit :=
  modify fun memory => memory.bind place name item

/-- Remove a name where a statement stands. -/
def removeName (place : Option Nat) (name : String) : Eval Unit := do
  let memory ← get
  let missing : Failure :=
    .breach .unknownName ("name " ++ Quoted.quoted name ++ " is not defined")
  let without (names : List (String × Meaning)) : List (String × Meaning) :=
    names.filter fun entry => entry.1 ≠ name
  match place with
  | none =>
    if (memory.locals.lookup name).isNone then throw missing
    set { memory with locals := without memory.locals }
  | some number =>
    if (((memory.frames[number]?).map Frame.names).getD []).lookup name |>.isNone then throw missing
    set { memory with
      frames := memory.frames.modify number fun frame => { frame with names := without frame.names } }

/-- Call what something has under a name, which it must have to be changed by brackets. -/
def change (item : Meaning) (name : String) (given : List Meaning) : Eval Unit := do
  match ← Access.get? machine item name with
  | some f =>
    let _ ← machine.call f given []
  | none => misuse "object does not support item assignment"

/-- Bind a target to something. The fuel bounds how deep targets stand inside one another. -/
def assignTo (place : Option Nat) : Nat → Expression → Meaning → Eval Unit
  | 0, _, _ => throw (.breach .tooDeep "maximum recursion depth exceeded")
  | _, .name label, item => bindName place label item
  | _, .dotted base label, item => do
    Classes.setAttribute machine (← Eval.fresh (← machine.evaluate place base)) label item false
  | _, .item base index, item => do
    let base ← Eval.fresh (← machine.evaluate place base)
    change machine base "__setitem__" [← machine.evaluate place index, item]
  | fuel + 1, .tuple goals, item => assignItems fuel goals item
  | fuel + 1, .list goals, item => assignItems fuel goals item
  | _, _, _ => misuse "cannot assign to this"
where
  /-- Bind targets to the items of something; a spread one takes what the others leave. -/
  assignItems (fuel : Nat) (goals : List Expression) (item : Meaning) : Eval Unit := do
    let items ← machine.items item
    let before := goals.takeWhile fun goal => !(goal matches .spread _)
    let after := goals.drop (before.length + 1)
    if items.length < before.length + after.length then
      throw (.valueBreach "not enough values to unpack")
    match goals.drop before.length with
    | .spread rest :: after =>
      let middle := (items.take (items.length - after.length)).drop before.length
      assignAll fuel before items
      assignTo place fuel rest (.list middle)
      assignAll fuel after (items.drop (items.length - after.length))
    | _ =>
      if items.length < goals.length then throw (.valueBreach "not enough values to unpack")
      if goals.length < items.length then throw (.valueBreach "too many values to unpack")
      assignAll fuel goals items
  /-- Bind targets one by one. -/
  assignAll (fuel : Nat) (goals : List Expression) (items : List Meaning) : Eval Unit :=
    (goals.zip items).forM fun (goal, item) => assignTo place fuel goal item

/-- How deep targets stand inside one another at most. -/
def goalDepth : Nat := 200

/-- The names of the functions that change a value by a sign. -/
def changers : List (String × String) :=
  [("+", "__iadd__"), ("*", "__imul__"), ("|", "__ior__"), ("&", "__iand__"), ("-", "__isub__"),
    ("^", "__ixor__")]

/-- What a sign makes of something that may be changed by it. -/
def changedBy (place : Option Nat) (sign : String) (goal value : Expression) : Eval Meaning := do
  let item ← Eval.fresh (← machine.evaluate place goal)
  let own ← (changers.lookup sign).mapM fun name => Access.get? machine item name
  match own with
  | some (some f) => machine.call f [← machine.evaluate place value] []
  | _ => machine.evaluate place (.binary sign goal value)

/-- Remove what a target stands for. -/
def remove (place : Option Nat) : Expression → Eval Unit
  | .name label => removeName place label
  | .dotted base label => do
    Classes.removeAttribute machine (← Eval.fresh (← machine.evaluate place base)) label false
  | .item base index => do
    let base ← Eval.fresh (← machine.evaluate place base)
    change machine base "__delitem__" [← machine.evaluate place index]
  | .tuple goals => removeAll goals
  | .list goals => removeAll goals
  | _ => misuse "cannot delete this"
where
  /-- Remove what some targets stand for. -/
  removeAll : List Expression → Eval Unit
    | [] => return ()
    | first :: rest => do
      remove place first
      removeAll rest

/-- The failure of a module that is not there. -/
def noModule (name : String) : Failure :=
  .breach (.raised "ModuleNotFoundError") ("No module named " ++ name)

/-- Bind what a module has under names. -/
def take (place : Option Nat) (from' : String) (names : List (String × String)) : Eval Unit := do
  match Things.module? from' with
  | none => throw (noModule from')
  | some found =>
    names.forM fun (name, goal) => do
      match ← Access.get? machine found name with
      | some item => bindName place goal item
      | none => throw (.breach (.raised "ImportError") ("cannot import name " ++ name))

/-- Raise a failure. -/
def raise (failure : Meaning) : Eval Unit := do
  throw (← (Methods.failureOf failure : Except Failure Failure))

/-- The parameters of a function, with what their defaults mean. -/
def slots (place : Option Nat) :
    List (String × ParameterKind × Option Expression) → Eval (List Calls.Slot)
  | [] => return []
  | (label, kind, default) :: rest => do
    let default ←
      match default with
      | some value => do pure (some (← machine.evaluate place value))
      | none => pure none
    return (label, kind, default) :: (← slots place rest)

mutual

/-- Carry out a statement where it stands: in a frame, or outside of all. -/
def run (place : Option Nat) : Statement → Eval Unit
  | .idle => return ()
  | .plain expression => do
    let _ ← machine.evaluate place expression
  | .assigned goals value => do
    let item ← machine.evaluate place value
    goals.forM fun goal => assignTo machine place goalDepth goal item
  | .changed sign goal value => do
    assignTo machine place goalDepth goal (← changedBy machine place sign goal value)
  | .removed goals => goals.forM (remove machine place)
  | .required condition => do
    if !(← machine.holds (← machine.evaluate place condition)) then
      throw (.breach (.raised "AssertionError") "")
  | .failing none => throw (.breach .outOfTurn "No active exception to reraise")
  | .failing (some failure) => do raise (← Eval.fresh (← machine.evaluate place failure))
  | .loaded modules =>
    modules.forM fun (name, goal) =>
      match Things.module? name with
      | some found => bindName place goal found
      | none => throw (noModule name)
  | .taken from' names => take machine place from' names
  | .function name parameters body => do
    bindName place name (← Eval.owned (.closure (← slots machine place parameters) body place))
  | .newClass name bases body => do
    let bases ← bases.mapM (machine.evaluate place)
    let inside ← Eval.openFrame { outer := place }
    runAll (some inside) body
    let members := (((← get).frames[inside]?).map Frame.names).getD []
    let entries := members.map fun (label, item) => (text label, item)
    bindName place name (← Classes.define machine none (text name) bases entries [])
  | .conditional condition body => do
    if ← machine.holds (← machine.evaluate place condition) then runAll place body
  | .repeated goal source body => do
    (← machine.items (← machine.evaluate place source)).forM fun item => do
      assignTo machine place goalDepth goal item
      runAll place body

/-- Carry out statements one after the other. -/
def runAll (place : Option Nat) : List Statement → Eval Unit
  | [] => return ()
  | first :: rest => do
    run place first
    runAll place rest

end

/-- The failure of a text that is none of the language. -/
def malformed {α : Type} : Except Failure α :=
  .error (.breach .malformed "invalid syntax")

/-- The text of something that spells expressions or statements. -/
def source (item : Meaning) : Except Failure String :=
  match TextMethod.characters? item with
  | none => misuse "arg 1 must be a string, bytes or code object"
  | some (_, characters) =>
    if characters.contains '\x00' then
      .error (.valueBreach "source code string cannot contain null bytes")
    else .ok (String.ofList characters)

/-- The expression that a text spells, without what is blank in front of it. -/
def expressionOf (text : String) : Except Failure Expression :=
  let text := String.ofList (text.toList.dropWhile fun c => c = ' ' || c = '\t')
  match Expression.ofText? text with
  | some expression => .ok expression
  | none => malformed

/-- The statements that a text spells. -/
def statementsOf (text : String) : Except Failure (List Statement) :=
  match Statement.ofText? text with
  | some statements => .ok statements
  | none =>
    if ((Clause.ofText text).head?.map Clause.isIndented).getD false then
      .error (.breach (.raised "IndentationError") "unexpected indent")
    else malformed

/-- What is compiled ahead: its text, and the mode it is compiled in. -/
def codeType : String := "code"

/-- Compile a text ahead. -/
def compiled (positions : List Meaning) : Except Failure Meaning := do
  match positions with
  | spelled :: file :: mode :: _ =>
    let mode ← Arguments.textual mode
    if file.text?.isNone && file.bytes?.isNone then misuse "expected str, bytes or os.PathLike object"
    match spelled.bare with
    | .wrapped kind parts => return .wrapped kind parts
    | spelled =>
      let written ← source spelled
      if mode = "eval" then let _ ← expressionOf written
      else if mode = "exec" || mode = "single" then let _ ← statementsOf written
      else throw (.valueBreach "compile() mode must be 'exec', 'eval' or 'single'")
      return .wrapped codeType [text written, text mode]
  | _ => Arguments.refused

/-- What a text or something compiled ahead gives in a frame, or outside of all; statements give
nothing. -/
def evaluated (place : Option Nat) (isExpression : Bool) (item : Meaning) : Eval Meaning := do
  let (written, isExpression) ←
    match item.bare with
    | .wrapped "code" [written, mode] =>
      pure (written.text?.getD "", decide (mode.text? = some "eval"))
    | item => do pure (← (source item : Except Failure _), isExpression)
  if isExpression then machine.evaluate place (← (expressionOf written : Except Failure _))
  else
    runAll machine place (← (statementsOf written : Except Failure _))
    return nothing

/-- Names and their meanings out of a map. -/
def namesOf (item : Meaning) : Except Failure (List (String × Meaning)) :=
  match item.core with
  | .map entries => .ok (entries.filterMap fun (key, value) => key.text?.map fun k => (k, value))
  | .constant .none => .ok []
  | _ => misuse "globals must be a dict"

/-- The name under which the names that are always there are put among the others. -/
def builtinsName : String := "__builtins__"

/-- Put what a frame has become back into the map that its names were taken from. -/
def putBack (item : Meaning) (number : Nat) : Eval Unit := do
  match item.core with
  | .map entries =>
    let names := (((← get).frames[number]?).map Frame.names).getD []
    let others := entries.filter fun entry => entry.1.text?.isNone
    Eval.rewrite item (.map (names.map (fun (label, value) => (text label, value)) ++ others))
  | _ => return ()

/-- What a text gives whose names are those of one map, or of one map around another. -/
def evaluatedWith (isExpression : Bool) (item globals : Meaning) (locals : Option Meaning) :
    Eval Meaning := do
  let known ← (namesOf globals : Except Failure _)
  let known :=
    if (known.lookup builtinsName).isSome then known
    else known ++ [(builtinsName, .thing Things.moduleType "<module 'builtins' (built-in)>"
      [("__name__", text "builtins")])]
  let whole ← Eval.openFrame { names := known, isClosed := true }
  match locals with
  | none =>
    let result ← evaluated machine (some whole) isExpression item
    putBack globals whole
    return result
  | some locals =>
    let part ← Eval.openFrame
      { names := ← (namesOf locals : Except Failure _), outer := some whole }
    let result ← evaluated machine (some part) isExpression item
    putBack globals whole
    putBack locals part
    return result

end PageContracts.Language.Execution
