import PageContracts.Language.Access
import PageContracts.Language.Operators

/-! # Rows

Going through things item by item: what can be gone through, where the next item comes from, and the
rows whose items are made for the items of others.
-/
namespace PageContracts.Language.Rows

variable (machine : Machine)

/-- The names for the types of what goes through things. -/
def kindFor (item : Meaning) : String :=
  match item.core with
  | .list _ => "list_iterator"
  | .tuple _ => "tuple_iterator"
  | .set .. => "set_iterator"
  | .map _ => "dict_keyiterator"
  | .view "dict_values" _ _ => "dict_valueiterator"
  | .view "dict_items" _ _ => "dict_itemiterator"
  | .view .. => "dict_keyiterator"
  | .range .. => "range_iterator"
  | .constant (.bytes _) => "bytes_iterator"
  | .bytearray _ => "bytearray_iterator"
  | .constant (.text s) => 
    if s.toList.all fun c => c.toNat < 128 then "str_ascii_iterator" else "str_iterator"
  | item => item.typeName

/-- The row that goes through something. -/
def openRow (item : Meaning) : Eval Nat := do
  let item ← Eval.fresh item
  match ← Access.own? item "__iter__" with
  | some f =>
    let row ← machine.call f [] []
    match row.bare, ← Access.own? row "__next__" with
    | .iterator _ number, _ => return number
    | _, some next => Eval.start (.asked next)
    | _, none => Meaning.misuse "iter() returned non-iterator"
  | none =>
    if let some f ← Access.own? item "__getitem__" then
      return ← Eval.start (.indexed f 0 none)
    match item, item.core with
    | .type _, _ =>
      match Things.constantsOf? item with
      | some members => Eval.start (.row (members.map Prod.snd))
      | none => Meaning.misuse "object is not iterable"
    | _, .iterator _ number => return number
    | _, .range start stop step =>
      Eval.start (.counted start (Meaning.rangeLength start stop step) step)
    | .held number _, .list _ | .held number _, .bytearray _ => Eval.start (.live number 0)
    | .held number _, .set _ items => Eval.start (.guarded number items.length items)
    | .held number _, .map entries =>
      Eval.start (.guarded number entries.length (entries.map Prod.fst))
    | _, .view _ (.held number _) items => Eval.start (.guarded number items.length items)
    | _, core => Eval.start (.row (← core.heldItems))

/-- Bind the names of a target to a value, or to the items of one. The fuel bounds how deep targets
stand inside one another. -/
def bindTarget (frame : Nat) : Nat → Expression → Meaning → Eval Unit
  | 0, _, _ => throw (.breach .tooDeep "maximum recursion depth exceeded")
  | _, .name label, item => modify fun memory => memory.assignIn frame label item
  | fuel + 1, .tuple targets, item => bindItems fuel targets item
  | fuel + 1, .list targets, item => bindItems fuel targets item
  | _, _, _ => Meaning.misuse "cannot assign to this"
where
  /-- Bind targets to the items of a value; a spread one takes what the others leave. -/
  bindItems (fuel : Nat) (targets : List Expression) (item : Meaning) : Eval Unit := do
    let items ← machine.items item
    let before := targets.takeWhile fun target => !isSpread target
    match targets.drop before.length with
    | .spread rest :: after =>
      if items.length < before.length + after.length then
        throw (.valueBreach "not enough values to unpack")
      let middle := (items.take (items.length - after.length)).drop before.length
      bindAll fuel before items
      bindTarget frame fuel rest (.list middle)
      bindAll fuel after (items.drop (items.length - after.length))
    | _ =>
      if items.length < targets.length then throw (.valueBreach "not enough values to unpack")
      if targets.length < items.length then throw (.valueBreach "too many values to unpack")
      bindAll fuel targets items
  /-- Bind targets one by one. -/
  bindAll (fuel : Nat) (targets : List Expression) (items : List Meaning) : Eval Unit :=
    (targets.zip items).forM fun (target, item) => bindTarget frame fuel target item
  /-- Whether a target is spread out. -/
  isSpread : Expression → Bool
    | .spread _ => true
    | _ => false

/-- How deep targets stand inside one another at most. -/
def targetDepth : Nat := 200

/-- Whether all conditions hold. -/
def allHold (frame : Nat) : List Expression → Eval Bool
  | [] => return true
  | first :: rest => do
    if ← machine.holds (← machine.evaluate (some frame) first) then allHold frame rest
    else return false

/-- One step of a row that is made item by item: its next item, or its end, if that is known
already. -/
def makeStep (number : Nat) (item : Expression) (frame : Nat)
    (opened : List (Nat × Expression)) (closed : List Expression) :
    Eval (Option (Option Meaning)) := do
  match opened with
  | [] => return some none
  | (row, loop) :: outer =>
    match ← machine.next row, loop with
    | none, _ =>
      Eval.setSource number (.made item frame outer (loop :: closed))
      return if outer.isEmpty then some none else none
    | some value, .each target _ conditions =>
      bindTarget machine frame targetDepth target value
      if !(← allHold machine frame conditions) then return none
      match closed with
      | [] => return some (some (← machine.evaluate (some frame) item))
      | inner :: closed =>
        match inner with
        | .each _ source _ =>
          let row ← machine.openRow (← machine.evaluate (some frame) source)
          Eval.setSource number (.made item frame ((row, inner) :: opened) closed)
          return none
        | _ => return some none
    | some _, _ => return some none

/-- The next items of several rows, as long as all have one. -/
def nextOfAll : List Nat → Eval (List Meaning)
  | [] => return []
  | row :: rest => do
    match ← machine.next row with
    | none => return []
    | some item => return item :: (← nextOfAll rest)

/-- Require that rows that must be of one length are. -/
def requireEnds (taken : Nat) (rows : List Nat) : Eval Unit := do
  if taken ≠ 0 then throw (.valueBreach "zip() argument is shorter than the ones before it")
  (rows.drop 1).forM fun row => do
    if (← machine.next row).isSome then
      throw (.valueBreach "zip() argument is longer than the ones before it")

/-- What a row made of others gives for its next items, unless one of the others has ended. -/
def nextRow (rows : List Nat) (isStrict : Bool) : Eval (Option (List Meaning)) := do
  let items ← nextOfAll machine rows
  if rows.isEmpty || items.length < rows.length then
    if isStrict then requireEnds machine items.length rows
    return none
  return some items

/-- What an evaluation gives, unless its failure says that there is no more. -/
def unlessOver (ends : List FailureKind) (given : Eval Meaning) : Eval (Option Meaning) := fun memory =>
  match given memory with
  | .ok item memory => .ok (some item) memory
  | .error failure memory =>
    if ends.contains failure.kind then .ok none memory else .error failure memory

/-- The next item of a row. -/
def next (number : Nat) : Eval (Option Meaning) := do
  match (← get).sources[number]? with
  | none => return none
  | some source =>
    match source with
    | .row [] => return none
    | .row (first :: rest) =>
      Eval.setSource number (.row rest)
      return some first
    | .live held place => do
      let items ← (((← get).cells[held]?.getD .nothing).heldItems : Except Failure _)
      match items[place]? with
      | some item =>
        Eval.setSource number (.live held (place + 1))
        return some item
      | none =>
        Eval.setSource number (.row [])
        return none
    | .guarded held size items => do
      if (← ((← get).cells[held]?.getD .nothing).size) ≠ size then
        throw (.breach .outOfTurn "changed size during iteration")
      match items with
      | [] => return none
      | first :: rest =>
        Eval.setSource number (.guarded held size rest)
        return some first
    | .body frame body => do
      let _ ← machine.evaluate (some frame) body
      let given := ((← get).frames[frame]?.map Frame.yielded).getD []
      match given with
      | [] =>
        Eval.setSource number (.row [])
        return none
      | first :: rest =>
        Eval.setSource number (.row rest)
        return some first
    | .asked f => unlessOver [.noMore] (machine.call f [] [])
    | .indexed _ _ (some 0) => return none
    | .indexed f i count => do
      let isDown := count.isSome
      Eval.setSource number (.indexed f (if isDown then i - 1 else i + 1) (count.map Nat.pred))
      unlessOver [.noMore, .outOfBounds] (machine.call f [Meaning.int i] [])
    | .counted _ 0 _ => return none
    | .counted i (count + 1) step =>
      Eval.setSource number (.counted (i + step) count step)
      return some (Meaning.int i)
    | .mapped f rows =>
      match ← nextRow machine rows false with
      | none => return none
      | some items => return some (← machine.call f items [])
    | .filtered f row =>
      Eval.untilSome (do
        match ← machine.next row with
        | none => return some none
        | some item =>
          let holds ←
            match f with
            | .constant .none => machine.holds item
            | f => do machine.holds (← machine.call f [item] [])
          return if holds then some (some item) else none) Eval.itemLimit
    | .zipped isStrict rows => return (← nextRow machine rows isStrict).map .tuple
    | .numbered i row =>
      match ← machine.next row with
      | none => return none
      | some item =>
        Eval.setSource number (.numbered (i + 1) row)
        return some (.tuple [Meaning.int i, item])
    | .called f last =>
      let item ← machine.call f [] []
      if Meaning.same item last then
        Eval.setSource number (.row [])
        return none
      return some item
    | .made item frame _ _ =>
      Eval.untilSome (do
        match (← get).sources[number]? with
        | some (.made _ _ opened closed) => makeStep machine number item frame opened closed
        | _ => return some none) Eval.itemLimit

/-- A row of a kind that goes through something. -/
def rowOf (kind : String) (source : Source) : Eval Meaning := do
  return .iterator kind (← Eval.start source)

end PageContracts.Language.Rows
