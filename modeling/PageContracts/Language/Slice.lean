import PageContracts.Language.Meaning

/-! # Places and slices

Choosing an item of a row by its place, or a part of it by a slice. Places count from the end of the
row when they are negative, and a slice never leaves the row.
-/
namespace PageContracts.Language

/-- An item of a row, counted from its end when the place is negative. -/
def itemAt {α : Type} (items : List α) (place : Int) : Except Failure α :=
  let place := if place < 0 then place + items.length else place
  match if place < 0 then none else items[place.toNat]? with
  | some item => .ok item
  | none => .error (.breach .outOfBounds "index out of range")

/-- A bound of a slice: a whole number, or none. -/
def boundOf (bound : Meaning) : Except Failure (Option Int) :=
  match bound, bound.integer? with
  | .constant .none, _ => .ok none
  | _, some i => .ok (some i)
  | _, none => Meaning.misuse "slice indices must be integers or None"

/-- A bound within a row of some length, or right outside of it. -/
def clipped (length : Nat) (bound : Int) (low high : Int) : Int :=
  let bound := if bound < 0 then bound + length else bound
  if bound < low then low else if high < bound then high else bound

/-- The start, the stop and the step of a slice of a row of some length. -/
def sliceBounds (length : Nat) (start stop step : Meaning) : Except Failure (Int × Int × Int) := do
  let step := (← boundOf step).getD 1
  let start ← boundOf start
  let stop ← boundOf stop
  if step = 0 then throw (.valueBreach "slice step cannot be zero")
  let low : Int := if 0 < step then 0 else -1
  let high : Int := if 0 < step then length else (length : Int) - 1
  let first := (start.map fun bound => clipped length bound low high).getD
    (if 0 < step then low else high)
  let last := (stop.map fun bound => clipped length bound low high).getD
    (if 0 < step then high else low)
  return (first, last, step)

/-- The part of a row that a slice chooses. -/
def sliced {α : Type} (items : List α) (start stop step : Meaning) : Except Failure (List α) := do
  let (first, last, step) ← sliceBounds items.length start stop step
  let row := items.toArray
  return (List.range (Meaning.rangeLength first last step)).filterMap fun (i : Nat) =>
    row[(first + (i : Int) * step).toNat]?

/-- What an index chooses out of a row: an item, or a part of the row. -/
def chooseFrom {α : Type} (items : List α) (index : Meaning) (one : α → Meaning)
    (part : List α → Meaning) : Except Failure Meaning :=
  match index with
  | .slice start stop step => (sliced items start stop step).map part
  | index =>
    match index.integer? with
    | some place =>
      if Nat.pow 2 63 ≤ place.natAbs then
        .error (.breach .outOfBounds "cannot fit into an index-sized integer")
      else (itemAt items place).map one
    | none => Meaning.misuse "indices must be integers or slices"

namespace Meaning

/-- What an index chooses out of a value of the language. -/
def chosen (base index : Meaning) : Except Failure Meaning := do
  match base.core with
  | .tuple items => chooseFrom items index id .tuple
  | .list items => chooseFrom items index id .list
  | .constant (.text s) =>
    chooseFrom s.toList index (fun c => text (String.ofList [c])) fun part => text (String.ofList part)
  | .constant (.bytes bytes) =>
    chooseFrom bytes index (fun b => int b.toNat) fun part => .constant (.bytes part)
  | .bytearray bytes => chooseFrom bytes index (fun b => int b.toNat) .bytearray
  | .memoryview whole =>
    let index ←
      match index with
      | .tuple [only] => if only.integer?.isSome then pure only else notDone
      | .tuple _ => notDone
      | index => pure index
    chooseFrom (whole.bytes?.getD []) index (fun b => int b.toNat) fun part =>
      .memoryview (.constant (.bytes part))
  | .range start stop step =>
    match index with
    | .slice a b c => do
      let (first, last, stride) ← sliceBounds (rangeLength start stop step) a b c
      return .range (start + first * step) (start + last * step) (stride * step)
    | index =>
      match index.integer? with
      | some place =>
        let length := rangeLength start stop step
        let offset := if place < 0 then place + length else place
        if 0 ≤ offset && offset < length then .ok (int (start + offset * step))
        else .error (.breach .outOfBounds "range object index out of range")
      | none => misuse "range indices must be integers or slices"
  | .map entries =>
    match lookup? index entries with
    | some value => .ok value
    | none =>
      if index.hashable then .error (.breach .missingKey index.shown) else misuse "unhashable type"
  | _ => misuse "object is not subscriptable"
where
  /-- The failure of choosing in more directions than one. -/
  notDone : Except Failure Meaning :=
    .error (.breach (.raised "NotImplementedError") "multi-dimensional slicing is not implemented")

end Meaning
end PageContracts.Language
