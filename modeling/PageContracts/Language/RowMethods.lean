import PageContracts.Language.Arguments
import PageContracts.Language.Operators
import PageContracts.Language.Slice

/-! # Methods of rows, sets and maps

What lists, tuples, ranges, sets and maps can be asked for, and told to. A method gives its result
and what has become of the row, set or map it was called on.
-/
namespace PageContracts.Language.RowMethod

open Meaning

/-- What a method gives: its result, and what it was called on as it is afterwards. -/
structure Change where
  result : Meaning
  receiver : Meaning
  deriving Repr, Inhabited

/-- A method that only gives something. -/
def gives (receiver result : Meaning) : Except Failure Change :=
  .ok { result, receiver }

/-- A method that only changes something. -/
def becomes (receiver : Meaning) : Except Failure Change :=
  .ok { result := nothing, receiver }

/-- The place of an item in a row, within bounds. -/
def indexIn (items : List Meaning) (given : List Meaning) : Except Failure Nat :=
  match given with
  | item :: bounds => do
    if 2 < bounds.length then Arguments.refused
    let bound (standard : Int) (item : Option Meaning) : Except Failure Int := do
      let i ← Arguments.integerOr standard item
      return if i < 0 then max 0 (i + items.length) else i
    let start ← bound 0 bounds.head?
    let stop ← bound items.length bounds.tail.head?
    match (List.range items.length).find? fun (i : Nat) =>
        start ≤ i && (i : Int) < stop && ((items[i]?).map (same item)).getD false with
    | some i => return i
    | none => throw (.valueBreach "is not in list")
  | [] => Arguments.refused

/-- How often an item is in a row. -/
def countIn (items : List Meaning) (item : Meaning) : Meaning :=
  int (items.filter (same item)).length

/-- The place of an item that is there, counted from the end when it is negative. -/
def placeIn (items : List Meaning) (item : Meaning) : Except Failure Nat := do
  let i ← Arguments.integer item
  let place := if i < 0 then i + items.length else i
  if place < 0 || items.length ≤ place then throw (.breach .outOfBounds "index out of range")
  return place.toNat

/-- A row without the items that a slice chooses, with others in the place of them. -/
def replaceSlice (items others : List Meaning) (start stop step : Meaning) (isRemoval : Bool) :
    Except Failure (List Meaning) := do
  let (first, last, stride) ← sliceBounds items.length start stop step
  let places := (List.range (rangeLength first last stride)).map fun (i : Nat) =>
    (first + (i : Int) * stride).toNat
  if stride = 1 then
    let low := first.toNat
    return items.take low ++ others ++ items.drop (max low last.toNat)
  else if isRemoval then
    return (items.zipIdx.filter fun (_, i) => !places.contains i).map Prod.fst
  else if places.length ≠ others.length then
    throw (.valueBreach "attempt to assign sequence to extended slice of another size")
  else
    return (places.zip others).foldl (fun items (place, item) => items.set place item) items

/-- A method of a list. -/
def onList (items : List Meaning) (name : String) (given : List Meaning) :
    Except Failure Change :=
  match name, given with
  | "append", [item] => becomes (.list (items ++ [item]))
  | "clear", [] => becomes (.list [])
  | "copy", [] => gives (.list items) (.list items)
  | "count", [item] => gives (.list items) (countIn items item)
  | "extend", [others] => do becomes (.list (items ++ (← others.core.heldItems)))
  | "__iadd__", [others] => do
    let all := Meaning.list (items ++ (← others.core.heldItems))
    return { result := all, receiver := all }
  | "__imul__", [count] => do
    let all := Meaning.list (← Arithmetic.repeated items (← Arguments.integer count))
    return { result := all, receiver := all }
  | "index", given => do gives (.list items) (int (← indexIn items given))
  | "insert", [place, item] => do
    let i ← Arguments.sized place
    let i := if i < 0 then max 0 (i + items.length) else i
    becomes (.list (items.take i.toNat ++ [item] ++ items.drop i.toNat))
  | "pop", given => do
    if 1 < given.length then Arguments.refused
    given.forM fun place => (Arguments.integer place).map fun _ => ()
    if items.isEmpty then throw (.breach .outOfBounds "pop from empty list")
    let i ←
      match given with
      | [] => pure (items.length - 1)
      | [place] => placeIn items place
      | _ => Arguments.refused
    return { result := items[i]?.getD nothing, receiver := .list (items.eraseIdx i) }
  | "remove", [item] => do
    match items.findIdx? (same item) with
    | some i => becomes (.list (items.eraseIdx i))
    | none => throw (.valueBreach "list.remove(x): x not in list")
  | "reverse", [] => becomes (.list items.reverse)
  | "__setitem__", [.slice start stop step, others] => do
    becomes (.list (← replaceSlice items (← others.heldItems) start stop step false))
  | "__delitem__", [.slice start stop step] => do
    becomes (.list (← replaceSlice items [] start stop step true))
  | "__setitem__", [place, item] => do
    becomes (.list (items.set (← placeIn items place) item))
  | "__delitem__", [place] => do becomes (.list (items.eraseIdx (← placeIn items place)))
  | _, _ => Arguments.refused

/-- The methods by which bytes change. -/
def byteChanges : List String :=
  ["__delitem__", "__iadd__", "__imul__", "__setitem__", "append", "clear", "copy", "extend",
    "insert", "pop", "remove", "reverse"]

/-- Bytes out of whole numbers. -/
def byteOf (item : Meaning) : Except Failure UInt8 := do
  let i ← Arguments.integer item
  if i < 0 || 256 ≤ i then throw (.valueBreach "byte must be in range(0, 256)")
  return UInt8.ofNat i.toNat

/-- Bytes that may change, out of a row of whole numbers. -/
def bytesOf (item : Meaning) : Except Failure Meaning :=
  match item with
  | .list items => do return .bytearray (← items.mapM byteOf)
  | item => .ok item

/-- A method by which bytes change. -/
def onBytes (bytes : List UInt8) (name : String) (given : List Meaning) : Except Failure Change := do
  match name, given with
  | "__iadd__", [others] =>
    if others.bytes?.isNone then misuse "can't concat this to bytearray"
  | "remove", [item] => let _ ← byteOf item
  | "__setitem__", [.slice .., others] =>
    if others.bytes?.isNone then let _ ← (← others.heldItems).mapM byteOf
  | _, _ => pure ()
  let change ← onList (bytes.map fun b => int b.toNat) name given
  return { result := ← bytesOf change.result, receiver := ← bytesOf change.receiver }

/-- A method of a tuple. -/
def onTuple (items : List Meaning) (name : String) (given : List Meaning) :
    Except Failure Meaning :=
  match name, given with
  | "count", [item] => .ok (countIn items item)
  | "index", given => do return int (← indexIn items given)
  | _, _ => Arguments.refused

/-- The entries that something has for a map: those of a map, or pairs. -/
def entriesOf (item : Meaning) : Except Failure (List (Meaning × Meaning)) :=
  match item.core with
  | .map entries => .ok entries
  | .wrapped _ [whole] =>
    match whole.core with
    | .map entries => .ok entries
    | _ => misuse "object is not iterable"
  | other => do
    (← other.heldItems).mapM fun pair => do
      match pair.core with
      | .constant .none => misuse "cannot convert dictionary update sequence element"
      | pair =>
        match ← pair.heldItems with
        | [key, value] => return (key, value)
        | _ => throw (.valueBreach "dictionary update sequence element has the wrong length")

/-- A map with more entries. -/
def updated (entries : List (Meaning × Meaning)) (given : Arguments) : Except Failure Meaning := do
  let more ←
    match given.positions with
    | [] => pure []
    | [item] => entriesOf item
    | _ => Arguments.refused
  mapOf (entries ++ more ++ given.named.map fun (name, value) => (text name, value))

/-- Require that something may be a key. -/
def requireKey (key : Meaning) : Except Failure Unit :=
  if key.hashable then .ok () else misuse "unhashable type"

/-- A method of a map, when its arguments are given by position. -/
def onEntries (entries : List (Meaning × Meaning)) (name : String) (given : List Meaning) :
    Except Failure Change :=
  let whole := Meaning.map entries
  let without (key : Meaning) : Meaning := .map (entries.filter fun entry => !same entry.1 key)
  match name, given with
  | "clear", [] => becomes (.map [])
  | "copy", [] => gives whole whole
  | "get", key :: standard => do
    requireKey key
    if 1 < standard.length then Arguments.refused
    gives whole ((lookup? key entries).getD (standard.head?.getD nothing))
  | "setdefault", key :: standard => do
    requireKey key
    if 1 < standard.length then Arguments.refused
    match lookup? key entries with
    | some value => gives whole value
    | none =>
      let value := standard.head?.getD nothing
      return { result := value, receiver := .map (entries ++ [(key, value)]) }
  | "pop", key :: standard => do
    if !entries.isEmpty then requireKey key
    if 1 < standard.length then Arguments.refused
    match lookup? key entries, standard with
    | some value, _ => return { result := value, receiver := without key }
    | none, [value] => gives whole value
    | none, _ => throw (.breach .missingKey key.shown)
  | "popitem", [] =>
    match entries.getLast? with
    | some (key, value) =>
      .ok { result := .tuple [key, value], receiver := .map entries.dropLast }
    | none => .error (.breach .missingKey "popitem(): dictionary is empty")
  | "__setitem__", [key, value] => do
    requireKey key
    becomes (.map (setEntry key value entries))
  | "__delitem__", [key] => do
    requireKey key
    if (lookup? key entries).isNone then throw (.breach .missingKey key.shown)
    becomes (without key)
  | _, _ => Arguments.refused

/-- A method of a map. -/
def onMap (entries : List (Meaning × Meaning)) (name : String) (given : Arguments) :
    Except Failure Change := do
  match name with
  | "update" => becomes (← updated entries given)
  | "__ior__" => do
    if given.positions.length ≠ 1 then Arguments.refused (α := Unit)
    let all ← updated entries given
    return { result := all, receiver := all }
  | name => onEntries entries name (← given.unnamed)

/-- Require that something may be looked for in a set: also another set. -/
def requireMember (item : Meaning) : Except Failure Unit :=
  match item.bare with
  | .set .. => .ok ()
  | item => requireKey item

/-- The items of several things, one after the other. -/
def allItems (given : List Meaning) : Except Failure (List (List Meaning)) :=
  given.mapM fun item => do
    let items ← item.core.heldItems
    if areHashable items then return items else misuse "unhashable type"

/-- A method of a set. -/
def onSet (isFrozen : Bool) (items : List Meaning) (name : String) (given : List Meaning) :
    Except Failure Change := do
  let whole := Meaning.set isFrozen items
  let made (items : List Meaning) : Meaning := .set isFrozen (setItems items)
  let union (others : List (List Meaning)) : Meaning := .set isFrozen <|
    (given.zip others).foldl (fun items (source, others) =>
      match source.core with
      | .set .. => setUnion items others
      | .map _ => setUnion items others
      | _ => setItems (items ++ others)) items
  let intersection (others : List (List Meaning)) : Meaning := made (others.foldl shared items)
  let difference (others : List (List Meaning)) : Meaning :=
    made (others.foldl Meaning.without items)
  let either (others : List Meaning) : Meaning :=
    made (Meaning.without items others ++ Meaning.without (distinct others) items)
  match name, given with
  | "copy", [] => gives whole whole
  | "union", given => gives whole (union (← allItems given))
  | "intersection", given => gives whole (intersection (← allItems given))
  | "difference", given => gives whole (difference (← allItems given))
  | "symmetric_difference", [_] => gives whole (either (← allItems given).flatten)
  | "isdisjoint", [_] => gives whole (bool (shared items (← allItems given).flatten).isEmpty)
  | "issubset", [_] => gives whole (bool (covers (← allItems given).flatten items))
  | "issuperset", [_] => gives whole (bool (covers items (← allItems given).flatten))
  | name, given =>
    if isFrozen then Arguments.refused
    match name, given with
    | "update", given => becomes (union (← allItems given))
    | "intersection_update", given => becomes (intersection (← allItems given))
    | "difference_update", given => becomes (difference (← allItems given))
    | "symmetric_difference_update", [_] => becomes (either (← allItems given).flatten)
    | "add", [item] => do
      requireKey item
      becomes (made (items ++ [item]))
    | "discard", [item] => do
      requireMember item
      becomes (.set false (Meaning.without items [item]))
    | "remove", [item] => do
      requireMember item
      if !items.any (same item) then throw (.breach .missingKey item.shown)
      becomes (.set false (Meaning.without items [item]))
    | "pop", [] =>
      match items with
      | first :: rest => return { result := first, receiver := .set false rest }
      | [] => throw (.breach .missingKey "pop from an empty set")
    | "clear", [] => becomes (.set false [])
    | "__ior__", [_] => becomes (union (← allItems given))
    | "__iand__", [_] => becomes (intersection (← allItems given))
    | "__isub__", [_] => becomes (difference (← allItems given))
    | "__ixor__", [_] => becomes (either (← allItems given).flatten)
    | _, _ => Arguments.refused

/-- A method of a range. -/
def onRange (start stop step : Int) (name : String) (given : List Meaning) :
    Except Failure Meaning :=
  match name, given with
  | "count", [item] => do
    return int (if ← contains (.range start stop step) item then 1 else 0)
  | "index", [item] => do
    match item.integer?, ← contains (.range start stop step) item with
    | some i, true => return int ((i - start).fdiv step)
    | _, _ => throw (.valueBreach "is not in range")
  | _, _ => Arguments.refused

/-- A method of a row, set or map; `none` for anything else. -/
def call? (receiver : Meaning) (name : String) (given : Arguments) : Option (Except Failure Change) :=
  match receiver with
  | .list items => some do onList items name (← given.unnamed)
  | .bytearray bytes =>
    if byteChanges.contains name then some do onBytes bytes name (← given.unnamed) else none
  | .tuple items => some do gives receiver (← onTuple items name (← given.unnamed))
  | .map entries => some (onMap entries name given)
  | .set isFrozen items => some do onSet isFrozen items name (← given.unnamed)
  | .view _ _ items => some do
    match name, ← given.unnamed with
    | "isdisjoint", [_] =>
      gives receiver (bool (shared items (← allItems given.positions).flatten).isEmpty)
    | _, _ => Arguments.refused
  | .range start stop step => some do
    gives receiver (← onRange start stop step name (← given.unnamed))
  | _ => none

end PageContracts.Language.RowMethod
