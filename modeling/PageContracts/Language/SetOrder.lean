import PageContracts.Language.Meaning

/-! # The order of sets

A set of numbers, or of rows of numbers, is in the order of the slots that they take in a table: each
goes to the slot that the last binary digits of its key tell, or to a later one when that is taken,
and the table grows before it is filled. Any other set keeps the order in which its items came.
-/
namespace PageContracts.Language.SetOrder

/-- The prime number of sixty-one binary digits by which numbers are reduced. -/
def modulus : Nat := Nat.pow 2 61 - 1

/-- How many numbers a word can hold. -/
def wordSize : Nat := Nat.pow 2 64

/-- A number with its sign, but never one below zero. -/
def signed (negative : Bool) (n : Nat) : Int :=
  let i : Int := if negative then -(n : Int) else n
  if i = -1 then -2 else i

/-- A number as a word. -/
def word (i : Int) : Nat :=
  (i.emod wordSize).toNat

/-- The number of a word. -/
def ofWord (n : Nat) : Int :=
  if 2 * n < wordSize then n else (n : Int) - wordSize

/-- A word with its binary digits moved around by thirty-one places. -/
def turned (n : Nat) : Nat :=
  (n * Nat.pow 2 31 + n / Nat.pow 2 33) % wordSize

/-- A word into which the keys of a row are mixed. -/
def mixed (keys : List Int) : Int :=
  let start := 2870177450012600261
  let word := keys.foldl (fun acc key =>
    turned ((acc + word key * 14029467366897019727) % wordSize) * 11400714785074694791 % wordSize)
    start
  let ended := (word + (keys.length ^^^ (start ^^^ 3527539))) % wordSize
  if ended = wordSize - 1 then 1546275796 else ofWord ended

/-- The key of a double. -/
def doubleKey : Binary64 → Option Int
  | .nan => none
  | .infinity negative => some (if negative then -314159 else 314159)
  | .finite negative significand exponent =>
    let places := (exponent.emod 61).toNat
    some (signed negative (significand * Nat.pow 2 places % modulus))

mutual

/-- The key of a number, or of a row of numbers: equal ones have the same. -/
def key? : Meaning → Option Int
  | .tuple items => (keysOf? items).map mixed
  | .constant (.float x) => doubleKey x
  | .complex re im =>
    match doubleKey re, doubleKey im with
    | some a, some b => some (signed false 0 + ofWord (word (a + 1000003 * b)))
    | _, _ => none
  | item => item.integer?.map fun i => signed (decide (i < 0)) (i.natAbs % modulus)

/-- The keys of the items of a row. -/
def keysOf? : List Meaning → Option (List Int)
  | [] => some []
  | first :: rest =>
    match key? first, keysOf? rest with
    | some key, some keys => some (key :: keys)
    | _, _ => none

end

/-- A table of things with their keys, the size of which is a power of two. -/
structure Table where
  slots : Array (Option (Int × Meaning)) := Array.replicate 8 none
  used : Nat := 0
  deriving Inhabited

/-- How many slots behind the first are tried before the search goes elsewhere. -/
def nearby : Nat := 9

/-- The slots that a thing may take, in the order in which they are tried. The fuel bounds how often
the search goes elsewhere. -/
def candidates (size : Nat) : Nat → Nat → Nat → List Nat
  | 0, _, _ => []
  | fuel + 1, slot, rest =>
    let near := if slot + nearby < size then nearby else 0
    let rest := rest / 32
    ((List.range (near + 1)).map fun (i : Nat) => slot + i) ++
      candidates size fuel ((5 * slot + 1 + rest) % size) rest

/-- How often the search for a slot goes elsewhere at most. -/
def searchLimit : Nat := 40

/-- A table with a thing in the first free slot it may take. -/
def place (slots : Array (Option (Int × Meaning))) (entry : Int × Meaning) :
    Array (Option (Int × Meaning)) :=
  let start := word entry.1
  match (candidates slots.size searchLimit (start % slots.size) start).find? fun slot =>
      (slots[slot]?.map Option.isNone).getD false with
  | some slot => slots.set! slot (some entry)
  | none => slots.push (some entry)

/-- The least power of two above a number and not below eight. -/
def sizeAbove (n : Nat) : Nat :=
  max 8 (Nat.pow 2 (n.log2 + 1))

/-- The things in a table in the order of their slots. -/
def entries (slots : Array (Option (Int × Meaning))) : List (Int × Meaning) :=
  slots.toList.filterMap id

/-- A table with its things placed anew in a number of slots. -/
def resized (slots : Array (Option (Int × Meaning))) (size : Nat) :
    Array (Option (Int × Meaning)) :=
  (entries slots).foldl place (Array.replicate size none)

/-- A table with one more thing. -/
def add (table : Table) (entry : Int × Meaning) : Table :=
  let slots := place table.slots entry
  let used := table.used + 1
  if used * 5 < (slots.size - 1) * 3 then { slots, used }
  else
    { slots := resized slots (sizeAbove (used * 4)), used }

/-- A table with the things of another set, for all of which it makes room first. -/
def addAll (table : Table) (others : List (Int × Meaning)) (count : Nat) : Table :=
  let used := table.used + count
  let slots :=
    if used * 5 < (table.slots.size - 1) * 3 then table.slots
    else resized table.slots (sizeAbove (used * 2))
  others.foldl (fun (table : Table) entry =>
    { slots := place table.slots entry, used := table.used + 1 }) { table with slots }

/-- The greatest set that is put in order. -/
def greatest : Nat := 1000

/-- The items of a set in its order. -/
def arranged (items : List Meaning) : List Meaning :=
  match if items.length ≤ greatest then keysOf? items else none with
  | some keys => (entries ((keys.zip items).foldl add {}).slots).map Prod.snd
  | none => items

/-- The items of a set in its order, when to some items those of another set are added. -/
def merged (items others : List Meaning) : List Meaning :=
  let new := others.filter fun other => !items.any (Meaning.same other)
  let small := items.length + others.length ≤ greatest
  match if small then keysOf? items else none, keysOf? new with
  | some keys, some newKeys =>
    let table := addAll ((keys.zip items).foldl add {}) (newKeys.zip new) others.length
    (entries table.slots).map Prod.snd
  | _, _ => items ++ new

end PageContracts.Language.SetOrder

namespace PageContracts.Language.Meaning

/-- The items of a set: each of some items once, in the order of the set. -/
def setItems (items : List Meaning) : List Meaning :=
  SetOrder.arranged (distinct items)

/-- The items of two sets together. -/
def setUnion (items others : List Meaning) : List Meaning :=
  SetOrder.merged items (distinct others)

/-- A set of items, all of which may be keys. -/
def setOf (isFrozen : Bool) (items : List Meaning) : Except Failure Meaning :=
  if areHashable items then .ok (.set isFrozen (setItems items)) else misuse "unhashable type"

end PageContracts.Language.Meaning
