import PageContracts.Number.Power
import PageContracts.Value

/-! # Calculating with values

The operations on numbers, texts and rows that an expression or a pause may ask for. Truth values
count as one and zero; a whole number meets a double as the nearest double.
-/
namespace PageContracts.Arithmetic

/-- The failure of dividing by zero. -/
def divisionByZero {α : Type} : Except Failure α :=
  .error (.breach .divisionByZero "division by zero")

/-- The number of binary digits beyond which no result is calculated. -/
def bitLimit : Nat := Nat.pow 2 24

/-- Go on only if a result of a number of binary digits can be calculated. -/
def requireBits (bits : Nat) : Except Failure Unit :=
  if bits ≤ bitLimit then .ok () else .error (.breach .exhausted "out of memory")

/-- The binary operation `op` on two numbers, a negative one standing for its complement. -/
def bitwise (op : Nat → Nat → Nat) (bit : Bool → Bool → Bool) (a b : Int) : Int :=
  let complement (i : Int) : Nat := (if i < 0 then -i - 1 else i).toNat
  let width := (Nat.max (complement a).log2 (complement b).log2) + 1
  let pattern (i : Int) : Nat :=
    if i < 0 then Nat.pow 2 width - 1 - complement i else complement i
  let low := op (pattern a) (pattern b) % Nat.pow 2 width
  if bit (decide (a < 0)) (decide (b < 0)) then (low : Int) - Int.pow 2 width else low

/-- The quotient of two whole numbers as a double. -/
def quotient (a b : Int) : Except Failure Value :=
  if b = 0 then divisionByZero
  else
    match Binary64.ofRatio (decide ((a < 0) ≠ (b < 0))) a.natAbs b.natAbs with
    | .infinity _ => .error (.breach .overflow "result too large for a float")
    | x => .ok (.float x)

/-- A power of a whole number; one with a negative exponent is a double. -/
def power (a b : Int) : Except Failure Value :=
  if b < 0 then
    if a = 0 then divisionByZero
    else do
      requireBits ((a.natAbs.log2 + 1) * b.natAbs)
      let negative := a < 0 && b % 2 ≠ 0
      return .float (Binary64.ofRatio negative 1 (Nat.pow a.natAbs b.natAbs))
  else do
    if 1 < a.natAbs then requireBits ((a.natAbs.log2 + 1) * b.toNat)
    return .int (Int.pow a b.toNat)

/-- The number of binary digits beyond which there are no whole numbers. -/
def digitLimit : Nat := 30 * (Nat.pow 2 61 - 8)

/-- A whole number with its binary digits shifted to the left. -/
def shiftLeft (a b : Int) : Except Failure Value :=
  if b < 0 then .error (.valueBreach "negative shift count")
  else if a = 0 then .ok (.int 0)
  else if (digitLimit : Int) < b then .error (.breach .overflow "too many digits in integer")
  else do
    requireBits (a.natAbs.log2 + b.toNat)
    return .int (a * Int.pow 2 b.toNat)

/-- A whole number with its binary digits shifted to the right. -/
def shiftRight (a b : Int) : Except Failure Value :=
  if b < 0 then .error (.valueBreach "negative shift count")
  else .ok (.int (a.fdiv (Int.pow 2 (Nat.min b.toNat (a.natAbs.log2 + 1)))))

/-- An operation on whole numbers; `none` when there is no such operation. -/
def onIntegers (sign : String) (a b : Int) : Option (Except Failure Value) :=
  match sign with
  | "+" => some (.ok (.int (a + b)))
  | "-" => some (.ok (.int (a - b)))
  | "*" => some (.ok (.int (a * b)))
  | "/" => some (quotient a b)
  | "//" => some (if b = 0 then divisionByZero else .ok (.int (a.fdiv b)))
  | "%" => some (if b = 0 then divisionByZero else .ok (.int (a.fmod b)))
  | "**" => some (power a b)
  | "<<" => some (shiftLeft a b)
  | ">>" => some (shiftRight a b)
  | "|" => some (.ok (.int (bitwise (· ||| ·) (· || ·) a b)))
  | "&" => some (.ok (.int (bitwise (· &&& ·) (· && ·) a b)))
  | "^" => some (.ok (.int (bitwise (· ^^^ ·) (· != ·) a b)))
  | "<" => some (.ok (.bool (a < b)))
  | "<=" => some (.ok (.bool (a ≤ b)))
  | ">" => some (.ok (.bool (b < a)))
  | ">=" => some (.ok (.bool (b ≤ a)))
  | _ => none

/-- The operations on truth values that give truth values again. -/
def onTruths (sign : String) (a b : Bool) : Option Value :=
  match sign with
  | "|" => some (.bool (a || b))
  | "&" => some (.bool (a && b))
  | "^" => some (.bool (a != b))
  | _ => none

/-- The quotient of two doubles. -/
def divide (x y : Binary64) : Except Failure Value :=
  if y.isZero then divisionByZero else .ok (.float (x.div y))

/-- A power of a double. -/
def powerOf (x y : Binary64) : Except Failure Value :=
  match x.pow y with
  | .ok z => .ok (.float z)
  | .error .divisionByZero => divisionByZero
  | .error .overflow => .error (.breach .overflow "numerical result out of range")
  | .error .complex =>
    match x.opposite.pow y with
    | .error .overflow => .error (.breach .overflow "numerical result out of range")
    | _ => .error (.typeBreach "no real result")

/-- An operation on doubles; `none` when there is no such operation. -/
def onDoubles (sign : String) (x y : Binary64) : Option (Except Failure Value) :=
  match sign with
  | "+" => some (.ok (.float (x.add y)))
  | "-" => some (.ok (.float (x.add y.opposite)))
  | "*" => some (.ok (.float (x.mul y)))
  | "/" => some (divide x y)
  | "//" => some (if y.isZero then divisionByZero else .ok (.float (x.floorDiv y)))
  | "%" => some (if y.isZero then divisionByZero else .ok (.float (x.modulo y)))
  | "**" => some (powerOf x y)
  | "<" => some (.ok (.bool (x.lt y)))
  | "<=" => some (.ok (.bool (x.lt y || x.same y)))
  | ">" => some (.ok (.bool (y.lt x)))
  | ">=" => some (.ok (.bool (y.lt x || x.same y)))
  | _ => none

/-- The double a number counts as. -/
def double? : Value → Option (Except Failure Binary64)
  | .float x => some (.ok x)
  | value =>
    value.toInt?.map fun i =>
      match Binary64.ofInt? i with
      | some x => .ok x
      | none => .error (.breach .overflow "int too large to convert to float")

/-- Whether a double is below a whole number, or the other way round; these are compared
exactly. -/
def compareMixed (sign : String) (x : Binary64) (i : Int) (flipped : Bool) : Option Bool :=
  let below := x.ltInt i
  let above := Binary64.intLt i x
  let even := x.eqInt i
  let (below, above) := if flipped then (above, below) else (below, above)
  match sign with
  | "<" => some below
  | "<=" => some (below || even)
  | ">" => some above
  | ">=" => some (above || even)
  | _ => none

/-- An operation on numbers; `none` when there is no such operation. -/
def onNumbers (sign : String) (left right : Value) : Option (Except Failure Value) :=
  let onMixed (left right : Value) : Option (Except Failure Value) :=
    match double? left, double? right with
    | some (.ok x), some (.ok y) => onDoubles sign x y
    | some (.error failure), some _ => some (.error failure)
    | some _, some (.error failure) => some (.error failure)
    | _, _ => none
  match left, right with
  | .bool a, .bool b =>
    match onTruths sign a b with
    | some value => some (.ok value)
    | none => onIntegers sign a.toNat b.toNat
  | left, right =>
    match left, right, left.toInt?, right.toInt? with
    | _, _, some a, some b => onIntegers sign a b
    | .float x, right, _, some b =>
      match compareMixed sign x b false with
      | some holds => some (.ok (.bool holds))
      | none => onMixed (.float x) right
    | left, .float y, some a, _ =>
      match compareMixed sign y a true with
      | some holds => some (.ok (.bool holds))
      | none => onMixed left (.float y)
    | left, right, _, _ => onMixed left right

/-- A row repeated as often as a whole number says. -/
def repeated {α : Type} (items : List α) (count : Int) : Except Failure (List α) := do
  if Nat.pow 2 63 ≤ count.natAbs then throw (.breach .overflow "cannot fit into an index")
  if items.isEmpty then return []
  requireBits (items.length * count.toNat)
  return (List.replicate count.toNat items).flatten

/-- A comparison of texts; `none` when it is another operation. -/
def compareTexts (sign : String) (a b : String) : Option Bool :=
  match sign with
  | "<" => some (decide (a < b))
  | "<=" => some (!decide (b < a))
  | ">" => some (decide (b < a))
  | ">=" => some (!decide (a < b))
  | _ => none

/-- The product of two values: of numbers, or of a row and a whole number. -/
def product (left right : Value) : Except Failure Value :=
  match onNumbers "*" left.core right.core with
  | some result => result
  | none =>
    match left.core, right.core, left.toInt?, right.toInt? with
    | row, _, _, some count => times row count
    | _, row, some count, _ => times row count
    | _, _, _, _ => misused
where
  /-- The failure of values that have no product. -/
  misused {α : Type} : Except Failure α :=
    .error (.typeBreach "can't multiply")
  /-- A row repeated. -/
  times (row : Value) (count : Int) : Except Failure Value :=
    match row with
    | .text text => do return .text (String.ofList (← repeated text.toList count))
    | .bytes bytes => do return .bytes (← repeated bytes count)
    | .list items => do return .list (← repeated items count)
    | .tuple items => do return .tuple (← repeated items count)
    | _ => misused

mutual

/-- Whether a value comes before another. Rows are in the order of the first items in which they
differ, a set comes before those that hold more than it, and most other values are in no order. -/
def isLess : Value → Value → Except Failure Bool
  | .text a, .text b => .ok (decide (a < b))
  | .bytes a, .bytes b => .ok (decide (a < b))
  | .list a, .list b => areLess a b
  | .tuple a, .tuple b => areLess a b
  | .set a, .set b => .ok (a.length < b.length && Value.allAmong a b)
  | a, b =>
    match onNumbers "<" a.core b.core with
    | some (.ok (.bool holds)) => .ok holds
    | some (.error failure) => .error failure
    | _ => .error (.typeBreach "not supported between these values")

/-- Whether a row comes before another. -/
def areLess : List Value → List Value → Except Failure Bool
  | [], others => .ok (!others.isEmpty)
  | _ :: _, [] => .ok false
  | a :: as, b :: bs => if a.sameKey b then areLess as bs else isLess a b

end

end PageContracts.Arithmetic
