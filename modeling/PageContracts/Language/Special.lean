import PageContracts.Language.Functions

/-! # Special functions

The functions behind the signs, behind comparisons and behind the conversions of values. They do what
the signs do, and know when a sign has no meaning for them: each family of things has an answer about
some families and about no others.
-/
namespace PageContracts.Language.Special

open Meaning

/-- The signs by the names of the functions behind them. -/
def signs : List (String × String) :=
  [("add", "+"), ("sub", "-"), ("mul", "*"), ("truediv", "/"), ("floordiv", "//"), ("mod", "%"),
    ("pow", "**"), ("lshift", "<<"), ("rshift", ">>"), ("and", "&"), ("or", "|"), ("xor", "^"), ("matmul", "@")]

/-- The signs of comparisons by the names of the functions behind them. -/
def comparisons : List (String × String) :=
  [("__lt__", "<"), ("__le__", "<="), ("__gt__", ">"), ("__ge__", ">=")]

/-- The name of a function behind a sign, and of the one that is asked with the operands exchanged. -/
def functionsOf (sign : String) : Option (String × String) :=
  (signs.find? fun entry => entry.2 = sign).map fun entry =>
    ("__" ++ entry.1 ++ "__", "__r" ++ entry.1 ++ "__")

/-- What stands for a sign that has no meaning for its operands. -/
def notImplemented : Meaning := .constant (.other "NotImplementedType" "NotImplemented")

/-- Whether something stands for a sign that has no meaning for its operands. -/
def isNotImplemented (item : Meaning) : Bool :=
  isIdentical item.bare notImplemented

/-- The family of something: things of one family can be compared. What is equal to nothing but itself
is of no family. -/
def family? (item : Meaning) : Option String :=
  match item.core with
  | .constant (.bool _) => some "int"
  | .constant (.int _) => some "int"
  | .constant (.float _) => some "float"
  | .constant (.text _) => some "str"
  | .constant (.bytes _) => some "bytes"
  | .constant (.date _) => some "date"
  | .constant (.moment _) => some "datetime"
  | .complex .. => some "complex"
  | .list _ => some "list"
  | .tuple _ => some "tuple"
  | .map _ => some "dict"
  | .set .. => some "set"
  | .view "dict_values" _ _ => none
  | .view .. => some "view"
  | .range .. => some "range"
  | .slice .. => some "slice"
  | .bytearray _ => some "bytearray"
  | .memoryview _ => some "memoryview"
  | .wrapped "mappingproxy" _ => some "mappingproxy"
  | .generic .. => some "generic"
  | .union _ => some "union"
  | .choice _ => some "choice"
  | .function _ => some "function"
  | .bound .. => some "bound"
  | .instanceOf ofClass _ { compares := true, .. } _ => some ("record " ++ toString ofClass.number)
  | .thing typeName _ (_ :: _) => some typeName
  | _ => none

/-- The families about whose things those of a family have an answer, other than their own. -/
def known : List (String × List String) :=
  [("float", ["int"]), ("complex", ["int", "float"]), ("bytearray", ["bytes", "memoryview"]),
    ("memoryview", ["bytes", "bytearray"]), ("view", ["set"]), ("choice", ["union"])]

/-- The families whose things are not put in order. -/
def unordered : List String :=
  ["complex", "dict", "range", "memoryview", "generic", "union", "choice", "function", "bound"]

/-- Whether things of a family have an answer about those of another. -/
def isKnown (family other : String) : Bool :=
  family = other || ((known.lookup family).getD []).contains other

/-- Whether the function of something that compares for equality has an answer about something
else. -/
def equates (item other : Meaning) : Bool :=
  match family? item, family? other with
  | some "mappingproxy", _ => true
  | some a, some b => isKnown a b
  | _, _ => false

/-- Whether the functions of something that compare by order have an answer about something else. -/
def orders (item other : Meaning) : Bool :=
  match family? item, family? other with
  | some "mappingproxy", _ => true
  | some a, some b =>
    isKnown a b && !unordered.contains a && !a.startsWith "record" && !(a = "bytes" && b ≠ "bytes")
  | _, _ => false

/-- What the function of something gives that compares for equality: nothing known about what is of
another kind. -/
def equality (item other : Meaning) (holds : Bool) : Meaning :=
  if equates item other then bool (equal item other == holds)
  else if (family? item).isNone && isOne item other then bool holds
  else notImplemented

/-- Whether the function behind a sign knows when it has no meaning for another operand; those that
join and repeat rows do not know it. -/
def knows (item : Meaning) (name : String) (other : Meaning) : Bool :=
  match item.core with
  | .list _ | .tuple _ | .view .. | .wrapped .. => false
  | .constant (.text _) => name = "__rmod__" && other.text?.isNone
  | .constant (.bytes _) => name = "__rmod__" && !(other.core matches .constant (.bytes _))
  | .bytearray _ => name = "__rmod__" && !(other.core matches .bytearray _)
  | _ => true

/-- A result, unless the operands are of the wrong types, where that is known. -/
def ifKnown (known : Bool) (result : Except Failure Meaning) : Except Failure Meaning :=
  match result with
  | .error failure =>
    if known && failure.kind = .wrongType then .ok notImplemented else .error failure
  | result => result

/-- Whether a number has a meaning as an operand together with another one. -/
def reckonsWith (item other : Meaning) : Bool :=
  let numbers := ["int", "float", "complex"]
  match family? item, family? other with
  | some a, b => if numbers.contains a then (b.map (isKnown a)).getD false else true
  | none, _ => true

/-- What the function of something gives that is behind a sign. -/
def calculated (item : Meaning) (name sign : String) (left right other : Meaning) :
    Except Failure Meaning :=
  if !reckonsWith item other then .ok notImplemented
  else
    match name, item.core with
    | "__rmod__", .constant (.text _) | "__rmod__", .constant (.bytes _) | "__rmod__", .bytearray _ =>
      if knows item name other then .ok notImplemented else operate sign left right
    | _, _ => ifKnown (knows item name other) (operate sign left right)

/-- The name of a function behind a sign without what marks it as one. -/
def stripped (name : String) : String :=
  String.ofList ((name.toList.drop 2).dropLast.dropLast)

/-- A quotient and what it leaves. -/
def divided (left right : Meaning) : Except Failure Meaning := do
  return .tuple [← operate "//" left right, ← operate "%" left right]

/-- What a function behind a sign gives for two operands; `none` when it is another function. -/
def binary? (item : Meaning) (name : String) (other : Meaning) : Option (Except Failure Meaning) :=
  let label := stripped name
  let reversed := String.ofList (label.toList.drop 1)
  match comparisons.lookup name, signs.lookup label, signs.lookup reversed with
  | some sign, _, _ =>
    some (if orders item other then (compare sign item.core other.core).map bool
      else .ok notImplemented)
  | none, some sign, _ => some (calculated item name sign item other other)
  | none, none, some sign =>
    if label.startsWith "r" then some (calculated item name sign other item other) else none
  | none, none, none =>
    match name with
    | "__divmod__" => some (if reckonsWith item other then divided item other else .ok notImplemented)
    | "__rdivmod__" =>
      some (if reckonsWith item other then divided other item else .ok notImplemented)
    | "__eq__" => some (.ok (equality item other true))
    | "__ne__" => some (.ok (equality item other false))
    | _ => none

/-- A power that may be reduced by a third number. -/
def power (item base exponent modulus : Meaning) : Except Failure Meaning :=
  match item.core with
  | .constant (.float _) =>
    if modulus.bare matches .constant .none then operate "**" base exponent
    else misuse "pow() 3rd argument not allowed unless all arguments are integers"
  | _ =>
    if !reckonsWith item base || !reckonsWith item exponent then .ok notImplemented
    else if modulus.integer?.isNone && item.integer?.isSome && !(modulus.bare matches .constant .none)
    then .ok notImplemented
    else Functions.power base exponent (some modulus)

/-- The greatest whole number not above a number, or the least one not below it. -/
def whole (isUp : Bool) (item : Meaning) : Except Failure Meaning :=
  match item.core with
  | .constant (.float x) => do
    let i ← Conversion.wholePart x
    if x.eqInt i then return int i
    else if isUp then return int (if x.ltInt i then i else i + 1)
    else return int (if x.ltInt i then i - 1 else i)
  | item =>
    match item.integer? with
    | some i => .ok (int i)
    | none => Arguments.refused

/-- What is needed to make something anew. -/
def ingredients (item : Meaning) : Meaning :=
  match item.core with
  | .complex re im => .tuple [.constant (.float re), .constant (.float im)]
  | item =>
    match item.integer? with
    | some i => .tuple [int i]
    | none => .tuple [item]

/-- What a special function of a value gives when it is asked with nothing else. -/
def alone (item : Meaning) (name : String) : Except Failure Meaning :=
  match name with
  | "__str__" => item.spoken.map text
  | "__repr__" => item.quoted.map text
  | "__len__" => item.size.map fun n => int n
  | "__bool__" => .ok (bool item.truthy)
  | "__neg__" => operateOne "-" item
  | "__pos__" => operateOne "+" item
  | "__invert__" => operateOne "~" item
  | "__abs__" => Functions.magnitude item
  | "__hash__" => Functions.hash item
  | "__index__" => (Arguments.integer item).map int
  | "__int__" | "__trunc__" => (Conversion.integer item.toValue).map int
  | "__ceil__" => whole true item
  | "__floor__" => whole false item
  | "__float__" => (Conversion.double item.toValue).map fun x => .constant (.float x)
  | "__complex__" => .ok item.core
  | "__bytes__" => .ok item.core
  | "__round__" => NumberMethod.rounded item none
  | "__sizeof__" => .ok (int 0)
  | "__getnewargs__" => .ok (ingredients item)
  | "__length_hint__" => item.size.map fun n => int n
  | _ => Arguments.refused

/-- Whether a name is that of a special function. -/
def isSpecial (name : String) : Bool :=
  name.startsWith "__" && name.endsWith "__"

end PageContracts.Language.Special
