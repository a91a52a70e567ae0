import PageContracts.Failure
import PageContracts.Template.Piece
import PageContracts.Value.Conversion

/-! # Filling templates

Filling meets the pieces of a template from left to right, each conversion taking its arguments
in turn. The first thing that goes wrong ends the filling, whatever follows it.
-/
namespace PageContracts.Template

open Characters

/-- A converted argument before layout: whether a sign may stand in front of it, and its
text. -/
structure Converted where
  numeric : Bool
  body : List Char
  deriving DecidableEq, Repr

/-- A width or precision with its argument, if it asks for one, taken from the arguments. -/
def takeAmount (limit : Nat) (excess : String) :
    Amount → List Value → Except Failure (Option Int × List Value)
  | .unset, arguments => .ok (none, arguments)
  | .given n, arguments => .ok (some n, arguments)
  | .excessive, _ => .error (.valueBreach excess)
  | .fromArgument, [] => .error (.typeBreach "not enough arguments for format string")
  | .fromArgument, value :: rest =>
    match value.toInt? with
    | none => .error (.typeBreach "* wants int")
    | some i =>
      if (limit : Int) < i ∨ i < -limit - 1 then .error (.breach .overflow "integer too large")
      else .ok (some i, rest)

/-- Digits with zeros in front to the length the precision asks for. -/
def withPrecision (precision : Option Int) (digits : List Char) : List Char :=
  match precision with
  | none => digits
  | some p => List.replicate (p.toNat - digits.length) '0' ++ digits

/-- An integer in a base, with the base mark when asked for. -/
def integerText (i : Int) (base : Nat) (mark : List Char) (precision : Option Int) :
    List Char :=
  (if i < 0 then ['-'] else []) ++ mark ++
    withPrecision precision (Nat.toDigits base i.natAbs)

/-- The integer a decimal conversion prints; a double loses its fraction. A text is read as a number if
it passes for one because its class has a function that makes it one. -/
def decimalOf (letter : Char) (value : Value) : Except Failure Int :=
  match value.core, value.toInt? with
  | _, some i => .ok i
  | .float _, none => Conversion.integer value
  | _, none =>
    let passes := value.converts "__float__" && !value.converts "__int__" &&
      !value.converts "__index__" && !value.converts "__trunc__"
    match value.core, passes with
    | .text _, true | .bytes _, true => Conversion.integer value
    | _, _ =>
      .error (.typeBreach (String.ofList ['%', letter] ++
        " format: a real number is required, not " ++ value.typeName))

/-- The integer a hexadecimal or octal conversion prints. -/
def integerOf (letter : Char) (value : Value) : Except Failure Int :=
  match value.toInt? with
  | some i => .ok i
  | none =>
    .error (.typeBreach (String.ofList ['%', letter] ++
      " format: an integer is required, not " ++ value.typeName))

/-- The double a floating conversion prints. -/
def doubleOf (value : Value) : Except Failure Binary64 :=
  match value.core with
  | .float x => .ok x
  | _ =>
    match value.toInt?, value.converts "__float__" with
    | none, _ | _, true => .error (.typeBreach ("must be real number, not " ++ value.typeName))
    | some i, false =>
      match Binary64.ofInt? i with
      | some x => .ok x
      | none => .error (.breach .overflow "int too large to convert to float")

/-- The character a character conversion prints. -/
def characterOf (value : Value) : Except Failure Char :=
  match value.core with
  | .text s =>
    match s.toList with
    | [c] => .ok c
    | _ => .error (.typeBreach "%c requires int or char")
  | _ =>
    match value.toInt? with
    | none => .error (.typeBreach "%c requires int or char")
    | some i =>
      if 0 ≤ i ∧ i < 0x110000 then .ok (Char.ofNat i.toNat)
      else .error (.breach .overflow "%c arg not in range(0x110000)")

/-- A double in one of the floating layouts, named by its letter. -/
def doubleText (letter : Char) (alternate : Bool) (precision : Nat) (x : Binary64) :
    List Char :=
  let upper := letter = 'E' || letter = 'F' || letter = 'G'
  let body (significand : Nat) (exponent : Int) : List Char :=
    if letter = 'f' || letter = 'F' then
      Decimal.fixedText alternate precision significand exponent
    else if letter = 'e' || letter = 'E' then
      Decimal.scientificText 'e' alternate
        (Decimal.significant significand exponent (precision + 1))
    else Decimal.generalText 'e' alternate precision significand exponent
  let sign (negative : Bool) (text : List Char) := if negative then '-' :: text else text
  let text :=
    match x with
    | .nan => "nan".toList
    | .infinity negative => sign negative "inf".toList
    | .finite negative significand exponent => sign negative (body significand exponent)
  if upper then text.map asciiUpper else text

/-- Whether a letter prints an integer in decimal. -/
def isDecimalLetter (c : Char) : Bool :=
  c = 'd' || c = 'i' || c = 'u'

/-- Whether a letter prints an integer in another base. -/
def isBaseLetter (c : Char) : Bool :=
  c = 'o' || c = 'x' || c = 'X'

/-- Whether a letter prints a double. -/
def isFloatLetter (c : Char) : Bool :=
  c = 'e' || c = 'E' || c = 'f' || c = 'F' || c = 'g' || c = 'G'

/-- Whether a letter prints a text, which the precision cuts. -/
def isTextLetter (c : Char) : Bool :=
  c = 's' || c = 'r' || c = 'a'

/-- The greatest precision with which an integer can be printed. -/
def greatestPrecision : Nat := precisionLimit - 3

/-- The number of characters beyond which there is no room for a field. -/
def roomLimit : Nat := Nat.pow 2 28

/-- Require that there is room for some characters. -/
def requireRoom (characters : Int) : Except Failure Unit :=
  if (roomLimit : Int) < characters then .error (.breach .exhausted "") else .ok ()

/-- Require that the digits a precision asks for fit into the text of an integer. -/
def requireDigits (precision : Option Int) : Except Failure Unit :=
  match precision with
  | none => .ok ()
  | some p =>
    if (greatestPrecision : Int) < p then .error (.breach .overflow "precision too large")
    else requireRoom p

/-- Convert an argument by a conversion letter. -/
def convert (flags : Flags) (precision : Option Int) (letter : Char) (index : Nat)
    (value : Value) : Except Failure Converted :=
  if isTextLetter letter then do
    let text ←
      if letter = 's' then value.spoken
      else if letter = 'r' then value.written Value.quoted
      else value.written Value.quotedAscii
    let body :=
      match precision with
      | none => text.toList
      | some p => text.toList.take p.toNat
    return ⟨false, body⟩
  else if isDecimalLetter letter then do
    let i ← decimalOf letter value
    let _ ← (Value.int i).written Value.display
    requireDigits precision
    return ⟨true, integerText i 10 [] precision⟩
  else if isBaseLetter letter then do
    let i ← integerOf letter value
    requireDigits precision
    let base := if letter = 'o' then 8 else 16
    let mark := if flags.alternate then ['0', asciiLower letter] else []
    let text := integerText i base mark precision
    return ⟨true, if letter = 'X' then text.map asciiUpper else text⟩
  else if isFloatLetter letter then do
    let x ← doubleOf value
    let digits : Nat := match precision with | none => 6 | some p => p.toNat
    requireRoom digits
    return ⟨true, doubleText letter flags.alternate digits x⟩
  else if letter = 'c' then do
    let c ← characterOf value
    return ⟨false, [c]⟩
  else
    let shown := if 31 ≤ letter.toNat ∧ letter.toNat ≤ 126 then letter else '?'
    .error (.valueBreach (String.ofList
      ("unsupported format character '".toList ++ [shown] ++ "' (0x".toList ++
        Nat.toDigits 16 letter.toNat ++ ") at index ".toList ++ Nat.toDigits 10 index)))

/-- Split a converted number into what stands before the padding zeros and what stands
behind. -/
def splitPrefix (flags : Flags) (letter : Char) (converted : Converted) :
    List Char × List Char :=
  if converted.numeric then
    let (sign, digits) :=
      match converted.body with
      | '-' :: rest => (['-'], rest)
      | body => (if flags.plus then ['+'] else if flags.blank then [' '] else [], body)
    if flags.alternate && isBaseLetter letter then (sign ++ digits.take 2, digits.drop 2)
    else (sign, digits)
  else ([], converted.body)

/-- Pad a converted argument to the width of its field. -/
def layOut (flags : Flags) (width : Nat) (letter : Char) (converted : Converted) :
    List Char :=
  let (front, body) := splitPrefix flags letter converted
  let room := width - (front.length + body.length)
  if flags.left then front ++ body ++ List.replicate room ' '
  else if flags.zero && converted.numeric then front ++ List.replicate room '0' ++ body
  else List.replicate room ' ' ++ front ++ body

/-- One conversion applied to the arguments: its text and the arguments left over. -/
def applyConversion (conversion : Conversion) (arguments : List Value) :
    Except Failure (List Char × List Value) := do
  let (width, arguments) ←
    takeAmount widthLimit "width too big" conversion.width arguments
  let (precision, arguments) ←
    takeAmount precisionLimit "precision too big" conversion.precision arguments
  match conversion.letter, arguments with
  | none, _ => .error (.valueBreach "incomplete format")
  | some _, [] => .error (.typeBreach "not enough arguments for format string")
  | some (letter, index), value :: rest => do
    let converted ← convert conversion.flags precision letter index value
    let width := width.getD 0
    requireRoom width.natAbs
    let flags :=
      if width < 0 then { conversion.flags with left := true } else conversion.flags
    return (layOut flags width.natAbs letter converted, rest)

/-- Fill pieces with arguments; every argument must be used. -/
def fillPieces : List Piece → List Value → Except Failure (List Char)
  | [], [] => .ok []
  | [], _ :: _ => .error (.typeBreach "not all arguments converted during string formatting")
  | .literal c :: rest, arguments => do
    let text ← fillPieces rest arguments
    return c :: text
  | .conversion conversion :: rest, arguments => do
    let (front, arguments) ← applyConversion conversion arguments
    let text ← fillPieces rest arguments
    return front ++ text
  | .named :: _, _ => .error (.typeBreach "format requires a mapping")

/-- Fill a template with arguments. -/
def fill (template : String) (arguments : List Value) : Except Failure String := do
  let text ← fillPieces (pieces template) arguments
  return String.ofList text

end PageContracts.Template
