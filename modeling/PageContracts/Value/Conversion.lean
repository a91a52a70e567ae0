import PageContracts.Value.Coding

/-! # Converting values

What the types of the language make of the values they are given: integers and doubles out of
texts and of one another, texts out of anything, bytes out of rows of small numbers.
-/
namespace PageContracts

namespace Reading

/-- The digits of a base without the underscores between them. -/
def plainDigits? (base : Nat) (text : List Char) : Option (List Char) :=
  let groups := Characters.splitOn '_' text
  if groups.all fun group => !group.isEmpty && group.all (isDigitOf base) then
    some groups.flatten
  else none

/-- The base that a mark in front of digits stands for. -/
def markedBase? (mark : Char) : Option Nat :=
  [2, 8, 16].find? fun base => baseMark? base = some (Characters.asciiLower mark)

/-- The base of digits, and the digits behind the mark of the base. Base zero leaves the base to the
mark; without one the digits are decimal, and then begin with no zero. -/
def splitBase? (base : Nat) (text : List Char) : Option (Nat × List Char) :=
  match text with
  | '0' :: mark :: rest =>
    match markedBase? mark with
    | some marked =>
      if base = 0 || base = marked then
        some (marked, if rest.head? = some '_' then rest.tail else rest)
      else some (base, text)
    | none =>
      if base = 0 then
        if text.all fun c => c = '0' || c = '_' then some (10, text) else none
      else some (base, text)
  | _ => some (if base = 0 then 10 else base, text)

/-- An integer in a base up to thirty-six; base zero leaves the base to the mark in front of the
digits. Only the bases that are powers of two take any number of digits. -/
def integerOf? (base : Nat) (text : String) : Option Int := do
  let (negative, rest) := splitSign (numberText text)
  let (base, rest) ← splitBase? base rest
  let digits ← plainDigits? base rest
  if !([2, 4, 8, 16, 32].contains base) && digitLimit < digits.length then none
  let value := digitsValue base 0 digits
  return if negative then -(value : Int) else value

end Reading

namespace Conversion

/-- The failure of arguments that a type cannot do anything with. -/
def misused {α : Type} (message : String) : Except Failure α :=
  .error (.typeBreach message)

/-- Bytes as a text of the characters with their numbers. -/
def characters (bytes : List UInt8) : String :=
  String.ofList (bytes.map fun byte => Char.ofNat byte.toNat)

/-- The whole part of a double. -/
def wholePart (x : Binary64) : Except Failure Int :=
  match x.truncate? with
  | some i => .ok i
  | none =>
    if x = .nan then .error (.valueBreach "cannot convert float NaN to integer")
    else .error (.breach .overflow "cannot convert float infinity to integer")

/-- An integer made of one value. -/
def integer (value : Value) : Except Failure Int :=
  let read (text : String) : Except Failure Int :=
    match Reading.integer? text with
    | some i => .ok i
    | none => .error (.valueBreach "invalid literal for int() with base 10")
  if value.converts "__int__" then misused "__int__ returned non-int"
  else
    match value.core, value.toInt? with
    | .float x, _ => wholePart x
    | _, some i => .ok i
    | core, none =>
      if value.converts "__index__" || value.converts "__trunc__" then
        misused "__index__ returned non-int"
      else
        match core with
        | .text text => read text
        | .bytes bytes => if bytes.all (· < 0x80) then read (characters bytes) else read "?"
        | _ => misused "int() argument must be a string, a bytes-like object or a real number"

/-- An integer made of a text in a base. -/
def integerIn (value base : Value) : Except Failure Int :=
  match base.toInt? with
  | none => misused "object cannot be interpreted as an integer"
  | some b =>
    if b ≠ 0 && (b < 2 || 36 < b) then .error (.valueBreach "int() base must be >= 2 and <= 36, or 0")
    else
      let read (text : String) : Except Failure Int :=
        match Reading.integerOf? b.toNat text with
        | some i => .ok i
        | none => .error (.valueBreach "invalid literal for int()")
      match value.core with
      | .text text => read text
      | .bytes bytes => if bytes.all (· < 0x80) then read (characters bytes) else read "?"
      | _ => misused "int() can't convert non-string with explicit base"

/-- A double made of one value. -/
def double (value : Value) : Except Failure Binary64 :=
  let read (text : String) : Except Failure Binary64 :=
    match Reading.double? text with
    | some x => .ok x
    | none => .error (.valueBreach "could not convert string to float")
  if value.converts "__float__" then misused "__float__ returned non-float"
  else
    match value.core, value.toInt? with
    | .float x, _ => .ok x
    | _, some i =>
      match Binary64.ofInt? i with
      | some x => .ok x
      | none => .error (.breach .overflow "int too large to convert to float")
    | core, none =>
      if value.converts "__index__" then misused "__index__ returned non-int"
      else
        match core with
        | .text text => read text
        | .bytes bytes => if bytes.all (· < 0x80) then read (characters bytes) else read "?"
        | _ => misused "float() argument must be a string or a real number"

/-- A coding by its name. -/
def coding (name : Value) : Except Failure Coding :=
  match name.core with
  | .text name =>
    match Coding.named? name with
    | some coding => .ok coding
    | none => .error (.breach .unknownThing ("unknown encoding: " ++ name))
  | _ => misused "encoding must be str"

/-- How errors are dealt with, by name. -/
def codingErrors (name : Value) : Except Failure CodingErrors :=
  match name.core with
  | .text name => .ok (.named name)
  | _ => misused "errors must be str"

/-- The greatest number of bytes that can be made at once. -/
def greatestSize : Nat := Nat.pow 2 28

/-- A byte out of an integer. -/
def byte (value : Value) : Except Failure UInt8 :=
  match value.toInt? with
  | none => misused "object cannot be interpreted as an integer"
  | some i =>
    if 0 ≤ i && i < 256 then .ok (UInt8.ofNat i.toNat)
    else .error (.valueBreach "bytes must be in range(0, 256)")

/-- Bytes made of one value: of a number as many zeros, of a row the numbers in it. -/
def bytes (value : Value) : Except Failure (List UInt8) :=
  match value.core with
  | .bytes bytes => .ok bytes
  | .list items => items.mapM byte
  | .tuple items => items.mapM byte
  | .set items => items.mapM byte
  | .map entries => (entries.map Prod.fst).mapM byte
  | .text _ => misused "string argument without an encoding"
  | core =>
    match core.toInt? with
    | none => misused "cannot convert object to bytes"
    | some n =>
      if n < 0 then .error (.valueBreach "negative count")
      else if Int.pow 2 63 ≤ n then .error (.breach .overflow "cannot fit into an index-sized integer")
      else if (greatestSize : Int) < n then .error (.breach .exhausted "out of memory")
      else .ok (List.replicate n.toNat 0)

/-- The arguments of a type by the names of its parameters: those given by position in order, the
others by name. Every argument has a parameter, and no parameter has two. -/
def arguments (parameters : List String) (positions : List Value)
    (named : List (String × Value)) : Except Failure (List (String × Value)) :=
  if parameters.length < positions.length then misused "too many arguments"
  else
    let given := parameters.zip positions
    if named.any fun entry =>
        !parameters.contains entry.1 || (given.lookup entry.1).isSome then
      misused "unexpected keyword argument"
    else .ok (given ++ named)

/-- Require that what is given for the coding and for its errors are texts, without the character that
ends names. -/
def requireNames (given : List (String × Value)) : Except Failure Unit :=
  ["encoding", "errors"].forM fun name =>
    match (given.lookup name).map Value.core with
    | none => .ok ()
    | some (.text text) =>
      if text.toList.contains '\x00' then .error (.valueBreach "embedded null character") else .ok ()
    | some _ => misused (name ++ " must be str")

/-- The text that arguments make. -/
def textOf (positions : List Value) (named : List (String × Value)) : Except Failure String := do
  let given ← arguments ["object", "encoding", "errors"] positions named
  requireNames given
  let errors ← ((given.lookup "errors").map codingErrors).getD (.ok .strict)
  match given.lookup "object", given.lookup "encoding" with
  | none, _ => return ""
  | some value, encoding =>
    if encoding.isNone && (given.lookup "errors").isNone then value.spoken
    else
      match value.core with
      | .bytes bytes =>
        if bytes.isEmpty then return ""
        (← (encoding.map coding).getD (.ok .utf8)).decode errors bytes
      | .text _ => misused "decoding str is not supported"
      | _ => misused "decoding to str: need a bytes-like object"

/-- The integer that arguments make. -/
def integerOf (positions : List Value) (named : List (String × Value)) : Except Failure Int := do
  if named.any fun entry => entry.1 ≠ "base" then misused "invalid keyword argument for int()"
  match positions, named.lookup "base" with
  | [], none => return 0
  | [value], none => integer value
  | [value, base], none => integerIn value base
  | [value], some base => integerIn value base
  | [], some _ => misused "int() missing string argument"
  | _, _ => misused "int() takes at most 2 arguments"

/-- The bytes that arguments make. -/
def bytesOf (positions : List Value) (named : List (String × Value)) :
    Except Failure (List UInt8) := do
  let given ← arguments ["source", "encoding", "errors"] positions named
  requireNames given
  let errors ← ((given.lookup "errors").map codingErrors).getD (.ok .strict)
  match given.lookup "source", given.lookup "encoding", given.lookup "errors" with
  | none, none, none => return []
  | some value, none, none => bytes value
  | some value, some name, _ =>
    match value.core with
    | .text text => (← coding name).encode errors text
    | _ => misused "encoding without a string argument"
  | none, some _, _ => misused "encoding without a string argument"
  | _, none, some _ => misused "errors without a string argument"

theorem misused_onlyMishaps {α : Type} (message : String) :
    OnlyMishaps (misused message : Except Failure α) :=
  .typeBreach _

theorem wholePart_onlyMishaps (x : Binary64) : OnlyMishaps (wholePart x) := by
  unfold wholePart
  split
  · exact .ok _
  · exact .ite (.valueBreach _) (.breach rfl _)

theorem integer_onlyMishaps (value : Value) : OnlyMishaps (integer value) := by
  have reading (text : String) : OnlyMishaps
      (match Reading.integer? text with
      | some i => .ok i
      | none => .error (.valueBreach "invalid literal for int() with base 10")) := by
    split
    · exact .ok _
    · exact .valueBreach _
  refine .ite (misused_onlyMishaps _) ?_
  split
  · exact wholePart_onlyMishaps _
  · exact .ok _
  · refine .ite (misused_onlyMishaps _) ?_
    split
    · exact reading _
    · exact .ite (reading _) (reading "?")
    · exact misused_onlyMishaps _

theorem integerIn_onlyMishaps (value base : Value) : OnlyMishaps (integerIn value base) := by
  unfold integerIn
  split
  · exact misused_onlyMishaps _
  · next b _ =>
    have reading (text : String) : OnlyMishaps
        (match Reading.integerOf? b.toNat text with
        | some i => .ok i
        | none => .error (.valueBreach "invalid literal for int()")) := by
      split
      · exact .ok _
      · exact .valueBreach _
    refine .ite (.valueBreach _) ?_
    split
    · exact reading _
    · exact .ite (reading _) (reading "?")
    · exact misused_onlyMishaps _

theorem double_onlyMishaps (value : Value) : OnlyMishaps (double value) := by
  have reading (text : String) : OnlyMishaps
      (match Reading.double? text with
      | some x => .ok x
      | none => .error (.valueBreach "could not convert string to float")) := by
    split
    · exact .ok _
    · exact .valueBreach _
  refine .ite (misused_onlyMishaps _) ?_
  split
  · exact .ok _
  · split
    · exact .ok _
    · exact .breach rfl _
  · refine .ite (misused_onlyMishaps _) ?_
    split
    · exact reading _
    · exact .ite (reading _) (reading "?")
    · exact misused_onlyMishaps _

theorem coding_onlyMishaps (name : Value) : OnlyMishaps (coding name) := by
  unfold coding
  split
  · split
    · exact .ok _
    · exact .breach rfl _
  · exact misused_onlyMishaps _

theorem codingErrors_onlyMishaps (name : Value) : OnlyMishaps (codingErrors name) := by
  unfold codingErrors
  split
  · exact .ok _
  · exact misused_onlyMishaps _

theorem byte_onlyMishaps (value : Value) : OnlyMishaps (byte value) := by
  unfold byte
  split
  · exact misused_onlyMishaps _
  · exact .ite (.ok _) (.valueBreach _)

theorem bytes_onlyMishaps (value : Value) : OnlyMishaps (bytes value) := by
  unfold bytes
  split
  · exact .ok _
  · exact .mapM byte_onlyMishaps _
  · exact .mapM byte_onlyMishaps _
  · exact .mapM byte_onlyMishaps _
  · exact .mapM byte_onlyMishaps _
  · exact misused_onlyMishaps _
  · split
    · exact misused_onlyMishaps _
    · exact .ite (.valueBreach _) (.ite (.breach rfl _) (.ite (.breach rfl _) (.ok _)))

theorem arguments_onlyMishaps (parameters : List String) (positions : List Value)
    (named : List (String × Value)) : OnlyMishaps (arguments parameters positions named) :=
  .ite (misused_onlyMishaps _) (.ite (misused_onlyMishaps _) (.ok _))

theorem requireNames_onlyMishaps (given : List (String × Value)) :
    OnlyMishaps (requireNames given) := by
  refine .forM (fun name => ?_) _
  split
  · exact .ok _
  · exact .ite (.valueBreach _) (.ok _)
  · exact misused_onlyMishaps _

theorem textOf_onlyMishaps (positions : List Value) (named : List (String × Value)) :
    OnlyMishaps (textOf positions named) := by
  refine (arguments_onlyMishaps _ _ _).bind fun given _ => ?_
  refine (requireNames_onlyMishaps _).bind fun _ _ => ?_
  refine (OnlyMishaps.mapD codingErrors_onlyMishaps (.ok _)).bind fun errors _ => ?_
  split
  · exact .ok _
  · refine .ite (Value.spoken_onlyMishaps _) ?_
    split
    · refine .ite (.ok _) ?_
      exact (OnlyMishaps.mapD coding_onlyMishaps (.ok _)).bind fun coding _ =>
        coding.decode_onlyMishaps _ _
    · exact misused_onlyMishaps _
    · exact misused_onlyMishaps _

theorem integerOf_onlyMishaps (positions : List Value) (named : List (String × Value)) :
    OnlyMishaps (integerOf positions named) := by
  refine .ite (misused_onlyMishaps _) ?_
  split
  · exact .ok _
  · exact integer_onlyMishaps _
  · exact integerIn_onlyMishaps _ _
  · exact integerIn_onlyMishaps _ _
  · exact misused_onlyMishaps _
  · exact misused_onlyMishaps _

theorem bytesOf_onlyMishaps (positions : List Value) (named : List (String × Value)) :
    OnlyMishaps (bytesOf positions named) := by
  refine (arguments_onlyMishaps _ _ _).bind fun given _ => ?_
  refine (requireNames_onlyMishaps _).bind fun _ _ => ?_
  refine (OnlyMishaps.mapD codingErrors_onlyMishaps (.ok _)).bind fun errors _ => ?_
  split
  · exact .ok _
  · exact bytes_onlyMishaps _
  · split
    · exact (coding_onlyMishaps _).bind fun coding _ => coding.encode_onlyMishaps _ _
    · exact misused_onlyMishaps _
  · exact misused_onlyMishaps _
  · exact misused_onlyMishaps _

end Conversion
end PageContracts
