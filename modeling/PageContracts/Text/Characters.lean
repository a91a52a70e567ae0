import PageContracts.Text.CharacterTables

/-! # Characters

Classification, case and line structure of text. Functions work on lists of characters, where
induction is direct; the `String` versions only convert at both ends.
-/
namespace PageContracts.Characters

open CharacterTables

/-- Whether a code point lies in one of the runs. -/
def inRuns (runs : List (Nat × Nat)) (code : Nat) : Bool :=
  runs.any fun run => run.1 ≤ code && code ≤ run.2

/-- Whether a character is shown as itself in a quoted text. The printable part of ASCII is
decided without the table. -/
def isPrintable (c : Char) : Bool :=
  if c.toNat < 0x7F then 0x20 ≤ c.toNat else !inRuns unprintableRuns c.toNat

/-- Whether trimming takes the character off the ends of a text. -/
def isBlank (c : Char) : Bool :=
  inRuns blankRuns c.toNat

/-- Whether reading a number skips the character at the ends. The four ASCII separators that
trimming accepts are not skipped here. -/
def isNumberBlank (c : Char) : Bool :=
  isBlank c && !(0x1C ≤ c.toNat && c.toNat ≤ 0x1F)

/-- The value of a decimal digit of any script. -/
def digitValue? (c : Char) : Option Nat :=
  decimalZeros.findSome? fun first =>
    if first ≤ c.toNat ∧ c.toNat < first + 10 then some (c.toNat - first) else none

/-- Whether a character is one of the ASCII digits. -/
def isAsciiDigit (c : Char) : Bool :=
  '0' ≤ c && c ≤ '9'

/-- Whether a character is an ASCII letter. -/
def isAsciiLetter (c : Char) : Bool :=
  ('a' ≤ c && c ≤ 'z') || ('A' ≤ c && c ≤ 'Z')

/-- Lower case of the ASCII letters; every other character is kept. No other character has a
lower case holding an ASCII letter except the Kelvin sign and the dotted capital I, so searching
a lowered text for a word without `i` and `k` may use this map. -/
def asciiLower (c : Char) : Char :=
  if 'A' ≤ c ∧ c ≤ 'Z' then Char.ofNat (c.toNat + 32) else c

/-- Upper case of the ASCII letters; every other character is kept. -/
def asciiUpper (c : Char) : Char :=
  if 'a' ≤ c ∧ c ≤ 'z' then Char.ofNat (c.toNat - 32) else c

/-- Upper case of a character, which may be several characters. -/
def upperForms (c : Char) : List Char :=
  if c.toNat < 0x80 then [asciiUpper c]
  else
    match upperExpansions.find? fun entry => entry.1 = c.toNat with
    | some (_, codes) => codes.map Char.ofNat
    | none =>
      match upperRuns.find? fun run =>
          run.first ≤ c.toNat && c.toNat ≤ run.last && (c.toNat - run.first) % run.stride = 0 with
      | some run => [Char.ofNat ((c.toNat : Int) + run.offset).toNat]
      | none => [c]

/-- Upper case of a text. -/
def upper (text : String) : String :=
  String.ofList (text.toList.flatMap upperForms)

/-- The text with its ASCII letters in lower case. -/
def lowerAscii (text : String) : String :=
  String.ofList (text.toList.map asciiLower)

/-- A list without the elements of a class at its front and back. -/
def trimBy (skip : Char → Bool) (text : List Char) : List Char :=
  ((text.dropWhile skip).reverse.dropWhile skip).reverse

/-- A text without blanks at its ends. -/
def trim (text : String) : String :=
  String.ofList (trimBy isBlank text.toList)

/-- A text without a given character at its end. -/
def dropTrailing (c : Char) (text : String) : String :=
  String.ofList (text.toList.reverse.dropWhile (· = c)).reverse

/-- Whether a character ends a line. -/
def isLineEnd (c : Char) : Bool :=
  (0x0A ≤ c.toNat && c.toNat ≤ 0x0D) || (0x1C ≤ c.toNat && c.toNat ≤ 0x1E) ||
    c.toNat = 0x85 || c.toNat = 0x2028 || c.toNat = 0x2029

/-- The first line of a text, its line end excluded; an empty text has no line at all. -/
def firstLine? (text : String) : Option String :=
  if text.toList.isEmpty then none
  else some (String.ofList (text.toList.takeWhile fun c => !isLineEnd c))

/-- Whether `pattern` occurs in `text` as a contiguous part. -/
def occursIn (pattern : List Char) : List Char → Bool
  | [] => pattern.isEmpty
  | c :: rest => pattern.isPrefixOf (c :: rest) || occursIn pattern rest

/-- Replace every occurrence of the non-empty text `pattern`, left to right, never looking again
at what was put in. The fuel is the length of the text, which each step shortens. -/
def replaceList (pattern replacement : List Char) : Nat → List Char → List Char
  | 0, text => text
  | _, [] => []
  | fuel + 1, c :: rest =>
    if pattern.isPrefixOf (c :: rest) then
      replacement ++ replaceList pattern replacement fuel ((c :: rest).drop pattern.length)
    else c :: replaceList pattern replacement fuel rest

/-- Replace every occurrence of a non-empty pattern in a text. -/
def replace (pattern replacement text : String) : String :=
  String.ofList (replaceList pattern.toList replacement.toList text.length text.toList)

section Replacing

variable {text : List Char}

theorem replaceList_singleton (old : Char) (new : List Char) {fuel : Nat}
    (enough : text.length ≤ fuel) :
    replaceList [old] new fuel text = text.flatMap fun c => if c = old then new else [c] := by
  induction fuel generalizing text with
  | zero =>
    rw [List.length_eq_zero_iff.mp (Nat.le_zero.mp enough)]
    rfl
  | succ fuel ih =>
    cases text with
    | nil => rfl
    | cons c rest =>
      have shorter : rest.length ≤ fuel := Nat.le_of_succ_le_succ enough
      by_cases same : c = old
      · simp [replaceList, same, ih shorter]
      · simp [replaceList, same, Ne.symm same, ih shorter]

/-- A pattern of one character is replaced character by character. -/
theorem toList_replace {pattern : String} {old : Char} (single : pattern.toList = [old])
    (replacement text : String) :
    (replace pattern replacement text).toList =
      text.toList.flatMap fun c => if c = old then replacement.toList else [c] := by
  have enough : text.toList.length ≤ text.length := Nat.le_refl _
  rw [replace, String.toList_ofList, single]
  exact replaceList_singleton old replacement.toList enough

end Replacing

/-- The pieces of a text between occurrences of a separator; never empty. -/
def splitOn (separator : Char) : List Char → List (List Char)
  | [] => [[]]
  | c :: rest =>
    if c = separator then [] :: splitOn separator rest
    else
      match splitOn separator rest with
      | [] => [[c]]
      | piece :: pieces => (c :: piece) :: pieces

/-- Hexadecimal digits of a number in lower case, at least `width` of them. -/
def hexDigits (width n : Nat) : List Char :=
  let digits := Nat.toDigits 16 n
  List.replicate (width - digits.length) '0' ++ digits

/-- A text with every line end turned into a line feed. -/
def unifyLineEnds : List Char → List Char
  | '\r' :: '\n' :: rest => '\n' :: unifyLineEnds rest
  | '\r' :: rest => '\n' :: unifyLineEnds rest
  | c :: rest => c :: unifyLineEnds rest
  | [] => []

end PageContracts.Characters
