import PageContracts.Text.CaseTables
import PageContracts.Text.Names

/-! # Cases

The lower case of characters, the classes of characters that depend on case, and texts put into one
case or another. The lower case of a sigma depends on what stands around it.
-/
namespace PageContracts.Characters

open CharacterTables CaseTables

/-- Whether a character lies in one of some runs of every so many characters. -/
def inStrides (runs : List (Nat × Nat × Nat)) (c : Char) : Bool :=
  runs.any fun (first, last, stride) =>
    first ≤ c.toNat && c.toNat ≤ last && (c.toNat - first) % stride = 0

/-- The form that a character has by the first run that it lies in. -/
def runForm? (runs : List CaseRun) (c : Char) : Option Char :=
  (runs.find? fun run =>
      run.first ≤ c.toNat && c.toNat ≤ run.last && (c.toNat - run.first) % run.stride = 0).map
    fun run => Char.ofNat ((c.toNat : Int) + run.offset).toNat

/-- The forms that a character has by a table of single forms and one of several. -/
def formsIn? (runs : List CaseRun) (expansions : List (Nat × List Nat)) (c : Char) :
    Option (List Char) :=
  match expansions.lookup c.toNat with
  | some codes => some (codes.map Char.ofNat)
  | none => (runForm? runs c).map ([·])

/-- Lower case of a character by itself. -/
def lowerForms (c : Char) : List Char :=
  if c.toNat < 0x80 then [asciiLower c] else (formsIn? lowerRuns lowerExpansions c).getD [c]

/-- Whether a character is in upper case. -/
def isUpperCase (c : Char) : Bool :=
  inStrides upperLetterRuns c

/-- Whether a character is in lower case. -/
def isLowerCase (c : Char) : Bool :=
  inStrides lowerLetterRuns c

/-- Whether a character is two letters, the first of them in upper case. -/
def isTitleCase (c : Char) : Bool :=
  inRuns titleLetterRuns c.toNat

/-- Whether a character has a case. -/
def isCased (c : Char) : Bool :=
  isUpperCase c || isLowerCase c || isTitleCase c

/-- Whether a word has begun in front of a place and does not go on behind it; what stands before the
place is given backwards. -/
def endsWord (before behind : List Char) : Bool :=
  let isCasedNext (text : List Char) : Bool :=
    (((text.dropWhile (inStrides ignorableRuns)).head?).map isCased).getD false
  isCasedNext before && !isCasedNext behind

/-- Lower case of a character between others; what stands before it is given backwards. -/
def lowerBetween (before : List Char) (c : Char) (behind : List Char) : List Char :=
  if c = 'Σ' then [if endsWord before behind then 'ς' else 'σ'] else lowerForms c

/-- Lower case of a text that others stand before, given backwards. -/
def lowerBehind (before : List Char) : List Char → List Char
  | [] => []
  | c :: rest => lowerBetween before c rest ++ lowerBehind (c :: before) rest

/-- Lower case of a text. -/
def lower (text : List Char) : List Char :=
  lowerBehind [] text

/-- A character as it is compared regardless of case. -/
def foldForms (c : Char) : List Char :=
  match formsIn? foldRuns foldExpansions c, upperForms c with
  | some forms, _ => forms
  | none, first :: second :: rest => (first :: second :: rest).flatMap lowerForms
  | none, _ => lowerForms c

/-- Whether a character is a letter. -/
def isLetter (c : Char) : Bool :=
  if c.toNat < 0x80 then isAsciiLetter c
  else (Names.isStart c && !inStrides noLetterRuns c) || inStrides moreLetterRuns c

/-- Whether a character is a decimal digit of any script. -/
def isDecimal (c : Char) : Bool :=
  (digitValue? c).isSome

/-- Whether a character is a digit. -/
def isDigit (c : Char) : Bool :=
  isDecimal c || inStrides digitRuns c

/-- Whether a character stands for a number. -/
def isNumeric (c : Char) : Bool :=
  isDigit c || inStrides numericRuns c

/-- A character at the start of a word. -/
def titleForms (c : Char) : List Char :=
  match formsIn? titleRuns titleExpansions c, upperForms c with
  | some forms, _ => forms
  | none, first :: rest => first :: rest.flatMap lowerForms
  | none, [] => []

/-- A text with every word starting in upper case; what stands before it is given backwards. -/
def titledBehind (before : List Char) : List Char → List Char
  | [] => []
  | c :: rest =>
    (if ((before.head?).map isCased).getD false then lowerBetween before c rest else titleForms c) ++
      titledBehind (c :: before) rest

/-- A text with every word starting in upper case. -/
def titled (text : List Char) : List Char :=
  titledBehind [] text

/-- A text with its first character in upper case and all others in lower case. -/
def capitalized : List Char → List Char
  | [] => []
  | c :: rest => titleForms c ++ lowerBehind [c] rest

/-- A text with the other case for every character; what stands before it is given backwards. -/
def swappedBehind (before : List Char) : List Char → List Char
  | [] => []
  | c :: rest =>
    (if isUpperCase c then lowerBetween before c rest
      else if isLowerCase c then upperForms c
      else [c]) ++ swappedBehind (c :: before) rest

/-- A text with the other case for every character. -/
def swapped (text : List Char) : List Char :=
  swappedBehind [] text

/-- Whether every word of a text starts in upper case and goes on in lower case; `inside` tells
whether a word has begun. -/
def isTitled (inside : Bool) : List Char → Bool
  | [] => true
  | c :: rest =>
    if isUpperCase c || isTitleCase c then !inside && isTitled true rest
    else if isLowerCase c then inside && isTitled true rest
    else isTitled false rest

end PageContracts.Characters
