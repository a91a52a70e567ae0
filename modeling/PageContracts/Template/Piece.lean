import PageContracts.Text.Characters

/-! # Template pieces

A template is literal text with conversions, each introduced by a percent sign. Reading a
template into pieces needs no arguments; what goes wrong in a conversion is kept as a piece, so
that it is met in its turn when the template is filled.
-/
namespace PageContracts.Template

open Characters

/-- The flags of a conversion. -/
structure Flags where
  left : Bool := false
  plus : Bool := false
  blank : Bool := false
  alternate : Bool := false
  zero : Bool := false
  deriving DecidableEq, Repr, Inhabited

/-- A width or a precision. -/
inductive Amount where
  | unset
  | given (n : Nat)
  /-- Taken from the arguments. -/
  | fromArgument
  /-- Written with a number beyond the machine's range. -/
  | excessive
  deriving DecidableEq, Repr, Inhabited

/-- A conversion: flags, width, precision and the conversion letter with its position. A
template that ends inside a conversion leaves it without a letter. -/
structure Conversion where
  flags : Flags := {}
  width : Amount := .unset
  precision : Amount := .unset
  letter : Option (Char × Nat) := none
  deriving DecidableEq, Repr, Inhabited

/-- A piece of a template. -/
inductive Piece where
  | literal (c : Char)
  | conversion (c : Conversion)
  /-- A conversion that names its argument, which a row of arguments cannot serve. -/
  | named
  deriving DecidableEq, Repr, Inhabited

/-- How far the reading of a conversion has come. -/
inductive Stage where
  | flags
  | width
  | widthDone
  | precisionStart
  | precision
  | precisionDone
  | letter
  deriving DecidableEq, Repr

/-- The reading of a conversion after one more character. -/
inductive Progress where
  | more (stage : Stage) (read : Conversion)
  | done (read : Conversion)
  deriving DecidableEq, Repr

/-- The greatest width. -/
def widthLimit : Nat := 9223372036854775807

/-- The greatest precision. -/
def precisionLimit : Nat := 2147483647

/-- A number with one more digit, unless that takes it beyond a limit. -/
def moreDigits (limit : Nat) (amount : Amount) (c : Char) : Amount :=
  let d := c.toNat - '0'.toNat
  match amount with
  | .given n => if n > (limit - d) / 10 then .excessive else .given (10 * n + d)
  | other => other

/-- The flags with the one a character stands for, if it stands for one. -/
def withFlag? (flags : Flags) : Char → Option Flags
  | '-' => some { flags with left := true }
  | '+' => some { flags with plus := true }
  | ' ' => some { flags with blank := true }
  | '#' => some { flags with alternate := true }
  | '0' => some { flags with zero := true }
  | _ => none

/-- Whether a character is a size mark, which has no effect before a conversion letter. -/
def isSizeMark (c : Char) : Bool :=
  c = 'h' || c = 'l' || c = 'L'

/-- Read the conversion letter. -/
def readLetter (read : Conversion) (index : Nat) (c : Char) : Progress :=
  .done { read with letter := some (c, index) }

/-- Read the character after the precision. -/
def afterPrecision (read : Conversion) (index : Nat) (c : Char) : Progress :=
  if isSizeMark c then .more .letter read else readLetter read index c

/-- Read the character after the width. -/
def afterWidth (read : Conversion) (index : Nat) (c : Char) : Progress :=
  if c = '.' then .more .precisionStart { read with precision := .given 0 }
  else afterPrecision read index c

/-- A conversion whose number grew, given up when the number is excessive. -/
def grown (stage : Stage) (amount : Amount) (read : Conversion) : Progress :=
  if amount = .excessive then .done read else .more stage read

/-- Read one more character of a conversion. -/
def readMore (stage : Stage) (read : Conversion) (index : Nat) (c : Char) : Progress :=
  match stage with
  | .flags =>
    match withFlag? read.flags c with
    | some flags => .more .flags { read with flags }
    | none =>
      if c = '*' then .more .widthDone { read with width := .fromArgument }
      else if isAsciiDigit c then
        .more .width { read with width := .given (c.toNat - '0'.toNat) }
      else afterWidth read index c
  | .width =>
    if isAsciiDigit c then
      let width := moreDigits widthLimit read.width c
      grown .width width { read with width }
    else afterWidth read index c
  | .widthDone => afterWidth read index c
  | .precisionStart =>
    if c = '*' then .more .precisionDone { read with precision := .fromArgument }
    else if isAsciiDigit c then
      .more .precision { read with precision := .given (c.toNat - '0'.toNat) }
    else afterPrecision read index c
  | .precision =>
    if isAsciiDigit c then
      let precision := moreDigits precisionLimit read.precision c
      grown .precision precision { read with precision }
    else afterPrecision read index c
  | .precisionDone => afterPrecision read index c
  | .letter => readLetter read index c

/-- Where the reading of a template stands: in literal text, right behind a percent sign, or
inside a conversion. -/
inductive Place where
  | text
  | opened
  | inside (stage : Stage) (read : Conversion)
  deriving DecidableEq, Repr

/-- Read a template from a place on; `index` is the position of the next character. -/
def piecesFrom : Place → Nat → List Char → List Piece
  | .text, _, [] => []
  | .text, index, c :: rest =>
    if c = '%' then piecesFrom .opened (index + 1) rest
    else .literal c :: piecesFrom .text (index + 1) rest
  | .opened, _, [] => [.conversion {}]
  | .opened, index, c :: rest =>
    if c = '%' then .literal '%' :: piecesFrom .text (index + 1) rest
    else if c = '(' then [.named]
    else
      match readMore .flags {} index c with
      | .more stage read => piecesFrom (.inside stage read) (index + 1) rest
      | .done read => .conversion read :: piecesFrom .text (index + 1) rest
  | .inside _ read, _, [] => [.conversion read]
  | .inside stage read, index, c :: rest =>
    match readMore stage read index c with
    | .more stage read => piecesFrom (.inside stage read) (index + 1) rest
    | .done read => .conversion read :: piecesFrom .text (index + 1) rest

/-- The pieces of a template. -/
def pieces (template : String) : List Piece :=
  piecesFrom .text 0 template.toList

/-- The number of placeholders in a template: text and number marks, a doubled percent sign
being passed over as one literal sign. -/
def countMarks : List Char → Nat
  | '%' :: c :: rest =>
    if c = '%' then countMarks rest
    else if c = 's' ∨ c = 'd' then countMarks rest + 1
    else countMarks (c :: rest)
  | _ :: rest => countMarks rest
  | [] => 0

/-- The number of placeholders in a template. -/
def placeholderCount (template : String) : Nat :=
  countMarks template.toList

end PageContracts.Template
