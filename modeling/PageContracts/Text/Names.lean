import PageContracts.Text.Characters
import PageContracts.Text.NameTables
import PageContracts.Text.NormalFormTables

/-! # Names

What may be a name, and when two names are the same one: names are compared in their normal form,
in which a character stands for all others of the same meaning and marks are joined with the
character they belong to.
-/
namespace PageContracts.Names

open Characters

/-- Whether a name may start with a character. -/
def isStart (c : Char) : Bool :=
  isAsciiLetter c || c = '_' || (0x80 ≤ c.toNat && inRuns NameTables.startRuns c.toNat)

/-- Whether a character may stand in a name. -/
def isPart (c : Char) : Bool :=
  isStart c || isAsciiDigit c || (0x80 ≤ c.toNat && inRuns NameTables.laterRuns c.toNat)

/-- Whether a text is a name. -/
def isName (text : List Char) : Bool :=
  match text with
  | [] => false
  | c :: rest => isStart c && rest.all isPart

/-- The words of the language, which cannot be names. -/
def reservedWords : List String :=
  ["False", "None", "True", "and", "as", "assert", "async", "await", "break", "class", "continue",
    "def", "del", "elif", "else", "except", "finally", "for", "from", "global", "if", "import",
    "in", "is", "lambda", "nonlocal", "not", "or", "pass", "raise", "return", "try", "while",
    "with", "yield"]

/-- The class of a mark; other characters have the class zero. -/
def markClass (c : Char) : Nat :=
  match NormalFormTables.markClasses.find? fun run => run.1 ≤ c.toNat && c.toNat ≤ run.2.1 with
  | some run => run.2.2
  | none => 0

/-- The other form of a character that may stand in a name, if it has one. -/
def compatibleForm (c : Char) : List Char :=
  let forms := NormalFormTables.compatibleForms.findSome? fun run =>
    if run.1 ≤ c.toNat then (splitOn ' ' run.2.toList)[c.toNat - run.1]? else none
  forms.getD [c]

/-- The first syllable sign that is made of others, and the first of each kind of its parts. -/
def firstSyllable : Nat := 0xAC00

/-- The first leading, middle and closing part of a syllable sign; the closing one may be missing,
so that its number starts one earlier. -/
def firstParts : Nat × Nat × Nat := (0x1100, 0x1161, 0x11A7)

/-- How many leading, middle and closing parts there are, the missing one included. -/
def partCounts : Nat × Nat × Nat := (19, 21, 28)

/-- The parts of a syllable sign. -/
def splitSyllable? (c : Char) : Option (List Char) :=
  let (leading, middle, closing) := firstParts
  let (leadings, middles, closings) := partCounts
  if firstSyllable ≤ c.toNat ∧ c.toNat < firstSyllable + leadings * middles * closings then
    let n := c.toNat - firstSyllable
    let last := n % closings
    some ([Char.ofNat (leading + n / (middles * closings)),
        Char.ofNat (middle + n / closings % middles)] ++
      (if last = 0 then [] else [Char.ofNat (closing + last)]))
  else none

/-- The syllable sign of two parts, the first of which may be a sign without a closing part. -/
def joinSyllable? (a b : Char) : Option Char :=
  let (leading, middle, closing) := firstParts
  let (leadings, middles, closings) := partCounts
  if leading ≤ a.toNat ∧ a.toNat < leading + leadings ∧ middle ≤ b.toNat ∧
      b.toNat < middle + middles then
    some (Char.ofNat (firstSyllable +
      ((a.toNat - leading) * middles + (b.toNat - middle)) * closings))
  else if firstSyllable ≤ a.toNat ∧ a.toNat < firstSyllable + leadings * middles * closings ∧
      (a.toNat - firstSyllable) % closings = 0 ∧ closing < b.toNat ∧
      b.toNat < closing + closings then
    some (Char.ofNat (a.toNat + (b.toNat - closing)))
  else none

/-- A character and the mark that a character is joined of, if it is joined. -/
def splitMark? (c : Char) : Option (Char × Char) :=
  NormalFormTables.joined.findSome? fun entry =>
    let results := entry.2.2.toList
    match results.findIdx? (· = c) with
    | some i => (entry.2.1.toList[i]?).map fun base => (base, Char.ofNat entry.1)
    | none => none

/-- What a character and a mark behind it become, if they join. -/
def joinMark? (base mark : Char) : Option Char :=
  match NormalFormTables.joined.find? fun entry => entry.1 = mark.toNat with
  | some entry =>
    match entry.2.1.toList.findIdx? (· = base) with
    | some i => entry.2.2.toList[i]?
    | none => none
  | none => joinSyllable? base mark

/-- The parts a character is joined of, as far as possible. No character is joined of more than
four. -/
def splitAll : Nat → Char → List Char
  | 0, c => [c]
  | fuel + 1, c =>
    match splitSyllable? c with
    | some parts => parts
    | none =>
      match splitMark? c with
      | some (base, mark) => splitAll fuel base ++ splitAll fuel mark
      | none => [c]

/-- A text with a mark put in its place behind those of no higher class. -/
def insertMark (mark : Char) : List Char → List Char
  | [] => [mark]
  | c :: rest =>
    if markClass mark < markClass c then mark :: c :: rest else c :: insertMark mark rest

/-- A text with the marks behind each character in the order of their classes; `marks` are those
read since the last character. -/
def orderMarks : List Char → List Char → List Char
  | marks, [] => marks
  | marks, c :: rest =>
    if markClass c = 0 then marks ++ c :: orderMarks [] rest
    else orderMarks (insertMark c marks) rest

/-- Join what follows a character with it, as far as possible; `skipped` are the marks that stay
apart, which let no mark of their class through. -/
def joinFrom (base : Char) (skipped : List Char) : List Char → List Char
  | [] => base :: skipped
  | c :: rest =>
    let free := skipped.isEmpty ||
      (markClass c ≠ 0 && (skipped.getLast?.map markClass) ≠ some (markClass c))
    match if free then joinMark? base c else none with
    | some whole => joinFrom whole skipped rest
    | none =>
      if markClass c = 0 then base :: skipped ++ joinFrom c [] rest
      else joinFrom base (skipped ++ [c]) rest

/-- A text with marks joined with the characters they belong to. -/
def joinAll : List Char → List Char
  | [] => []
  | c :: rest =>
    if markClass c = 0 then joinFrom c [] rest else c :: joinAll rest

/-- The normal form of a name. -/
def normalForm (name : String) : String :=
  let text := name.toList
  if text.all fun c => c.toNat < 0x80 then name
  else
    String.ofList (joinAll (orderMarks [] ((text.flatMap compatibleForm).flatMap (splitAll 4))))

/-- Whether a name is its own normal form. -/
def isNormal (name : String) : Bool :=
  normalForm name = name

end PageContracts.Names
