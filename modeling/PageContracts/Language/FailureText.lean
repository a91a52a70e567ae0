import PageContracts.Language.Types
import PageContracts.Value

/-! # What failures say

The text that a failure gives as a value: what it was made with, in the form that its type has for
that. Failures of the system tell a number, failures of codings the place where they occurred.
-/
namespace PageContracts.Language.FailureText

/-- The whole number that a part of a failure is; zero for anything else. -/
def number (part : Option Value) : Int :=
  (part.bind Value.toInt?).getD 0

/-- The text that a part of a failure gives. -/
def display (part : Option Value) : String :=
  (part.map Value.display).getD "None"

/-- A part of a failure, unless it is nothing. -/
def given? (part : Option Value) : Option Value :=
  part.bind fun
    | .none => none
    | value => some value

/-- A character that a coding has no bytes for, as it is shown. -/
def shownCharacter (c : Char) : String :=
  let n := c.toNat
  let digits (width : Nat) : String := String.ofList (Characters.hexDigits width n)
  if n < 0x100 then "\\x" ++ digits 2
  else if n < 0x10000 then "\\u" ++ digits 4
  else "\\U" ++ digits 8

/-- What could not be coded, and where: one thing, or several. -/
def place (unit : String) (one : Option String) (first last : Int) : String :=
  match one with
  | some one =>
    if last = first + 1 then unit ++ " " ++ one ++ " in position " ++ toString first
    else several
  | none => several
where
  /-- Several things. -/
  several : String :=
    unit ++ "s in position " ++ toString first ++ "-" ++ toString (last - 1)

/-- What a failure of a coding says, given how it tells what could not be done. -/
def ofCoding (verb : String) (part : String → Option Value) : String :=
  let first := number (part "start")
  let last := number (part "end")
  let shown :=
    match part "object" with
    | some (.text s) =>
      place "character" ((s.toList[first.toNat]?).map fun c => "'" ++ shownCharacter c ++ "'") first last
    | some (.bytes b) =>
      place "byte" ((b[first.toNat]?).map fun byte =>
        "0x" ++ String.ofList (Characters.hexDigits 2 byte.toNat)) first last
    | _ => ""
  let coding :=
    match part "encoding" with
    | some name => Quoted.quoted name.display ++ " codec "
    | none => ""
  coding ++ "can't " ++ verb ++ " " ++ shown ++ ": " ++ display (part "reason")

/-- What a failure of the system says: its number, what it means, and the files it is about. -/
def ofSystem (part : String → Option Value) : String :=
  let files :=
    match given? (part "filename"), given? (part "filename2") with
    | some file, some other => ": " ++ file.quoted ++ " -> " ++ other.quoted
    | some file, none => ": " ++ file.quoted
    | none, _ => ""
  "[Errno " ++ display (part "errno") ++ "] " ++ display (part "strerror") ++ files

/-- What a failure about a text says that makes no sense: the message, and where that was found. -/
def ofSyntax (part : String → Option Value) : String :=
  let message := display (part "msg")
  let file := (given? (part "filename")).bind fun
    | .text s => some ((s.splitOn "/").getLast?.getD s)
    | _ => none
  let line := (part "lineno").bind Value.toInt?
  match file, line with
  | some file, some line => message ++ " (" ++ file ++ ", line " ++ toString line ++ ")"
  | some file, none => message ++ " (" ++ file ++ ")"
  | none, some line => message ++ " (line " ++ toString line ++ ")"
  | none, none => message

/-- What a failure made of several says. -/
def ofGroup (part : String → Option Value) : String :=
  let count := ((part "exceptions").bind Value.length?).getD 0
  display (part "message") ++ " (" ++ toString count ++ " sub-exception" ++
    (if count = 1 then ")" else "s)")

/-- What a failure says that was made with some arguments and has some parts. -/
def said (name : String) (arguments : List Value) (parts : List (String × Value)) : String :=
  let family := ancestry name
  let part (label : String) : Option Value := parts.lookup label
  if family.contains "OSError" && (given? (part "errno")).isSome && (given? (part "strerror")).isSome then
    ofSystem part
  else if family.contains "SyntaxError" then ofSyntax part
  else if name = "UnicodeEncodeError" then ofCoding "encode" part
  else if name = "UnicodeDecodeError" then ofCoding "decode" part
  else if name = "UnicodeTranslateError" then ofCoding "translate" part
  else if family.contains "BaseExceptionGroup" then ofGroup part
  else if family.contains "ImportError" && (part "msg" matches some (.text _)) then display (part "msg")
  else
    match arguments with
    | [] => ""
    | [one] => if name = "KeyError" then one.quoted else one.display
    | all => (Value.tuple all).quoted

end PageContracts.Language.FailureText
