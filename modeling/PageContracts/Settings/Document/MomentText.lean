import PageContracts.Calendar
import PageContracts.Text.Characters

/-! # Dates and moments as written

The spelling of dates and moments in a settings document: a year, a month and a day, and behind
them perhaps a time of the day with fractions of a second and an offset from universal time.
-/
namespace PageContracts.Document

open Characters

/-- The parts of a time of the day as they are written. -/
structure TimeText where
  hour : List Char
  minute : List Char
  second : List Char
  fraction : List Char := []
  offset : Option Int := none
  deriving DecidableEq, Repr, Inhabited

/-- The parts of a date or moment as they are written. -/
structure MomentText where
  year : List Char
  month : List Char
  day : List Char
  time : Option TimeText := none
  deriving DecidableEq, Repr, Inhabited

namespace MomentText

/-- The value of digits. -/
def number (digits : List Char) : Nat :=
  digits.foldl (fun n c => 10 * n + (c.toNat - '0'.toNat)) 0

/-- A text without one line end at its end. -/
def dropLineEnd (text : List Char) : List Char :=
  if text.getLast? = some '\n' then text.dropLast else text

/-- The digits a text starts with, as many as there are between the least and the most, and what
follows. -/
def digits? (least most : Nat) (text : List Char) : Option (List Char × List Char) :=
  let taken := (text.takeWhile isAsciiDigit).take most
  if least ≤ taken.length then some (taken, text.drop taken.length) else none

/-- What follows a character that a text must start with. -/
def behind? (c : Char) (text : List Char) : Option (List Char) :=
  if text.head? = some c then some text.tail else none

/-- Whether a character is a space or a tab. -/
def isGap (c : Char) : Bool :=
  c = ' ' || c = '\t'

/-- What follows the mark or the blanks between a date and a time. -/
def behindGap? (text : List Char) : Option (List Char) :=
  match text with
  | 'T' :: rest => some rest
  | 't' :: rest => some rest
  | c :: rest => if isGap c then some (rest.dropWhile isGap) else none
  | [] => none

/-- The fraction of a second, if there is a point, and what follows. -/
def fraction (text : List Char) : List Char × List Char :=
  match text with
  | '.' :: rest => (rest.takeWhile isAsciiDigit, rest.dropWhile isAsciiDigit)
  | _ => ([], text)

/-- The minutes of an offset behind its hours. -/
def offsetMinutes? (text : List Char) : Option Nat :=
  if text.isEmpty then some 0
  else do
    let (minutes, rest) ← digits? 2 2 (← behind? ':' text)
    if rest.isEmpty then some (number minutes) else none

/-- An offset as the minutes it is worth; the text has to end behind it. -/
def offset? (text : List Char) : Option Int :=
  match text with
  | ['Z'] => some 0
  | sign :: rest =>
    if sign = '+' ∨ sign = '-' then do
      let (hours, rest) ← digits? 1 2 rest
      let minutes := 60 * number hours + (← offsetMinutes? rest)
      return if sign = '-' then -(minutes : Int) else minutes
    else none
  | [] => none

/-- The time of a day, to the end of a text. -/
def time? (text : List Char) : Option TimeText := do
  let (hour, rest) ← digits? 1 2 text
  let (minute, rest) ← digits? 2 2 (← behind? ':' rest)
  let (second, rest) ← digits? 2 2 (← behind? ':' rest)
  let (fraction, rest) := fraction rest
  if rest.isEmpty then return { hour, minute, second, fraction }
  else return { hour, minute, second, fraction, offset := some (← offset? (rest.dropWhile isGap)) }

/-- Read a date or moment; a line end behind it does not count. -/
def read? (text : List Char) : Option MomentText := do
  let (year, rest) ← digits? 4 4 (dropLineEnd text)
  let (month, rest) ← digits? 1 2 (← behind? '-' rest)
  let (day, rest) ← digits? 1 2 (← behind? '-' rest)
  if rest.isEmpty then return { year, month, day }
  else return { year, month, day, time := some (← time? (← behindGap? rest)) }

/-- Whether a plain text is taken for a date or moment: a date alone needs two digits for the
month and for the day. -/
def isPlain (text : List Char) : Bool :=
  match read? text with
  | some parts => parts.time.isSome || (parts.month.length = 2 && parts.day.length = 2)
  | none => false

/-- The date that is written. -/
def date (parts : MomentText) : CalendarDate :=
  { year := number parts.year, month := number parts.month, day := number parts.day }

/-- The microseconds of a fraction of a second; further digits are cut off. -/
def microseconds (fraction : List Char) : Nat :=
  let digits := fraction.take 6
  number digits * Nat.pow 10 (6 - digits.length)

/-- The moment that is written as a date and a time. -/
def moment (date : CalendarDate) (time : TimeText) : Moment :=
  { date
    hour := number time.hour
    minute := number time.minute
    second := number time.second
    microsecond := microseconds time.fraction
    offset := time.offset }

end MomentText
end PageContracts.Document
