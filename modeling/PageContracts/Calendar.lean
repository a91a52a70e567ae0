/-! # Calendar

Days of the calendar and moments of a day, with or without an offset from universal time.
-/
namespace PageContracts

/-- A day of the calendar. -/
structure CalendarDate where
  year : Nat
  month : Nat
  day : Nat
  deriving DecidableEq, Repr, Inhabited

/-- A moment of a day; `offset` is how many minutes its clock is ahead of universal time. -/
structure Moment where
  date : CalendarDate
  hour : Nat := 0
  minute : Nat := 0
  second : Nat := 0
  microsecond : Nat := 0
  offset : Option Int := none
  deriving DecidableEq, Repr, Inhabited

namespace CalendarDate

/-- Whether a year has a leap day. -/
def isLeap (year : Nat) : Bool :=
  year % 4 = 0 && (year % 100 ≠ 0 || year % 400 = 0)

/-- The number of days of a month. -/
def daysIn (year month : Nat) : Nat :=
  if month = 2 then (if isLeap year then 29 else 28)
  else if [4, 6, 9, 11].contains month then 30
  else 31

/-- Whether a date is one of the calendar, which runs through the years 1 to 9999. -/
def isReal (date : CalendarDate) : Bool :=
  1 ≤ date.year && date.year ≤ 9999 && 1 ≤ date.month && date.month ≤ 12 && 1 ≤ date.day &&
    date.day ≤ daysIn date.year date.month

/-- The number of days from the start of the calendar through a date. -/
def ordinal (date : CalendarDate) : Nat :=
  let before := date.year - 1
  365 * before + before / 4 - before / 100 + before / 400 +
    ((List.range (date.month - 1)).map fun month => daysIn date.year (month + 1)).foldl Nat.add 0 +
    date.day

/-- A number in decimal, with zeros in front up to a width. -/
def padded (width n : Nat) : String :=
  let digits := Nat.toDigits 10 n
  String.ofList (List.replicate (width - digits.length) '0' ++ digits)

/-- A date as text. -/
def display (date : CalendarDate) : String :=
  padded 4 date.year ++ "-" ++ padded 2 date.month ++ "-" ++ padded 2 date.day

/-- A date as messages show it where a value is expected. -/
def quoted (date : CalendarDate) : String :=
  "datetime.date(" ++ toString date.year ++ ", " ++ toString date.month ++ ", " ++
    toString date.day ++ ")"

end CalendarDate

namespace Moment

/-- Whether the date, the time and the offset of a moment can be told: the offset must be less
than a day. -/
def isReal (moment : Moment) : Bool :=
  moment.date.isReal && moment.hour < 24 && moment.minute < 60 && moment.second < 60 &&
    ((moment.offset.map fun offset => decide (offset.natAbs < 1440)).getD true)

/-- The seconds from the start of the calendar to a moment, as universal time when the offset is
known. -/
def seconds (moment : Moment) : Int :=
  ((moment.date.ordinal * 1440 + moment.hour * 60 + moment.minute : Nat) -
    moment.offset.getD 0) * 60 + moment.second

/-- Whether two moments are the same one. A moment whose offset is unknown is never the same as
one whose offset is known. -/
def same (a b : Moment) : Bool :=
  a.offset.isSome = b.offset.isSome && a.seconds = b.seconds && a.microsecond = b.microsecond

/-- An offset as text. -/
def offsetText (offset : Int) : String :=
  let sign := if offset < 0 then "-" else "+"
  sign ++ CalendarDate.padded 2 (offset.natAbs / 60) ++ ":" ++
    CalendarDate.padded 2 (offset.natAbs % 60)

/-- A moment as text. -/
def display (moment : Moment) : String :=
  moment.date.display ++ " " ++ CalendarDate.padded 2 moment.hour ++ ":" ++
    CalendarDate.padded 2 moment.minute ++ ":" ++ CalendarDate.padded 2 moment.second ++
    (if moment.microsecond = 0 then "" else "." ++ CalendarDate.padded 6 moment.microsecond) ++
    (moment.offset.map offsetText).getD ""

/-- A span of minutes as messages show it: whole days, downwards, and the seconds left. -/
def quotedSpan (minutes : Int) : String :=
  let days := minutes.fdiv 1440
  let seconds := 60 * minutes.fmod 1440
  let parts :=
    (if days = 0 then [] else ["days=" ++ toString days]) ++
      (if seconds = 0 then [] else ["seconds=" ++ toString seconds])
  "datetime.timedelta(" ++ (if parts.isEmpty then "0" else String.intercalate ", " parts) ++ ")"

/-- An offset as messages show it. -/
def quotedOffset (offset : Int) : String :=
  if offset = 0 then "datetime.timezone.utc"
  else "datetime.timezone(" ++ quotedSpan offset ++ ")"

/-- A moment as messages show it where a value is expected: seconds and microseconds are left out
when there are none. -/
def quoted (moment : Moment) : String :=
  let fine :=
    if moment.microsecond ≠ 0 then [moment.second, moment.microsecond]
    else if moment.second ≠ 0 then [moment.second]
    else []
  let numbers :=
    [moment.date.year, moment.date.month, moment.date.day, moment.hour, moment.minute] ++ fine
  "datetime.datetime(" ++ String.intercalate ", " (numbers.map toString) ++
    ((moment.offset.map fun offset => ", tzinfo=" ++ quotedOffset offset).getD "") ++ ")"

end Moment
end PageContracts
