import MailSearch.Calendar.Civil

/-!
# Instants

A point in time is a count of seconds and a fraction of a second.  A leap second
belongs to the second before it and has a fraction of a whole second or more, so
instants are ordered by seconds first and fractions second.
-/

namespace MailSearch
namespace Calendar

/-- A point in time. -/
structure Instant where
  /-- The seconds since the start of 1970 in Universal Time, leap seconds left
  out. -/
  second : Int
  /-- The fraction in billionths; a whole second or more within a leap
  second. -/
  nano : Nat
  deriving DecidableEq, Repr

namespace Instant

/-- Whether one instant comes before another. -/
def before (left right : Instant) : Bool :=
  left.second < right.second || (left.second == right.second && left.nano <
    right.nano)

/-- The order in time. -/
def compare (left right : Instant) : Ordering :=
  (Ord.compare left.second right.second).then (Ord.compare left.nano right.nano)

/-- The same instant read as the local time at an offset in seconds east of
Universal Time. -/
def shift (instant : Instant) (offset : Int) : Instant :=
  { instant with second := instant.second + offset }

/-- The civil date of the day in which the instant lies. -/
def date (instant : Instant) : Date :=
  Date.ofNumber (instant.second / 86400)

/-- The second of the day. -/
def secondOfDay (instant : Instant) : Nat :=
  (instant.second % 86400).toNat

/-- The hour of the day. -/
def hour (instant : Instant) : Nat :=
  instant.secondOfDay / 3600

/-- The minute of the hour. -/
def minute (instant : Instant) : Nat :=
  instant.secondOfDay / 60 % 60

/-- The second of the minute, 60 within a leap second. -/
def clockSecond (instant : Instant) : Nat :=
  instant.secondOfDay % 60 + instant.nano / 1000000000

end Instant

/-- A number with zeros in front of it up to a least number of digits. -/
def padded (least value : Nat) : List Char :=
  let digits := Nat.toDigits 10 value
  List.replicate (least - digits.length) '0' ++ digits

/-- A year: four digits, or a sign and at least four digits outside the years 0
to 9999. -/
def yearText (year : Int) : List Char :=
  if 0 ≤ year ∧ year ≤ 9999 then padded 4 year.toNat
  else (if year < 0 then '-' else '+') :: padded 4 year.natAbs

/-- An offset as sign, hours and minutes, with an optional separator between
them. -/
def offsetText (separator : List Char) (offset : Int) : List Char :=
  let minutes := offset.natAbs / 60
  (if offset < 0 then '-' else '+') ::
    padded 2 (minutes / 60) ++ separator ++ padded 2 (minutes % 60)

namespace Instant

/-- The date in the form `2024-01-04`. -/
def dateText (instant : Instant) : List Char :=
  let date := instant.date
  yearText date.year ++ '-' :: padded 2 date.month ++ '-' :: padded 2 date.day

/-- The hour and the minute in the form `10:00`. -/
def clockText (instant : Instant) : List Char :=
  padded 2 instant.hour ++ ':' :: padded 2 instant.minute

/-- The date and the time to the second in the form `2024-01-04T10:00:00`. -/
def dateTimeText (instant : Instant) : List Char :=
  instant.dateText ++ 'T' :: instant.clockText ++ ':' ::
    padded 2 instant.clockSecond

/-- The RFC 3339 form in Universal Time with nine fractional digits. -/
def internetText (instant : Instant) : List Char :=
  instant.dateTimeText ++ '.' :: padded 9 (instant.nano % 1000000000) ++ ['Z']

/-- The RFC 3339 form with nine fractional digits at an offset in seconds. -/
def internetTextAt (offset : Int) (instant : Instant) : List Char :=
  if offset = 0 then instant.internetText
  else
    let here := instant.shift offset
    here.dateTimeText ++ '.' :: padded 9 (here.nano % 1000000000) ++
      offsetText [':'] offset

/-- The RFC 2822 form at an offset in seconds, such as `Thu, 04 Jan 2024
10:00:00 +0000`. -/
def mailTextAt (offset : Int) (instant : Instant) : List Char :=
  let here := instant.shift offset
  let date := here.date
  ((weekdayNames[date.weekday]?).getD "").toList ++ [',', ' '] ++
    padded 2 date.day ++ ' ' ::
      ((monthNames[date.month - 1]?).getD "").toList ++
    ' ' :: yearText date.year ++ ' ' :: here.clockText ++ ':' ::
      padded 2 here.clockSecond ++
    ' ' :: offsetText [] offset

/-- The RFC 3339 form in Universal Time to the second. -/
def wholeSecondText (instant : Instant) : String :=
  String.ofList (instant.dateTimeText ++ ['Z'])

end Instant

/-- The instants that lie in a year that the calendar of messages covers. -/
def firstYear : Int := -262143

/-- The last year that the calendar of messages covers. -/
def lastYear : Int := 262142

end Calendar
end MailSearch
