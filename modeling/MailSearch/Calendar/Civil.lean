/-!
# Civil dates

Days of the Gregorian calendar, extended to all years before and after, and
their numbers.  Day 0 is the first of January 1970; `yearStart` and
`monthStart` count the days before a year and within it.
-/

namespace MailSearch
namespace Calendar

/-- Whether a year has 366 days. -/
def isLeap (year : Int) : Bool :=
  year % 4 == 0 && (year % 100 != 0 || year % 400 == 0)

/-- The number of days of a month, zero for a number that is no month. -/
def daysInMonth (year : Int) (month : Nat) : Nat :=
  match month with
  | 1 | 3 | 5 | 7 | 8 | 10 | 12 => 31
  | 4 | 6 | 9 | 11 => 30
  | 2 => if isLeap year then 29 else 28
  | _ => 0

/-- The number of the first day of a year. -/
def yearStart (year : Int) : Int :=
  let before := year - 1
  365 * before + before / 4 - before / 100 + before / 400 - 719162

/-- The number of days of a year before a month. -/
def monthStart (year : Int) (month : Nat) : Nat :=
  ((List.range (month - 1)).map fun index =>
    daysInMonth year (index + 1)).foldl (· + ·) 0

/-- A day of a month of a year. -/
structure Date where
  /-- The year; year zero precedes year one. -/
  year : Int
  /-- The month, counted from one. -/
  month : Nat
  /-- The day of the month, counted from one. -/
  day : Nat
  deriving DecidableEq, Repr

namespace Date

/-- Whether the month and the day exist. -/
def isValid (date : Date) : Bool :=
  1 ≤ date.day && date.day ≤ daysInMonth date.year date.month

/-- The number of a day. -/
def number (date : Date) : Int :=
  yearStart date.year + monthStart date.year date.month + (date.day : Int) - 1

/-- The year in which a day lies, found among the 400 years of its calendar
cycle. -/
def yearOf (number : Int) : Int :=
  let cycle := (number - yearStart 1) / 146097
  let first := 400 * cycle + 1
  let later := (List.range 399).countP fun (index : Nat) =>
    yearStart (first + index + 1) ≤ number
  first + (later : Int)

/-- The month of a year in which its day with an index, counted from zero,
lies. -/
def monthOf (year : Int) (index : Nat) : Nat :=
  1 + (List.range 11).countP fun earlier =>
    monthStart year (earlier + 2) ≤ index

/-- The day with a number. -/
def ofNumber (number : Int) : Date :=
  let year := yearOf number
  let index := (number - yearStart year).toNat
  let month := monthOf year index
  ⟨year, month, index - monthStart year month + 1⟩

/-- The day of the week, counted from Monday as zero. -/
def weekday (date : Date) : Nat :=
  ((date.number + 3) % 7).toNat

end Date

/-- The names of the days of the week in English, shortened, from Monday on. -/
def weekdayNames : List String :=
  ["Mon", "Tue", "Wed", "Thu", "Fri", "Sat", "Sun"]

/-- The names of the months in English, shortened. -/
def monthNames : List String :=
  ["Jan", "Feb", "Mar", "Apr", "May", "Jun", "Jul", "Aug", "Sep", "Oct",
    "Nov", "Dec"]

end Calendar
end MailSearch
