import MailSearch.Calendar.Scan

/-!
# From the parts of a date to an instant

Whatever its written form, a date is read into parts, of which some may be
missing.  Every part is checked against its own range when it is read; the parts
are checked against each other, and turned into an instant, at the end.
-/

namespace MailSearch
namespace Calendar

/-- The parts of a date and a time of day, as far as they were written. -/
structure Fields where
  /-- The full year. -/
  year : Option Int
  /-- The last two digits of the year, where only they were written. -/
  shortYear : Option Nat
  /-- The month. -/
  month : Option Nat
  /-- The day of the month. -/
  day : Option Nat
  /-- The day of the week, from Monday as zero. -/
  weekday : Option Nat
  /-- The hour. -/
  hour : Option Nat
  /-- The minute. -/
  minute : Option Nat
  /-- The second, 60 for a leap second. -/
  second : Option Nat
  /-- The fraction of the second in billionths. -/
  nano : Option Nat
  /-- The zone in seconds east of Universal Time. -/
  offset : Option Int

namespace Fields

/-- No part at all. -/
def none : Fields :=
  ⟨.none, .none, .none, .none, .none, .none, .none, .none, .none, .none⟩

/-- Note the full year. -/
def setYear (year : Int) (fields : Fields) : Except DateError Fields :=
  if -0x80000000 ≤ year ∧ year < 0x80000000 then
    .ok { fields with year := some year }
  else .error .outOfRange

/-- Note the last two digits of the year. -/
def setShortYear (year : Nat) (fields : Fields) : Except DateError Fields :=
  if year < 100 then .ok { fields with shortYear := some year }
    else .error .outOfRange

/-- Note the month. -/
def setMonth (month : Nat) (fields : Fields) : Except DateError Fields :=
  if 1 ≤ month ∧ month ≤ 12 then .ok { fields with month := some month }
  else .error .outOfRange

/-- Note the day of the month. -/
def setDay (day : Nat) (fields : Fields) : Except DateError Fields :=
  if 1 ≤ day ∧ day ≤ 31 then .ok { fields with day := some day }
    else .error .outOfRange

/-- Note the hour. -/
def setHour (hour : Nat) (fields : Fields) : Except DateError Fields :=
  if hour < 24 then .ok { fields with hour := some hour }
    else .error .outOfRange

/-- Note the minute. -/
def setMinute (minute : Nat) (fields : Fields) : Except DateError Fields :=
  if minute < 60 then .ok { fields with minute := some minute }
    else .error .outOfRange

/-- Note the second. -/
def setSecond (second : Nat) (fields : Fields) : Except DateError Fields :=
  if second ≤ 60 then .ok { fields with second := some second }
    else .error .outOfRange

/-- A year of which only the last two digits are known lies between 1970 and
2069. -/
def pivotYear (year : Nat) : Int :=
  if year < 70 then 2000 + (year : Int) else 1900 + (year : Int)

/-- The date that the parts denote. -/
def date (fields : Fields) : Except DateError Date :=
  match fields.year <|> fields.shortYear.map pivotYear, fields.month,
    fields.day with
  | some year, some month, some day =>
      let date : Date := ⟨year, month, day⟩
      if !(firstYear ≤ year && year ≤ lastYear && date.isValid) then
        .error .outOfRange
      else
        match fields.weekday with
        | some weekday =>
            if date.weekday = weekday then .ok date else .error .impossible
        | .none => .ok date
  | _, _, _ => .error .notEnough

/-- The second of the day and the fraction that the parts denote. -/
def time (fields : Fields) : Except DateError (Nat × Nat) :=
  match fields.hour, fields.minute with
  | some hour, some minute =>
      let second := fields.second.getD 0
      let leap := if second = 60 then 1000000000 else 0
      .ok (hour * 3600 + minute * 60 + min second 59, leap + fields.nano.getD 0)
  | _, _ => .error .notEnough

/-- The instant that the parts denote as a local time at an offset. -/
def instantAt (offset : Int) (fields : Fields) : Except DateError Instant := do
  let date ← fields.date
  let (second, nano) ← fields.time
  return ⟨date.number * 86400 + second - offset, nano⟩

/-- The instant that the parts denote in Universal Time, whatever zone was
written. -/
def universal (fields : Fields) : Except DateError Instant :=
  fields.instantAt 0

/-- The instant that the parts denote in the zone that was written, less than a
day away. -/
def instant (fields : Fields) : Except DateError Instant :=
  match fields.offset with
  | .none => .error .notEnough
  | some offset => do
      let here ← fields.instantAt 0
      if 86400 ≤ offset.natAbs then .error .outOfRange
      else
        let instant := here.shift (-offset)
        let year := instant.date.year
        if firstYear ≤ year ∧ year ≤ lastYear then .ok instant
          else .error .impossible

end Fields
end Calendar
end MailSearch
