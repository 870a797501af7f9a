import MailSearch.Calendar.Pattern

/-!
# Standard forms of a date

RFC 3339 in the strict form in which filters take it, a relaxed form of it in
which stored messages are dated, and RFC 2822 with its obsolete years and zones.
-/

namespace MailSearch
namespace Calendar

/-- Read the whole of a text. -/
def scanAll (scan : Scan Fields) (text : List Char) :
    Except DateError Instant := do
  let (fields, rest) ← scan text
  if rest.isEmpty then fields.instant else .error .tooLong

/-! ## RFC 3339 -/

/-- Skip the letter T or a blank between date and time. -/
def dateTimeSeparator : Scan Unit := do
  match ← Scan.rest with
  | [] => Scan.fail .tooShort
  | c :: rest =>
      if c = 't' ∨ c = 'T' ∨ c = ' ' then Scan.goOn rest else Scan.fail .invalid

/-- The zones of RFC 3339. -/
def strictZone : Scan.ZoneStyle :=
  ⟨Scan.exactly ':', true, true⟩

/-- Scan the date of the strict form, in which every number has its full
width. -/
def scanStrictDate : Scan Fields := do
  let fields ← Fields.none.setYear (← Scan.number 4 (some 4) : Nat)
  Scan.exactly '-'
  let fields ← fields.setMonth (← Scan.number 2 (some 2))
  Scan.exactly '-'
  fields.setDay (← Scan.number 2 (some 2))

/-- Scan the time of day of the strict form. -/
def scanStrictTime (fields : Fields) : Scan Fields := do
  let fields ← fields.setHour (← Scan.number 2 (some 2))
  Scan.exactly ':'
  let fields ← fields.setMinute (← Scan.number 2 (some 2))
  Scan.exactly ':'
  let fields ← fields.setSecond (← Scan.number 2 (some 2))
  PatternItem.read fields .fraction

/-- Scan the strict form. -/
def scanStrict : Scan Fields := do
  let fields ← scanStrictDate
  dateTimeSeparator
  let fields ← scanStrictTime fields
  let offset ← Scan.zone strictZone
  if 86400 ≤ offset.natAbs then Scan.fail .outOfRange
  else return { fields with offset := some offset }

/-- Read the strict form of RFC 3339. -/
def ofInternet (text : List Char) : Except DateError Instant :=
  scanAll scanStrict text

/-- The date of the relaxed form. -/
def relaxedDate : Pattern :=
  [.year, .blanks, .mark '-', .month, .blanks, .mark '-', .day]

/-- The time of the relaxed form. -/
def relaxedTime : Pattern :=
  [.hour, .blanks, .mark ':', .minute, .blanks, .mark ':', .second,
    .fraction, .blanks]

/-- Scan the relaxed form: short numbers, blanks between the parts, the zone
UTC. -/
def scanRelaxed : Scan Fields := do
  let fields ← relaxedDate.read Fields.none
  dateTimeSeparator
  let fields ← relaxedTime.read fields
  Scan.skipBlanks
  let text ← Scan.rest
  let offset ←
    if (text.take 3).map Char.toLower = ['u', 't', 'c'] then do
      Scan.goOn (text.drop 3)
      pure 0
    else Scan.zone ⟨Scan.colonsAndBlanks, true, true⟩
  Scan.skipBlanks
  return { fields with offset := some offset }

/-- Read the relaxed form of RFC 3339. -/
def ofRelaxed (text : List Char) : Except DateError Instant :=
  scanAll scanRelaxed text

/-! ## RFC 2822 -/

/-- A year of two digits lies between 1950 and 2049, one of three counts from
1900. -/
def mailYear (digits year : Nat) : Nat :=
  if digits = 2 then (if year < 50 then 2000 + year else 1900 + year)
  else if digits = 3 then 1900 + year
  else year

/-- Scan the day of the week and its comma, if a day of the week stands
there. -/
def scanWeekday : Scan (Option Nat) := fun text =>
  match Scan.name weekdayNames text with
  | .error _ => .ok (none, text)
  | .ok (weekday, rest) =>
      (Scan.exactly ',' rest).map fun (_, rest) => (some weekday, rest)

/-- Scan a colon between blanks and the seconds, if a colon stands there. -/
def scanSeconds (fields : Fields) : Scan Fields := do
  match Text.trimFront (← Scan.rest) with
  | ':' :: rest => do
      Scan.goOn rest
      fields.setSecond (← Scan.number 2 (some 2))
  | _ => return fields

/-- Scan the form of mail headers. -/
def scanMail : Scan Fields := do
  Scan.skipBlanks
  let weekday ← scanWeekday
  Scan.skipBlanks
  let fields ← { Fields.none with weekday := weekday }.setDay
    (← Scan.number 1 (some 2))
  Scan.blanks
  let fields ← fields.setMonth ((← Scan.name monthNames) + 1)
  Scan.blanks
  let before ← Scan.rest
  let year ← Scan.number 2 none
  let after ← Scan.rest
  let fields ← fields.setYear (mailYear (before.length - after.length) year)
  Scan.blanks
  let fields ← fields.setHour (← Scan.number 2 (some 2))
  Scan.skipBlanks
  Scan.exactly ':'
  Scan.skipBlanks
  let fields ← fields.setMinute (← Scan.number 2 (some 2))
  let fields ← scanSeconds fields
  Scan.blanks
  let offset ← Scan.mailZone
  Scan.goOn (Scan.dropComments (← Scan.rest))
  return { fields with offset := some offset }

/-- Read the form of mail headers. -/
def ofMail (text : List Char) : Except DateError Instant :=
  scanAll scanMail text

end Calendar
end MailSearch
