import MailSearch.Calendar.Fields

/-!
# Date patterns

A pattern is a list of items, each of which reads one part of a date.  Numbers
may have fewer digits than usual and blanks before them, and a blank in a
pattern stands for any number of blanks in the text, also none.
-/

namespace MailSearch
namespace Calendar

/-- One item of a pattern. -/
inductive PatternItem where
  /-- Blanks, also none. -/
  | blanks
  /-- A given character. -/
  | mark (c : Char)
  /-- A year with sign, or of up to four digits. -/
  | year
  /-- The last two digits of a year. -/
  | shortYear
  /-- A month as a number. -/
  | month
  /-- The shortened name of a month. -/
  | monthName
  /-- A day of the month. -/
  | day
  /-- An hour. -/
  | hour
  /-- A minute. -/
  | minute
  /-- A second. -/
  | second
  /-- A fraction of a second with its point, or nothing. -/
  | fraction
  /-- A numeric zone. -/
  | zone

/-- A list of items that a text has to match from its front. -/
abbrev Pattern := List PatternItem

/-- The zones that patterns read: hours, any colons and blanks, minutes. -/
def patternZone : Scan.ZoneStyle :=
  ⟨Scan.colonsAndBlanks, false, true⟩

namespace PatternItem

/-- Read a number of at most `most` digits, and blanks before it. -/
def readNumber (most : Nat) : Scan Nat := do
  Scan.skipBlanks
  Scan.number 1 (some most)

/-- Read a year. -/
def readYear : Scan Int := do
  Scan.skipBlanks
  match ← Scan.rest with
  | '-' :: rest => do
      Scan.goOn rest
      return -(← Scan.number 1 none : Nat)
  | '+' :: rest => do
      Scan.goOn rest
      return (← Scan.number 1 none : Nat)
  | _ => return (← Scan.number 1 (some 4) : Nat)

/-- Read what the item stands for and note it among the parts. -/
def read (fields : Fields) : PatternItem -> Scan Fields
  | .blanks => do
      Scan.skipBlanks
      return fields
  | .mark c => do
      Scan.exactly c
      return fields
  | .year => do fields.setYear (← readYear)
  | .shortYear => do fields.setShortYear (← readNumber 2)
  | .month => do fields.setMonth (← readNumber 2)
  | .monthName => do fields.setMonth ((← Scan.name monthNames) + 1)
  | .day => do fields.setDay (← readNumber 2)
  | .hour => do fields.setHour (← readNumber 2)
  | .minute => do fields.setMinute (← readNumber 2)
  | .second => do fields.setSecond (← readNumber 2)
  | .fraction => do
      match ← Scan.rest with
      | '.' :: rest => do
          Scan.goOn rest
          return { fields with nano := some (← Scan.fraction) }
      | _ => return fields
  | .zone => do
      Scan.skipBlanks
      return { fields with offset := some (← Scan.zone patternZone) }

end PatternItem

namespace Pattern

/-- Read a pattern from the front of a text. -/
def read (pattern : Pattern) (fields : Fields) : Scan Fields :=
  pattern.foldlM PatternItem.read fields

/-- Read a text that matches the pattern as a whole. -/
def fields? (pattern : Pattern) (text : List Char) : Except DateError Fields :=
  match read pattern Fields.none text with
  | .error error => .error error
  | .ok (fields, []) => .ok fields
  | .ok (_, _ :: _) => .error .tooLong

end Pattern
end Calendar
end MailSearch
