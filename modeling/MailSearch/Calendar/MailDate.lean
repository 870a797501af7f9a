import MailSearch.Calendar.Internet
import MailSearch.Calendar.LooseDate
import MailSearch.Mime.Fields
import MailSearch.Text.Occurrence

/-!
# Dates of mail headers

A header date is tried in the standard forms first, then, without its day of the
week and with zone names and hyphens rewritten, in a list of common patterns,
and last by the forgiving reader.  The first success is the answer.
-/

namespace MailSearch
namespace Calendar
namespace MailDate

/-- Drop a comment in parentheses from the end, and the blanks before it. -/
def dropComment (text : List Char) : List Char :=
  if text.getLast? = some ')' then
    match Text.cutLast '(' text with
    | some (before, _) => Text.trimBack before
    | none => text
  else text

/-- Drop the shortened day of the week from the front, together with its
comma. -/
def dropWeekday (text : List Char) : List Char :=
  let named := weekdayNames.findSome? fun name =>
    if name.toList.isPrefixOf text then
      let rest := text.drop 3
      if rest.head? = some ',' ∨ rest.head? = some ' ' then
        some (Text.trim (rest.dropWhile (· == ',')))
      else none
    else none
  named.getD text

/-- Write a date such as `16-JUL-2025` with blanks and the usual spelling of the
month. -/
def replaceHyphens (text : List Char) : List Char :=
  match Text.cutFirst '-' text with
  | none => text
  | some (day, rest) =>
      match Text.cutFirst '-' rest with
      | none => text
      | some (month, rest) =>
          let title := monthNames.find? fun name =>
            name.toList.map Char.toLower == month.map Char.toLower
          match title with
          | some title =>
              if day.all Char.isDigit then
                day ++ ' ' :: title.toList ++ ' ' :: rest else text
          | none => text

/-- The zones that are known by name, with their offsets, in the order in which
they are tried. -/
def namedZones : List (String × String) :=
  [("EST", "-0500"), ("EDT", "-0400"), ("CST", "-0600"), ("CDT", "-0500"),
    ("MST", "-0700"), ("MDT", "-0600"), ("PST", "-0800"), ("PDT", "-0700"),
    ("GMT", "+0000"), ("UTC", "+0000"),
    ("UT", "+0000"), ("CEST", "+0200"), ("CET", "+0100"), ("JST", "+0900")]

/-- Write a zone name at the end, behind a blank, as its offset. -/
def replaceZoneName (text : List Char) : List Char :=
  let replaced := namedZones.findSome? fun (name, offset) =>
    let before := text.take (text.length - name.length)
    if name.toList.isSuffixOf text && before.getLast? == some ' ' then
      some (before ++ offset.toList)
    else none
  replaced.getD text

/-- A time of day with seconds. -/
def clock : Pattern :=
  [.hour, .mark ':', .minute, .mark ':', .second]

/-- A time of day without seconds. -/
def shortClock : Pattern :=
  [.hour, .mark ':', .minute]

/-- Day, name of the month, and year. -/
def dayMonth (yearItem : PatternItem) : Pattern :=
  [.day, .blanks, .monthName, .blanks, yearItem, .blanks]

/-- Year, month and day as numbers with hyphens. -/
def numericDate : Pattern :=
  [.year, .mark '-', .month, .mark '-', .day]

/-- The patterns, in the order in which they are tried; short years come
first. -/
def patterns : List Pattern :=
  [dayMonth .shortYear ++ clock ++ [.blanks, .zone],
    dayMonth .shortYear ++ shortClock ++ [.blanks, .zone],
    dayMonth .year ++ clock ++ [.blanks, .zone],
    dayMonth .year ++ shortClock ++ [.blanks, .zone],
    dayMonth .year ++ clock,
    [.monthName, .blanks, .day, .blanks] ++ clock ++ [.blanks, .year],
    numericDate ++ [.mark 'T'] ++ clock ++ [.zone],
    numericDate ++ [.mark 'T'] ++ clock ++ [.mark 'Z'],
    numericDate ++ [.blanks] ++ clock ++ [.blanks, .zone],
    numericDate ++ [.blanks] ++ clock,
    [.day, .mark '/', .month, .mark '/', .year, .blanks] ++ clock]

/-- Read a text by one pattern; a time without a usable zone counts as Universal
Time. -/
def ofPattern? (text : List Char) (pattern : Pattern) : Option Instant :=
  match pattern.fields? text with
  | .error _ => none
  | .ok fields => fields.instant.toOption <|> fields.universal.toOption

/-- Read a text by the first pattern that fits. -/
def ofPatterns? (text : List Char) : Option Instant :=
  patterns.findSome? (ofPattern? text)

/--
Read a text as the value of a date field, loosely.  Further lines of the text
are fields of their own, and of several dates the last one counts.
-/
def ofField? (text : List Char) : Option Instant :=
  let block :=
    Text.Utf8.bytes "Date: " ++ Text.Utf8.encode text ++ Text.Utf8.bytes "\n\n"
  (Mime.Field.last? "date" (Mime.Field.readAll block).1).bind fun value =>
    LooseDate.read? (Text.Utf8.decodeLossy value)

/-- Read a date in the form of mail headers or any of its common variants. -/
def read? (text : List Char) : Option Instant :=
  let text := dropComment (Text.trim text)
  if text.isEmpty then none
  else
    let bare := dropWeekday text
    let spellings := [bare, replaceHyphens bare, replaceZoneName bare,
      replaceZoneName (replaceHyphens bare)]
    (ofMail text).toOption <|> (ofInternet text).toOption <|>
      spellings.findSome? ofPatterns? <|> ofField? text

/-- Read the date of a header. -/
def ofText? (text : String) : Option Instant :=
  read? text.toList

end MailDate
end Calendar
end MailSearch
