import MailSearch.Calendar.Instant
import MailSearch.Text.Blank
import MailSearch.Text.LetterCase
import MailSearch.Text.Utf8

/-!
# Scanning dates

The pieces from which all written forms of a date are made: numbers, names,
blanks, zones.  A scanner takes what it reads from the front of the text, or
says what is wrong there.
-/

namespace MailSearch
namespace Calendar

/-- Why a text is no date. -/
inductive DateError where
  /-- A part lies outside its range. -/
  | outOfRange
  /-- The parts contradict each other. -/
  | impossible
  /-- A part is missing. -/
  | notEnough
  /-- A character does not fit. -/
  | invalid
  /-- The text ends too early. -/
  | tooShort
  /-- Something follows the date. -/
  | tooLong
  deriving DecidableEq, Repr

/-- The wording of an error. -/
def DateError.message : DateError -> String
  | .outOfRange => "input is out of range"
  | .impossible => "no possible date and time matching input"
  | .notEnough => "input is not enough for unique date and time"
  | .invalid => "input contains invalid characters"
  | .tooShort => "premature end of input"
  | .tooLong => "trailing input"

/-- A scanner of texts that reads an `α` from the front. -/
abbrev Scan (α : Type) := StateT (List Char) (Except DateError) α

namespace Scan

/-- Fail. -/
def fail {α : Type} (error : DateError) : Scan α :=
  fun _ => .error error

/-- The text that is left. -/
def rest : Scan (List Char) :=
  fun text => .ok (text, text)

/-- Go on with another text. -/
def goOn (text : List Char) : Scan Unit :=
  fun _ => .ok ((), text)

/-- Skip the blanks at the front, if any. -/
def skipBlanks : Scan Unit :=
  fun text => .ok ((), Text.trimFront text)

/-- Skip at least one blank. -/
def blanks : Scan Unit := fun text =>
  match text with
  | [] => .error .tooShort
  | c :: _ =>
      if Text.isBlank c then .ok ((), Text.trimFront text) else .error .invalid

/-- Skip one given character. -/
def exactly (expected : Char) : Scan Unit := fun text =>
  match text with
  | [] => .error .tooShort
  | c :: rest => if c = expected then .ok ((), rest) else .error .invalid

/-- The value of a run of digits. -/
def digitsValue (digits : List Char) : Nat :=
  digits.foldl (fun value c => value * 10 + (c.toNat - '0'.toNat)) 0

/-- Read a number of at least `least` and, if there is a bound, at most `most`
digits. -/
def number (least : Nat) (most : Option Nat) : Scan Nat := fun text =>
  let reach := match most with
    | some most => text.take most
    | none => text
  let digits := reach.takeWhile Char.isDigit
  if Text.Utf8.size text < least then .error .tooShort
  else if digits.length < least then .error .invalid
  else if 0x8000000000000000 ≤ digitsValue digits then .error .outOfRange
  else .ok (digitsValue digits, text.drop digits.length)

/-- Read one of some names of three letters in any letter case; the answer is
its place. -/
def name (names : List String) : Scan Nat := fun text =>
  if Text.Utf8.size text < 3 then .error .tooShort
  else
    let start := (text.take 3).map Char.toLower
    match names.findIdx? fun name => name.toList.map Char.toLower == start with
    | some index => .ok (index, text.drop 3)
    | none => .error .invalid

/-- Read the fraction of a second behind its point, in billionths; later digits
are dropped. -/
def fraction : Scan Nat := fun text =>
  match number 1 (some 9) text with
  | .error error => .error error
  | .ok (value, after) =>
      .ok (value * Nat.pow 10 (9 - (text.length - after.length)),
        after.dropWhile Char.isDigit)

/-- Which spellings of a zone are accepted. -/
structure ZoneStyle where
  /-- What stands between hours and minutes. -/
  separator : Scan Unit
  /-- Whether the letter Z stands for Universal Time. -/
  letterZ : Bool
  /-- Whether the minus sign of typography is a sign. -/
  typographicMinus : Bool

/-- Any run of colons and blanks, also none. -/
def colonsAndBlanks : Scan Unit :=
  fun text => .ok ((), text.dropWhile fun c => c == ':' || Text.isBlank c)

/-- Read two digits. -/
def twoDigits : Scan (Nat × Nat) := fun text =>
  match text with
  | first :: second :: rest =>
      if first.isDigit && second.isDigit then
        .ok ((first.toNat - '0'.toNat, second.toNat - '0'.toNat), rest)
      else .error .invalid
  | _ => if Text.Utf8.size text < 2 then .error .tooShort else .error .invalid

/-- Read the sign of a numeric zone; the answer is whether it is a minus
sign. -/
def zoneSign (typographicMinus : Bool) : Scan Bool := fun text =>
  match text with
  | [] => .error .tooShort
  | c :: rest =>
      if c = '+' then .ok (false, rest)
      else if c = '-' ∨ c = '−' ∧ typographicMinus then .ok (true, rest)
      else .error .invalid

/-- Read the minutes of a numeric zone. -/
def zoneMinutes : Scan Nat := do
  let (tens, ones) ← twoDigits
  if tens ≤ 5 then return tens * 10 + ones else fail .outOfRange

/-- Read sign, hours and minutes of a zone; the answer is in seconds east of
Universal Time. -/
def numericZone (style : ZoneStyle) : Scan Int := do
  let negative ← zoneSign style.typographicMinus
  let (tens, ones) ← twoDigits
  style.separator
  let minutes ← zoneMinutes
  let seconds : Int := (tens * 10 + ones : Nat) * 3600 + minutes * 60
  return if negative then -seconds else seconds

/-- Read a zone; the answer is in seconds east of Universal Time. -/
def zone (style : ZoneStyle) : Scan Int := do
  match ← rest with
  | [] => fail .tooShort
  | c :: afterLetter =>
      if style.letterZ && (c == 'Z' || c == 'z') then
        goOn afterLetter
        return 0
      else numericZone style

/-- The zones of mail that have a name, with their hours east of Universal
Time. -/
def mailZones : List (String × Int) :=
  [("gmt", 0), ("ut", 0), ("z", 0), ("edt", -4), ("est", -5), ("cdt", -5),
    ("cst", -6), ("mdt", -6), ("mst", -7), ("pdt", -7), ("pst", -8)]

/--
Read the zone of a mail date: a known name in any letter case, a single letter
other than J, which says nothing, or hours and minutes without a separator.
-/
def mailZone : Scan Int := do
  let text ← rest
  let letters := text.takeWhile Char.isAlpha
  if letters.isEmpty then
    zone ⟨pure (), false, false⟩
  else
    let small := String.ofList (letters.map Char.toLower)
    match mailZones.lookup small with
    | some hours =>
        goOn (text.drop letters.length)
        return hours * 3600
    | none =>
        if letters.length = 1 ∧ small ≠ "j" then
          goOn (text.drop 1)
          return 0
        else fail .invalid

/-- What follows a comment whose text, behind `depth` open parentheses, is
given. -/
def afterComment : Nat -> List Char -> Option (List Char)
  | _, [] => none
  | depth, '\\' :: _ :: rest => afterComment depth rest
  | depth, '(' :: rest => afterComment (depth + 1) rest
  | depth, ')' :: rest =>
      if depth = 1 then some rest else afterComment (depth - 1) rest
  | depth, _ :: rest => afterComment depth rest

theorem length_afterComment {depth : Nat} {text rest : List Char}
    (found : afterComment depth text = some rest) :
      rest.length < text.length := by
  fun_induction afterComment depth text with
  | case1 => simp at found
  | case2 depth c tail ih =>
      have := ih found
      simp only [List.length_cons]
      omega
  | case3 depth tail ih =>
      have := ih found
      simp only [List.length_cons]
      omega
  | case4 tail =>
      simp only [Option.some.injEq] at found
      simp [found]
  | case5 depth tail _ ih =>
      have := ih found
      simp only [List.length_cons]
      omega
  | case6 depth c tail _ _ _ ih =>
      have := ih found
      simp only [List.length_cons]
      omega

/-- What follows all comments in parentheses at the front, blanks before each of
them included. -/
def dropComments (text : List Char) : List Char :=
  match _trimmed : Text.trimFront text with
  | '(' :: inside =>
      match _found : afterComment 1 inside with
      | some rest => dropComments rest
      | none => text
  | _ => text
termination_by text.length
decreasing_by
  have shorter := length_afterComment _found
  have trimmed := (List.dropWhile_sublist Text.isBlank (l := text)).length_le
  have : Text.trimFront text = text.dropWhile Text.isBlank := rfl
  rw [← this, _trimmed] at trimmed
  simp only [List.length_cons] at trimmed
  omega

end Scan
end Calendar
end MailSearch
