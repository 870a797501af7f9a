import MailSearch.Calendar.Civil
import MailSearch.Text.Hex
import MailSearch.Toml.Value

/-!
# Unquoted values in TOML

Truth values, numbers and dates are read from the run of characters up to the
next mark that cannot belong to them.  Digits may be set apart by single
underscores, and whole numbers must fit into 64 bits with a sign.
-/

namespace MailSearch
namespace Toml

/-! ## Numbers -/

/-- The digits of a number without the underscores between them. -/
def digits? (isDigit : Char -> Bool) : List Char -> Option (List Char)
  | [] => none
  | [c] => if isDigit c then some [c] else none
  | c :: '_' :: rest =>
      if isDigit c then (digits? isDigit rest).map (c :: ·) else none
  | c :: rest => if isDigit c then (digits? isDigit rest).map (c :: ·) else none

/-- The number that digits denote in a base. -/
def valueOf (base : Nat) (digits : List Char) : Nat :=
  digits.foldl (fun value c => value * base + (Text.hexDigit? c).getD 0) 0

/-- The whole number in the range of integers that digits in a base denote. -/
def based? (base : Nat) (isDigit : Char -> Bool) (text : List Char) :
    Option Int := do
  let digits ← digits? isDigit text
  let value : Int := valueOf base digits
  if isInteger value then some value else none

/-- Whether a text is a sign and the rest, and whether the sign is a minus. -/
def cutSign : List Char -> Bool × List Char
  | '-' :: rest => (true, rest)
  | '+' :: rest => (false, rest)
  | text => (false, text)

/-- The digits of a decimal whole number, which starts with a zero only if it is
zero. -/
def wholeDigits? (text : List Char) : Option (List Char) := do
  let digits ← digits? Char.isDigit text
  if digits.head? = some '0' ∧ text ≠ ['0'] then none else some digits

/-- The whole number that a text denotes. -/
def integer? (text : List Char) : Option Int :=
  match text with
  | '0' :: 'x' :: rest => based? 16 (fun c => (Text.hexDigit? c).isSome) rest
  | '0' :: 'o' :: rest => based? 8 (fun c => '0' ≤ c && c ≤ '7') rest
  | '0' :: 'b' :: rest => based? 2 (fun c => c = '0' || c = '1') rest
  | _ => do
      let (negative, rest) := cutSign text
      let value : Int := valueOf 10 (← wholeDigits? rest)
      let value := if negative then -value else value
      if isInteger value then some value else none

/-- Cut a text at the first character of a class; `none` if there is none. -/
def cutAt (isMark : Char -> Bool) (text : List Char) :
    Option (List Char × List Char) :=
  match text.dropWhile (fun c => !isMark c) with
  | [] => none
  | _ :: rest => some (text.takeWhile (fun c => !isMark c), rest)

/-- The signed power of ten that a text denotes. -/
def power? (text : List Char) : Option Int := do
  let (negative, rest) := cutSign text
  let value : Int := valueOf 10 (← digits? Char.isDigit rest)
  return if negative then -value else value

/-- A number in decimal notation: the digits, and the power of ten that they
count. -/
structure Decimal where
  /-- The digits of the whole part and of the fraction. -/
  digits : List Char
  /-- The power of ten. -/
  exponent : Int

/-- The decimal number that a text without sign denotes; it has a fraction or a
power of ten. -/
def decimal? (text : List Char) : Option Decimal := do
  let (mantissa, power) ←
    match cutAt (fun c => c = 'e' || c = 'E') text with
    | none => some (text, none)
    | some (mantissa, power) =>
        (power? power).map fun power => (mantissa, some power)
  match cutAt (· = '.') mantissa with
  | some (whole, fraction) => do
      let whole ← wholeDigits? whole
      let fraction ← digits? Char.isDigit fraction
      return ⟨whole ++ fraction, power.getD 0 - fraction.length⟩
  | none => do
      let whole ← wholeDigits? mantissa
      return ⟨whole, ← power⟩

/--
Whether a number is so great that the nearest floating-point number is infinite:
from half a unit above the greatest finite one.
-/
def Decimal.isInfinite (number : Decimal) : Bool :=
  let digits := number.digits.dropWhile (· = '0')
  let places := digits.length + number.exponent
  if digits.isEmpty || places < 309 then false
  else if 309 < places then true
  else
    let value := valueOf 10 digits
    let bound := Nat.pow 2 1024 - Nat.pow 2 970
    if number.exponent < 0 then
      bound * Nat.pow 10 number.exponent.natAbs ≤ value
    else bound ≤ value * Nat.pow 10 number.exponent.toNat

/-- Whether a text is a floating-point number. -/
def isReal (text : List Char) : Bool :=
  let (negative, rest) := cutSign text
  if rest = ['i', 'n', 'f'] ∨ rest = ['n', 'a', 'n'] then true
  else
    match decimal? rest with
    | none => false
    | some number => negative || !number.isInfinite

/-! ## Dates -/

/-- The number that exactly two digits denote. -/
def twoDigits? : List Char -> Option Nat
  | [a, b] => if a.isDigit && b.isDigit then some (valueOf 10 [a, b]) else none
  | _ => none

/-- Whether a text is a day in the form `1979-05-27`. -/
def isDay (text : List Char) : Bool :=
  match text with
  | [a, b, c, d, '-', e, f, '-', g, h] =>
      match twoDigits? [e, f], twoDigits? [g, h] with
      | some month, some day =>
          [a, b, c, d].all Char.isDigit &&
            1 ≤ month && month ≤ 12 && 1 ≤ day &&
            day ≤ Calendar.daysInMonth (valueOf 10 [a, b, c, d]) month
      | _, _ => false
  | _ => false

/-- Whether a text is empty or a point and digits. -/
def isFraction : List Char -> Bool
  | [] => true
  | '.' :: rest => !rest.isEmpty && rest.all Char.isDigit
  | _ => false

/-- Whether a text is a time of day in the form `07:32:00`, with or without a
fraction. -/
def isClock (text : List Char) : Bool :=
  match text with
  | a :: b :: ':' :: c :: d :: ':' :: e :: f :: rest =>
      match twoDigits? [a, b], twoDigits? [c, d], twoDigits? [e, f] with
      | some hour, some minute, some second =>
          hour ≤ 23 && minute ≤ 59 && second ≤ 60 && isFraction rest
      | _, _, _ => false
  | _ => false

/-- Whether a text is a signed offset in the form `07:00`. -/
def isOffset (text : List Char) : Bool :=
  match text with
  | [a, b, ':', c, d] =>
      match twoDigits? [a, b], twoDigits? [c, d] with
      | some hour, some minute => hour ≤ 23 && minute ≤ 59
      | _, _ => false
  | _ => false

/-- Whether a text is a time of day with or without an offset. -/
def isClockWithZone (text : List Char) : Bool :=
  let clock := text.takeWhile fun c => c.isDigit || c = ':' || c = '.'
  match text.drop clock.length with
  | [] => isClock clock
  | ['Z'] => isClock clock
  | ['z'] => isClock clock
  | '+' :: offset => isClock clock && isOffset offset
  | '-' :: offset => isClock clock && isOffset offset
  | _ => false

/-- Whether a text is a day, a time of day, or both with a letter between
them. -/
def isDate (text : List Char) : Bool :=
  match text.drop 10 with
  | [] => isDay text || isClock text
  | mark :: clock =>
      isClock text ||
        (isDay (text.take 10) && (mark = 'T' || mark = 't') &&
          isClockWithZone clock)

/-! ## Reading -/

/-- Whether a character may belong to an unquoted value. -/
def isScalarChar (c : Char) : Bool :=
  c.isAlphanum || c = '+' || c = '-' || c = '_' || c = '.' || c = ':'

/-- The value that a run of characters denotes. -/
def scalar? (run : List Char) : Option Toml :=
  if run = ['t', 'r', 'u', 'e'] then some (.boolean true)
  else if run = ['f', 'a', 'l', 's', 'e'] then some (.boolean false)
  else if isDate run then some (.date run)
  else if isReal run then some (.real run)
  else (integer? run).map .integer

/-- Read an unquoted value; a blank may stand between a day and a time of
day. -/
def readScalar (text : List Char) : Option (Toml × List Char) := do
  let run := text.takeWhile isScalarChar
  let rest := text.drop run.length
  match rest with
  | ' ' :: behind =>
      let clock := behind.takeWhile isScalarChar
      if isDay run && !clock.isEmpty then
        if isClockWithZone clock then
          return (.date (run ++ ' ' :: clock), behind.drop clock.length)
        else none
      else return (← scalar? run, rest)
  | _ => return (← scalar? run, rest)

end Toml
end MailSearch
