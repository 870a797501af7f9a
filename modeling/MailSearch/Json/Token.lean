import MailSearch.Json.Value
import MailSearch.Text.Hex

/-!
# JSON tokens

The lexical level of JSON: punctuation, words, numbers and quoted texts.  A
whole number outside the 64-bit range, and any number with a fraction or an
exponent, is floating point.  A token is known by its shape alone, so a number
that is too great and a text with half of a surrogate pair are tokens too.
-/

namespace MailSearch
namespace Json

/-- A lexical unit. -/
inductive Token where
  | openObject
  | closeObject
  | openArray
  | closeArray
  | comma
  | colon
  /-- A quoted text; `none` if half of a surrogate pair stands alone in it. -/
  | text (value : Option String)
  /-- A word or a number. -/
  | scalar (value : Json)

/-! ## Quoted texts -/

/-- The value of four hexadecimal digits. -/
def hexUnit? (a b c d : Char) : Option Nat := do
  let a ← Text.hexDigit? a
  let b ← Text.hexDigit? b
  let c ← Text.hexDigit? c
  let d ← Text.hexDigit? d
  return ((a * 16 + b) * 16 + c) * 16 + d

/-- The character that a backslash and one letter stand for. -/
def escaped? (c : Char) : Option Char :=
  match c with
  | '"' => some '"'
  | '\\' => some '\\'
  | '/' => some '/'
  | 'b' => some '\x08'
  | 'f' => some '\x0c'
  | 'n' => some '\n'
  | 'r' => some '\r'
  | 't' => some '\t'
  | _ => none

/-- The character of a pair of surrogate units. -/
def surrogates? (high low : Nat) : Option Char :=
  if 0xDC00 ≤ low ∧ low ≤ 0xDFFF then
    some (Char.ofNat (0x10000 + (high - 0xD800) * 0x400 + (low - 0xDC00)))
  else none

/-- Whether a unit is half of a surrogate pair. -/
def isSurrogate (unit : Nat) : Bool :=
  0xD800 ≤ unit && unit < 0xE000

/-- The characters of code points and surrogate pairs; `none` if half of a pair
stands alone. -/
def joinUnits? : List Nat -> Option (List Char)
  | [] => some []
  | [unit] => if isSurrogate unit then none else some [Char.ofNat unit]
  | unit :: next :: rest =>
      if !isSurrogate unit then
        (joinUnits? (next :: rest)).map (Char.ofNat unit :: ·)
      else if 0xDC00 ≤ unit then none
      else
        match surrogates? unit next with
        | none => none
        | some c => (joinUnits? rest).map (c :: ·)

/-- Put a unit in front of what was read behind it. -/
def withUnit (unit : Nat) :
    Option (List Nat × List Char) -> Option (List Nat × List Char)
  | none => none
  | some (units, rest) => some (unit :: units, rest)

/--
Read a quoted text behind its opening quote, up to its closing quote, as code
points and halves of surrogate pairs.
-/
def readQuoted : List Char -> Option (List Nat × List Char)
  | [] => none
  | '"' :: rest => some ([], rest)
  | '\\' :: 'u' :: a :: b :: c :: d :: rest =>
      match hexUnit? a b c d with
      | none => none
      | some unit => withUnit unit (readQuoted rest)
  | '\\' :: letter :: rest =>
      match escaped? letter with
      | none => none
      | some c => withUnit c.toNat (readQuoted rest)
  | c :: rest =>
      if c.toNat < 0x20 then none else withUnit c.toNat (readQuoted rest)

theorem withUnit_eq_some {unit : Nat} {inner : Option (List Nat × List Char)}
    {body : List Nat} {rest : List Char} :
    withUnit unit inner = some (body, rest) ↔
      ∃ tail, inner = some (tail, rest) ∧ body = unit :: tail := by
  cases inner with
  | none => simp [withUnit]
  | some pair =>
      obtain ⟨units, others⟩ := pair
      simp only [withUnit, Option.some.injEq, Prod.mk.injEq]
      constructor
      · rintro ⟨rfl, rfl⟩
        exact ⟨units, ⟨rfl, rfl⟩, rfl⟩
      · rintro ⟨tail, ⟨rfl, rfl⟩, rfl⟩
        exact ⟨rfl, rfl⟩

theorem length_withUnit_lt {unit : Nat} {inner : Option (List Nat × List Char)}
    {tail rest : List Char} {body : List Nat}
    (shorter : ∀ {body : List Nat}, inner = some (body, rest) -> rest.length <
      tail.length)
    (read : withUnit unit inner = some (body, rest)) :
      rest.length < tail.length := by
  obtain ⟨_, found, _⟩ := withUnit_eq_some.1 read
  exact shorter found

theorem length_readQuoted {text rest : List Char} {body : List Nat}
    (read : readQuoted text = some (body, rest)) :
      rest.length < text.length := by
  fun_induction readQuoted text generalizing body with
  | case1 | case3 | case5 | case7 => simp at read
  | case2 =>
      simp only [Option.some.injEq, Prod.mk.injEq] at read
      simp [read.2]
  | case4 | case6 | case8 =>
      rename_i ih
      have := length_withUnit_lt ih read
      simp only [List.length_cons]
      omega

/-! ## Numbers -/

/-- The greatest unsigned 64-bit number. -/
def maxUnsigned : Nat := 0xFFFFFFFFFFFFFFFF

/-- A number whose power of ten still has to be applied. -/
structure Unscaled where
  /-- The leading digits, as many as fit into 64 bits. -/
  digits : Nat
  /-- The power of ten. -/
  exponent : Int
  /-- Whether a digit was left out; all later ones are then left out too. -/
  full : Bool

/-- Append one digit before the point. -/
def Unscaled.pushWhole (number : Unscaled) (digit : Nat) : Unscaled :=
  if number.full || number.digits * 10 + digit > maxUnsigned then
    ⟨number.digits, number.exponent + 1, true⟩
  else ⟨number.digits * 10 + digit, number.exponent, false⟩

/-- Append one digit behind the point. -/
def Unscaled.pushFraction (number : Unscaled) (digit : Nat) : Unscaled :=
  if number.full || number.digits * 10 + digit > maxUnsigned then
    ⟨number.digits, number.exponent, true⟩
  else ⟨number.digits * 10 + digit, number.exponent - 1, false⟩

/-- Divide by a power of ten, in steps that floating point can represent. -/
def scaleDown (value : Float) (power : Nat) : Float :=
  if power ≤ 308 then value / Float.ofScientific 1 false power
  else if value == 0 then value
  else scaleDown (value / Float.ofScientific 1 false 308) (power - 308)
termination_by power
decreasing_by omega

/-- The floating-point number of a scaled significand; `none` if it is too
great. -/
def Unscaled.real? (number : Unscaled) (negative : Bool) : Option Float :=
  let magnitude := number.digits.toUInt64.toFloat
  let scaled :=
    if number.exponent < 0 then scaleDown magnitude (-number.exponent).toNat
    else if number.digits = 0 then magnitude
    else if 308 < number.exponent then 1 / 0
    else magnitude * Float.ofScientific 1 false number.exponent.toNat
  if scaled.isInf then none
  else some (if negative then -scaled else scaled)

/-- The value of a decimal digit. -/
def digitValue (c : Char) : Nat :=
  c.toNat - '0'.toNat

/-- The number that a run of decimal digits denotes. -/
def digitsValue (digits : List Char) : Nat :=
  digits.foldl (fun value c => value * 10 + digitValue c) 0

/-- The run of decimal digits at the front, and what follows it. -/
def spanDigits (text : List Char) : List Char × List Char :=
  (text.takeWhile Char.isDigit, text.dropWhile Char.isDigit)

/-- The fraction behind a number's whole part: no point, or a point and at least
one digit. -/
def readFraction : List Char -> Option (List Char × List Char)
  | '.' :: rest =>
      match spanDigits rest with
      | ([], _) => none
      | found => some found
  | rest => some ([], rest)

/-- The signed power of ten at the end of a number, `none` where there is
none. -/
def readExponent (text : List Char) : Option (Option Int × List Char) :=
  match text with
  | mark :: rest =>
      if mark = 'e' ∨ mark = 'E' then
        let (negative, rest) :=
          match rest with
          | '-' :: rest => (true, rest)
          | '+' :: rest => (false, rest)
          | rest => (false, rest)
        match spanDigits rest with
        | ([], _) => none
        | (digits, rest) =>
            let power : Int := digitsValue digits
            some (some (if negative then -power else power), rest)
      else some (none, text)
  | [] => some (none, text)

/-- The value of a number with a power of ten; one that is too great is
unreadable. -/
def Unscaled.value (number : Unscaled) (negative : Bool) : Json :=
  ((number.real? negative).map .real).getD unreadable

/-- The value of a number that is written without fraction and exponent. -/
def wholeValue (negative : Bool) (digits : List Char) : Json :=
  let value := digitsValue digits
  if !negative && value ≤ maxUnsigned then .int value
  else if negative && 0 < value && value ≤ 0x8000000000000000 then .int (-value)
  else ((digits.map digitValue).foldl Unscaled.pushWhole
    ⟨0, 0, false⟩).value negative

/-- Read a number behind its sign. -/
def readUnsigned (negative : Bool) (text : List Char) :
    Option (Json × List Char) :=
  match spanDigits text with
  | ([], _) => none
  | (whole, rest) =>
      if whole.length > 1 ∧ whole.head? = some '0' then none
      else
        match readFraction rest with
        | none => none
        | some (fraction, rest) =>
            match readExponent rest with
            | none => none
            | some (exponent, rest) =>
                if fraction.isEmpty && exponent.isNone then
                  some (wholeValue negative whole, rest)
                else
                  let number :=
                    (whole.map digitValue).foldl Unscaled.pushWhole
                      ⟨0, 0, false⟩
                  let number :=
                    (fraction.map digitValue).foldl Unscaled.pushFraction
                      { number with full := false }
                  let number :=
                    { number with
                      exponent := number.exponent + exponent.getD 0 }
                  some (number.value negative, rest)

/-- Read a number, with or without a minus sign. -/
def readNumber : List Char -> Option (Json × List Char)
  | '-' :: rest => readUnsigned true rest
  | text => readUnsigned false text

theorem length_dropDigits_le (text : List Char) :
    (spanDigits text).2.length ≤ text.length := by
  simp only [spanDigits]
  exact (List.dropWhile_sublist _).length_le

theorem length_readFraction_le {text fraction rest : List Char}
    (read : readFraction text = some (fraction, rest)) :
      rest.length ≤ text.length := by
  unfold readFraction at read
  split at read
  · rename_i tail
    have := length_dropDigits_le tail
    split at read
    · simp at read
    · injection read with equal
      rw [equal] at this
      simp only [List.length_cons] at this ⊢
      omega
  · simp only [Option.some.injEq, Prod.mk.injEq] at read
    simp [read.2]

theorem length_readExponent_le {text rest : List Char} {exponent : Option Int}
    (read : readExponent text = some (exponent, rest)) :
      rest.length ≤ text.length := by
  unfold readExponent at read
  split at read
  · rename_i mark tail
    split at read
    · have signed : ∀ negative tail',
          (match tail with
            | '-' :: rest => (true, rest)
            | '+' :: rest => (false, rest)
            | rest => (false, rest)) = (negative, tail') →
                tail'.length ≤ tail.length := by
        intro negative tail' equal
        split at equal <;> (injection equal with _ equal; subst equal; simp)
      have bound := signed _ _ rfl
      revert read
      generalize (match tail with
            | '-' :: rest => (true, rest)
            | '+' :: rest => (false, rest)
            | rest => (false, rest)) = pair at bound ⊢
      intro read
      have digits := length_dropDigits_le pair.2
      simp only at read
      split at read
      · simp at read
      · rename_i equal
        simp only [Option.some.injEq, Prod.mk.injEq] at read
        rw [equal] at digits
        rw [read.2] at digits
        simp only [List.length_cons]
        simp only at digits
        omega
    · simp only [Option.some.injEq, Prod.mk.injEq] at read
      simp [← read.2]
  · simp only [Option.some.injEq, Prod.mk.injEq] at read
    simp [← read.2]

theorem length_readUnsigned {negative : Bool} {text rest : List Char}
    {value : Json}
    (read : readUnsigned negative text = some (value, rest)) :
      rest.length < text.length := by
  have shorter : (spanDigits text).1 ≠ [] -> (spanDigits text).2.length <
      text.length := by
    intro digits
    have := congrArg List.length
      (List.takeWhile_append_dropWhile (p := Char.isDigit) (l := text))
    have := List.length_pos_iff.2 digits
    simp only [spanDigits, List.length_append] at *
    omega
  unfold readUnsigned at read
  split at read
  · simp at read
  · rename_i whole tail notEmpty spanned
    rw [spanned] at shorter
    have bound := shorter notEmpty
    split at read
    · simp at read
    · split at read
      · simp at read
      · rename_i fraction tail' readF
        have := length_readFraction_le readF
        split at read
        · simp at read
        · rename_i exponent tail'' readE
          have := length_readExponent_le readE
          split at read <;>
            (simp only [Option.some.injEq, Prod.mk.injEq] at read
             rw [← read.2]
             simp only at *
             omega)

theorem length_readNumber {text rest : List Char} {value : Json}
    (read : readNumber text = some (value, rest)) :
      rest.length < text.length := by
  unfold readNumber at read
  split at read
  · have := length_readUnsigned read
    simp only [List.length_cons]
    omega
  · exact length_readUnsigned read

/-! ## The tokens of a text -/

/-- The punctuation that a character is. -/
def punctuation? (c : Char) : Option Token :=
  match c with
  | '{' => some .openObject
  | '}' => some .closeObject
  | '[' => some .openArray
  | ']' => some .closeArray
  | ',' => some .comma
  | ':' => some .colon
  | _ => none

/-- Whether a character separates tokens. -/
def isSpace (c : Char) : Bool :=
  c == ' ' || c == '\n' || c == '\t' || c == '\r'

/-- Read one token that is not a single character. -/
def readScalar : List Char -> Option (Token × List Char)
  | '"' :: rest =>
      (readQuoted rest).map fun (units, rest) =>
        (.text ((joinUnits? units).map String.ofList), rest)
  | 'n' :: 'u' :: 'l' :: 'l' :: rest => some (.scalar .null, rest)
  | 't' :: 'r' :: 'u' :: 'e' :: rest => some (.scalar (.bool true), rest)
  | 'f' :: 'a' :: 'l' :: 's' :: 'e' :: rest =>
      some (.scalar (.bool false), rest)
  | text => (readNumber text).map fun (value, rest) => (.scalar value, rest)

theorem length_readScalar {text rest : List Char} {token : Token}
    (read : readScalar text = some (token, rest)) :
      rest.length < text.length := by
  unfold readScalar at read
  split at read
  · obtain ⟨⟨body, tail⟩, quoted, equal⟩ := Option.map_eq_some_iff.1 read
    have := length_readQuoted quoted
    simp only [Prod.mk.injEq] at equal
    rw [← equal.2]
    simp only [List.length_cons]
    omega
  · simp only [Option.some.injEq, Prod.mk.injEq] at read
    simp only [← read.2, List.length_cons]
    omega
  · simp only [Option.some.injEq, Prod.mk.injEq] at read
    simp only [← read.2, List.length_cons]
    omega
  · simp only [Option.some.injEq, Prod.mk.injEq] at read
    simp only [← read.2, List.length_cons]
    omega
  · obtain ⟨⟨value, tail⟩, number, equal⟩ := Option.map_eq_some_iff.1 read
    have := length_readNumber number
    simp only [Prod.mk.injEq] at equal
    rw [← equal.2]
    exact this

/-- The tokens of a text, `none` if some part of it is no token. -/
def tokens (text : List Char) : Option (List Token) :=
  match text with
  | [] => some []
  | c :: rest =>
      if isSpace c then tokens rest
      else
        match punctuation? c with
        | some token => (tokens rest).map (token :: ·)
        | none =>
            match _read : readScalar (c :: rest) with
            | none => none
            | some (token, rest) => (tokens rest).map (token :: ·)
termination_by text.length
decreasing_by
  · simp
  · simp
  · exact length_readScalar _read

end Json
end MailSearch
