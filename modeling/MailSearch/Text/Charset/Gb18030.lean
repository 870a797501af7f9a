import MailSearch.Text.Charset.Gb18030.Table

/-!
# GB 18030

Characters of one, two or four bytes.  The two-byte ones have a table and three
areas for private use; the four-byte ones are numbered, first those of the basic
plane that have no shorter form and then all others.
-/

namespace MailSearch
namespace Text
namespace Charset

/-- The code point for private use with two bytes, if they lie in an area for
it. -/
def gbPrivate? (lead trail : Nat) : Option Nat :=
  if 0xAA ≤ lead ∧ lead ≤ 0xAF ∧ 0xA1 ≤ trail then
    some (0xE000 + 94 * (lead - 0xAA) + (trail - 0xA1))
  else if 0xF8 ≤ lead ∧ 0xA1 ≤ trail then
    some (0xE234 + 94 * (lead - 0xF8) + (trail - 0xA1))
  else if 0xA1 ≤ lead ∧ lead ≤ 0xA7 ∧ trail ≤ 0xA0 then
    some (0xE4C6 + 96 * (lead - 0xA1) + (trail - if trail < 0x7F then
      0x40 else 0x41))
  else none

/-- The character of two bytes. -/
def gbPair? (lead trail : Nat) : Option Char :=
  if trail < 0x40 ∨ trail = 0x7F ∨ trail = 0xFF then none
  else
    let number :=
      (lead - 0x81) * 190 + (trail - if trail < 0x7F then 0x40 else 0x41)
    (gbCharacters.char? number).or ((gbPrivate? lead trail).map Char.ofNat)

/-- The number of four bytes. -/
def gbNumber (first second third fourth : Nat) : Nat :=
  (((first - 0x81) * 10 + (second - 0x30)) * 126 + (third - 0x81)) * 10 +
    (fourth - 0x30)

/-- The character with the number of four bytes. -/
def gbQuad? (number : Nat) : Option Char :=
  if number = 7457 then some '\uE7C7'
  else if number < 39420 then
    (gbRanges.reverse.find? fun range => range.1 ≤ number).map fun range =>
      Char.ofNat (range.2 + (number - range.1))
  else if 189000 ≤ number ∧ number < 189000 + 0x100000 then
    some (Char.ofNat (0x10000 + (number - 189000)))
  else none

/-- Whether a byte begins a character of several bytes. -/
def isGbLead (byte : UInt8) : Bool :=
  0x81 ≤ byte && byte ≤ 0xFE

/-- Whether a byte is a decimal digit, as the second and fourth of four bytes
are. -/
def isDigitByte (byte : UInt8) : Bool :=
  0x30 ≤ byte && byte ≤ 0x39

/-- The character of a byte that begins no longer one. -/
def gbSingle (byte : UInt8) : Char :=
  if isAscii byte then Char.ofNat byte.toNat else if byte = 0x80 then
    '€' else '\uFFFD'

/-- Read bytes in GB 18030. -/
def decodeGb18030 : List UInt8 -> List Char
  | first :: second :: third :: fourth :: rest =>
      if !isGbLead first then
        gbSingle first :: decodeGb18030 (second :: third :: fourth :: rest)
      else if isDigitByte second then
        if isGbLead third && isDigitByte fourth then
          let number :=
            gbNumber first.toNat second.toNat third.toNat fourth.toNat
          (gbQuad? number).getD '\uFFFD' :: decodeGb18030 rest
        else '\uFFFD' :: decodeGb18030 (second :: third :: fourth :: rest)
      else
        match gbPair? first.toNat second.toNat with
        | some c => c :: decodeGb18030 (third :: fourth :: rest)
        | none =>
            if isAscii second then
              '\uFFFD' :: decodeGb18030 (second :: third :: fourth :: rest)
            else '\uFFFD' :: decodeGb18030 (third :: fourth :: rest)
  | [first, second, third] =>
      if !isGbLead first then gbSingle first :: decodeGb18030 [second, third]
      else if isDigitByte second then
        if isGbLead third then ['\uFFFD']
          else '\uFFFD' :: decodeGb18030 [second, third]
      else
        match gbPair? first.toNat second.toNat with
        | some c => c :: decodeGb18030 [third]
        | none =>
            if isAscii second then '\uFFFD' :: decodeGb18030 [second, third]
            else '\uFFFD' :: decodeGb18030 [third]
  | [first, second] =>
      if !isGbLead first then gbSingle first :: decodeGb18030 [second]
      else if isDigitByte second then ['\uFFFD']
      else
        match gbPair? first.toNat second.toNat with
        | some c => [c]
        | none =>
            if isAscii second then '\uFFFD' :: decodeGb18030 [second]
              else ['\uFFFD']
  | [first] => [gbSingle first]
  | [] => []

end Charset
end Text
end MailSearch
