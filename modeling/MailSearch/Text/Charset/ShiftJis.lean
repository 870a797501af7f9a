import MailSearch.Text.Charset.Jis.Table

/-!
# Shift JIS

Characters of one or two bytes: ASCII, Katakana of half width, the Japanese sets
and an area for private use.
-/

namespace MailSearch
namespace Text
namespace Charset

/-- Whether a byte is a Katakana letter of half width. -/
def isKatakanaByte (byte : UInt8) : Bool :=
  0xA1 ≤ byte && byte ≤ 0xDF

/-- The Katakana letter of half width of a byte. -/
def katakana (byte : UInt8) : Char :=
  Char.ofNat (0xFF61 + (byte.toNat - 0xA1))

/-- The character of two bytes. -/
def shiftJisPair? (lead trail : Nat) : Option Char :=
  if trail < 0x40 ∨ trail = 0x7F ∨ 0xFC < trail then none
  else
    let row := if lead < 0xA0 then lead - 0x81 else lead - 0xC1
    let column := if trail < 0x7F then trail - 0x40 else trail - 0x41
    let number := row * 188 + column
    if 8836 ≤ number ∧ number ≤ 10715 then
      some (Char.ofNat (0xE000 + (number - 8836)))
    else jis0208.char? number

/-- Whether a byte begins a character of two bytes. -/
def isShiftJisLead (byte : UInt8) : Bool :=
  (0x81 ≤ byte && byte ≤ 0x9F) || (0xE0 ≤ byte && byte ≤ 0xFC)

/-- The character of a byte that begins no longer one. -/
def shiftJisSingle (byte : UInt8) : Char :=
  if byte ≤ 0x80 then Char.ofNat byte.toNat
  else if isKatakanaByte byte then katakana byte
  else '\uFFFD'

/-- Read bytes in Shift JIS. -/
def decodeShiftJis : List UInt8 -> List Char
  | [] => []
  | [byte] => [shiftJisSingle byte]
  | lead :: trail :: rest =>
      if !isShiftJisLead lead then
        shiftJisSingle lead :: decodeShiftJis (trail :: rest)
      else
        match shiftJisPair? lead.toNat trail.toNat with
        | some c => c :: decodeShiftJis rest
        | none =>
            if isAscii trail then '\uFFFD' :: decodeShiftJis (trail :: rest)
            else '\uFFFD' :: decodeShiftJis rest

end Charset
end Text
end MailSearch
