/-!
# UTF-16

Units of 16 bits in either byte order.  A lone surrogate is read as the
replacement character, and a mark in front of a text names its byte order.
-/

namespace MailSearch
namespace Text
namespace Charset

/-- The 16-bit units of a sequence of bytes; a last single byte is dropped. -/
def units16 (bigEndian : Bool) : List UInt8 -> List Nat
  | first :: second :: rest =>
      (if bigEndian then first.toNat * 256 + second.toNat
          else second.toNat * 256 + first.toNat) ::
        units16 bigEndian rest
  | _ => []

/-- The characters of 16-bit units, with the replacement character for lone
surrogates. -/
def decodeUnits16 : List Nat -> List Char
  | high :: low :: rest =>
      if 0xD800 ≤ high ∧ high < 0xDC00 then
        if 0xDC00 ≤ low ∧ low < 0xE000 then
          Char.ofNat (0x10000 + (high - 0xD800) * 0x400 + (low - 0xDC00)) ::
            decodeUnits16 rest
        else '\uFFFD' :: decodeUnits16 (low :: rest)
      else if 0xDC00 ≤ high ∧ high < 0xE000 then
        '\uFFFD' :: decodeUnits16 (low :: rest)
      else Char.ofNat high :: decodeUnits16 (low :: rest)
  | [unit] =>
      [if 0xD800 ≤ unit ∧ unit < 0xE000 then '\uFFFD' else Char.ofNat unit]
  | [] => []

/-- The byte order that the mark in front of some bytes names, and what follows
it. -/
def byteOrder? : List UInt8 -> Option (Bool × List UInt8)
  | 0xFE :: 0xFF :: rest => some (true, rest)
  | 0xFF :: 0xFE :: rest => some (false, rest)
  | _ => none

/-- Whether a 16-bit unit is the first one of a pair. -/
def isHighUnit (unit : Nat) : Bool :=
  0xD800 ≤ unit && unit < 0xDC00

/--
Read all of some bytes.  A last single byte is broken, together with the first
unit of a pair directly before it.
-/
def decodeWhole16 (bigEndian : Bool) (bytes : List UInt8) : List Char :=
  let units := units16 bigEndian bytes
  if bytes.length % 2 = 0 then decodeUnits16 units
  else if units.getLast?.any isHighUnit then
    decodeUnits16 units.dropLast ++ ['\uFFFD']
  else decodeUnits16 units ++ ['\uFFFD']

end Charset
end Text
end MailSearch
