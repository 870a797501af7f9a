/-!
# Base 64

Bytes written with 64 digits of six bits each, in groups of four digits for
three bytes.
-/

namespace MailSearch
namespace Text
namespace Base64

/-- The value of a digit. -/
def digit? (byte : UInt8) : Option Nat :=
  let c := Char.ofNat byte.toNat
  if c.isUpper then some (c.toNat - 'A'.toNat)
  else if c.isLower then some (c.toNat - 'a'.toNat + 26)
  else if c.isDigit then some (c.toNat - '0'.toNat + 52)
  else if c = '+' then some 62
  else if c = '/' then some 63
  else none

/-- The bytes of a group of two, three or four digits; a single digit gives its
own bits. -/
def group (digits : List Nat) : List UInt8 :=
  match digits with
  | [a] => [(a * 4).toUInt8]
  | [a, b] => [(a * 4 + b / 16).toUInt8]
  | [a, b, c] => [(a * 4 + b / 16).toUInt8, (b % 16 * 16 + c / 4).toUInt8]
  | [a, b, c, d] =>
      [(a * 4 + b / 16).toUInt8, (b % 16 * 16 + c / 4).toUInt8,
        (c % 4 * 64 + d).toUInt8]
  | _ => []

/-- The mark at the end of a text, which fills its last group. -/
def padding : UInt8 := 0x3D

/-- Decoded bytes, and the digits of the group that is being read. -/
structure Reading where
  /-- The bytes in reverse. -/
  reversed : List UInt8
  /-- The digits in order. -/
  digits : List Nat

namespace Reading

/-- The state before the first digit. -/
def empty : Reading :=
  ⟨[], []⟩

/-- Finish the group that is being read. -/
def flush (reading : Reading) : Reading :=
  ⟨(group reading.digits).reverse ++ reading.reversed, []⟩

/-- Take a digit; the fourth one of a group finishes it. -/
def push (reading : Reading) (digit : Nat) : Reading :=
  let pushed := { reading with digits := reading.digits ++ [digit] }
  if reading.digits.length = 3 then pushed.flush else pushed

/-- Take a digit or padding; any other byte is none of base 64. -/
def step? (reading : Reading) (byte : UInt8) : Option Reading :=
  match digit? byte with
  | some digit => some (reading.push digit)
  | none => if byte = padding then some reading.flush else none

/-- The decoded bytes; digits of an unfinished group are dropped. -/
def bytes (reading : Reading) : List UInt8 :=
  reading.reversed.reverse

end Reading

/-- Read bytes behind a reading, without those that `passes` says do not
count. -/
def readFrom? (passes : UInt8 -> Bool) (reading : Reading) :
    List UInt8 -> Option Reading
  | [] => some reading
  | byte :: rest =>
      if passes byte then readFrom? passes reading rest
      else (reading.step? byte).bind fun next => readFrom? passes next rest

end Base64
end Text
end MailSearch
