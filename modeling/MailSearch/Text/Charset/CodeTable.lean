/-!
# Tables of characters

The characters of a set with several bytes per character, in the order of their
numbers in the set.
-/

namespace MailSearch
namespace Text
namespace Charset

/-- Characters in rows of 64; the replacement character stands where there is none. -/
abbrev CodeTable := Array String

namespace CodeTable

/-- The number of characters of a row. -/
def width : Nat := 64

/-- The character with a number. -/
def char? (table : CodeTable) (number : Nat) : Option Char := do
  let row ← table[number / width]?
  let c ← row.toList[number % width]?
  if c = '\uFFFD' then none else some c

end CodeTable

/-- Whether a byte is one of ASCII, which is never lost with a broken character before it. -/
def isAscii (byte : UInt8) : Bool :=
  byte < 0x80

end Charset
end Text
end MailSearch
