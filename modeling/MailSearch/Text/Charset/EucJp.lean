import MailSearch.Text.Charset.ShiftJis

/-!
# EUC-JP

Characters of one byte, of two, or of three behind a mark that selects the
supplementary set.
-/

namespace MailSearch
namespace Text
namespace Charset

/-- Whether a byte is one of those that write a row or a column. -/
def isHighByte (byte : UInt8) : Bool :=
  0xA1 ≤ byte && byte ≤ 0xFE

/-- The character in a row and a column of a table with rows of 94. -/
def gridChar? (table : CodeTable) (row column : UInt8) : Option Char :=
  table.char? ((row.toNat - 0xA1) * 94 + (column.toNat - 0xA1))

/-- The character of two bytes. -/
def eucJpPair? (lead trail : UInt8) : Option Char :=
  if lead = 0x8E && isKatakanaByte trail then some (katakana trail)
  else if isHighByte lead && isHighByte trail then gridChar? jis0208 lead trail
  else none

/-- The character of two bytes behind the mark of the supplementary set. -/
def eucJpTriple? (row column : UInt8) : Option Char :=
  if isHighByte column then gridChar? jis0212 row column else none

/-- Whether a byte begins a longer character. -/
def isEucJpLead (byte : UInt8) : Bool :=
  byte == 0x8E || byte == 0x8F || isHighByte byte

/-- The character of a byte that begins no longer one, or that nothing
follows. -/
def eucJpSingle (byte : UInt8) : Char :=
  if isAscii byte then Char.ofNat byte.toNat else '\uFFFD'

/-- Read bytes in EUC-JP. -/
def decodeEucJp : List UInt8 -> List Char
  | [] => []
  | [byte] => [eucJpSingle byte]
  | [lead, trail] =>
      if !isEucJpLead lead then eucJpSingle lead :: decodeEucJp [trail]
      else if lead = 0x8F && isHighByte trail then ['\uFFFD']
      else
        match eucJpPair? lead trail with
        | some c => [c]
        | none =>
            if isAscii trail then '\uFFFD' :: decodeEucJp [trail]
              else ['\uFFFD']
  | lead :: trail :: last :: rest =>
      if !isEucJpLead lead then
        eucJpSingle lead :: decodeEucJp (trail :: last :: rest)
      else if lead = 0x8F && isHighByte trail then
        match eucJpTriple? trail last with
        | some c => c :: decodeEucJp rest
        | none =>
            if isAscii last then '\uFFFD' :: decodeEucJp (last :: rest)
            else '\uFFFD' :: decodeEucJp rest
      else
        match eucJpPair? lead trail with
        | some c => c :: decodeEucJp (last :: rest)
        | none =>
            if isAscii trail then
              '\uFFFD' :: decodeEucJp (trail :: last :: rest)
            else '\uFFFD' :: decodeEucJp (last :: rest)

end Charset
end Text
end MailSearch
