import MailSearch.Text.Charset.Big5.Table

/-!
# Big5

Characters of one or two bytes.  Four pairs of bytes stand for a letter with a
combining mark.
-/

namespace MailSearch
namespace Text
namespace Charset

/-- The letter and the combining mark of two bytes. -/
def big5Marked? (lead trail : UInt8) : Option (List Char) :=
  if lead ≠ 0x88 then none
  else if trail = 0x62 then some ['Ê', '\u0304']
  else if trail = 0x64 then some ['Ê', '\u030C']
  else if trail = 0xA3 then some ['ê', '\u0304']
  else if trail = 0xA5 then some ['ê', '\u030C']
  else none

/-- The character of two bytes in the table. -/
def big5Pair? (lead trail : Nat) : Option Char :=
  let column := if trail < 0x7F then trail - 0x40 else trail - 0x62
  if lead < 0x87 ∨ trail < 0x40 ∨ 0x7F ≤ trail ∧ trail ≤ 0xA0 ∨
    trail = 0xFF then none
  else big5Characters.char? ((lead - 0x87) * 157 + column)

/-- Read bytes in Big5. -/
def decodeBig5 : List UInt8 -> List Char
  | [] => []
  | [byte] => [if isAscii byte then Char.ofNat byte.toNat else '\uFFFD']
  | lead :: trail :: rest =>
      if isAscii lead then Char.ofNat lead.toNat :: decodeBig5 (trail :: rest)
      else if lead = 0x80 ∨ lead = 0xFF then
        '\uFFFD' :: decodeBig5 (trail :: rest)
      else
        match (big5Marked? lead trail).or
          ((big5Pair? lead.toNat trail.toNat).map ([·])) with
        | some chars => chars ++ decodeBig5 rest
        | none =>
            if isAscii trail then '\uFFFD' :: decodeBig5 (trail :: rest)
            else '\uFFFD' :: decodeBig5 rest

end Charset
end Text
end MailSearch
