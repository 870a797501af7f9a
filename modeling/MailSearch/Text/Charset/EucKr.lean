import MailSearch.Text.Charset.EucKr.Table

/-!
# The Korean set

Characters of one or two bytes, in the unified Hangul code.
-/

namespace MailSearch
namespace Text
namespace Charset

/-- The character of two bytes. -/
def koreanPair? (lead trail : Nat) : Option Char :=
  if trail < 0x41 ∨ trail = 0xFF then none
  else koreanCharacters.char? ((lead - 0x81) * 190 + (trail - 0x41))

/-- Read bytes in the unified Hangul code. -/
def decodeKorean : List UInt8 -> List Char
  | [] => []
  | [byte] => [if isAscii byte then Char.ofNat byte.toNat else '\uFFFD']
  | lead :: trail :: rest =>
      if isAscii lead then Char.ofNat lead.toNat :: decodeKorean (trail :: rest)
      else if lead = 0x80 ∨ lead = 0xFF then
        '\uFFFD' :: decodeKorean (trail :: rest)
      else
        match koreanPair? lead.toNat trail.toNat with
        | some c => c :: decodeKorean rest
        | none =>
            if isAscii trail then '\uFFFD' :: decodeKorean (trail :: rest)
            else '\uFFFD' :: decodeKorean rest

end Charset
end Text
end MailSearch
