import MailSearch.Text.Charset.Jis.Table

/-!
# ISO-2022-JP

Bytes of seven bits, with escape sequences that select the set of the characters
behind them.
-/

namespace MailSearch
namespace Text
namespace Charset

/-- A set that an escape sequence selects. -/
inductive JapaneseSet where
  | ascii
  | roman
  | katakana
  | kanji
  deriving DecidableEq

/-- The byte that begins an escape sequence. -/
def escapeByte : UInt8 := 0x1B

/-- The set that the two bytes behind the escape byte select. -/
def JapaneseSet.select? (first second : UInt8) : Option JapaneseSet :=
  if first = 0x28 then
    if second = 0x42 then some .ascii
    else if second = 0x4A then some .roman
    else if second = 0x49 then some .katakana
    else none
  else if first = 0x24 ∧ (second = 0x40 ∨ second = 0x42) then some .kanji
  else none

/-- The character of one byte in a set. -/
def JapaneseSet.single (set : JapaneseSet) (byte : UInt8) : Char :=
  let plain :=
    if isAscii byte && byte ≠ 0x0E && byte ≠ 0x0F then Char.ofNat byte.toNat
      else '\uFFFD'
  match set with
  | .ascii => plain
  | .roman => if byte = 0x5C then '¥' else if byte = 0x7E then '‾' else plain
  | .katakana =>
      if 0x21 ≤ byte ∧ byte ≤ 0x5F then
        Char.ofNat (0xFF61 + (byte.toNat - 0x21)) else '\uFFFD'
  | .kanji => '\uFFFD'

/-- Whether a byte writes a row or a column of a table. -/
def isGridByte (byte : UInt8) : Bool :=
  0x21 ≤ byte && byte ≤ 0x7E

/-- The character of two bytes; none if the second one does not write a
column. -/
def kanjiPair (lead trail : UInt8) : Char :=
  if isGridByte trail then
    (jis0208.char? ((lead.toNat - 0x21) * 94 + (trail.toNat - 0x21))).getD
      '\uFFFD'
  else '\uFFFD'

/--
Read bytes in a set.  `written` says that something was read since the last
escape sequence; one that directly follows another is broken.
-/
def decodeJapanese (set : JapaneseSet) (written : Bool) :
    List UInt8 -> List Char
  | first :: second :: third :: rest =>
      if first = escapeByte then
        match JapaneseSet.select? second third with
        | some next =>
            if written then decodeJapanese next false rest
            else '\uFFFD' :: decodeJapanese next false rest
        | none => '\uFFFD' :: decodeJapanese set true (second :: third :: rest)
      else if set = .kanji && isGridByte first then
        if second = escapeByte then
          '\uFFFD' :: decodeJapanese set true (second :: third :: rest)
        else kanjiPair first second :: decodeJapanese set true (third :: rest)
      else set.single first :: decodeJapanese set true (second :: third :: rest)
  | [first, second] =>
      if first = escapeByte then '\uFFFD' :: decodeJapanese set true [second]
      else if set = .kanji && isGridByte first then
        if second = escapeByte then '\uFFFD' :: decodeJapanese set true [second]
        else [kanjiPair first second]
      else set.single first :: decodeJapanese set true [second]
  | [byte] => [if byte = escapeByte then '\uFFFD' else set.single byte]
  | [] => []

/-- Read bytes in ISO-2022-JP. -/
def decodeIso2022Jp (bytes : List UInt8) : List Char :=
  decodeJapanese .ascii true bytes

end Charset
end Text
end MailSearch
