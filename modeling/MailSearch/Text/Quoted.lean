import MailSearch.Text.LetterCase
import MailSearch.Text.Quoted.Table

/-!
# Quoted texts in messages

An error message shows a text between double quotes, so that every character of
it can be told: quotes and backslashes are escaped, and what does not show is
written as its code point.
-/

namespace MailSearch
namespace Text

/-- How one character is shown between double quotes. -/
def showChar (c : Char) : List Char :=
  match c with
  | '\x00' => ['\\', '0']
  | '\t' => ['\\', 't']
  | '\r' => ['\\', 'r']
  | '\n' => ['\\', 'n']
  | '\\' => ['\\', '\\']
  | '"' => ['\\', '"']
  | c =>
      if c.toNat < 0x20 || c.toNat == 0x7F || inRanges hiddenRanges c.toNat then
        ['\\', 'u', '{'] ++ Nat.toDigits 16 c.toNat ++ ['}']
      else [c]

/-- A text between double quotes. -/
def quoted (text : String) : String :=
  String.ofList ('"' :: text.toList.flatMap showChar ++ ['"'])

end Text
end MailSearch
