import MailSearch.Text.Hex
import MailSearch.Text.LetterCase

/-!
# Quoted texts in TOML

A text stands between double quotes, where a backslash begins an escape, or
between single quotes, where every character stands for itself.  Between triple
quotes a text may hold line breaks, of which one directly behind the opening
quotes does not count; up to two quotes may precede the closing ones.
-/

namespace MailSearch
namespace Toml

/-- Whether a character may stand for itself: a tab, or no control character. -/
def isPlain (c : Char) : Bool :=
  c = '\t' || (0x20 ≤ c.toNat && c.toNat != 0x7F)

/-- Put a character in front of a text that was read. -/
def andChar (c : Char) :
    Option (List Char × List Char) -> Option (List Char × List Char)
  | none => none
  | some (text, rest) => some (c :: text, rest)

/-- The character that a backslash and one letter stand for. -/
def escaped? (c : Char) : Option Char :=
  match c with
  | 'b' => some '\x08'
  | 't' => some '\t'
  | 'n' => some '\n'
  | 'f' => some '\x0c'
  | 'r' => some '\r'
  | '"' => some '"'
  | '\\' => some '\\'
  | _ => none

/-- The character with a hexadecimal code point. -/
def coded? (digits : List Char) : Option Char := do
  let values ← digits.mapM Text.hexDigit?
  let code := values.foldl (fun code digit => code * 16 + digit) 0
  if code.isValidChar then some (Char.ofNat code) else none

/-! ## Reading -/

/-- Read a text behind its opening double quote. -/
def readBasic : List Char -> Option (List Char × List Char)
  | [] => none
  | '"' :: rest => some ([], rest)
  | '\\' :: 'u' :: a :: b :: c :: d :: rest =>
      match coded? [a, b, c, d] with
      | none => none
      | some c => andChar c (readBasic rest)
  | '\\' :: 'U' :: a :: b :: c :: d :: e :: f :: g :: h :: rest =>
      match coded? [a, b, c, d, e, f, g, h] with
      | none => none
      | some c => andChar c (readBasic rest)
  | '\\' :: letter :: rest =>
      match escaped? letter with
      | none => none
      | some c => andChar c (readBasic rest)
  | c :: rest => if isPlain c then andChar c (readBasic rest) else none

/-- Whether only blanks stand before the next line break. -/
def endsLine (text : List Char) : Bool :=
  match text.dropWhile (fun c => c = ' ' || c = '\t') with
  | '\n' :: _ => true
  | '\r' :: '\n' :: _ => true
  | _ => false

/--
Read a text behind three double quotes.  A backslash at the end of a line takes
all blanks and line breaks behind it away; `skipping` says that they are being
taken away.
-/
def readLongBasic (skipping : Bool) :
    List Char -> Option (List Char × List Char)
  | [] => none
  | '"' :: '"' :: '"' :: '"' :: '"' :: rest => some (['"', '"'], rest)
  | '"' :: '"' :: '"' :: '"' :: rest => some (['"'], rest)
  | '"' :: '"' :: '"' :: rest => some ([], rest)
  | '\r' :: '\n' :: rest =>
      if skipping then readLongBasic true rest
        else andChar '\n' (readLongBasic false rest)
  | '\n' :: rest =>
      if skipping then readLongBasic true rest
        else andChar '\n' (readLongBasic false rest)
  | '\\' :: 'u' :: a :: b :: c :: d :: rest =>
      match coded? [a, b, c, d] with
      | none => none
      | some c => andChar c (readLongBasic false rest)
  | '\\' :: 'U' :: a :: b :: c :: d :: e :: f :: g :: h :: rest =>
      match coded? [a, b, c, d, e, f, g, h] with
      | none => none
      | some c => andChar c (readLongBasic false rest)
  | '\\' :: letter :: rest =>
      if endsLine (letter :: rest) then readLongBasic true rest
      else
        match escaped? letter with
        | none => none
        | some c => andChar c (readLongBasic false rest)
  | c :: rest =>
      if skipping && (c = ' ' || c = '\t') then readLongBasic true rest
      else if isPlain c then andChar c (readLongBasic false rest)
      else none

/-- Read a text behind its opening single quote. -/
def readLiteral : List Char -> Option (List Char × List Char)
  | [] => none
  | '\'' :: rest => some ([], rest)
  | c :: rest => if isPlain c then andChar c (readLiteral rest) else none

/-- Read a text behind three single quotes. -/
def readLongLiteral : List Char -> Option (List Char × List Char)
  | [] => none
  | '\'' :: '\'' :: '\'' :: '\'' :: '\'' :: rest => some (['\'', '\''], rest)
  | '\'' :: '\'' :: '\'' :: '\'' :: rest => some (['\''], rest)
  | '\'' :: '\'' :: '\'' :: rest => some ([], rest)
  | '\r' :: '\n' :: rest => andChar '\n' (readLongLiteral rest)
  | '\n' :: rest => andChar '\n' (readLongLiteral rest)
  | c :: rest => if isPlain c then andChar c (readLongLiteral rest) else none

/-- Drop a line break at the front. -/
def dropLineBreak : List Char -> List Char
  | '\n' :: rest => rest
  | '\r' :: '\n' :: rest => rest
  | text => text

/-- Read a text in quotes of any kind. -/
def readQuoted : List Char -> Option (List Char × List Char)
  | '"' :: '"' :: '"' :: rest => readLongBasic false (dropLineBreak rest)
  | '"' :: rest => readBasic rest
  | '\'' :: '\'' :: '\'' :: rest => readLongLiteral (dropLineBreak rest)
  | '\'' :: rest => readLiteral rest
  | _ => none

/-! ## Writing -/

/-- Whether a character can be written by an escape only, wherever it stands. -/
def needsEscape (c : Char) : Bool :=
  (c.toNat < 0x20 && c != '\t' && c != '\n') || c.toNat = 0x7F

/-- The length of the longest run of a character, behind a run of a length. -/
def longestRun (mark : Char) (run : Nat) : List Char -> Nat
  | [] => run
  | c :: rest =>
      if c = mark then longestRun mark (run + 1) rest
      else max run (longestRun mark 0 rest)

/-- Four hexadecimal digits in upper case. -/
def codeDigits (code : Nat) : List Char :=
  [code / 4096 % 16, code / 256 % 16, code / 16 % 16, code % 16].map
      fun digit =>
    (Text.hexChar digit).toUpper

/-- How one character is written between double quotes. -/
def escape (c : Char) : List Char :=
  match c with
  | '\x08' => ['\\', 'b']
  | '\t' => ['\\', 't']
  | '\n' => ['\\', 'n']
  | '\x0c' => ['\\', 'f']
  | '\r' => ['\\', 'r']
  | '"' => ['\\', '"']
  | '\\' => ['\\', '\\']
  | c => if needsEscape c then '\\' :: 'u' :: codeDigits c.toNat else [c]

/--
How a text is written between triple double quotes, behind a number of double
quotes: a line break stands for itself, and so does a double quote unless two
others precede it.
-/
def escapeLong (quotes : Nat) : List Char -> List Char
  | [] => []
  | '\n' :: rest => '\n' :: escapeLong 0 rest
  | '"' :: rest =>
      if quotes < 2 then '"' :: escapeLong (quotes + 1) rest
      else '\\' :: '"' :: escapeLong 0 rest
  | c :: rest => escape c ++ escapeLong 0 rest

/-- The ways to write a text. -/
inductive QuoteStyle where
  | basic
  | literal
  | longBasic
  | longLiteral
  deriving DecidableEq, Repr

/--
The way to write a text in which the fewest characters need an escape: the first
one without any, or else double quotes, three of them if the text has line
breaks.
-/
def QuoteStyle.of (text : List Char) : QuoteStyle :=
  let escapes := text.any needsEscape
  let backslash := text.contains '\\'
  let lines := text.contains '\n'
  let double := longestRun '"' 0 text
  let single := longestRun '\'' 0 text
  if !escapes && !backslash && double = 0 && !lines then .basic
  else if !escapes && single = 0 && !lines then .literal
  else if !escapes && !backslash && double ≤ 2 then .longBasic
  else if !escapes && single ≤ 2 then .longLiteral
  else if lines then .longBasic
  else .basic

/-- The line break behind opening triple quotes, which a text with line breaks
gets. -/
def leadingBreak (text : List Char) : List Char :=
  if text.contains '\n' then ['\n'] else []

/-- A text in quotes. -/
def quote (text : List Char) : List Char :=
  match QuoteStyle.of text with
  | .basic => '"' :: text.flatMap escape ++ ['"']
  | .literal => '\'' :: text ++ ['\'']
  | .longBasic =>
      '"' :: '"' :: '"' :: leadingBreak text ++ escapeLong 0 text ++
        ['"', '"', '"']
  | .longLiteral =>
      '\'' :: '\'' :: '\'' :: leadingBreak text ++ text ++ ['\'', '\'', '\'']

end Toml
end MailSearch
