import MailSearch.Text.Base64
import MailSearch.Text.Hex

/-!
# Transfer encodings

Base 64 and quoted-printable, in which bodies travel as printable ASCII.  A body
is read up to the end of the text, or up to a delimiter, which takes the line
break in front of it away.
-/

namespace MailSearch
namespace Mime

/-- The value of a hexadecimal digit given as a byte. -/
def hexValue? (byte : UInt8) : Option Nat :=
  Text.hexDigit? (Char.ofNat byte.toNat)

/-- A byte of ASCII. -/
def ascii (c : Char) : UInt8 :=
  c.toNat.toUInt8

/-- Whether a byte is a blank or a horizontal tab, with which a line continues
the one before. -/
def isFold (byte : UInt8) : Bool :=
  byte == ascii ' ' || byte == ascii '\t'

/-- Whether a byte separates lines or words. -/
def isLineSpace (byte : UInt8) : Bool :=
  isFold byte || byte == ascii '\r' || byte == ascii '\n'

/-- Whether a byte is a blank of ASCII. -/
def isSpace (byte : UInt8) : Bool :=
  isLineSpace byte || byte == 0x0C

/-- Drop the line break at the end. -/
def dropLineBreak (bytes : List UInt8) : List UInt8 :=
  match bytes.reverse with
  | last :: rest =>
      if last = ascii '\n' then
        match rest with
        | before :: others =>
            if before = ascii '\r' then others.reverse
              else (before :: others).reverse
        | [] => []
      else bytes
  | [] => []

/-! ## Base 64 -/

/-- Whether a byte has no meaning in a body in base 64: blanks, line ends and
hyphens. -/
def passesBase64 (byte : UInt8) : Bool :=
  isLineSpace byte || byte == ascii '-'

/-- Decode a body in base 64. -/
def decodeBase64? (bytes : List UInt8) : Option (List UInt8) :=
  (Text.Base64.readFrom? passesBase64 .empty bytes).map
    Text.Base64.Reading.bytes

/-! ## Quoted-printable -/

/-- What a reader of quoted-printable has just read. -/
inductive QuotedState where
  /-- An ordinary byte. -/
  | plain
  /-- An equals sign. -/
  | equals
  /-- An equals sign and the first of two hexadecimal digits. -/
  | digit (high : Nat)
  deriving DecidableEq

/-- A body in quoted-printable read up to some byte. -/
structure QuotedText where
  /-- What was read last. -/
  state : QuotedState
  /-- The decoded bytes in reverse. -/
  reversed : List UInt8
  /-- The number of blanks at the end that were written as such. -/
  blanks : Nat
  /-- Whether a carriage return was read; from then on, it is part of every line
  end. -/
  returns : Bool

namespace QuotedText

/-- The state before the first byte. -/
def empty : QuotedText :=
  ⟨.plain, [], 0, false⟩

/-- A line end, in reverse. -/
def lineEnd (text : QuotedText) : List UInt8 :=
  if text.returns then [ascii '\n', ascii '\r'] else [ascii '\n']

/-- End a line; blanks before the end do not count. -/
def endLine (text : QuotedText) : QuotedText :=
  { text with
    reversed := text.lineEnd ++ text.reversed.drop text.blanks, blanks := 0 }

/-- Append a byte that stands for itself. -/
def push (text : QuotedText) (byte : UInt8) : QuotedText :=
  { text with
    reversed := byte :: text.reversed
    blanks := if isSpace byte then text.blanks + 1 else 0 }

/--
Read one byte.  An equals sign and two hexadecimal digits are one byte, and an
equals sign at the end of a line, perhaps with blanks between, joins it to the
next one; nothing else may follow an equals sign.
-/
def step? (text : QuotedText) (byte : UInt8) : Option QuotedText :=
  if byte = ascii '=' then
    if text.state = .plain then some { text with state := .equals } else none
  else if byte = ascii '\n' then
    some (if text.state = .equals then { text with state := .plain }
      else text.endLine)
  else if byte = ascii '\r' then some { text with returns := true }
  else
    match text.state with
    | .plain => some (text.push byte)
    | .equals =>
        match hexValue? byte with
        | some high => some { text with state := .digit high }
        | none => if isSpace byte then some text else none
    | .digit high =>
        (hexValue? byte).map fun low =>
          { text with
            state := .plain
            reversed := (high * 16 + low).toUInt8 :: text.reversed
            blanks := 0 }

/-- The decoded bytes. -/
def bytes (text : QuotedText) : List UInt8 :=
  text.reversed.reverse

/--
The decoded bytes in front of a delimiter.  The delimiter may not complete what
was begun, and at the start of a line it takes as many bytes away as a line end
has, whatever they are.
-/
def bytesBefore? (text : QuotedText) (startsLine : Bool) :
    Option (List UInt8) :=
  if text.state ≠ .plain then none
  else if startsLine then some (text.reversed.drop text.lineEnd.length).reverse
  else some text.bytes

end QuotedText

/-- Read a text in quoted-printable. -/
def readQuoted? (bytes : List UInt8) : Option QuotedText :=
  bytes.foldlM QuotedText.step? QuotedText.empty

/-! ## Encodings of a body -/

/-- How a body is encoded. -/
inductive Transfer where
  /-- As it is. -/
  | none
  /-- In base 64. -/
  | base64
  /-- In quoted-printable. -/
  | quotedPrintable
  deriving DecidableEq

/-- Decode a body that goes on to the end of the text. -/
def Transfer.decode? : Transfer -> List UInt8 -> Option (List UInt8)
  | .none, bytes => some bytes
  | .base64, bytes => decodeBase64? bytes
  | .quotedPrintable, bytes => (readQuoted? bytes).map QuotedText.bytes

/-- Decode what stands in front of a delimiter. -/
def Transfer.decodeBefore? : Transfer -> List UInt8 -> Option (List UInt8)
  | .none, bytes => some (dropLineBreak bytes)
  | .base64, bytes => decodeBase64? bytes
  | .quotedPrintable, bytes =>
      (readQuoted? bytes).bind fun text =>
        text.bytesBefore? (bytes.getLast? == some (ascii '\n'))

end Mime
end MailSearch
