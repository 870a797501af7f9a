import MailSearch.Text.Base64
import MailSearch.Text.Charset.Utf16

/-!
# UTF-7

Bytes that stand for themselves, and between a plus sign and a hyphen UTF-16 in
base 64.
-/

namespace MailSearch
namespace Text
namespace Charset

/-- A blank or a line end, which has no meaning between a plus sign and a
hyphen. -/
def isUtf7Gap (byte : UInt8) : Bool :=
  byte == 0x20 || byte == 0x09 || byte == 0x0D || byte == 0x0A

/--
The characters of a finished passage in base 64; an empty one stands for the
signs around it.
-/
def utf7Passage (reading : Base64.Reading) : List Char :=
  let bytes := reading.flush.bytes
  if bytes.isEmpty then ['+', '-'] else decodeUnits16 (units16 true bytes)

/--
Read bytes in UTF-7; `passage` is what was read behind a plus sign.  A passage
that does not end, or that holds anything but base 64, is lost.
-/
def readUtf7 (passage : Option Base64.Reading) : List UInt8 -> List Char
  | [] => []
  | byte :: rest =>
      match passage with
      | none =>
          if byte = 0x2B then readUtf7 (some .empty) rest
          else Char.ofNat byte.toNat :: readUtf7 none rest
      | some reading =>
          if byte = 0x2D then utf7Passage reading ++ readUtf7 none rest
          else if isUtf7Gap byte then readUtf7 passage rest
          else readUtf7 (reading.step? byte) rest

/-- Read bytes in UTF-7. -/
def decodeUtf7 (bytes : List UInt8) : List Char :=
  readUtf7 none bytes

end Charset
end Text
end MailSearch
