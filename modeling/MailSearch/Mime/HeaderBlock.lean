import MailSearch.Mail.Message
import MailSearch.Mime.Fields

/-!
# Header blocks

The header of a message as its readers see it: names in their own spelling,
values unfolded into one line with their encoded words decoded, in order.  The
block ends before the first blank line.
-/

namespace MailSearch
namespace Mime

/-! ## Encoded words in a text -/

/-- The opening of an encoded word. -/
def wordOpening : List Char := ['=', '?']

/--
Decode the encoded words in a text.  The text is read as the value of a subject
field; a text without encoded words, or one that holds no value, stays as it is.
-/
def decodeWords (text : List Char) : List Char :=
  if Text.occursIn wordOpening text then
    let field := Text.Utf8.bytes "Subject: " ++ Text.Utf8.encode text ++
      Text.Utf8.bytes "\r\n\r\n"
    ((Field.last? "subject" (Field.readAll field).1).bind
      EncodedWord.decodeValue?).getD text
  else text

/-! ## Blocks -/

namespace HeaderBlock

/-- Drop the mark of UTF-8 at the front. -/
def dropMark (bytes : List UInt8) : List UInt8 :=
  (Text.Charset.dropUtf8Mark? bytes).getD bytes

/--
The text of a block: UTF-8, or else what a mark at its front names, or else
Windows-1252, which reads every byte.
-/
def textOf (bytes : List UInt8) : List Char :=
  let bytes := dropMark bytes
  (Text.Utf8.decode? bytes).getD
    ((Text.Charset.marked
        (.table (Text.Charset.passUndefined Text.Charset.windows1252))).decode
      bytes)

/-- Whether a line continues the one before. -/
def isContinuation : List Char -> Bool
  | ' ' :: _ => true
  | '\t' :: _ => true
  | _ => false

/-- A name and a value of characters. -/
abbrev RawField := List Char × List Char

/-- Append a trimmed line to the value of the first field of a list. -/
def extendFirst (line : List Char) : List RawField -> List RawField
  | [] => []
  | (name, value) :: rest => (name, value ++ ' ' :: Text.trim line) :: rest

/-- Add a line to the fields read so far, last first. -/
def addLine (fields : List RawField) (line : List Char) : List RawField :=
  if isContinuation line then extendFirst line fields
  else
    match Text.cutFirst ':' line with
    | none => fields
    | some (name, value) =>
        if (Text.trim name).isEmpty then fields
        else (Text.trim name, Text.trim value) :: fields

/-- The fields of a block, unfolded. -/
def unfolded (text : List Char) : List RawField :=
  ((Text.lines text).foldl addLine []).reverse

/-- The fields of a block, with their encoded words decoded. -/
def ofBytes (bytes : List UInt8) : List HeaderField :=
  (unfolded (textOf bytes)).map fun (name, value) =>
    (String.ofList name, String.ofList (decodeWords value))

/-- Whether a blank line begins at the end of a field. -/
def isEnd (bytes : List UInt8) : Bool :=
  (Text.Utf8.bytes "\n\n").isPrefixOf bytes ||
    (Text.Utf8.bytes "\r\n\r\n").isPrefixOf bytes

/-- The number of bytes before the first blank line, if there is one. -/
def end? : List UInt8 -> Option Nat
  | [] => none
  | byte :: rest =>
      if isEnd (byte :: rest) then some 0 else (end? rest).map (· + 1)

end HeaderBlock
end Mime
end MailSearch
