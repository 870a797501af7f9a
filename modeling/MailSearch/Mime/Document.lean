import MailSearch.Mime.Flow
import MailSearch.Mime.HeaderBlock
import MailSearch.Mime.Html
import MailSearch.Mime.Traversal

/-!
# Raw messages

What a raw message holds for a search: its header fields, its body as plain text
and as HTML, its attachments, and the text of those attachments that are text.
-/

namespace MailSearch
namespace Mime

namespace Part

/-- Whether a part that has a content type is text, and not HTML. -/
def isPlain (part : Part) : Bool :=
  match part.header.contentType with
  | none => true
  | some field => field.hasType "text" && !field.hasSubType "html"

/-- The part as plain text. -/
def plain? (part : Part) : Option String :=
  match part.content with
  | .text chars => some (String.ofList chars)
  | .html chars => some (String.ofList (Flow.ofHtml chars))
  | .binary _ => none

/-- The part as HTML. -/
def html? (part : Part) : Option String :=
  match part.content with
  | .text chars => some (String.ofList (Flow.toHtml chars))
  | .html chars => some (String.ofList chars)
  | .binary _ => none

/-- The name of an attached part: that of the file, or else that of the
content. -/
def attachmentName (part : Part) : String :=
  let fileName := part.header.disposition.bind fun field =>
    field.parameter? "filename"
  let contentName := part.header.contentType.bind fun field =>
    field.parameter? "name"
  String.ofList ((fileName.or contentName).getD [])

/-- What a search sees of an attached part. -/
def attachment (part : Part) : Attachment where
  filename := part.attachmentName
  contentType :=
    match part.header.contentType with
    | some field => String.ofList field.mediaType
    | none => "application/octet-stream"
  size := part.content.size
  isInline := part.header.disposition.any fun field => field.hasType "inline"

/--
The text of an attached part that its content type calls text, if it is one;
that of HTML is its plain text.
-/
def attachedText (part : Part) : Attempt (Option String) :=
  match part.header.contentType with
  | none => some none
  | some field =>
      if !field.hasType "text" then some none
      else
        match part.content with
        | .binary _ => some none
        | .text chars | .html chars =>
            if field.hasSubType "html" then
              (Html.plainChars chars).map fun plain =>
                some (String.ofList plain)
            else some (some (String.ofList chars))

end Part

/-- What a raw message holds for a search. -/
structure Document where
  /-- The header fields in order. -/
  headers : List HeaderField
  /-- The readable parts. -/
  body : Body
  /-- The attached parts. -/
  attachments : List Attachment
  /-- The text of the attached parts that are text. -/
  attachmentText : List String
  /-- The number of bytes. -/
  size : Nat

/-- The fields in front of the first blank line; all of it when there is
none. -/
def HeaderBlock.ofMessage (message : List UInt8) : List HeaderField :=
  ofBytes (message.take ((end? message).getD message.length))

/-- What a divided message holds, of which the raw message is given. -/
def Division.document (division : Division) (raw : List UInt8) :
    Attempt Document := do
  let texts := division.text.reverse
  let attached := division.attached.reverse
  let attachmentText ← attached.mapM Part.attachedText
  return {
    headers := HeaderBlock.ofMessage (HeaderBlock.dropMark raw)
    body :=
      { text :=
          if texts.any Part.isPlain then texts.head?.bind Part.plain? else none
        html := division.html.reverse.head?.bind Part.html? }
    attachments := attached.map Part.attachment
    attachmentText := attachmentText.filterMap id
    size := raw.length }

/-- Take a raw message apart; `none` if nothing stands in it. -/
def Document.ofBytes? (raw : List UInt8) : Option (Attempt Document) :=
  (Division.ofBytes? (HeaderBlock.dropMark raw)).map fun division =>
    division.document raw

end Mime
end MailSearch
