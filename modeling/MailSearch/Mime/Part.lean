import MailSearch.Mime.ContentField
import MailSearch.Mime.Fields

/-!
# Parts of a message

What kind of part the fields of a part announce, what a part holds once it is
read, and how the parts of a message are divided: some form its plain text, some
its HTML, and some are attached to it.
-/

namespace MailSearch
namespace Mime

/-! ## Kinds -/

/-- How the parts of a container relate to each other. -/
inductive Container where
  /-- They follow each other; a message is such a container too. -/
  | mixed
  /-- They say the same in different forms. -/
  | alternative
  /-- They are used by the first of them. -/
  | related
  /-- They are messages. -/
  | digest
  deriving DecidableEq

/-- What the fields of a part announce. -/
inductive PartKind where
  /-- Further parts. -/
  | container (container : Container)
  /-- Plain text. -/
  | plain
  /-- HTML. -/
  | html
  /-- Text of another kind. -/
  | otherText
  /-- An image, a sound or a film. -/
  | media
  /-- A message. -/
  | message
  /-- Anything else. -/
  | other
  deriving DecidableEq

namespace PartKind

/-- The container of a subtype. -/
def ofContainer (field : ContentField) : Container :=
  if field.hasSubType "alternative" then .alternative
  else if field.hasSubType "related" then .related
  else if field.hasSubType "digest" then .digest
  else .mixed

/-- The kind of a part inside a container, by its content type if it has one. -/
def ofField (outer : Container) : Option ContentField -> PartKind
  | none => if outer = .digest then .message else .plain
  | some field =>
      if field.hasType "multipart" then .container (ofContainer field)
      else if field.hasType "text" then
        if field.hasSubType "plain" then .plain
        else if field.hasSubType "html" then .html
        else .otherText
      else if field.hasType "image" || field.hasType "audio" ||
        field.hasType "video" then .media
      else if field.hasType "message" &&
          (field.hasSubType "rfc822" || field.hasSubType "global") then .message
      else .other

/-- Whether a part of this kind is text. -/
def isText : PartKind -> Bool
  | .plain => true
  | .html => true
  | .otherText => true
  | .container _ => false
  | .media => false
  | .message => false
  | .other => false

/-- Whether a part of this kind can be shown within the body. -/
def isShowable : PartKind -> Bool
  | .plain => true
  | .html => true
  | .media => true
  | .otherText => false
  | .container _ => false
  | .message => false
  | .other => false

end PartKind

/-! ## Parts -/

/-- What a part holds, decoded. -/
inductive Content where
  /-- Text that is not HTML. -/
  | text (chars : List Char)
  /-- HTML. -/
  | html (chars : List Char)
  /-- Bytes. -/
  | binary (bytes : List UInt8)

/-- The number of bytes. -/
def Content.size : Content -> Nat
  | .text chars => Text.Utf8.size chars
  | .html chars => Text.Utf8.size chars
  | .binary bytes => bytes.length

/-- What the fields of a part say about it. -/
structure PartHeader where
  /-- The content type. -/
  contentType : Option ContentField
  /-- How the part is to be shown. -/
  disposition : Option ContentField
  /-- How the part is encoded. -/
  transfer : Transfer

namespace PartHeader

/-- The content field with a name. -/
def contentField? (name : String) (fields : List Field) : Option ContentField :=
  (Field.last? name fields).bind ContentField.ofBytes?

/-- The transfer encoding that a value names. -/
def transferOf (value : List UInt8) : Transfer :=
  let name :=
    Text.asciiLowercase
      (String.ofList ((EncodedWord.decodeValue? value).getD []))
  if name = "base64" then .base64
  else if name = "quoted-printable" then .quotedPrintable
  else .none

/-- Read the fields of a part. -/
def ofFields (fields : List Field) : PartHeader :=
  ⟨contentField? "content-type" fields,
    contentField? "content-disposition" fields,
    transferOf ((Field.last? "content-transfer-encoding" fields).getD [])⟩

/-- The bytes of the parameter that names the boundary between parts. -/
def boundary? (header : PartHeader) : Option (List UInt8) :=
  (header.contentType.bind fun field => field.parameter? "boundary").map
    Text.Utf8.encode

/-- The text of decoded bytes. -/
def textOf (header : PartHeader) (bytes : List UInt8) : List Char :=
  let charset := header.contentType.bind fun field => field.parameter? "charset"
  (Text.Charset.ofLabel (Text.Utf8.encode (charset.getD []))).decode bytes

/-- Whether the part says that it is to be kept apart from the body. -/
def isDetached (header : PartHeader) : Bool :=
  header.disposition.any fun field => field.hasType "attachment"

/-- Whether the content type gives the part a name. -/
def isNamed (header : PartHeader) : Bool :=
  header.contentType.any fun field => (field.parameter? "name").isSome

end PartHeader

/-- A part of a message. -/
structure Part where
  /-- What its fields say. -/
  header : PartHeader
  /-- What it holds. -/
  content : Content

/-! ## Division -/

/-- The parts of a message; a part may have several uses. -/
structure Division where
  /-- The parts of the plain text, last first. -/
  text : List Part
  /-- The parts of the HTML, last first. -/
  html : List Part
  /-- The attached parts, last first. -/
  attached : List Part

namespace Division

/-- The division of a message without parts. -/
def empty : Division :=
  ⟨[], [], []⟩

/-- Attach a part. -/
def attach (division : Division) (part : Part) : Division :=
  { division with attached := part :: division.attached }

/-- Add a part to the body where it is asked for. -/
def addBody (division : Division) (part : Part) (toText toHtml : Bool) :
    Division :=
  { division with
    text := if toText then part :: division.text else division.text
    html := if toHtml then part :: division.html else division.html }

/--
Let a single form of a body stand for both.  `texts` and `htmls` count the parts
that came before the alternatives; `htmls` says for both forms from where on the
parts are shared.
-/
def shareAlternative (division : Division) (texts htmls : Nat) : Division :=
  let newHtmls := division.html.take (division.html.length - htmls)
  if division.text.length = texts then
    { division with text := newHtmls ++ division.text }
  else if newHtmls.isEmpty then
    let shared := division.text.take (division.text.length - htmls)
    { division with html := shared ++ division.html }
  else division

end Division
end Mime
end MailSearch
