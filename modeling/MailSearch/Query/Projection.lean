import MailSearch.Mime.Html
import MailSearch.Query.Predicate
import MailSearch.Query.Property

/-!
# Projections

The part of a candidate that a client is shown, property by property.  A
projection tells of the visible mailboxes of a message only.  A body whose HTML
has no plain text cannot be shown as text.
-/

namespace MailSearch
namespace Query
namespace Projection

/-- An address as a client is shown it. -/
def address (address : Address) : Json :=
  .obj [("email", .str address.email), ("name", .str address.name)]

/-- The addresses of all fields with a name. -/
def addresses (message : Message) (name : String) : Json :=
  .arr ((message.addresses name).map address)

/-- The first address of the fields with a name. -/
def firstAddress (message : Message) (name : String) : Json :=
  Json.optional address (message.addresses name).head?

/-- A message identifier without the angle brackets around it. -/
def bareMessageId (text : String) : String :=
  let inner := (Text.trim text.toList).dropWhile (· == '<')
  String.ofList (inner.reverse.dropWhile (· == '>')).reverse

/-- An attached part as a client is shown it. -/
def attachment (attachment : Attachment) : Json :=
  .obj [("isInline", .bool attachment.isInline),
    ("name", .str attachment.filename), ("size", .nat attachment.size),
    ("type", .str attachment.contentType)]

/-- The text of a body, if it has any: its plain text, or else that of its
HTML. -/
def textBody (body : Body) : Attempt (Option String) :=
  match body.text, body.html with
  | some text, _ => some (some text)
  | none, some html => (Html.plainText html).map some
  | none, none => some none

/-- The first characters of a text, with single blanks between its words. -/
def abridge (length : Nat) (text : String) : String :=
  String.ofList ((Text.joinWith [' '] (Text.words text.toList)).take length)

/-- The first characters of the text of a body, with single blanks between its
words. -/
def preview (length : Nat) (body : Body) : Attempt String :=
  (textBody body).map fun text => abridge length (text.getD "")

/-- Add a header field, unless there is one of the same name in any letter
case. -/
def addHeader (shown : IdMap String) (field : HeaderField) : IdMap String :=
  if shown.keys.any fun name => Text.sameAscii name field.1 then shown
  else shown.insert field.1 field.2

/-- The first of the header fields of each name. -/
def firstHeaders (fields : List HeaderField) : IdMap String :=
  fields.foldl addHeader .empty

/-- The header fields that are selected. -/
def selectedHeaders (selection : Selection) (fields : List HeaderField) :
    IdMap String :=
  firstHeaders <| fields.filter fun field =>
    selection.contains .headers ||
      selection.headerNames.contains (Text.asciiLowercase field.1)

/-- Texts by name as a client is shown them. -/
def texts (map : IdMap String) : Json :=
  .obj (map.entries.map fun entry => (entry.1, .str entry.2))

/-- What a client is shown of one property. -/
def value (candidate : Candidate) (previewLength : Nat) (property : Property) :
    Attempt Json := do
  let message := candidate.message
  match property with
  | .id => return .str message.id
  | .blobId => return .str message.blobId
  | .threadId => return .str message.threadId
  | .mailboxIds => return Json.strings candidate.mailboxes.ids
  | .inReplyToMessageId =>
      return Json.optional
        (fun text => .str (bareMessageId text)) (message.header? "in-reply-to")
  | .isUnread => return .bool (Flag.unread.isSet message.keywords)
  | .isFlagged => return .bool (Flag.flagged.isSet message.keywords)
  | .isAnswered => return .bool (Flag.answered.isSet message.keywords)
  | .isDraft => return .bool (Flag.draft.isSet message.keywords)
  | .isForwarded => return .bool (Flag.forwarded.isSet message.keywords)
  | .hasAttachment => return .bool message.hasAttachment
  | .keywords =>
      let marks : IdMap Bool :=
        .ofList (message.keywords.names.map fun name => (name, true))
      return .obj (marks.entries.map fun entry => (entry.1, .bool entry.2))
  | .headers => return texts (firstHeaders message.headers)
  | .sender => return firstAddress message "from"
  | .recipient => return addresses message "to"
  | .copy => return addresses message "cc"
  | .blindCopy => return addresses message "bcc"
  | .replyTo => return addresses message "reply-to"
  | .subject => return .str message.subject
  | .date => return .str message.sentAt.wholeSecondText
  | .size => return .nat message.size
  | .preview => return .str (← preview previewLength message.body)
  | .textBody => return Json.optional .str (← textBody message.body)
  | .htmlBody => return Json.optional .str message.body.html
  | .attachments => return .arr (message.attachments.map attachment)

/-- The selected properties of a candidate, header fields apart. -/
def properties (candidate : Candidate) (selection : Selection)
    (previewLength : Nat) :
    Attempt (List (String × Json)) :=
  (selection.properties.filter (· != .headers)).mapM fun property =>
    (value candidate previewLength property).map fun shown =>
      (property.name, shown)

/-- The header fields of a candidate, if any are selected. -/
def headers (candidate : Candidate) (selection : Selection) :
    List (String × Json) :=
  if selection.hasHeaders then
    [(Property.headers.name,
      texts (selectedHeaders selection candidate.message.headers))]
  else []

end Projection

/-- What a client is shown of a candidate. -/
def project (candidate : Candidate) (selection : Selection)
    (previewLength : Nat) :
    Attempt (IdMap Json) :=
  (Projection.properties candidate selection previewLength).map fun shown =>
    .ofList (shown ++ Projection.headers candidate selection)

end Query
end MailSearch
