import MailSearch.Calendar.Internet
import MailSearch.Data.IdMap
import MailSearch.Json.Decode
import MailSearch.Json.Reader
import MailSearch.Mime.Document
import MailSearch.Query.Error
import MailSearch.Store.Account

/-!
# Snapshots

A snapshot is a text that describes an account: its owner, its mailboxes and its
messages.  The content of a message stands in the snapshot itself or in a file
of its own.  Members are decoded in the order in which they stand in the text.
-/

namespace MailSearch
namespace Store

/-- An attached part as a snapshot describes it. -/
structure DescribedAttachment where
  /-- What a search sees of the part. -/
  attachment : Attachment
  /-- The text of the part, if it is given. -/
  text : Option String
  deriving DecidableEq

namespace DescribedAttachment

/-- The members of an attached part, its text apart, as far as they were
read. -/
structure Members where
  filename : Option String
  contentType : Option String
  size : Option Nat
  isInline : Option Bool

/-- Read one member; unknown ones do not count. -/
def read (members : Members) (name : String) (value : Json) :
    Json.Decoded Members :=
  match name with
  | "filename" => (Json.once name members.filename Json.string value).map
      fun given => { members with filename := given }
  | "contentType" => (Json.once name members.contentType Json.string value).map
      fun given => { members with contentType := given }
  | "size" => (Json.once name members.size Json.unsigned value).map
      fun given => { members with size := given }
  | "isInline" => (Json.once name members.isInline Json.boolean value).map
      fun given => { members with isInline := given }
  | _ => .ok members

/-- Read the text, if the member holds it. -/
def readText (found : Option (Option String)) (name : String) (value : Json) :
    Json.Decoded (Option (Option String)) :=
  match name with
  | "text" => Json.once name found (Json.nullable Json.string) value
  | _ => .ok found

/--
Decode an attached part: its text first, then all that a search sees of it.  All
members must be readable, unknown ones too.
-/
def decode : Json -> Json.Decoded DescribedAttachment
  | .obj members => do
      if !Json.membersReadable members then throw (.refused "unreadable value")
      let text ← members.foldlM
          (fun found member => readText found member.1 member.2) none
      let seen ← members.foldlM
          (fun found member => read found member.1 member.2)
        ⟨none, none, none, none⟩
      return {
        attachment :=
          { filename := seen.filename.getD ""
            contentType := seen.contentType.getD "application/octet-stream"
            size := seen.size.getD 0
            isInline := seen.isInline.getD false }
        text := text.join }
  | other => .error (.invalidType other "struct SnapshotAttachment")

end DescribedAttachment

/-- A message as a snapshot describes it. -/
structure DescribedMessage where
  /-- The identifier. -/
  id : String
  /-- The identifier of the conversation; that of the message if there is
  none. -/
  threadId : Option String
  /-- The identifier of the raw content; that of the message if there is
  none. -/
  blobId : Option String
  /-- The mailboxes that hold the message. -/
  mailboxIds : IdSet
  /-- The marks. -/
  keywords : KeywordSet
  /-- When the message was delivered. -/
  receivedAt : Calendar.Instant
  /-- The number of bytes, if it is given. -/
  size : Option Nat
  /-- The path of the file that holds the content, relative to the snapshot. -/
  file : Option String
  /-- The values of the header fields by name. -/
  headers : IdMap (List String)
  /-- The plain text. -/
  textBody : Option String
  /-- The HTML. -/
  htmlBody : Option String
  /-- The attached parts. -/
  attachments : List DescribedAttachment

namespace DescribedMessage

/-- Decode the keywords of a message. -/
def keywordsOf (value : Json) : Json.Decoded KeywordSet := do
  let keywords ← Json.list (fun item => do
    let name ← Json.string item
    match Keyword.ofName? name with
    | some keyword => return keyword
    | none => throw (.refused (Query.Invalid.keyword name).message)) value
  return .ofListFirst keywords

/-- Decode a date. -/
def dateOf : Json -> Json.Decoded Calendar.Instant
  | .str text =>
      match Calendar.ofRelaxed text.toList with
      | .ok instant => .ok instant
      | .error error => .error (.refused error.message)
  | other =>
      .error (.invalidType other "an RFC 3339 formatted date and time string")

/-- Decode a path. -/
def pathOf : Json -> Json.Decoded String
  | .str path => .ok path
  | other => .error (.invalidType other "path string")

/-- The text of a value that is a text. -/
def text? : Json -> Option String
  | .str value => some value
  | _ => none

/-- Decode the values of one header field: a text or a list of texts. -/
def headerValuesOf (value : Json) : Json.Decoded (List String) :=
  let values :=
    match value with
    | .str single => some [single]
    | .arr items => items.mapM text?
    | _ => none
  match values with
  | some values => .ok values
  | none => .error (.noVariant "HeaderValue")

/-- Decode header fields; of a repeated name the last values count. -/
def headersOf : Json -> Json.Decoded (IdMap (List String))
  | .obj members => do
      let entries ← members.mapM fun member => do
        return (member.1, ← headerValuesOf member.2)
      return .ofList entries
  | other => .error (.invalidType other "a map")

/-- The members of a message as far as they were read. -/
structure Members where
  id : Option String
  threadId : Option (Option String)
  blobId : Option (Option String)
  mailboxIds : Option (List String)
  keywords : Option KeywordSet
  receivedAt : Option Calendar.Instant
  size : Option (Option Nat)
  file : Option (Option String)
  headers : Option (IdMap (List String))
  textBody : Option (Option String)
  htmlBody : Option (Option String)
  attachments : Option (List DescribedAttachment)

/-- No member. -/
def Members.empty : Members :=
  ⟨none, none, none, none, none, none, none, none, none, none, none, none⟩

/-- The layout of a message. -/
def layout : Json.Layout where
  name := "SnapshotMessage"
  fields :=
    [("id", false), ("threadId", true), ("blobId", true), ("mailboxIds", false),
      ("keywords", true), ("receivedAt", false), ("size", true), ("eml", true),
      ("headers", true), ("textBody", true), ("htmlBody", true),
        ("attachments", true)]
  counted := false

/-- Read one member; unknown ones do not count. -/
def read (members : Members) (name : String) (value : Json) :
    Json.Decoded Members :=
  match name with
  | "id" => (Json.once name members.id Json.string value).map
      fun given => { members with id := given }
  | "threadId" =>
      (Json.once name members.threadId (Json.nullable Json.string) value).map
      fun given => { members with threadId := given }
  | "blobId" =>
      (Json.once name members.blobId (Json.nullable Json.string) value).map
      fun given => { members with blobId := given }
  | "mailboxIds" =>
      (Json.once name members.mailboxIds (Json.list Json.string) value).map
      fun given => { members with mailboxIds := given }
  | "keywords" => (Json.once name members.keywords keywordsOf value).map
      fun given => { members with keywords := given }
  | "receivedAt" => (Json.once name members.receivedAt dateOf value).map
      fun given => { members with receivedAt := given }
  | "size" =>
      (Json.once name members.size (Json.nullable Json.unsigned) value).map
      fun given => { members with size := given }
  | "eml" => (Json.once name members.file (Json.nullable pathOf) value).map
      fun given => { members with file := given }
  | "headers" => (Json.once name members.headers headersOf value).map
      fun given => { members with headers := given }
  | "textBody" =>
      (Json.once name members.textBody (Json.nullable Json.string) value).map
      fun given => { members with textBody := given }
  | "htmlBody" =>
      (Json.once name members.htmlBody (Json.nullable Json.string) value).map
      fun given => { members with htmlBody := given }
  | "attachments" =>
      (Json.once name members.attachments (Json.list DescribedAttachment.decode)
          value).map
        fun given => { members with attachments := given }
  | _ => .ok members

/-- Decode a message. -/
def decode (value : Json) : Json.Decoded DescribedMessage := do
  let members ← Json.record layout read Members.empty value
  let id ← Json.required "id" members.id
  let mailboxIds ← Json.required "mailboxIds" members.mailboxIds
  let receivedAt ← Json.required "receivedAt" members.receivedAt
  return {
    id := id
    threadId := members.threadId.join
    blobId := members.blobId.join
    mailboxIds := .ofList mailboxIds
    keywords := members.keywords.getD .empty
    receivedAt := receivedAt
    size := members.size.join
    file := members.file.join
    headers := members.headers.getD .empty
    textBody := members.textBody.join
    htmlBody := members.htmlBody.join
    attachments := members.attachments.getD [] }

/-- The header fields that stand in the snapshot, by ascending names. -/
def fields (message : DescribedMessage) : List HeaderField :=
  message.headers.entries.flatMap fun entry => entry.2.map fun value =>
    (entry.1, value)

/-- The number of bytes that a header field counts for, with its colon, blank
and line end. -/
def fieldSize (field : HeaderField) : Nat :=
  field.1.utf8ByteSize + field.2.utf8ByteSize + 4

/-- The number of bytes of a text that may be absent. -/
def textSize (text : Option String) : Nat :=
  (text.map String.utf8ByteSize).getD 0

/-- The number of bytes that the content in the snapshot counts for, within 64
bits. -/
def contentSize (message : DescribedMessage) : Nat :=
  ((message.fields.map fieldSize).foldl (· + ·) 0 + textSize message.textBody +
    textSize message.htmlBody +
    (message.attachments.map fun part => part.attachment.size).foldl
        (· + ·) 0) %
      0x10000000000000000

/-- The content that stands in the snapshot itself. -/
def content (message : DescribedMessage) : Mime.Document where
  headers := message.fields
  body := ⟨message.textBody, message.htmlBody⟩
  attachments := message.attachments.map DescribedAttachment.attachment
  attachmentText := message.attachments.filterMap DescribedAttachment.text
  size := message.contentSize

/-- The message with a content. -/
def withContent (message : DescribedMessage) (content : Mime.Document) :
    Message where
  id := message.id
  threadId := message.threadId.getD message.id
  blobId := message.blobId.getD message.id
  mailboxIds := message.mailboxIds
  keywords := message.keywords
  headers := content.headers
  size := message.size.getD content.size
  receivedAt := message.receivedAt
  attachments := content.attachments
  body := content.body

end DescribedMessage

namespace Mailbox

/-- The members of a mailbox as far as they were read. -/
structure Members where
  id : Option String
  name : Option String
  readable : Option Bool
  sharedWith : Option (List String)

/-- The layout of a mailbox. -/
def layout : Json.Layout where
  name := "SnapshotMailbox"
  fields :=
    [("id", false), ("name", true), ("readable", true), ("sharedWith", true)]
  counted := false

/-- Read one member; unknown ones do not count. -/
def read (members : Members) (name : String) (value : Json) :
    Json.Decoded Members :=
  match name with
  | "id" => (Json.once name members.id Json.string value).map
      fun given => { members with id := given }
  | "name" => (Json.once name members.name Json.string value).map
      fun given => { members with name := given }
  | "readable" => (Json.once name members.readable Json.boolean value).map
      fun given => { members with readable := given }
  | "sharedWith" =>
      (Json.once name members.sharedWith (Json.list Json.string) value).map
      fun given => { members with sharedWith := given }
  | _ => .ok members

/-- Decode a mailbox; the owner may read it unless it says otherwise. -/
def decode (value : Json) : Json.Decoded Mailbox := do
  let members ← Json.record layout read ⟨none, none, none, none⟩ value
  let id ← Json.required "id" members.id
  return ⟨id, members.name.getD "", members.readable.getD true,
    members.sharedWith.getD []⟩

end Mailbox

/-- The description of an account. -/
structure Snapshot where
  /-- The owner of the account. -/
  principal : String
  /-- The mailboxes. -/
  mailboxes : List Mailbox
  /-- The messages. -/
  messages : List DescribedMessage

namespace Snapshot

/-- The members of a snapshot as far as they were read. -/
structure Members where
  principal : Option String
  mailboxes : Option (List Mailbox)
  messages : Option (List DescribedMessage)

/-- The layout of a snapshot. -/
def layout : Json.Layout where
  name := "SnapshotFile"
  fields := [("principal", false), ("mailboxes", true), ("messages", true)]
  counted := false

/-- Read one member; unknown ones do not count. -/
def read (members : Members) (name : String) (value : Json) :
    Json.Decoded Members :=
  match name with
  | "principal" => (Json.once name members.principal Json.string value).map
      fun given => { members with principal := given }
  | "mailboxes" =>
      (Json.once name members.mailboxes (Json.list Mailbox.decode) value).map
      fun given => { members with mailboxes := given }
  | "messages" =>
      (Json.once name members.messages (Json.list DescribedMessage.decode)
        value).map
      fun given => { members with messages := given }
  | _ => .ok members

/-- Decode a snapshot. -/
def decode (value : Json) : Json.Decoded Snapshot := do
  let members ← Json.record layout read ⟨none, none, none⟩ value
  let principal ← Json.required "principal" members.principal
  return ⟨principal, members.mailboxes.getD [], members.messages.getD []⟩

/-- Read the text of a snapshot; unreadable values do no harm in members that
are not known. -/
def ofChars (text : List Char) : Except Query.Malformed Snapshot :=
  match Json.readLoosely? text with
  | none => .error .notJson
  | some value =>
      match decode value with
      | .ok snapshot => .ok snapshot
      | .error error =>
          .error (if value.isReadable then .layout error else .notJson)

end Snapshot
end Store
end MailSearch
