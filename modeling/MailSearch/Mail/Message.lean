import MailSearch.Calendar.MailDate
import MailSearch.Data.IdSet
import MailSearch.Mail.Address
import MailSearch.Mail.Keyword

/-!
# Messages

What is known of a message that queries can look at: where it lies, how it is
marked, its header fields in order, its dates, its body and its attachments.
-/

namespace MailSearch

/-- One attached part of a message. -/
structure Attachment where
  /-- The name of the file, empty when there is none. -/
  filename : String
  /-- The media type. -/
  contentType : String
  /-- The number of bytes. -/
  size : Nat
  /-- Whether the part is shown within the body. -/
  isInline : Bool
  deriving DecidableEq, Repr

/-- The readable parts of a message. -/
structure Body where
  /-- The plain text, if there is one. -/
  text : Option String
  /-- The HTML, if there is any. -/
  html : Option String
  deriving DecidableEq, Repr

/-- A header field: its name as written and its value. -/
abbrev HeaderField := String × String

/-- A message as queries see it. -/
structure Message where
  /-- The identifier. -/
  id : String
  /-- The identifier of the conversation. -/
  threadId : String
  /-- The identifier of the raw content. -/
  blobId : String
  /-- The mailboxes that hold the message. -/
  mailboxIds : IdSet
  /-- The marks. -/
  keywords : KeywordSet
  /-- The header fields in order. -/
  headers : List HeaderField
  /-- The number of bytes of the raw message. -/
  size : Nat
  /-- When the message was delivered. -/
  receivedAt : Calendar.Instant
  /-- The attached parts. -/
  attachments : List Attachment
  /-- The readable parts. -/
  body : Body
  deriving DecidableEq

namespace Message

/-- The values of all fields with a name, in any letter case, in order. -/
def headerValues (message : Message) (name : String) : List String :=
  (message.headers.filter fun field => Text.sameAscii field.1 name).map Prod.snd

/-- The value of the first field with a name, in any letter case. -/
def header? (message : Message) (name : String) : Option String :=
  (message.headers.find? fun field => Text.sameAscii field.1 name).map Prod.snd

/-- The subject, empty when there is none. -/
def subject (message : Message) : String :=
  (message.header? "subject").getD ""

/-- The addresses of all fields with a name. -/
def addresses (message : Message) (name : String) : List Address :=
  (message.headerValues name).flatMap Address.parseList

/-- The date that the message gives itself, or else the date of its delivery. -/
def sentAt (message : Message) : Calendar.Instant :=
  ((message.header? "date").bind Calendar.MailDate.ofText?).getD
    message.receivedAt

/-- Whether some attached part is not shown within the body. -/
def hasAttachment (message : Message) : Bool :=
  message.attachments.any fun attachment => !attachment.isInline

end Message
end MailSearch
