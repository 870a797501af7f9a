import MailSearch.Calendar.Internet
import MailSearch.Query.Candidate
import MailSearch.Query.TextIndex

/-!
# Predicates

A condition of a filter has one predicate for each of its properties.  Decoding
a property is strict; a predicate then holds of a candidate or not, and only the
full-text predicates ask the text index, which may fail.
-/

namespace MailSearch
namespace Query

/-- The fields that a filter has a property for. -/
inductive FieldName where
  | sender
  | recipient
  | copy
  | blindCopy
  | subject
  deriving DecidableEq, Repr

/-- The name of the field in messages. -/
def FieldName.name : FieldName -> String
  | .sender => "from"
  | .recipient => "to"
  | .copy => "cc"
  | .blindCopy => "bcc"
  | .subject => "subject"

/-- The states of a message that keywords stand for. -/
inductive Flag where
  | unread
  | flagged
  | answered
  | draft
  | forwarded
  deriving DecidableEq, Repr

namespace Flag

/-- The keyword behind a state. -/
def keyword : Flag -> String
  | .unread => "$Seen"
  | .flagged => "$Flagged"
  | .answered => "$Answered"
  | .draft => "$Draft"
  | .forwarded => "$Forwarded"

/-- Whether a message with some keywords has the state; unread means not
seen. -/
def isSet (flag : Flag) (keywords : KeywordSet) : Bool :=
  match flag with
  | .unread => !keywords.contains flag.keyword
  | _ => keywords.contains flag.keyword

end Flag

/-- One requirement of a condition. -/
inductive Predicate where
  /-- Some mailbox is one of these. -/
  | inMailboxes (ids : IdSet)
  /-- No mailbox is one of these. -/
  | notInMailboxes (ids : IdSet)
  /-- The message was sent before. -/
  | before (bound : Calendar.Instant)
  /-- The message was sent after. -/
  | after (bound : Calendar.Instant)
  /-- The message is larger. -/
  | largerThan (size : Nat)
  /-- The message is smaller. -/
  | smallerThan (size : Nat)
  /-- The message has a state, or not. -/
  | flag (flag : Flag) (wanted : Bool)
  /-- The message has an attachment, or not. -/
  | hasAttachment (wanted : Bool)
  /-- A term stands somewhere in the message. -/
  | text (term : String)
  /-- A term stands in the body. -/
  | body (term : String)
  /-- A term stands in an attachment. -/
  | attachmentText (term : String)
  /-- A text stands in an address or in the subject. -/
  | field (field : FieldName) (value : String)
  /-- A text stands in the name of an attached file. -/
  | filename (value : String)
  /-- A text stands in a field. -/
  | header (name value : String)
  /-- The message has a keyword. -/
  | hasKeyword (keyword : Keyword)
  /-- The message does not have a keyword. -/
  | notKeyword (keyword : Keyword)
  deriving DecidableEq

namespace Predicate

/-! ## Decoding -/

/-- Decode a truth value. -/
def boolean (property : String) : Json -> Except Invalid Bool
  | .bool value => .ok value
  | _ => .error (.wrongType property .boolean)

/-- Decode a text. -/
def string (property : String) : Json -> Except Invalid String
  | .str value => .ok value
  | _ => .error (.wrongType property .text)

/-- The greatest size that a condition can name. -/
def greatestSize : Nat := 0xFFFFFFFFFFFFFFFF

/-- Decode a size. -/
def size (property : String) : Json -> Except Invalid Nat
  | .int value =>
      if 0 ≤ value ∧ value ≤ greatestSize then .ok value.toNat
      else .error (.wrongType property .size)
  | _ => .error (.wrongType property .size)

/-- Decode a date. -/
def date (property : String) : Json -> Except Invalid Calendar.Instant
  | .str value =>
      match Calendar.ofInternet value.toList with
      | .ok instant => .ok instant
      | .error _ => .error (.wrongType property .date)
  | _ => .error (.wrongType property .dateText)

/-- Decode one identifier of a mailbox. -/
def mailbox (property : String) : Json -> Except Invalid String
  | .str id => .ok id
  | _ => .error (.wrongType property .mailboxes)

/-- Decode a list of identifiers of mailboxes. -/
def mailboxes (property : String) : Json -> Except Invalid IdSet
  | .arr items => (items.mapM (mailbox property)).map IdSet.ofList
  | _ => .error (.wrongType property .mailboxes)

/-- Decode a keyword. -/
def keyword (property : String) (value : Json) : Except Invalid Keyword := do
  let name ← string property value
  match Keyword.ofName? name with
  | some keyword => .ok keyword
  | none => .error (.keyword name)

/-- Decode the property of a condition. -/
def ofProperty (property : String) (value : Json) : Except Invalid Predicate :=
  match property with
  | "inMailboxes" => (mailboxes property value).map .inMailboxes
  | "notInMailboxes" => (mailboxes property value).map .notInMailboxes
  | "before" => (date property value).map .before
  | "after" => (date property value).map .after
  | "minSize" => (size property value).map .largerThan
  | "maxSize" => (size property value).map .smallerThan
  | "isUnread" => (boolean property value).map (.flag .unread)
  | "isFlagged" => (boolean property value).map (.flag .flagged)
  | "isAnswered" => (boolean property value).map (.flag .answered)
  | "isDraft" => (boolean property value).map (.flag .draft)
  | "isForwarded" => (boolean property value).map (.flag .forwarded)
  | "hasAttachment" => (boolean property value).map .hasAttachment
  | "text" => (string property value).map .text
  | "body" => (string property value).map .body
  | "attachments" => (string property value).map .attachmentText
  | "from" => (string property value).map (.field .sender)
  | "to" => (string property value).map (.field .recipient)
  | "cc" => (string property value).map (.field .copy)
  | "bcc" => (string property value).map (.field .blindCopy)
  | "subject" => (string property value).map (.field .subject)
  | "attachmentFileName" => (string property value).map .filename
  | "header" =>
      match value with
      | .arr [.str name, .str content] => .ok (.header name content)
      | _ => .error .headerPair
  | "hasKeyword" => (keyword property value).map .hasKeyword
  | "notKeyword" => (keyword property value).map .notKeyword
  | _ => .error (.unknownCondition property)

/-! ## Evaluation -/

/-- A source of answers to full-text searches: whether a message contains a
term. -/
abbrev Index := TextScope -> String -> String -> Except Error Bool

/-- The full-text search that a predicate asks for. -/
def search? : Predicate -> Option (TextScope × String)
  | .text term => some (.all, term)
  | .body term => some (.body, term)
  | .attachmentText term => some (.attachments, term)
  | _ => none

/-- Whether the predicate asks the text index. -/
def asksIndex (predicate : Predicate) : Bool :=
  predicate.search?.isSome

/--
Whether a text stands in another one in any letter case.  The empty text stands
in every text but the empty one.
-/
def occursFolded (value text : String) : Bool :=
  if value = "" then text ≠ ""
  else Text.occursIn (Text.lower value.toList) (Text.lower text.toList)

/-- Whether a predicate that does not ask the text index holds of a
candidate. -/
def holds (candidate : Candidate) : Predicate -> Bool
  | .inMailboxes ids => candidate.mailboxes.meets ids
  | .notInMailboxes ids => !candidate.mailboxes.meets ids
  | .before bound => candidate.message.sentAt.before bound
  | .after bound => bound.before candidate.message.sentAt
  | .largerThan size => size < candidate.message.size
  | .smallerThan size => candidate.message.size < size
  | .flag state wanted => state.isSet candidate.message.keywords == wanted
  | .hasAttachment wanted => candidate.message.hasAttachment == wanted
  | .field name value =>
      (candidate.message.headerValues name.name).any (occursFolded value)
  | .filename value =>
      candidate.message.attachments.any fun attachment =>
        occursFolded value attachment.filename
  | .header name value =>
      (candidate.message.headerValues name).any fun text =>
        value = "" || occursFolded value text
  | .hasKeyword keyword =>
      keyword.isTransient || candidate.message.keywords.has keyword
  | .notKeyword keyword =>
      keyword.isTransient || !candidate.message.keywords.has keyword
  | .text _ => false
  | .body _ => false
  | .attachmentText _ => false

/-- Whether a predicate holds of a candidate, or the failure of the text
index. -/
def evaluate (index : Index) (candidate : Candidate) (predicate : Predicate) :
    Except Error Bool :=
  match predicate.search? with
  | some (scope, term) => index scope term candidate.id
  | none => .ok (predicate.holds candidate)

end Predicate
end Query
end MailSearch
