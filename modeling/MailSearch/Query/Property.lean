import MailSearch.Data.IdSet
import MailSearch.Query.Error
import MailSearch.Text.LetterCase

/-!
# Properties of messages

What a client may ask to see of a message, and the selection of properties that
a list of names stands for.  Order and repetition of the names do not matter,
and the identifier is always selected.
-/

namespace MailSearch
namespace Query

/-- A property of a message. -/
inductive Property where
  | id
  | blobId
  | threadId
  | mailboxIds
  | inReplyToMessageId
  | isUnread
  | isFlagged
  | isAnswered
  | isDraft
  | isForwarded
  | hasAttachment
  | keywords
  | headers
  | sender
  | recipient
  | copy
  | blindCopy
  | replyTo
  | subject
  | date
  | size
  | preview
  | textBody
  | htmlBody
  | attachments
  deriving DecidableEq, Repr

namespace Property

/-- All properties, in the order in which they are listed. -/
def all : List Property :=
  [.id, .blobId, .threadId, .mailboxIds, .inReplyToMessageId, .isUnread,
    .isFlagged, .isAnswered, .isDraft, .isForwarded, .hasAttachment, .keywords,
    .headers, .sender, .recipient, .copy,
    .blindCopy, .replyTo, .subject, .date, .size, .preview, .textBody,
      .htmlBody, .attachments]

/-- The name of a property. -/
def name : Property -> String
  | .id => "id"
  | .blobId => "blobId"
  | .threadId => "threadId"
  | .mailboxIds => "mailboxIds"
  | .inReplyToMessageId => "inReplyToMessageId"
  | .isUnread => "isUnread"
  | .isFlagged => "isFlagged"
  | .isAnswered => "isAnswered"
  | .isDraft => "isDraft"
  | .isForwarded => "isForwarded"
  | .hasAttachment => "hasAttachment"
  | .keywords => "keywords"
  | .headers => "headers"
  | .sender => "from"
  | .recipient => "to"
  | .copy => "cc"
  | .blindCopy => "bcc"
  | .replyTo => "replyTo"
  | .subject => "subject"
  | .date => "date"
  | .size => "size"
  | .preview => "preview"
  | .textBody => "textBody"
  | .htmlBody => "htmlBody"
  | .attachments => "attachments"

theorem mem_all (property : Property) : property ∈ all := by
  cases property <;> decide

/-- The property with a name; the text body is also called the body. -/
def ofName? (text : String) : Option Property :=
  if text = "body" then some .textBody
  else all.find? fun property => property.name == text

end Property

/-- What one name asks for. -/
inductive Wish where
  /-- A property. -/
  | property (property : Property)
  /-- The header field with a name in lower case. -/
  | header (name : String)
  deriving DecidableEq, Repr

namespace Wish

/-- What precedes the name of a single header field. -/
def headerMark : List Char :=
  ['h', 'e', 'a', 'd', 'e', 'r', 's', '.']

/-- Read one name. -/
def ofName (text : String) : Except Invalid Wish :=
  if headerMark.isPrefixOf text.toList then
    let name := text.toList.drop headerMark.length
    if name.isEmpty then .error (.unknownProperty text)
    else .ok (.header (Text.asciiLowercase (String.ofList name)))
  else
    match Property.ofName? text with
    | some known => .ok (.property known)
    | none => .error (.unknownProperty text)

/-- The property that is asked for. -/
def property? : Wish -> Option Property
  | .property known => some known
  | .header _ => none

/-- The header field that is asked for. -/
def header? : Wish -> Option String
  | .property _ => none
  | .header name => some name

end Wish

/-- The properties that a client is shown. -/
structure Selection where
  /-- The properties, in the order in which properties are listed. -/
  properties : List Property
  /-- The names of single header fields, in lower case. -/
  headerNames : IdSet
  deriving DecidableEq

namespace Selection

/-- Every property. -/
def all : Selection :=
  ⟨Property.all, .empty⟩

/-- The selection of what is asked for; the identifier always belongs to it. -/
def ofWishes (wishes : List Wish) : Selection where
  properties :=
    let asked := wishes.filterMap Wish.property?
    Property.all.filter fun property =>
      property == .id || asked.contains property
  headerNames := IdSet.ofList (wishes.filterMap Wish.header?)

/-- Read the names of a selection; without a list every property is selected. -/
def parse : Option (List String) -> Except Invalid Selection
  | none => .ok all
  | some names => (names.mapM Wish.ofName).map ofWishes

/-- Whether a property is selected. -/
def contains (selection : Selection) (property : Property) : Bool :=
  selection.properties.contains property

/-- Whether any header field is selected. -/
def hasHeaders (selection : Selection) : Bool :=
  selection.contains .headers || !selection.headerNames.isEmpty

/-- The names of what is selected, single header fields last. -/
def names (selection : Selection) : List String :=
  selection.properties.map Property.name ++
    selection.headerNames.ids.map fun name =>
      String.ofList Wish.headerMark ++ name

end Selection
end Query
end MailSearch
