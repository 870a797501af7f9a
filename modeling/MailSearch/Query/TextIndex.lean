import MailSearch.Data.IdMap
import MailSearch.Mail.Message
import MailSearch.Mime.Html

/-!
# Text index

A full-text search asks whether a message contains a term.  The index keeps the
searchable text of every message in lower case, divided by where it comes from,
and finds a term wherever it stands as a contiguous part.  A message without a
plain text, whose HTML has none either, cannot be indexed.
-/

namespace MailSearch
namespace Query

/-- Where a term is looked for. -/
inductive TextScope where
  /-- Addresses, subject, body, attachments and their file names. -/
  | all
  /-- The body. -/
  | body
  /-- The text of the attachments. -/
  | attachments
  deriving DecidableEq, Repr

/-- The texts, one a line, in lower case. -/
def searchable (texts : List String) : List Char :=
  Text.lower (Text.joinWith ['\n'] (texts.map String.toList))

/-- The text of one message in lower case. -/
structure IndexedText where
  /-- The addresses and the subject. -/
  headers : List Char
  /-- The body. -/
  body : List Char
  /-- The attachments. -/
  attachments : List Char
  /-- The names of the attached files. -/
  filenames : List Char
  deriving DecidableEq

namespace IndexedText

/-- The fields that are searched, in order. -/
def headerNames : List String :=
  ["from", "to", "cc", "bcc", "subject"]

/-- The body that is searched: the plain text, or else that of the HTML. -/
def bodyOf (body : Body) : Attempt String :=
  match body.text, body.html with
  | some text, _ => some text
  | none, some html => Html.plainText html
  | none, none => some ""

/-- The searchable text of a message and its attachments. -/
def ofMessage (message : Message) (attachmentText : List String) :
    Attempt IndexedText :=
  (bodyOf message.body).map fun body =>
    { headers := searchable (headerNames.flatMap message.headerValues)
      body := Text.lower body.toList
      attachments := searchable attachmentText
      filenames := searchable (message.attachments.map Attachment.filename) }

/-- Whether a term in lower case stands in the text. -/
def contains (text : IndexedText) (scope : TextScope)
    (term : List Char) : Bool :=
  match scope with
  | .all =>
      Text.occursIn term text.headers || Text.occursIn term text.body ||
        Text.occursIn term text.attachments || Text.occursIn term text.filenames
  | .body => Text.occursIn term text.body
  | .attachments => Text.occursIn term text.attachments

end IndexedText

/-- The searchable texts of messages by their identifiers. -/
structure TextIndex where
  /-- The texts. -/
  documents : IdMap IndexedText

namespace TextIndex

/-- The index without messages. -/
def empty : TextIndex :=
  ⟨.empty⟩

/-- Index a message together with the text of its attachments. -/
def add (index : TextIndex) (message : Message) (attachmentText : List String) :
    Attempt TextIndex :=
  (IndexedText.ofMessage message attachmentText).map fun text =>
    ⟨index.documents.insert message.id text⟩

/-- Whether a message contains a term in any letter case; unknown messages
contain nothing. -/
def contains (index : TextIndex) (scope : TextScope)
    (term id : String) : Bool :=
  match index.documents.get? id with
  | none => false
  | some text => text.contains scope (Text.lower term.toList)

/-- The number of messages. -/
def size (index : TextIndex) : Nat :=
  index.documents.size

end TextIndex
end Query
end MailSearch
