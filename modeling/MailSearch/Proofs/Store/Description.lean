import MailSearch.Proofs.Json.Record
import MailSearch.Proofs.Mail.Keyword
import MailSearch.Proofs.Store.DescribedMessage

/-!
# What snapshots say

A snapshot that is decoded is what its value says, member for member: each is
read from the value with its name, which may be absent or `null` only where
there is something that it then stands for.  The items of lists are described in
the same way, one by one.
-/

namespace MailSearch
namespace Store

/-! ## Attached parts -/

namespace DescribedAttachment

/-- What some members say of an attached part. -/
structure SaidBy (members : List (String × Json))
    (part : DescribedAttachment) : Prop where
  /-- The name of the file. -/
  filename : Json.OrDefault (fun value text => value = .str text) ""
    (Json.last? "filename" members) part.attachment.filename
  /-- The kind of the content. -/
  contentType : Json.OrDefault (fun value text => value = .str text)
    "application/octet-stream" (Json.last? "contentType" members)
    part.attachment.contentType
  /-- The number of bytes. -/
  size : Json.OrDefault (fun value number => value = .nat number) 0
    (Json.last? "size" members) part.attachment.size
  /-- Whether the part is shown in its place. -/
  isInline : Json.OrDefault (fun value truth => value = .bool truth) false
    (Json.last? "isInline" members) part.attachment.isInline
  /-- The text of the part. -/
  text : Json.Optionally (fun value text => value = .str text)
    (Json.last? "text" members) part.text

/-- A value describes an attached part. -/
def DescribedBy (value : Json) (part : DescribedAttachment) : Prop :=
  ∃ members, value = .obj members ∧ SaidBy members part

/-- What reading one member changes. -/
structure Reads (name : String) (value : Json)
    (before after : Members) : Prop where
  filename : Json.Fills Json.string (Json.given "filename" name value)
    before.filename after.filename
  contentType : Json.Fills Json.string (Json.given "contentType" name value)
    before.contentType after.contentType
  size : Json.Fills Json.unsigned (Json.given "size" name value)
    before.size after.size
  isInline : Json.Fills Json.boolean (Json.given "isInline" name value)
    before.isInline after.isInline

theorem reads_of_read
    {name : String}
    {value : Json}
    {before after : Members}
    (isRead : read before name value = .ok after) :
    Reads name value before after := by
  unfold read at isRead
  split at isRead
  case h_5 =>
    cases isRead
    constructor <;> exact .of_ne (by assumption) value _
  all_goals
    obtain ⟨held, isOnly, rfl⟩ := Outcome.exists_of_map_eq_ok isRead
    constructor <;>
      first | exact .of_once isOnly | exact .of_ne (by decide) value _

theorem fills_of_readText
    {name : String}
    {value : Json}
    {before after : Option (Option String)}
    (isRead : readText before name value = .ok after) :
    Json.Fills (Json.nullable Json.string) (Json.given "text" name value)
      before after := by
  unfold readText at isRead
  split at isRead
  · exact .of_once isRead
  · cases isRead
    exact .of_ne (by assumption) value _

theorem describedBy_of_decode
    {value : Json}
    {part : DescribedAttachment}
    (decoded : decode value = .ok part) :
    DescribedBy value part := by
  cases value with
  | obj members =>
      obtain ⟨-, decoded⟩ := Outcome.of_refusal_eq_ok decoded
      obtain ⟨text, isText, decoded⟩ := Outcome.exists_of_bind_eq_ok decoded
      obtain ⟨seen, areRead, decoded⟩ := Outcome.exists_of_bind_eq_ok decoded
      cases decoded
      have filename := Json.fills_of_foldlM Members.filename
        (fun isRead => (reads_of_read isRead).filename) areRead
      have contentType := Json.fills_of_foldlM Members.contentType
        (fun isRead => (reads_of_read isRead).contentType) areRead
      have size := Json.fills_of_foldlM Members.size
        (fun isRead => (reads_of_read isRead).size) areRead
      have isInline := Json.fills_of_foldlM Members.isInline
        (fun isRead => (reads_of_read isRead).isInline) areRead
      exact ⟨members, rfl, {
        filename := filename.orDefault (fun _ _ => Json.string_eq_ok_iff.mp) _
        contentType :=
          contentType.orDefault (fun _ _ => Json.string_eq_ok_iff.mp) _
        size := size.orDefault (fun _ _ => Json.unsigned_eq_ok_iff.mp) _
        isInline := isInline.orDefault (fun _ _ => Json.boolean_eq_ok_iff.mp) _
        text := (Json.fills_of_foldlM id fills_of_readText isText).optionally
          (fun _ _ => Json.string_eq_ok_iff)
          (fun _ isNull => by cases isNull) }⟩
  | _ => cases decoded

end DescribedAttachment

/-! ## Messages -/

namespace DescribedMessage

/-- What some members say of a message. -/
structure SaidBy (members : List (String × Json))
    (entry : DescribedMessage) : Prop where
  /-- The identifier. -/
  id : Json.last? "id" members = some (.str entry.id)
  /-- The identifier of the conversation. -/
  threadId : Json.Optionally (fun value text => value = .str text)
    (Json.last? "threadId" members) entry.threadId
  /-- The identifier of the raw content. -/
  blobId : Json.Optionally (fun value text => value = .str text)
    (Json.last? "blobId" members) entry.blobId
  /-- The mailboxes, as a set. -/
  mailboxIds : ∃ names,
    Json.last? "mailboxIds" members = some (Json.strings names) ∧
      entry.mailboxIds = .ofList names
  /-- The keywords, each in its first spelling. -/
  keywords : Json.OrDefault (fun value keywords => ∃ listed : List Keyword,
      value = Json.strings (listed.map Keyword.name) ∧
        keywords = .ofListFirst listed)
    .empty (Json.last? "keywords" members) entry.keywords
  /-- The date of the delivery. -/
  receivedAt : ∃ text, Json.last? "receivedAt" members = some (.str text) ∧
    Calendar.ofRelaxed text.toList = .ok entry.receivedAt
  /-- The number of bytes. -/
  size : Json.Optionally (fun value number => value = .nat number)
    (Json.last? "size" members) entry.size
  /-- The path of the raw message. -/
  file : Json.Optionally (fun value text => value = .str text)
    (Json.last? "eml" members) entry.file
  /-- The header fields, of a repeated name the last ones. -/
  headers : Json.OrDefault (fun value headers => ∃ given, value = .obj given ∧
      ∀ name texts, headers.get? name = some texts ↔
        ∃ value, Json.last? name given = some value ∧ GivesTexts value texts)
    .empty (Json.last? "headers" members) entry.headers
  /-- The plain text. -/
  textBody : Json.Optionally (fun value text => value = .str text)
    (Json.last? "textBody" members) entry.textBody
  /-- The HTML. -/
  htmlBody : Json.Optionally (fun value text => value = .str text)
    (Json.last? "htmlBody" members) entry.htmlBody
  /-- The attached parts, in order. -/
  attachments : Json.OrDefault (fun value parts => ∃ items, value = .arr items ∧
      List.Forall₂ DescribedAttachment.DescribedBy items parts)
    [] (Json.last? "attachments" members) entry.attachments

/-- A value describes a message. -/
def DescribedBy (value : Json) (entry : DescribedMessage) : Prop :=
  ∃ members, layout.GivesMembers value members ∧ SaidBy members entry

/-! ### Decoders of members -/

theorem dateOf_eq_ok_iff
    {value : Json}
    {instant : Calendar.Instant} :
    dateOf value = .ok instant ↔
      ∃ text, value = .str text ∧
        Calendar.ofRelaxed text.toList = .ok instant := by
  cases value with
  | str text =>
      cases found : Calendar.ofRelaxed text.toList <;> simp [dateOf, found]
  | _ => simp [dateOf]

theorem pathOf_eq_ok_iff
    {value : Json}
    {path : String} :
    pathOf value = .ok path ↔ value = .str path := by
  cases value <;> simp [pathOf]

/-- Keywords are decoded from their names. -/
theorem exists_keywords_of_keywordsOf
    {value : Json}
    {keywords : KeywordSet}
    (decoded : keywordsOf value = .ok keywords) :
    ∃ listed : List Keyword, value = Json.strings (listed.map Keyword.name) ∧
      keywords = .ofListFirst listed := by
  obtain ⟨listed, areListed, made⟩ := Outcome.exists_of_bind_eq_ok decoded
  cases made
  refine ⟨listed, ?_, rfl⟩
  obtain ⟨items, rfl, each⟩ := Json.list_eq_ok_iff.mp areListed
  rw [Json.strings, Json.arr.injEq]
  clear areListed decoded
  induction each with
  | nil => rfl
  | cons isKeyword _ inductionHypothesis =>
      obtain ⟨name, isName, named⟩ := Outcome.exists_of_bind_eq_ok isKeyword
      split at named
      · rename_i found
        cases named
        rw [List.map_cons, List.map_cons, ← inductionHypothesis,
          Keyword.ofName?_eq_some_iff.mp found,
          Json.string_eq_ok_iff.mp isName]
      · cases named

/-- Header fields are decoded from an object. -/
theorem exists_headers_of_headersOf
    {value : Json}
    {headers : IdMap (List String)}
    (decoded : headersOf value = .ok headers) :
    ∃ given, value = .obj given ∧
      ∀ name texts, headers.get? name = some texts ↔
        ∃ value, Json.last? name given = some value ∧
          GivesTexts value texts := by
  cases value with
  | obj given => exact ⟨given, rfl, fun name texts => get?_headersOf decoded⟩
  | _ => cases decoded

/-! ### All members -/

/-- What reading one member changes. -/
structure Reads (name : String) (value : Json)
    (before after : Members) : Prop where
  id : Json.Fills Json.string (Json.given "id" name value) before.id after.id
  threadId : Json.Fills (Json.nullable Json.string)
    (Json.given "threadId" name value) before.threadId after.threadId
  blobId : Json.Fills (Json.nullable Json.string)
    (Json.given "blobId" name value) before.blobId after.blobId
  mailboxIds : Json.Fills (Json.list Json.string)
    (Json.given "mailboxIds" name value) before.mailboxIds after.mailboxIds
  keywords : Json.Fills keywordsOf (Json.given "keywords" name value)
    before.keywords after.keywords
  receivedAt : Json.Fills dateOf (Json.given "receivedAt" name value)
    before.receivedAt after.receivedAt
  size : Json.Fills (Json.nullable Json.unsigned)
    (Json.given "size" name value) before.size after.size
  file : Json.Fills (Json.nullable pathOf) (Json.given "eml" name value)
    before.file after.file
  headers : Json.Fills headersOf (Json.given "headers" name value)
    before.headers after.headers
  textBody : Json.Fills (Json.nullable Json.string)
    (Json.given "textBody" name value) before.textBody after.textBody
  htmlBody : Json.Fills (Json.nullable Json.string)
    (Json.given "htmlBody" name value) before.htmlBody after.htmlBody
  attachments : Json.Fills (Json.list DescribedAttachment.decode)
    (Json.given "attachments" name value) before.attachments after.attachments

theorem reads_of_read
    {name : String}
    {value : Json}
    {before after : Members}
    (isRead : read before name value = .ok after) :
    Reads name value before after := by
  unfold read at isRead
  split at isRead
  case h_13 =>
    cases isRead
    constructor <;> exact .of_ne (by assumption) value _
  all_goals
    obtain ⟨held, isOnly, rfl⟩ := Outcome.exists_of_map_eq_ok isRead
    constructor <;>
      first | exact .of_once isOnly | exact .of_ne (by decide) value _

theorem describedBy_of_decode
    {value : Json}
    {entry : DescribedMessage}
    (decoded : decode value = .ok entry) :
    DescribedBy value entry := by
  obtain ⟨last, isRecord, decoded⟩ := Outcome.exists_of_bind_eq_ok decoded
  obtain ⟨members, gives, areRead⟩ := Json.exists_members_of_record isRecord
  obtain ⟨id, isId, decoded⟩ := Outcome.exists_of_bind_eq_ok decoded
  obtain ⟨names, areNames, decoded⟩ := Outcome.exists_of_bind_eq_ok decoded
  obtain ⟨date, isDate, decoded⟩ := Outcome.exists_of_bind_eq_ok decoded
  cases decoded
  have text := fun value meaning => @Json.string_eq_ok_iff value meaning
  have path := fun value meaning => @pathOf_eq_ok_iff value meaning
  have noText : ∀ text, ¬ Json.null = .str text := fun _ isNull => by
    cases isNull
  have readId := Json.fills_of_foldlM Members.id
    (fun isRead => (reads_of_read isRead).id) areRead
  have threadId := Json.fills_of_foldlM Members.threadId
    (fun isRead => (reads_of_read isRead).threadId) areRead
  have blobId := Json.fills_of_foldlM Members.blobId
    (fun isRead => (reads_of_read isRead).blobId) areRead
  have mailboxIds := Json.fills_of_foldlM Members.mailboxIds
    (fun isRead => (reads_of_read isRead).mailboxIds) areRead
  have keywords := Json.fills_of_foldlM Members.keywords
    (fun isRead => (reads_of_read isRead).keywords) areRead
  have receivedAt := Json.fills_of_foldlM Members.receivedAt
    (fun isRead => (reads_of_read isRead).receivedAt) areRead
  have size := Json.fills_of_foldlM Members.size
    (fun isRead => (reads_of_read isRead).size) areRead
  have file := Json.fills_of_foldlM Members.file
    (fun isRead => (reads_of_read isRead).file) areRead
  have headers := Json.fills_of_foldlM Members.headers
    (fun isRead => (reads_of_read isRead).headers) areRead
  have textBody := Json.fills_of_foldlM Members.textBody
    (fun isRead => (reads_of_read isRead).textBody) areRead
  have htmlBody := Json.fills_of_foldlM Members.htmlBody
    (fun isRead => (reads_of_read isRead).htmlBody) areRead
  have attachments := Json.fills_of_foldlM Members.attachments
    (fun isRead => (reads_of_read isRead).attachments) areRead
  refine ⟨members, gives, {
    id := ?_
    threadId := threadId.optionally text noText
    blobId := blobId.optionally text noText
    mailboxIds := ?_
    keywords :=
      keywords.orDefault (fun _ _ => exists_keywords_of_keywordsOf) _
    receivedAt := ?_
    size := size.optionally (fun _ _ => Json.unsigned_eq_ok_iff)
      (fun _ isNull => by cases isNull)
    file := file.optionally path noText
    headers := headers.orDefault (fun _ _ => exists_headers_of_headersOf) _
    textBody := textBody.optionally text noText
    htmlBody := htmlBody.optionally text noText
    attachments := attachments.orDefault (fun _ _ areParts => ?_) _ }⟩
  · obtain ⟨value, isGiven, isText⟩ := readId.of_required isId
    rw [isGiven, Json.string_eq_ok_iff.mp isText]
  · obtain ⟨value, isGiven, areTexts⟩ := mailboxIds.of_required areNames
    exact ⟨names, Json.list_string_eq_ok_iff.mp areTexts ▸ isGiven, rfl⟩
  · obtain ⟨value, isGiven, isInstant⟩ := receivedAt.of_required isDate
    obtain ⟨text, rfl, isRead⟩ := dateOf_eq_ok_iff.mp isInstant
    exact ⟨text, isGiven, isRead⟩
  · obtain ⟨items, rfl, each⟩ := Json.list_eq_ok_iff.mp areParts
    exact ⟨items, rfl, each.imp fun _ _ =>
      DescribedAttachment.describedBy_of_decode⟩

/-- The keywords of a described message ascend. -/
theorem DescribedBy.ascending
    {value : Json}
    {entry : DescribedMessage}
    (describes : DescribedBy value entry) :
    entry.keywords.Ascending := by
  obtain ⟨members, -, said⟩ := describes
  have keywords := said.keywords
  generalize Json.last? "keywords" members = given, entry.keywords = held
    at keywords ⊢
  cases keywords with
  | absent => exact List.Pairwise.nil
  | given form =>
      obtain ⟨listed, -, rfl⟩ := form
      exact KeywordSet.ascending_ofListFirst listed

end DescribedMessage

/-! ## Mailboxes -/

namespace Mailbox

/-- What some members say of a mailbox. -/
structure SaidBy (members : List (String × Json))
    (mailbox : Mailbox) : Prop where
  /-- The identifier. -/
  id : Json.last? "id" members = some (.str mailbox.id)
  /-- The name. -/
  name : Json.OrDefault (fun value text => value = .str text) ""
    (Json.last? "name" members) mailbox.name
  /-- Whether the owner may read it. -/
  readable : Json.OrDefault (fun value truth => value = .bool truth) true
    (Json.last? "readable" members) mailbox.readable
  /-- The other principals who may read it. -/
  sharedWith : Json.OrDefault (fun value names => value = Json.strings names)
    [] (Json.last? "sharedWith" members) mailbox.sharedWith

/-- A value describes a mailbox. -/
def DescribedBy (value : Json) (mailbox : Mailbox) : Prop :=
  ∃ members, layout.GivesMembers value members ∧ SaidBy members mailbox

/-- What reading one member changes. -/
structure Reads (key : String) (value : Json)
    (before after : Members) : Prop where
  id : Json.Fills Json.string (Json.given "id" key value) before.id after.id
  name : Json.Fills Json.string (Json.given "name" key value)
    before.name after.name
  readable : Json.Fills Json.boolean (Json.given "readable" key value)
    before.readable after.readable
  sharedWith : Json.Fills (Json.list Json.string)
    (Json.given "sharedWith" key value) before.sharedWith after.sharedWith

theorem reads_of_read
    {name : String}
    {value : Json}
    {before after : Members}
    (isRead : read before name value = .ok after) :
    Reads name value before after := by
  unfold read at isRead
  split at isRead
  case h_5 =>
    cases isRead
    constructor <;> exact .of_ne (by assumption) value _
  all_goals
    obtain ⟨held, isOnly, rfl⟩ := Outcome.exists_of_map_eq_ok isRead
    constructor <;>
      first | exact .of_once isOnly | exact .of_ne (by decide) value _

theorem describedBy_of_decode
    {value : Json}
    {mailbox : Mailbox}
    (decoded : decode value = .ok mailbox) :
    DescribedBy value mailbox := by
  obtain ⟨last, isRecord, decoded⟩ := Outcome.exists_of_bind_eq_ok decoded
  obtain ⟨members, gives, areRead⟩ := Json.exists_members_of_record isRecord
  obtain ⟨id, isId, decoded⟩ := Outcome.exists_of_bind_eq_ok decoded
  cases decoded
  have readId := Json.fills_of_foldlM Members.id
    (fun isRead => (reads_of_read isRead).id) areRead
  have name := Json.fills_of_foldlM Members.name
    (fun isRead => (reads_of_read isRead).name) areRead
  have readable := Json.fills_of_foldlM Members.readable
    (fun isRead => (reads_of_read isRead).readable) areRead
  have sharedWith := Json.fills_of_foldlM Members.sharedWith
    (fun isRead => (reads_of_read isRead).sharedWith) areRead
  refine ⟨members, gives, {
    id := ?_
    name := name.orDefault (fun _ _ => Json.string_eq_ok_iff.mp) _
    readable := readable.orDefault (fun _ _ => Json.boolean_eq_ok_iff.mp) _
    sharedWith :=
      sharedWith.orDefault (fun _ _ => Json.list_string_eq_ok_iff.mp) _ }⟩
  obtain ⟨value, isGiven, isText⟩ := readId.of_required isId
  rw [isGiven, Json.string_eq_ok_iff.mp isText]

end Mailbox

/-! ## Snapshots -/

namespace Snapshot

/-- What some members say of an account. -/
structure SaidBy (members : List (String × Json))
    (snapshot : Snapshot) : Prop where
  /-- The owner. -/
  principal : Json.last? "principal" members = some (.str snapshot.principal)
  /-- The mailboxes, in order. -/
  mailboxes : Json.OrDefault (fun value mailboxes => ∃ items,
      value = .arr items ∧ List.Forall₂ Mailbox.DescribedBy items mailboxes)
    [] (Json.last? "mailboxes" members) snapshot.mailboxes
  /-- The messages, in order. -/
  messages : Json.OrDefault (fun value entries => ∃ items,
      value = .arr items ∧
        List.Forall₂ DescribedMessage.DescribedBy items entries)
    [] (Json.last? "messages" members) snapshot.messages

/-- A value describes an account. -/
def DescribedBy (value : Json) (snapshot : Snapshot) : Prop :=
  ∃ members, layout.GivesMembers value members ∧ SaidBy members snapshot

/-- What reading one member changes. -/
structure Reads (name : String) (value : Json)
    (before after : Members) : Prop where
  principal : Json.Fills Json.string (Json.given "principal" name value)
    before.principal after.principal
  mailboxes : Json.Fills (Json.list Mailbox.decode)
    (Json.given "mailboxes" name value) before.mailboxes after.mailboxes
  messages : Json.Fills (Json.list DescribedMessage.decode)
    (Json.given "messages" name value) before.messages after.messages

theorem reads_of_read
    {name : String}
    {value : Json}
    {before after : Members}
    (isRead : read before name value = .ok after) :
    Reads name value before after := by
  unfold read at isRead
  split at isRead
  case h_4 =>
    cases isRead
    constructor <;> exact .of_ne (by assumption) value _
  all_goals
    obtain ⟨held, isOnly, rfl⟩ := Outcome.exists_of_map_eq_ok isRead
    constructor <;>
      first | exact .of_once isOnly | exact .of_ne (by decide) value _

theorem describedBy_of_decode
    {value : Json}
    {snapshot : Snapshot}
    (decoded : decode value = .ok snapshot) :
    DescribedBy value snapshot := by
  obtain ⟨last, isRecord, decoded⟩ := Outcome.exists_of_bind_eq_ok decoded
  obtain ⟨members, gives, areRead⟩ := Json.exists_members_of_record isRecord
  obtain ⟨owner, isOwner, decoded⟩ := Outcome.exists_of_bind_eq_ok decoded
  cases decoded
  have principal := Json.fills_of_foldlM Members.principal
    (fun isRead => (reads_of_read isRead).principal) areRead
  have mailboxes := Json.fills_of_foldlM Members.mailboxes
    (fun isRead => (reads_of_read isRead).mailboxes) areRead
  have messages := Json.fills_of_foldlM Members.messages
    (fun isRead => (reads_of_read isRead).messages) areRead
  refine ⟨members, gives, {
    principal := ?_
    mailboxes := mailboxes.orDefault (fun _ _ areMailboxes => ?_) _
    messages := messages.orDefault (fun _ _ areMessages => ?_) _ }⟩
  · obtain ⟨value, isGiven, isText⟩ := principal.of_required isOwner
    rw [isGiven, Json.string_eq_ok_iff.mp isText]
  · obtain ⟨items, rfl, each⟩ := Json.list_eq_ok_iff.mp areMailboxes
    exact ⟨items, rfl, each.imp fun _ _ => Mailbox.describedBy_of_decode⟩
  · obtain ⟨items, rfl, each⟩ := Json.list_eq_ok_iff.mp areMessages
    exact ⟨items, rfl, each.imp fun _ _ =>
      DescribedMessage.describedBy_of_decode⟩

/-- Each message of a described account is described by some value. -/
theorem DescribedBy.exists_of_mem
    {value : Json}
    {snapshot : Snapshot}
    (describes : DescribedBy value snapshot)
    {entry : DescribedMessage}
    (isEntry : entry ∈ snapshot.messages) :
    ∃ item, DescribedMessage.DescribedBy item entry := by
  obtain ⟨members, -, said⟩ := describes
  have messages := said.messages
  generalize Json.last? "messages" members = given,
    snapshot.messages = entries at messages isEntry
  cases messages with
  | absent => cases isEntry
  | given form =>
      obtain ⟨items, -, each⟩ := form
      exact Outcome.exists_of_forall₂ each.flip entry isEntry

end Snapshot

end Store
end MailSearch
