import MailSearch.Query.Engine

/-!
# Accounts

An account holds mailboxes, messages and the index of their texts.  It answers
all that a query asks: which mailboxes a principal may read, which messages lie
in them, and whether a message contains a term.
-/

namespace MailSearch
namespace Store

/-- A mailbox of an account. -/
structure Mailbox where
  /-- The identifier. -/
  id : String
  /-- The name. -/
  name : String
  /-- Whether the owner of the account may read it. -/
  readable : Bool
  /-- The other principals who may read it. -/
  sharedWith : List String
  deriving DecidableEq, Repr

/-- Whether a principal may read a mailbox of an account with an owner. -/
def Mailbox.isVisible (mailbox : Mailbox) (owner principal : String) : Bool :=
  if principal = owner then mailbox.readable
    else mailbox.sharedWith.contains principal

/-- The mailboxes and messages of one owner. -/
structure Account where
  /-- The principal who owns the mailboxes. -/
  owner : String
  /-- The mailboxes in the order in which they were added. -/
  mailboxes : List Mailbox
  /-- The messages by their identifiers. -/
  messages : IdMap Message
  /-- The texts of the messages. -/
  index : Query.TextIndex

namespace Account

/-- The account without mailboxes and messages. -/
def empty (owner : String) : Account :=
  ⟨owner, [], .empty, .empty⟩

/-- Add a mailbox at the end, in place of one with the same identifier. -/
def addMailbox (account : Account) (mailbox : Mailbox) : Account :=
  { account with
    mailboxes := account.mailboxes.filter
      (fun other => other.id != mailbox.id) ++ [mailbox] }

/--
Add a message with the text of its attachments; its identifier must be new.  The
account is changed in the course of this: whatever comes of it, there is an
account afterwards.
-/
def addMessage (message : Message) (attachmentText : List String) :
    ExceptT (Stop Query.Error) (StateM Account) Unit := do
  if (← get).messages.contains message.id then
    throw (.failed
      (.storeUnavailable ("Duplicate message id '" ++ message.id ++ "'")))
  match (← get).index.add message attachmentText with
  | none => throw .brokenDown
  | some index =>
      modify fun account => { account with index := index }
      modify fun account =>
        { account with messages := account.messages.insert message.id message }

/-- The message with an identifier. -/
def message? (account : Account) (id : String) : Option Message :=
  account.messages.get? id

/-- The number of messages. -/
def size (account : Account) : Nat :=
  account.messages.size

/-- The mailboxes that a principal may read. -/
def visible (account : Account) (principal : String) : IdSet :=
  .ofList ((account.mailboxes.filter fun mailbox =>
    mailbox.isVisible account.owner principal).map Mailbox.id)

/-- The messages in some mailboxes, each once. -/
def listing (account : Account) (mailboxes : IdSet) : List Message :=
  account.messages.values.filter fun message =>
    message.mailboxIds.meets mailboxes

/-- Whether a message contains a term. -/
def search (account : Account) (scope : Query.TextScope)
    (term id : String) : Bool :=
  account.index.contains scope term id

/-- What answers queries on the account. -/
def engine (account : Account) (settings : Query.Settings) : Query.Engine where
  visible principal := .ok (account.visible principal)
  listing mailboxes := .ok (account.listing mailboxes)
  index scope term id := .ok (account.search scope term id)
  settings := settings

end Account
end Store
end MailSearch
