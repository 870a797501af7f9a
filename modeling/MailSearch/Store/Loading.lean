import MailSearch.Storage.Folder
import MailSearch.Store.Snapshot

/-!
# Loading

Raw messages and accounts are loaded from files.  An account is loaded as a
whole or not at all: the first message that cannot be added is the reason why.
-/

namespace MailSearch
namespace Store

variable {m : Type -> Type} [Monad m]

/-- Run an access to a file whose failure ends the loading. -/
def orUnreadable {α : Type} (path : String)
    (access : m (Except Storage.FileError α)) :
    ExceptT (Stop Query.Error) m α := do
  match ← (access : m _) with
  | .ok found => return found
  | .error cause => throw (.failed (.unreadable path cause))

/-- Load a raw message. -/
def loadMessage (files : Storage.Files m) (path : String) :
    ExceptT (Stop Query.Error) m Mime.Document := do
  let raw ← orUnreadable path (files.read path)
  match Mime.Document.ofBytes? raw with
  | some (some content) => return content
  | some none => throw .brokenDown
  | none => throw (.failed (.malformed path .emptyMessage))

/-- The content of a message that a snapshot in a directory describes. -/
def loadContent (files : Storage.Files m) (directory : List Char)
    (message : DescribedMessage) :
    ExceptT (Stop Query.Error) m Mime.Document :=
  match message.file with
  | none => return message.content
  | some file =>
      loadMessage files
        (String.ofList (Storage.Path.join directory file.toList))

/-- An account in the course of loading. -/
structure Loading where
  /-- The identifiers of the messages that were met so far. -/
  seen : IdSet
  /-- The account with these messages. -/
  account : Account

/-- Add a message that the snapshot at a path describes; its identifier must be
new. -/
def addDescribed (files : Storage.Files m) (path : String)
    (directory : List Char)
    (loading : Loading) (message : DescribedMessage) :
    ExceptT (Stop Query.Error) m Loading := do
  if loading.seen.contains message.id then
    throw (.failed (.malformed path (.duplicateMessage message.id)))
  let content ← loadContent files directory message
  let adding :=
    Account.addMessage (message.withContent content) content.attachmentText
  match adding.run loading.account with
  | (.ok (), account) => return ⟨loading.seen.insert message.id, account⟩
  | (.error stop, _) => throw stop

/-- The account that a snapshot describes, as yet without messages. -/
def Snapshot.withoutMessages (snapshot : Snapshot) : Account :=
  snapshot.mailboxes.foldl Account.addMailbox (.empty snapshot.principal)

/-- Load the account that a snapshot describes. -/
def loadAccount (files : Storage.Files m) (path : String) :
    ExceptT (Stop Query.Error) m Account := do
  let text ← orUnreadable path (files.readText path)
  match Snapshot.ofChars text with
  | .error cause => throw (.failed (.malformed path cause))
  | .ok snapshot =>
      let directory := (Storage.Path.parent? path.toList).getD ['.']
      let loaded ← snapshot.messages.foldlM (addDescribed files path directory)
        ⟨.empty, snapshot.withoutMessages⟩
      return loaded.account

end Store
end MailSearch
