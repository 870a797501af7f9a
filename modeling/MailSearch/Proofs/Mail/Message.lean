import MailSearch.Mail.Message

/-!
# Messages and their mailboxes

A message as the readers of some mailboxes may know it: nothing is said of the
other mailboxes that hold it.
-/

namespace MailSearch
namespace Message

/-- The message as if it lay in no other mailboxes than these. -/
def within (message : Message) (mailboxes : IdSet) : Message :=
  { message with mailboxIds := message.mailboxIds.inter mailboxes }

/-- A message of which nothing is known but its identifier, its mailboxes and
its size. -/
def bare (id : String) (mailboxes : List String) (size : Nat) : Message where
  id := id
  threadId := id
  blobId := id
  mailboxIds := .ofList mailboxes
  keywords := .empty
  headers := []
  size := size
  receivedAt := ⟨0, 0⟩
  attachments := []
  body := ⟨none, none⟩

end Message
end MailSearch
