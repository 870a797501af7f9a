import MailSearch.Data.IdMap
import MailSearch.Mail.Message
import MailSearch.Query.Error

/-!
# Candidates

A query looks at the messages that lie in a visible mailbox.  A candidate is
such a message together with those of its mailboxes that are visible; the others
are never looked at.  A store may list a message several times, and candidates
come out once each in the order of their identifiers.
-/

namespace MailSearch
namespace Query

/-- A message that lies in a visible mailbox. -/
structure Candidate where
  /-- The message. -/
  message : Message
  /-- The visible mailboxes that hold it. -/
  mailboxes : IdSet
  deriving DecidableEq

namespace Candidate

/-- The identifier of the message. -/
def id (candidate : Candidate) : String :=
  candidate.message.id

/-- The candidate of a message, if one of its mailboxes is visible. -/
def ofMessage? (visible : IdSet) (message : Message) : Option Candidate :=
  let mailboxes := message.mailboxIds.inter visible
  if mailboxes.isEmpty then none else some ⟨message, mailboxes⟩

/-- Add the candidate of a message, unless its identifier is taken. -/
def add (visible : IdSet) (found : IdMap Candidate) (message : Message) :
    IdMap Candidate :=
  if found.contains message.id then found
  else
    match ofMessage? visible message with
    | some candidate => found.insert message.id candidate
    | none => found

/-- The candidates of a listing, in the order of their identifiers. -/
def ofListing (visible : IdSet) (messages : List Message) : List Candidate :=
  (messages.foldl (add visible) .empty).values

/-- The mailboxes that are looked up: the visible ones, within the scope if
there is one. -/
def lookup (visible : IdSet) : Option IdSet -> IdSet
  | none => visible
  | some scope => visible.inter scope

/--
The candidates among the messages of a store.  A scope narrows the lookup but
not the mailboxes of a candidate; without a mailbox to look up the store is not
asked.
-/
def collect (store : IdSet -> Except Error (List Message)) (visible : IdSet)
    (scope : Option IdSet) : Except Error (List Candidate) :=
  let mailboxes := lookup visible scope
  if mailboxes.isEmpty then .ok []
  else (store mailboxes).map (ofListing visible)

end Candidate
end Query
end MailSearch
