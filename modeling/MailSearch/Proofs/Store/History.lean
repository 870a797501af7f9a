import Mathlib.Data.List.Induction
import MailSearch.Proofs.Mail.Message
import MailSearch.Proofs.Query.BodyText
import MailSearch.Proofs.Query.Reply
import MailSearch.Store.Account

/-!
# Accounts and their histories

What an account holds after any history of changes, read off the history itself:
of each mailbox the entry that was added last, of each message the one that was
added first under its identifier, and of the index the texts of these messages.
A message with HTML that cannot be converted, and no plain text, counts as not
added: the program breaks down over it before the account is changed.
-/

namespace MailSearch
namespace Store

/-- A change that an account is asked for. -/
inductive Change where
  /-- Add a mailbox. -/
  | addMailbox (mailbox : Mailbox)
  /-- Add a message with the text of its attachments. -/
  | addMessage (message : Message) (attachmentText : List String)

/-- A message as it was handed in, with the text of its attachments. -/
structure Filed where
  /-- The message. -/
  message : Message
  /-- The text of the attachments. -/
  attachmentText : List String
  deriving DecidableEq

namespace Filed

/-- The searchable text of the message, if its body can be shown as text. -/
def indexed (filed : Filed) : Attempt Query.IndexedText :=
  Query.IndexedText.ofMessage filed.message filed.attachmentText

/-- Whether the message contains a term in any letter case. -/
def contains (filed : Filed) (scope : Query.TextScope) (term : String) : Bool :=
  filed.indexed.any fun text => text.contains scope (Text.lower term.toList)

theorem isSome_indexed_iff
    {filed : Filed} :
    filed.indexed.isSome = true ↔ filed.message.body.IsReadable := by
  rw [indexed, Query.IndexedText.ofMessage, Option.isSome_map,
    Query.IndexedText.isSome_bodyOf_iff]

end Filed

namespace Change

/-- The mailbox with an identifier, if the change adds it. -/
def mailbox? (id : String) : Change -> Option Mailbox
  | .addMailbox mailbox => if mailbox.id = id then some mailbox else none
  | .addMessage _ _ => none

/-- The message with an identifier, if the change asks for it and its body can
be shown as text. -/
def filed? (id : String) : Change -> Option Filed
  | .addMailbox _ => none
  | .addMessage message attachmentText =>
      if message.id = id ∧
        message.body.IsReadable then some ⟨message, attachmentText⟩ else none

theorem filed?_eq_some_iff
    {id : String}
    {change : Change}
    {filed : Filed} :
    change.filed? id = some filed ↔
      change = .addMessage filed.message filed.attachmentText ∧
        filed.message.id = id ∧
        filed.message.body.IsReadable := by
  cases change with
  | addMailbox mailbox => exact ⟨nofun, fun both => nomatch both.1⟩
  | addMessage message attachmentText =>
      rw [filed?, Option.ite_none_right_eq_some, Option.some.injEq]
      constructor
      · rintro ⟨both, rfl⟩
        exact ⟨rfl, both⟩
      · rintro ⟨same, both⟩
        cases same
        exact ⟨both, rfl⟩

end Change

/-- What an account was asked for, in order. -/
abbrev History := List Change

namespace History

/-- The entry of a mailbox that counts: the last one. -/
def mailbox? (history : History) (id : String) : Option Mailbox :=
  history.reverse.findSome? (Change.mailbox? id)

/-- The message that is stored under an identifier: the first one with a
readable body. -/
def filed? (history : History) (id : String) : Option Filed :=
  history.findSome? (Change.filed? id)

/-- Whether a principal may read the mailbox with an identifier. -/
def mayRead (history : History) (owner principal id : String) : Bool :=
  match mailbox? history id with
  | some mailbox => mailbox.isVisible owner principal
  | none => false

theorem mailbox?_append
    (history : History)
    (change : Change)
    (id : String) :
    mailbox? (history ++ [change]) id =
      (change.mailbox? id).or (mailbox? history id) := by
  rw [mailbox?, List.reverse_append, List.reverse_singleton,
    List.singleton_append, List.findSome?_cons, mailbox?]
  cases change.mailbox? id <;> rfl

theorem filed?_append
    (history : History)
    (change : Change)
    (id : String) :
    filed? (history ++ [change]) id =
      (filed? history id).or (change.filed? id) := by
  rw [filed?, List.findSome?_append, List.findSome?_singleton, filed?]

/-- A message under a taken identifier is not taken up. -/
theorem filed?_append_taken
    {history : History}
    {message : Message}
    {taken : Filed}
    (found : filed? history message.id = some taken)
    (attachmentText : List String)
    (id : String) :
    filed? (history ++ [.addMessage message attachmentText]) id =
      filed? history id := by
  rw [filed?_append, Change.filed?]
  by_cases same : message.id = id
  · rw [← same, found, Option.some_or]
  · rw [if_neg fun both => same both.1, Option.or_none]

/-- A message whose body cannot be shown as text is not taken up. -/
theorem filed?_append_unreadable
    {message : Message}
    (unreadable : ¬ message.body.IsReadable)
    (history : History)
    (attachmentText : List String)
    (id : String) :
    filed? (history ++ [.addMessage message attachmentText]) id =
      filed? history id := by
  rw [filed?_append, Change.filed?, if_neg fun both =>
    unreadable both.2, Option.or_none]

/-- Another message under a new identifier is taken up. -/
theorem filed?_append_fresh
    {history : History}
    {message : Message}
    (fresh : filed? history message.id = none)
    (readable : message.body.IsReadable)
    (attachmentText : List String)
    (id : String) :
    filed? (history ++ [.addMessage message attachmentText]) id =
      if id = message.id then some ⟨message, attachmentText⟩
        else filed? history id := by
  rw [filed?_append, Change.filed?]
  by_cases same : message.id = id
  · rw [if_pos ⟨same, readable⟩, if_pos same.symm, ← same, fresh,
      Option.none_or]
  · rw [if_neg fun both => same both.1, if_neg (Ne.symm same), Option.or_none]

theorem id_of_filed?
    {history : History}
    {id : String}
    {filed : Filed}
    (found : filed? history id = some filed) :
    filed.message.id = id := by
  obtain ⟨change, -, found⟩ := List.exists_of_findSome?_eq_some found
  exact (Change.filed?_eq_some_iff.mp found).2.1

/-- The body of a stored message can be shown as text. -/
theorem readable_of_filed?
    {history : History}
    {id : String}
    {filed : Filed}
    (found : filed? history id = some filed) :
    filed.message.body.IsReadable := by
  obtain ⟨change, -, found⟩ := List.exists_of_findSome?_eq_some found
  exact (Change.filed?_eq_some_iff.mp found).2.2

theorem id_of_mailbox?
    {history : History}
    {id : String}
    {mailbox : Mailbox}
    (found : mailbox? history id = some mailbox) :
    mailbox.id = id := by
  obtain ⟨change, -, found⟩ := List.exists_of_findSome?_eq_some found
  cases change with
  | addMailbox added =>
      rw [Change.mailbox?] at found
      split at found
      · rename_i same
        cases found
        exact same
      · cases found
  | addMessage message attachmentText => cases found

/-- A message is held if it is the first readable one that was handed in under
its identifier. -/
def Holds (history : History) (message : Message) : Prop :=
  ∃ attachmentText, filed? history message.id = some ⟨message, attachmentText⟩

/-- Held messages with the same identifier are the same. -/
theorem Holds.eq_of_id_eq
    {history : History}
    {left right : Message}
    (leftHeld : history.Holds left)
    (rightHeld : history.Holds right)
    (same : left.id = right.id) :
    left = right := by
  obtain ⟨leftText, leftFound⟩ := leftHeld
  obtain ⟨rightText, rightFound⟩ := rightHeld
  rw [same, rightFound] at leftFound
  cases leftFound
  rfl

/-- The body of a held message can be shown as text. -/
theorem Holds.readable
    {history : History}
    {message : Message}
    (held : history.Holds message) :
    message.body.IsReadable := by
  obtain ⟨attachmentText, found⟩ := held
  exact readable_of_filed? found

/-- Whether the message that is stored under an identifier contains a term. -/
def contains (history : History) (scope : Query.TextScope)
    (term id : String) : Bool :=
  match filed? history id with
  | none => false
  | some filed => filed.contains scope term

theorem holds_iff
    {history : History}
    {message : Message} :
    history.Holds message ↔
      (filed? history message.id).map Filed.message = some message := by
  constructor
  · rintro ⟨attachmentText, found⟩
    rw [found]
    rfl
  · intro found
    obtain ⟨⟨same, attachmentText⟩, filed, rfl⟩ :=
      Option.map_eq_some_iff.1 found
    exact ⟨attachmentText, filed⟩

end History

namespace Account

/-! ## One change -/

/-- A message is refused, or the program breaks down over its text, or else it
is stored. -/
theorem run_addMessage
    (account : Account)
    (message : Message)
    (attachmentText : List String) :
    (addMessage message attachmentText).run account =
      if account.messages.contains message.id = true then
        (.error (.failed (.storeUnavailable
            ("Duplicate message id '" ++ message.id ++ "'"))),
          account)
      else match account.index.add message attachmentText with
        | none => (.error .brokenDown, account)
        | some index =>
            (.ok (), { account with
              messages := account.messages.insert message.id message
              index := index }) := by
  have look : ∀ next : Account -> ExceptT (Stop Query.Error)
      (StateM Account) Unit,
      (get >>= next).run account = (next account).run account := fun _ => rfl
  rw [addMessage, look]
  by_cases taken : account.messages.contains message.id = true
  · rw [if_pos taken, if_pos taken]
    rfl
  · rw [if_neg taken, if_neg taken, look]
    cases account.index.add message attachmentText <;> rfl

/-- A message whose identifier is taken is refused, and the account is as it
was. -/
theorem addMessage_of_taken
    {account : Account}
    {message present : Message}
    (taken : account.messages.get? message.id = some present)
    (attachmentText : List String) :
    (addMessage message attachmentText).run account =
      (.error (.failed
          (.storeUnavailable ("Duplicate message id '" ++ message.id ++ "'"))),
        account) := by
  rw [run_addMessage, if_pos (IdMap.contains_iff.mpr ⟨present, taken⟩)]

/-- Over a message whose body cannot be shown the program breaks down, with
nothing changed. -/
theorem addMessage_of_unreadable
    {account : Account}
    {message : Message}
    (fresh : account.messages.get? message.id = none)
    (unreadable : ¬ message.body.IsReadable)
    (attachmentText : List String) :
    (addMessage message attachmentText).run account =
      (.error .brokenDown, account) := by
  have noText : account.index.add message attachmentText = none := by
    rw [← Query.IndexedText.isSome_bodyOf_iff, Option.not_isSome_iff_eq_none]
      at unreadable
    rw [Query.TextIndex.add, Query.IndexedText.ofMessage, unreadable]
    rfl
  rw [run_addMessage, IdMap.contains_eq_false_iff.mpr fresh,
    if_neg Bool.false_ne_true, noText]

/-- Any other message is stored under its identifier, and so is its text. -/
theorem addMessage_of_fresh
    {account : Account}
    {filed : Filed}
    (fresh : account.messages.get? filed.message.id = none)
    {text : Query.IndexedText}
    (indexed : filed.indexed = some text) :
    (addMessage filed.message filed.attachmentText).run account =
      (.ok (), { account with
        messages := account.messages.insert filed.message.id filed.message
        index := ⟨account.index.documents.insert filed.message.id text⟩ }) := by
  have added : account.index.add filed.message filed.attachmentText =
      some ⟨account.index.documents.insert filed.message.id text⟩ := by
    rw [Filed.indexed] at indexed
    rw [Query.TextIndex.add, indexed]
    rfl
  rw [run_addMessage, IdMap.contains_eq_false_iff.mpr fresh,
    if_neg Bool.false_ne_true, added]

/-- Whatever comes of adding a message, the account is as it was unless the
message is added. -/
theorem unchanged_of_addMessage_eq_error
    {account after : Account}
    {message : Message}
    {attachmentText : List String}
    {stop : Stop Query.Error}
    (ended : (addMessage message attachmentText).run account =
      (.error stop, after)) :
    after = account := by
  rw [run_addMessage] at ended
  split at ended
  · cases ended
    rfl
  · split at ended
    · cases ended
      rfl
    · cases ended

/-- The account after a change, whatever comes of it. -/
def change (account : Account) : Change -> Account
  | .addMailbox mailbox => account.addMailbox mailbox
  | .addMessage message attachmentText =>
      ((addMessage message attachmentText).run account).2

/-- The account of an owner after a history. -/
def ofHistory (owner : String) (history : History) : Account :=
  history.foldl change (empty owner)

theorem ofHistory_append
    (owner : String)
    (history : History)
    (next : Change) :
    ofHistory owner (history ++ [next]) =
      (ofHistory owner history).change next := by
  rw [ofHistory, List.foldl_append]
  rfl

/-- A message with a readable body whose identifier is new is taken up. -/
theorem addMessage_of_readable
    {account : Account}
    {message : Message}
    (fresh : account.messages.get? message.id = none)
    (readable : message.body.IsReadable)
    (attachmentText : List String) :
    (addMessage message attachmentText).run account =
      (.ok (), account.change (.addMessage message attachmentText)) := by
  obtain ⟨text, indexed⟩ := Option.isSome_iff_exists.mp
    (@Filed.isSome_indexed_iff ⟨message, attachmentText⟩ |>.mpr readable)
  rw [change, @addMessage_of_fresh _ ⟨message, attachmentText⟩ fresh _ indexed]

/-- Adding a message does not concern the owner and the mailboxes. -/
theorem change_addMessage
    (account : Account)
    (message : Message)
    (attachmentText : List String) :
    (account.change (.addMessage message attachmentText)).owner =
        account.owner ∧
      (account.change (.addMessage message attachmentText)).mailboxes =
        account.mailboxes := by
  rw [change, run_addMessage]
  split
  · exact ⟨rfl, rfl⟩
  · split <;> exact ⟨rfl, rfl⟩

theorem owner_change
    (account : Account)
    (next : Change) :
    (account.change next).owner = account.owner := by
  cases next with
  | addMailbox mailbox => rfl
  | addMessage message attachmentText =>
      exact (change_addMessage account message _).1

theorem mem_mailboxes_change
    {account : Account}
    {next : Change}
    {mailbox : Mailbox} :
    mailbox ∈ (account.change next).mailboxes ↔
      next.mailbox? mailbox.id = some mailbox ∨
        next.mailbox? mailbox.id = none ∧ mailbox ∈ account.mailboxes := by
  cases next with
  | addMailbox added =>
      rw [change, addMailbox, Change.mailbox?, List.mem_append, List.mem_filter,
        List.mem_singleton]
      by_cases same : added.id = mailbox.id
      · simp [same, eq_comm]
      · have different : mailbox ≠ added := fun equal => same (by rw [equal])
        simp [same, different, Ne.symm same]
  | addMessage message attachmentText =>
      rw [(change_addMessage account message attachmentText).2]
      simp [Change.mailbox?]

/-! ## A whole history -/

/-- A map has for every identifier what is read off the message held under
it. -/
def Mirrors {α : Type} (history : History) (read : Filed -> Option α)
    (map : IdMap α) : Prop :=
  ∀ id, map.get? id = (History.filed? history id).bind read

section Mirroring

variable {α : Type} {history : History} {read : Filed -> Option α}
  {map : IdMap α} (mirrors : Mirrors history read map)

include mirrors

theorem Mirrors.addMailbox
    (mailbox : Mailbox) :
    Mirrors (history ++ [.addMailbox mailbox]) read map := by
  intro id
  rw [History.filed?_append, Change.filed?, Option.or_none]
  exact mirrors id

theorem Mirrors.addMessage_taken
    {message : Message}
    {taken : Filed}
    (found : History.filed? history message.id = some taken)
    (attachmentText : List String) :
    Mirrors (history ++ [.addMessage message attachmentText]) read map := by
  intro id
  rw [History.filed?_append_taken found]
  exact mirrors id

theorem Mirrors.addMessage_unreadable
    {message : Message}
    (unreadable : ¬ message.body.IsReadable)
    (attachmentText : List String) :
    Mirrors (history ++ [.addMessage message attachmentText]) read map := by
  intro id
  rw [History.filed?_append_unreadable unreadable]
  exact mirrors id

theorem Mirrors.addMessage_fresh
    {filed : Filed}
    (fresh : History.filed? history filed.message.id = none)
    (readable : filed.message.body.IsReadable)
    {value : α}
    (isRead : read filed = some value) :
    Mirrors (history ++ [.addMessage filed.message filed.attachmentText]) read
      (map.insert filed.message.id value) := by
  intro id
  rw [History.filed?_append_fresh fresh readable, IdMap.get?_insert, mirrors id]
  split
  · exact isRead.symm
  · rfl

end Mirroring

/-- An account of an owner holds what a history made of it. -/
structure Records
    (owner : String)
    (history : History)
    (account : Account) : Prop where
  /-- The account belongs to the owner. -/
  owner_eq : account.owner = owner
  /-- A mailbox is the last one that was added under its identifier. -/
  mem_mailboxes_iff : ∀ mailbox,
    mailbox ∈ account.mailboxes ↔
      History.mailbox? history mailbox.id = some mailbox
  /-- The messages are the held ones. -/
  messages : Mirrors history (fun filed => some filed.message) account.messages
  /-- The texts are those of the held messages. -/
  documents : Mirrors history Filed.indexed account.index.documents

/-- The message under an identifier is the one that is held under it. -/
theorem Records.get?_messages
    {owner : String}
    {history : History}
    {account : Account}
    (records : Records owner history account)
    (id : String) :
    account.messages.get? id = (history.filed? id).map Filed.message := by
  rw [records.messages, Option.map_eq_bind]
  rfl

/-- A change makes of the account what the longer history makes of it. -/
theorem Records.change
    {owner : String}
    {history : History}
    {account : Account}
    (records : Records owner history account)
    (next : Change) :
    Records owner (history ++ [next]) (account.change next) := by
  have sameOwner : (account.change next).owner = owner := by
    rw [owner_change, records.owner_eq]
  have sameMailboxes : ∀ mailbox, mailbox ∈ (account.change next).mailboxes ↔
      History.mailbox? (history ++ [next]) mailbox.id = some mailbox := by
    intro mailbox
    rw [mem_mailboxes_change, History.mailbox?_append,
      records.mem_mailboxes_iff]
    cases next.mailbox? mailbox.id <;> simp
  have held : Mirrors (history ++ [next]) (fun filed => some filed.message)
        (account.change next).messages ∧
      Mirrors (history ++ [next]) Filed.indexed
        (account.change next).index.documents := by
    cases next with
    | addMailbox mailbox =>
        exact ⟨records.messages.addMailbox mailbox,
          records.documents.addMailbox mailbox⟩
    | addMessage message attachmentText =>
        have present := records.get?_messages message.id
        cases taken : history.filed? message.id with
        | some filed =>
            rw [taken] at present
            rw [Account.change, addMessage_of_taken present]
            exact ⟨records.messages.addMessage_taken taken attachmentText,
              records.documents.addMessage_taken taken attachmentText⟩
        | none =>
            rw [taken] at present
            by_cases readable : message.body.IsReadable
            · obtain ⟨text, indexed⟩ := Option.isSome_iff_exists.mp
                (@Filed.isSome_indexed_iff
                  ⟨message, attachmentText⟩ |>.mpr readable)
              rw [Account.change, addMessage_of_fresh present indexed]
              exact ⟨records.messages.addMessage_fresh taken readable rfl,
                records.documents.addMessage_fresh taken readable indexed⟩
            · rw [Account.change, addMessage_of_unreadable present readable]
              exact ⟨records.messages.addMessage_unreadable readable
                  attachmentText,
                records.documents.addMessage_unreadable readable attachmentText⟩
  exact ⟨sameOwner, sameMailboxes, held.1, held.2⟩

/-- The account after a history holds what the history made of it. -/
theorem records_ofHistory
    (owner : String)
    (history : History) :
    Records owner history (ofHistory owner history) := by
  induction history using List.reverseRecOn with
  | nil =>
      exact ⟨rfl, fun mailbox => by simp [ofHistory, empty, History.mailbox?],
        fun id => rfl, fun id => rfl⟩
  | append_singleton earlier next inductionHypothesis =>
      rw [ofHistory_append]
      exact inductionHypothesis.change next

namespace Records

variable {owner : String} {history : History} {account : Account}
  (records : Records owner history account)

include records

/-- The visible mailboxes are those that the principal may read. -/
theorem mem_visible_iff
    {principal id : String} :
    id ∈ account.visible principal ↔
      history.mayRead owner principal id = true := by
  rw [visible, IdSet.mem_ofList, records.owner_eq]
  simp only [List.mem_map, List.mem_filter, records.mem_mailboxes_iff,
    History.mayRead]
  constructor
  · rintro ⟨mailbox, ⟨found, readable⟩, rfl⟩
    rw [found]
    exact readable
  · intro readable
    cases found : History.mailbox? history id with
    | none =>
        rw [found] at readable
        cases readable
    | some mailbox =>
        rw [found] at readable
        have same := History.id_of_mailbox? found
        exact ⟨mailbox, ⟨by rw [same]; exact found, readable⟩, same⟩

theorem mem_messages_iff
    {message : Message} :
    message ∈ account.messages.values ↔ history.Holds message := by
  rw [IdMap.mem_values_iff, History.holds_iff]
  simp only [records.get?_messages]
  constructor
  · rintro ⟨id, found⟩
    obtain ⟨filed, filedUnder, rfl⟩ := Option.map_eq_some_iff.1 found
    rw [History.id_of_filed? filedUnder]
    exact found
  · intro found
    exact ⟨message.id, found⟩

/-- The listings of the account serve the messages that it holds. -/
theorem serves_listing :
    Query.Serves (fun mailboxes => .ok (account.listing mailboxes))
      history.Holds := by
  have members : ∀ message, message ∈ account.messages.values ↔
      history.Holds message :=
    fun message => records.mem_messages_iff
  refine ⟨fun mailboxes => ⟨_, rfl, fun message => ?_⟩,
    fun left right leftHeld rightHeld => leftHeld.eq_of_id_eq rightHeld⟩
  rw [listing, List.mem_filter, IdSet.meets_iff, members]

/-- A search looks into the message that is stored under an identifier. -/
theorem search_eq
    (scope : Query.TextScope)
    (term id : String) :
    account.search scope term id = history.contains scope term id := by
  unfold search Query.TextIndex.contains History.contains
  rw [records.documents]
  cases History.filed? history id with
  | none => rfl
  | some filed =>
      rw [Option.bind_some]
      change _ = filed.indexed.any _
      cases filed.indexed <;> rfl

/-- The index of the account finds what the history contains. -/
theorem index_eq
    (settings : Query.Settings) :
    (account.engine settings).index =
      fun scope term id => .ok (history.contains scope term id) := by
  funext scope term id
  exact congrArg Except.ok (records.search_eq scope term id)

/-- The account lists only messages whose bodies can be shown as text. -/
theorem isReadable_engine
    (settings : Query.Settings) :
    (account.engine settings).IsReadable := by
  rintro mailboxes messages lists message isListed
  cases lists
  exact (records.mem_messages_iff.mp (List.mem_of_mem_filter isListed)).readable

end Records

end Account
end Store
end MailSearch
