import MailSearch.Proofs.Store.History

/-!
# What every account keeps

However mailboxes and messages were added to an account, refused messages
included, it lists every mailbox once, in the order of the last additions; its
messages stand under their own identifiers in ascending order; and its index
holds the texts of exactly these messages.  A message that is refused, or over
which the program breaks down, leaves no trace.
-/

namespace MailSearch
namespace Store

theorem Change.mailbox?_eq_none_iff
    {id : String}
    {change : Change} :
    change.mailbox? id = none ↔ ∀ mailbox, change = .addMailbox mailbox →
        mailbox.id ≠ id := by
  cases change with
  | addMailbox added => simp [mailbox?]
  | addMessage message attachmentText => simp [mailbox?]

namespace History

/-! ## Last additions -/

/-- At a place of a history a mailbox is added whose identifier is not added
again behind it. -/
structure AddedLast
    (history : History)
    (mailbox : Mailbox)
    (place : Nat) : Prop where
  /-- The mailbox is added at the place. -/
  added : history[place]? = some (.addMailbox mailbox)
  /-- The mailboxes that are added later have other identifiers. -/
  last : ∀ later other, place < later →
    history[later]? = some (.addMailbox other) →
    other.id ≠ mailbox.id

section LastAdditions

variable {history : History} {mailbox : Mailbox} {place : Nat} {next : Change}

theorem AddedLast.place_lt_length
    (addedLast : AddedLast history mailbox place) :
    place < history.length := by
  obtain ⟨within, -⟩ := List.getElem?_eq_some_iff.mp addedLast.added
  exact within

/-- A change keeps the last additions of other identifiers, and is one itself if
it adds a mailbox. -/
theorem addedLast_append_iff :
    AddedLast (history ++ [next]) mailbox place ↔
      next.mailbox? mailbox.id = none ∧ AddedLast history mailbox place ∨
        next = .addMailbox mailbox ∧ place = history.length := by
  constructor
  · intro addedLast
    have within := addedLast.place_lt_length
    rw [List.length_append, List.length_singleton] at within
    by_cases earlier : place < history.length
    · refine Or.inl ⟨Change.mailbox?_eq_none_iff.mpr
        fun other isNext => ?_, ?_, ?_⟩
      · refine addedLast.last history.length other earlier ?_
        rw [isNext, List.getElem?_concat_length]
      · rw [← List.getElem?_append_left earlier]
        exact addedLast.added
      · intro later other behind added
        refine addedLast.last later other behind ?_
        obtain ⟨laterWithin, -⟩ := List.getElem?_eq_some_iff.mp added
        rw [List.getElem?_append_left laterWithin]
        exact added
    · have atEnd : place = history.length := by omega
      have added := addedLast.added
      rw [atEnd, List.getElem?_concat_length] at added
      exact Or.inr ⟨Option.some.inj added, atEnd⟩
  · rintro (⟨others, addedLast⟩ | ⟨rfl, rfl⟩)
    · refine ⟨?_, fun later other behind added => ?_⟩
      · rw [List.getElem?_append_left addedLast.place_lt_length]
        exact addedLast.added
      · by_cases earlier : later < history.length
        · rw [List.getElem?_append_left earlier] at added
          exact addedLast.last later other behind added
        · obtain ⟨laterWithin, -⟩ := List.getElem?_eq_some_iff.mp added
          rw [List.length_append, List.length_singleton] at laterWithin
          have atEnd : later = history.length := by omega
          rw [atEnd, List.getElem?_concat_length] at added
          exact Change.mailbox?_eq_none_iff.mp others other
            (Option.some.inj added)
    · refine ⟨List.getElem?_concat_length, fun later other behind added => ?_⟩
      obtain ⟨laterWithin, -⟩ := List.getElem?_eq_some_iff.mp added
      rw [List.length_append, List.length_singleton] at laterWithin
      omega

/-- The mailbox that counts for its identifier is the one that was added
last. -/
theorem exists_addedLast_iff :
    (∃ place, AddedLast history mailbox place) ↔
      mailbox? history mailbox.id = some mailbox := by
  induction history using List.reverseRecOn with
  | nil =>
      constructor
      · rintro ⟨place, addedLast⟩
        exact absurd addedLast.place_lt_length (Nat.not_lt_zero place)
      · intro absurd
        cases absurd
  | append_singleton earlier next inductionHypothesis =>
      simp only [addedLast_append_iff, exists_or, exists_and_left,
        inductionHypothesis, exists_eq, and_true, mailbox?_append]
      cases next with
      | addMailbox added =>
          by_cases same : added.id = mailbox.id
          · simp [Change.mailbox?, same]
          · have different : added ≠ mailbox :=
              fun equal => same (congrArg Mailbox.id equal)
            simp [Change.mailbox?, same, different]
      | addMessage message attachmentText => simp [Change.mailbox?]

end LastAdditions

end History

namespace Account

/-! ## The list of mailboxes -/

/-- Every mailbox stands behind those whose last additions are earlier. -/
def InOrderOfAddition
    (history : History)
    (mailboxes : List Mailbox) : Prop :=
  mailboxes.Pairwise fun left right => ∃ first second,
    history.AddedLast left first ∧ history.AddedLast right second ∧
      first < second

/-- Mailboxes in the order of their last additions have different
identifiers. -/
theorem InOrderOfAddition.nodup_ids
    {history : History}
    {mailboxes : List Mailbox}
    (ordered : InOrderOfAddition history mailboxes) :
    (mailboxes.map Mailbox.id).Nodup := by
  refine List.pairwise_map.mpr (ordered.imp ?_)
  rintro left right ⟨first, second, leftAdded, rightAdded, less⟩ same
  exact leftAdded.last second right less rightAdded.added same.symm

/-- A change keeps the mailboxes in the order of their last additions. -/
theorem inOrderOfAddition_change
    {history : History}
    {account : Account}
    (ordered : InOrderOfAddition history account.mailboxes)
    (listed : ∀ mailbox ∈ account.mailboxes, ∃ place,
      history.AddedLast mailbox place)
    (next : Change) :
    InOrderOfAddition (history ++ [next]) (account.change next).mailboxes := by
  cases next with
  | addMailbox added =>
      have kept : ∀ {mailbox place},
          mailbox ∈ account.mailboxes.filter (·.id != added.id) →
          history.AddedLast mailbox place →
            History.AddedLast (history ++ [.addMailbox added]) mailbox
              place := by
        intro mailbox place member addedLast
        have differs : mailbox.id ≠ added.id := by
          simpa using (List.mem_filter.mp member).2
        refine History.addedLast_append_iff.mpr (Or.inl ⟨?_, addedLast⟩)
        exact if_neg (Ne.symm differs)
      refine List.pairwise_append.mpr ⟨?_, List.pairwise_singleton _ _, ?_⟩
      · refine (ordered.filter _).imp_of_mem ?_
        rintro left right leftMember rightMember ⟨first, second, leftAdded,
            rightAdded, less⟩
        exact ⟨first, second, kept leftMember leftAdded,
          kept rightMember rightAdded, less⟩
      · intro mailbox member other isAdded
        rw [List.mem_singleton.mp isAdded]
        obtain ⟨place, addedLast⟩ :=
          listed mailbox (List.mem_of_mem_filter member)
        exact ⟨place, history.length, kept member addedLast,
          History.addedLast_append_iff.mpr (Or.inr ⟨rfl, rfl⟩),
            addedLast.place_lt_length⟩
  | addMessage message attachmentText =>
      have unchanged :
          (account.change (.addMessage message attachmentText)).mailboxes =
          account.mailboxes :=
            (change_addMessage account message attachmentText).2
      rw [unchanged]
      refine ordered.imp ?_
      rintro left right ⟨first, second, leftAdded, rightAdded, less⟩
      exact ⟨first, second,
        History.addedLast_append_iff.mpr (Or.inl ⟨rfl, leftAdded⟩),
        History.addedLast_append_iff.mpr (Or.inl ⟨rfl, rightAdded⟩), less⟩

/-- After any history the mailboxes stand in the order of their last
additions. -/
theorem inOrderOfAddition_ofHistory
    (owner : String)
    (history : History) :
    InOrderOfAddition history (ofHistory owner history).mailboxes := by
  induction history using List.reverseRecOn with
  | nil => exact List.Pairwise.nil
  | append_singleton earlier next inductionHypothesis =>
      rw [ofHistory_append]
      refine inOrderOfAddition_change inductionHypothesis
        (fun mailbox member => ?_) next
      exact History.exists_addedLast_iff.mpr
        (((records_ofHistory owner earlier).mem_mailboxes_iff
          mailbox).mp member)

/-! ## Messages and their texts -/

section Recorded

variable {owner : String} {history : History} {account : Account}
  (records : Records owner history account)

include records

/-- Messages stand under their own identifiers. -/
theorem Records.keys_messages :
    account.messages.keys = account.messages.values.map Message.id := by
  rw [IdMap.keys, IdMap.values, List.map_map]
  refine List.map_congr_left fun entry member => ?_
  have found := IdMap.mem_entries_iff.mp member
  rw [records.get?_messages] at found
  obtain ⟨filed, isFiled, same⟩ := Option.map_eq_some_iff.mp found
  rw [Function.comp_apply, ← same]
  exact (History.id_of_filed? isFiled).symm

/-- Messages stand in the order of their identifiers. -/
theorem Records.pairwise_messages :
    account.messages.values.Pairwise fun left right => left.id < right.id := by
  have ascending := account.messages.pairwise_keys
  rw [records.keys_messages] at ascending
  exact List.pairwise_map.mp ascending

/-- The index holds a text for exactly the identifiers of messages. -/
theorem Records.keys_documents :
    account.index.documents.keys = account.messages.keys := by
  refine IdMap.keys_eq_of_isSome fun id => ?_
  rw [records.documents, records.get?_messages, Option.isSome_map]
  cases found : history.filed? id with
  | none => rfl
  | some filed =>
      exact Filed.isSome_indexed_iff.mpr (History.readable_of_filed? found)

end Recorded

/-- A message with a readable body under a new identifier is stored, as the
longer history says. -/
theorem addMessage_eq_ok
    (owner : String)
    {history : History}
    {message : Message}
    (fresh : (ofHistory owner history).message? message.id = none)
    (readable : message.body.IsReadable)
    (attachmentText : List String) :
    (addMessage message attachmentText).run (ofHistory owner history) =
      (.ok (),
        ofHistory owner (history ++ [.addMessage message attachmentText])) := by
  rw [ofHistory_append]
  exact addMessage_of_readable fresh readable attachmentText

/-- A message that is not added leaves no trace, whatever is asked for later. -/
theorem ofHistory_of_addMessage_eq_error
    {owner : String}
    {history : History}
    {message : Message}
    {attachmentText : List String}
    {stop : Stop Query.Error}
    {after : Account}
    (ended : (addMessage message attachmentText).run (ofHistory owner history) =
      (.error stop, after))
    (later : History) :
    ofHistory owner (history ++ .addMessage message attachmentText :: later) =
      ofHistory owner (history ++ later) := by
  have unchanged :
      (ofHistory owner history).change (.addMessage message attachmentText) =
      ofHistory owner history := by
    rw [change, ended, unchanged_of_addMessage_eq_error ended]
  rw [ofHistory, List.foldl_append, List.foldl_cons, ofHistory,
    List.foldl_append]
  exact congrArg (later.foldl change) unchanged

/-! ## The invariant -/

/-- The parts of an account agree with its history and with each other. -/
structure Agrees
    (history : History)
    (account : Account) : Prop where
  /-- No two mailboxes have the same identifier. -/
  nodup_mailboxes : (account.mailboxes.map Mailbox.id).Nodup
  /-- A mailbox is listed as it was added last. -/
  mem_mailboxes_iff : ∀ mailbox,
    mailbox ∈ account.mailboxes ↔ ∃ place, history.AddedLast mailbox place
  /-- The mailboxes stand in the order of their last additions. -/
  mailboxes_inOrder : InOrderOfAddition history account.mailboxes
  /-- Messages stand under their own identifiers. -/
  keys_messages : account.messages.keys = account.messages.values.map Message.id
  /-- Messages stand in the order of their identifiers. -/
  pairwise_messages : account.messages.values.Pairwise fun left right =>
    left.id < right.id
  /-- The message under an identifier is the first one that was handed in. -/
  message?_eq : ∀ id,
    account.message? id = (history.filed? id).map Filed.message
  /-- The index holds a text for exactly the identifiers of messages. -/
  keys_documents : account.index.documents.keys = account.messages.keys
  /-- A search looks into the first message that was handed in, with its
  attachments. -/
  search_eq : ∀ scope term id,
    account.search scope term id = history.contains scope term id

/--
After any history the account agrees with it.  A message whose identifier is
taken is refused, and over one that has HTML that cannot be converted, and no
plain text, the program breaks down; any other message is stored.  When a
message is not stored, for whatever reason, the account is what it was,
mailboxes, messages and index, and after whatever comes later it is what it
would be without that message.
-/
theorem account_agrees_with_history
    (owner : String)
    (history : History) :
    Agrees history (ofHistory owner history) ∧
      ∀ message attachmentText,
        ((ofHistory owner history).message? message.id ≠ none →
          (addMessage message attachmentText).run (ofHistory owner history) =
            (.error (.failed (.storeUnavailable
                ("Duplicate message id '" ++ message.id ++ "'"))),
              ofHistory owner history)) ∧
        ((ofHistory owner history).message? message.id = none →
          message.body.IsReadable →
          (addMessage message attachmentText).run (ofHistory owner history) =
            (.ok (), ofHistory owner
              (history ++ [.addMessage message attachmentText]))) ∧
        ((ofHistory owner history).message? message.id = none →
          ¬ message.body.IsReadable →
          (addMessage message attachmentText).run (ofHistory owner history) =
            (.error .brokenDown, ofHistory owner history)) ∧
        ∀ stop after,
          (addMessage message attachmentText).run (ofHistory owner history) =
              (.error stop, after) →
            after = ofHistory owner history ∧
              ∀ later,
                  ofHistory owner
                  (history ++ .addMessage message attachmentText :: later) =
                ofHistory owner (history ++ later) := by
  have records := records_ofHistory owner history
  have inOrder := inOrderOfAddition_ofHistory owner history
  refine ⟨?_, fun message attachmentText =>
    ⟨fun stored => ?_, fun fresh readable => ?_, fun fresh unreadable => ?_,
      fun stop after ended => ⟨?_, ?_⟩⟩⟩
  · exact {
      nodup_mailboxes := inOrder.nodup_ids
      mem_mailboxes_iff := fun mailbox =>
        (records.mem_mailboxes_iff mailbox).trans
          History.exists_addedLast_iff.symm
      mailboxes_inOrder := inOrder
      keys_messages := records.keys_messages
      pairwise_messages := records.pairwise_messages
      message?_eq := records.get?_messages
      keys_documents := records.keys_documents
      search_eq := records.search_eq }
  · obtain ⟨present, taken⟩ := Option.ne_none_iff_exists'.mp stored
    exact addMessage_of_taken taken attachmentText
  · exact addMessage_eq_ok owner fresh readable attachmentText
  · exact addMessage_of_unreadable fresh unreadable attachmentText
  · exact unchanged_of_addMessage_eq_error ended
  · exact ofHistory_of_addMessage_eq_error ended

end Account
end Store
end MailSearch
