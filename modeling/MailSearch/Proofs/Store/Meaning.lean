import MailSearch.Proofs.Query.Answering
import MailSearch.Proofs.Store.History

/-!
# The meaning of queries

A query to an account is answered from the history of the account alone: with a
page of the wanted messages, which are the held ones that lie in a mailbox that
the principal may read and that the filter means, in the order of the sort keys.
-/

namespace MailSearch
namespace Store

/-- A message with its visible mailboxes that a request of a principal wants. -/
structure Wanted
    (owner : String)
    (history : History)
    (principal : String)
    (request : Query.Request)
    (candidate : Query.Candidate) : Prop where
  /-- The message is held. -/
  isHeld : history.Holds candidate.message
  /-- The mailboxes are those of the message that the principal may read. -/
  mailboxes_eq : candidate.mailboxes =
    candidate.message.mailboxIds.filter (history.mayRead owner principal)
  /-- There is such a mailbox. -/
  exists_mem : ∃ id, id ∈ candidate.mailboxes
  /-- The filter means the message. -/
  selects : request.Selects history.contains candidate

section Wanting

variable {owner principal : String} {history : History}
  {request : Query.Request}

theorem Wanted.eq_of_id_eq
    {left right : Query.Candidate}
    (leftWanted : Wanted owner history principal request left)
    (rightWanted : Wanted owner history principal request right)
    (same : left.id = right.id) :
    left = right := by
  have sameMessage : left.message = right.message :=
    leftWanted.isHeld.eq_of_id_eq rightWanted.isHeld same
  have sameMailboxes : left.mailboxes = right.mailboxes := by
    rw [leftWanted.mailboxes_eq, rightWanted.mailboxes_eq, sameMessage]
  obtain ⟨message, mailboxes⟩ := left
  cases sameMessage
  cases sameMailboxes
  rfl

/-- A listing of the wanted candidates has every identifier once. -/
theorem nodup_ids_of_lists
    {keys : List Query.SortKey}
    {listed : List Query.Candidate}
    (lists : Query.Lists keys (Wanted owner history principal request) listed) :
    (listed.map Query.Candidate.id).Nodup :=
  lists.nodup_ids fun _ _ => Wanted.eq_of_id_eq

/-- The shown candidates of an account that a request means are the wanted
ones. -/
theorem Account.Records.shown_and_selects_iff
    {account : Account}
    (records : Account.Records owner history account)
    (candidate : Query.Candidate) :
    candidate.Shown (account.visible principal) history.Holds ∧
        request.Selects history.contains candidate ↔
      Wanted owner history principal request candidate := by
  have sameMailboxes :
      candidate.message.mailboxIds.inter (account.visible principal) =
      candidate.message.mailboxIds.filter
        (history.mayRead owner principal) := by
    refine IdSet.eq_of_mem_iff fun id => ?_
    rw [IdSet.mem_inter, IdSet.mem_filter, records.mem_visible_iff]
  constructor
  · rintro ⟨⟨isHeld, mailboxes, nonempty⟩, selects⟩
    exact ⟨isHeld, mailboxes.trans sameMailboxes, nonempty, selects⟩
  · rintro ⟨isHeld, mailboxes, nonempty, selects⟩
    exact ⟨⟨isHeld, mailboxes.trans sameMailboxes.symm, nonempty⟩, selects⟩

end Wanting

/--
After any history a request selects the wanted messages, and it has an answer
that tells of them: all that is stored can be shown.
-/
theorem Account.exists_answer_of_accepted
    (owner : String)
    (history : History)
    (principal : String)
    {settings : Query.Settings}
    {value : Json}
    {request : Query.Request}
    (accepted : Query.Request.ofJson settings value = .ok request) :
    ∃ selected answer, (selected.Pairwise fun left right =>
        left.id < right.id) ∧
      (∀ candidate, candidate ∈ selected ↔
        Wanted owner history principal request candidate) ∧
      ((ofHistory owner history).engine settings).query principal value =
        .ok (some answer) ∧
      Query.Answer.ofSelected settings request selected = some answer := by
  have records := records_ofHistory owner history
  have sees : ((ofHistory owner history).engine settings).visible principal =
      .ok ((ofHistory owner history).visible principal) := rfl
  have finds := records.index_eq settings
  obtain ⟨selected, executed, ordered, members⟩ :=
    Query.Engine.exists_execute_eq_ok sees records.serves_listing finds request
  obtain ⟨answer, isAnswer⟩ :=
    Query.Engine.exists_answer_of_readable
      (records.isReadable_engine settings) executed
  refine ⟨selected, answer, ordered, fun candidate => ?_, ?_, isAnswer⟩
  · rw [members, records.shown_and_selects_iff]
  · rw [Query.Engine.query_of_accepted accepted, executed, isAnswer]

/--
After any history, every request that can be decoded is answered.  The answer
shows a page of the wanted messages, each of which counts once, in the only
order that goes by the sort keys one after the other and by the identifiers at
last.
-/
theorem query_answers_wanted
    (owner : String)
    (history : History)
    (principal : String)
    (settings : Query.Settings)
    {value : Json}
    {request : Query.Request}
    (accepted : Query.Request.ofJson settings value = .ok request) :
    ∃ answer listed,
      ((Account.ofHistory owner history).engine settings).query
          principal value =
        .ok (some answer) ∧
      Query.Lists (request.sort.getD settings.order).keys
        (Wanted owner history principal request) listed ∧
      (∀ other, Query.Lists (request.sort.getD settings.order).keys
        (Wanted owner history principal request) other → other = listed) ∧
      (listed.map Query.Candidate.id).Nodup ∧
      answer.Shows request.position (request.limit.getD settings.defaultLimit)
        listed := by
  obtain ⟨selected, answer, ordered, members, answered, isAnswer⟩ :=
    Account.exists_answer_of_accepted owner history principal accepted
  obtain ⟨listed, lists, replies⟩ :=
    Query.Answer.exists_listing_of_selected settings request ordered
  have wanted : Query.Lists (request.sort.getD settings.order).keys
      (Wanted owner history principal request) listed := by
    refine ⟨fun candidate => ?_, lists.ordered⟩
    rw [lists.mem_iff, members]
  exact ⟨answer, listed, answered, wanted, fun other otherLists =>
      otherLists.unique wanted,
    nodup_ids_of_lists wanted, replies.shows answer isAnswer⟩

/-! ## A mailbox that is shared -/

namespace Sharing

/-- A message that lies in the shared mailbox, among others. -/
def shared : Message :=
  .bare "m1" ["inbox", "private"] 10

/-- Two mailboxes, one of them shared, three messages, and one under a taken
identifier. -/
def history : History :=
  [.addMailbox ⟨"inbox", "Inbox", true, ["bob"]⟩,
    .addMailbox ⟨"private", "Private", true, []⟩,
    .addMessage (.bare "m2" ["private"] 20) ["budget"],
    .addMessage shared ["budget"],
    .addMessage (.bare "m1" ["inbox"] 30) [],
    .addMessage (.bare "m0" ["inbox"] 40) []]

/-- The request for the first message that contains a term. -/
def request : Query.Request where
  accountId := none
  filter := some (.condition [.text "Budget"])
  sort := none
  position := 0
  limit := some 1
  collapseThreads := false
  fetchMessages := false
  properties := none

/-- The request as a client sends it. -/
def value : Json :=
  .obj [("limit", .int 1), ("filter", .obj [("text", .str "Budget")])]

/-- Of the messages that contain the term only one lies in a mailbox that is
shared. -/
theorem query_answers_shared :
    Query.Request.ofJson .standard value = .ok request ∧
      ∃ answer listed,
        ((Account.ofHistory "alice" history).engine .standard).query
            "bob" value =
          .ok (some answer) ∧
        answer.messageIds = ["m1"] ∧
        Query.Lists (Query.Settings.order .standard).keys
          (Wanted "alice" history "bob" request) listed ∧
        (listed.map Query.Candidate.id).Nodup ∧
        answer.Shows 0 1 listed := by
  have accepted : Query.Request.ofJson .standard value = .ok request := rfl
  have computed :
      ((Account.ofHistory "alice" history).engine .standard).query "bob" value =
      .ok (Query.Answer.ofSelected .standard request
        [⟨shared, .ofList ["inbox"]⟩]) := rfl
  obtain ⟨answer, listed, answered, lists, -, once, shows⟩ :=
    query_answers_wanted "alice" history "bob" .standard accepted
  have tells := Query.Answer.ofSelected_eq_some_iff.mp
    (Except.ok.inj (computed.symm.trans answered))
  refine ⟨accepted, answer, listed, answered, ?_, lists, once, shows⟩
  rw [tells.messageIds_eq, Query.Answer.page,
    Query.SortOrder.apply_eq_self (List.pairwise_singleton _ _)]
  rfl

end Sharing
end Store
end MailSearch
