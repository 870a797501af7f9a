import MailSearch.Proofs.Mail.Message
import MailSearch.Proofs.Query.Running

/-!
# Rearranged listings

A store may list its messages in any order and each of them several times, for
instance once for every mailbox that holds it.  As long as an identifier belongs
to one message, the candidates depend only on which messages are listed, and so
does all that comes of a query.
-/

namespace MailSearch
namespace Query

/-! ## Listings of the same messages -/

/-- An identifier belongs to one message of a listing. -/
def Identified (listing : List Message) : Prop :=
  ∀ left ∈ listing, ∀ right ∈ listing, left.id = right.id → left = right

/-- Two listings show the same messages, in whatever order and however often
each. -/
def SameMessages (left right : List Message) : Prop :=
  ∀ message, message ∈ left ↔ message ∈ right

/-- The messages of one mailbox after the other. -/
def listedByMailbox (order : List String) (messages : List Message) :
    List Message :=
  order.flatMap fun id => messages.filter fun message =>
    message.mailboxIds.contains id

/-- Listing mailbox by mailbox shows the messages that lie in one of the
mailboxes. -/
theorem mem_listedByMailbox_iff
    {order : List String}
    {mailboxes : IdSet}
    (complete : ∀ id, id ∈ order ↔ id ∈ mailboxes)
    {messages : List Message}
    {message : Message} :
    message ∈ listedByMailbox order messages ↔
      message ∈ messages ∧ message.mailboxIds.meets mailboxes = true := by
  simp only [listedByMailbox, List.mem_flatMap, List.mem_filter,
    IdSet.contains_iff, complete, IdSet.meets_iff]
  constructor
  · rintro ⟨id, lookedUp, member, holds⟩
    exact ⟨member, id, holds, lookedUp⟩
  · rintro ⟨member, id, holds, lookedUp⟩
    exact ⟨id, lookedUp, member, holds⟩

theorem Identified.of_sameMessages
    {left right : List Message}
    (identified : Identified right)
    (same : SameMessages left right) :
    Identified left :=
  fun first firstMember second secondMember =>
    identified first ((same first).mp firstMember) second
      ((same second).mp secondMember)

namespace Candidate

/-- Listings of the same messages have the same candidates. -/
theorem ofListing_eq_of_sameMessages
    {left right : List Message}
    (identified : Identified right)
    (same : SameMessages left right)
    (visible : IdSet) :
    ofListing visible left = ofListing visible right := by
  refine eq_of_pairwise_id (pairwise_ofListing visible left)
      (pairwise_ofListing visible right)
    fun candidate => ?_
  rw [mem_ofListing_of_identified identified,
    mem_ofListing_of_identified (identified.of_sameMessages same)]
  constructor
  · rintro ⟨listed, mailboxes, nonempty⟩
    exact ⟨(same _).mp listed, mailboxes, nonempty⟩
  · rintro ⟨listed, mailboxes, nonempty⟩
    exact ⟨(same _).mpr listed, mailboxes, nonempty⟩

/-- Every identifier of a listed message in a visible mailbox belongs to a
candidate. -/
theorem mem_ids_ofListing_iff
    {listing : List Message}
    (identified : Identified listing)
    {visible : IdSet}
    {id : String} :
    id ∈ (ofListing visible listing).map Candidate.id ↔
      ∃ message ∈ listing, message.id = id ∧
        message.mailboxIds.meets visible = true := by
  simp only [List.mem_map, mem_ofListing_of_identified identified]
  constructor
  · rintro ⟨candidate, shown, rfl⟩
    exact ⟨candidate.message, shown.isHeld, rfl, shown.meets_visible⟩
  · rintro ⟨message, listed, rfl, meets⟩
    refine ⟨⟨message, message.mailboxIds.inter visible⟩, ⟨listed, rfl, ?_⟩, rfl⟩
    simpa using meets

/-- Where some mailbox is looked up, the candidates are those of the store's
listing. -/
theorem collect_of_listed
    {store : IdSet -> Except Error (List Message)}
    {visible : IdSet}
    {scope : Option IdSet}
    (needed : ∃ id, id ∈ lookup visible scope)
    {listing : List Message}
    (listed : store (lookup visible scope) = .ok listing) :
    collect store visible scope = .ok (ofListing visible listing) := by
  rw [collect, IdSet.isEmpty_eq_false_iff.mpr needed, listed]
  rfl

end Candidate

namespace Engine

/-- The same engine with another store. -/
def withListing (engine : Engine)
    (listing : IdSet -> Except Error (List Message)) : Engine :=
  { engine with listing := listing }

/-- The store matters only for the candidates that are collected from it. -/
theorem run_withListing
    {engine : Engine}
    {principal : String}
    {visible : IdSet}
    (sees : engine.visible principal = .ok visible)
    {request : Request}
    {listing : IdSet -> Except Error (List Message)}
    (same : Candidate.collect listing visible
        (request.filter.bind Filter.scope?) =
      Candidate.collect engine.listing visible
        (request.filter.bind Filter.scope?))
    (goOn : Nat -> Nat -> Bool) :
    (engine.withListing listing).run principal request goOn =
      engine.run principal request goOn := by
  have sameCandidates :
      (engine.withListing listing).candidates principal request.filter =
      engine.candidates principal request.filter := by
    have otherSees : (engine.withListing listing).visible principal =
        .ok visible := sees
    rw [candidates_of_visible sees, candidates_of_visible otherSees]
    exact same
  unfold run
  rw [sameCandidates]
  rfl

end Engine

/--
Where some mailbox is looked up and an identifier belongs to one listed message,
the candidates come in the order of identifiers, one for every identifier of a
listed message that lies in a visible mailbox, with all its visible mailboxes.
A store that lists the same messages in another order, or some of them several
times, gives the same candidates, and every query runs the same.  Listing
mailbox by mailbox, in any order, is one such way.
-/
theorem candidates_depend_on_messages_alone
    {store : IdSet -> Except Error (List Message)}
    {visible : IdSet}
    {scope : Option IdSet}
    (needed : ∃ id, id ∈ Candidate.lookup visible scope)
    {listing : List Message}
    (listed : store (Candidate.lookup visible scope) = .ok listing)
    (identified : Identified listing) :
    ∃ candidates, Candidate.collect store visible scope = .ok candidates ∧
      (candidates.Pairwise fun left right => left.id < right.id) ∧
      (∀ candidate, candidate ∈ candidates ↔
        candidate.Shown visible (· ∈ listing)) ∧
      (∀ id, id ∈ candidates.map Candidate.id ↔
        ∃ message ∈ listing, message.id = id ∧
          message.mailboxIds.meets visible = true) ∧
      (∀ other rearranged,
          other (Candidate.lookup visible scope) = .ok rearranged →
        SameMessages rearranged listing →
          Candidate.collect other visible scope = .ok candidates ∧
          ∀ (engine : Engine) principal request, engine.listing = store →
            engine.visible principal = .ok visible →
            request.filter.bind Filter.scope? = scope →
            ∀ goOn, (engine.withListing other).run principal request goOn =
              engine.run principal request goOn) ∧
      ∀ messages order,
        (∀ message, message ∈ listing ↔ message ∈ messages ∧
          message.mailboxIds.meets (Candidate.lookup visible scope) = true) →
        (∀ id, id ∈ order ↔ id ∈ Candidate.lookup visible scope) →
        SameMessages (listedByMailbox order messages) listing := by
  have collected := Candidate.collect_of_listed needed listed
  refine ⟨_, collected, Candidate.pairwise_ofListing visible listing,
    fun candidate => Candidate.mem_ofListing_of_identified identified,
    fun id => Candidate.mem_ids_ofListing_iff identified, ?_, ?_⟩
  · intro other rearranged otherListed same
    have otherCollected : Candidate.collect other visible scope =
        .ok (Candidate.ofListing visible listing) := by
      rw [Candidate.collect_of_listed needed otherListed,
        Candidate.ofListing_eq_of_sameMessages identified same]
    refine ⟨otherCollected, ?_⟩
    rintro engine principal request rfl sees rfl goOn
    exact Engine.run_withListing sees (otherCollected.trans collected.symm) goOn
  · intro messages order members complete message
    rw [mem_listedByMailbox_iff complete, members]

/-! ## A message in three mailboxes -/

namespace Copies

/-- A message in three visible mailboxes, of which two are looked up, and in a
hidden one. -/
def copied : Message :=
  .bare "m1" ["archive", "inbox", "sent", "secret"] 10

/-- A message in one mailbox that is looked up. -/
def archived : Message :=
  .bare "m2" ["archive"] 20

/-- The messages, one of them in the hidden mailbox only. -/
def messages : List Message :=
  [archived, .bare "m0" ["secret"] 30, copied]

/-- The visible mailboxes. -/
def visible : IdSet :=
  .ofList ["archive", "inbox", "sent"]

/-- The mailboxes that a filter names, one of them unknown. -/
def scope : Option IdSet :=
  some (.ofList ["archive", "inbox", "trash"])

/-- A store that lists one mailbox after the other, the greatest identifier
first. -/
def byMailbox (mailboxes : IdSet) : Except Error (List Message) :=
  .ok (listedByMailbox mailboxes.ids.reverse messages)

/-- A store that lists one message after the other. -/
def byMessage (mailboxes : IdSet) : Except Error (List Message) :=
  .ok (messages.filter fun message => message.mailboxIds.meets mailboxes)

/-- The message is listed twice or once, and is one candidate with its three
visible mailboxes. -/
theorem candidates_of_copies :
    byMailbox (Candidate.lookup visible scope) =
        .ok [copied, archived, copied] ∧
      byMessage (Candidate.lookup visible scope) = .ok [archived, copied] ∧
      Candidate.collect byMailbox visible scope =
        .ok [⟨copied, visible⟩, ⟨archived, .ofList ["archive"]⟩] ∧
      Candidate.collect byMessage visible scope =
        .ok [⟨copied, visible⟩, ⟨archived, .ofList ["archive"]⟩] := by
  have listed : byMailbox (Candidate.lookup visible scope) =
      .ok [copied, archived, copied] := rfl
  have otherListed : byMessage (Candidate.lookup visible scope) =
      .ok [archived, copied] := rfl
  have computed : Candidate.collect byMailbox visible scope =
      .ok [⟨copied, visible⟩, ⟨archived, .ofList ["archive"]⟩] := rfl
  have identified : Identified [copied, archived, copied] := by
    unfold Identified
    decide
  obtain ⟨candidates, collected, -, -, -, rearranged, -⟩ :=
    candidates_depend_on_messages_alone (IdSet.isEmpty_eq_false_iff.mp rfl)
      listed identified
  have same : SameMessages [archived, copied] [copied, archived, copied] := by
    intro message
    rw [List.mem_cons (l := [archived, copied])]
    exact (or_iff_right_of_imp fun isCopied => by simp [isCopied]).symm
  rw [computed] at collected
  cases collected
  exact ⟨listed, otherListed, computed,
    (rearranged byMessage _ otherListed same).1⟩

end Copies

end Query
end MailSearch
