import MailSearch.Proofs.Data.IdMap
import MailSearch.Proofs.Data.IdSet
import MailSearch.Query.Candidate

/-!
# Collection of candidates

The candidates of a listing are the first visible ones of each identifier, in
the order of identifiers.  From a store that lists what it holds, in any order
and however often, they are exactly the held messages that lie in a visible
mailbox, and a scope keeps those of them that lie in one of its mailboxes.
-/

namespace MailSearch
namespace Query
namespace Candidate

/-! ## Candidates of a listing -/

theorem ofMessage?_eq_some_iff
    {visible : IdSet}
    {message : Message}
    {candidate : Candidate} :
    ofMessage? visible message = some candidate ↔
      candidate.message = message ∧
        candidate.mailboxes = message.mailboxIds.inter visible ∧
        ∃ id, id ∈ candidate.mailboxes := by
  simp only [ofMessage?]
  cases empty : (message.mailboxIds.inter visible).isEmpty with
  | true =>
      simp only [if_true]
      constructor
      · intro absurd
        cases absurd
      · rintro ⟨-, mailboxes, member⟩
        rw [mailboxes, ← IdSet.isEmpty_eq_false_iff, empty] at member
        cases member
  | false =>
      simp only [Bool.false_eq_true, if_false, Option.some.injEq]
      constructor
      · rintro rfl
        exact ⟨rfl, rfl, IdSet.isEmpty_eq_false_iff.1 empty⟩
      · rintro ⟨rfl, mailboxes, -⟩
        rw [← mailboxes]

/-- The first visible message of a listing with an identifier, as a
candidate. -/
def first? (visible : IdSet) (id : String) (messages : List Message) :
    Option Candidate :=
  messages.findSome? fun message =>
    if message.id = id then ofMessage? visible message else none

theorem get?_add
    (visible : IdSet)
    (found : IdMap Candidate)
    (message : Message)
    (id : String) :
    (add visible found message).get? id =
      (found.get? id).or (if message.id = id then ofMessage? visible message
        else none) := by
  unfold add
  cases taken : found.contains message.id with
  | true =>
      obtain ⟨candidate, present⟩ := IdMap.contains_iff.1 taken
      by_cases same : message.id = id
      · rw [if_pos rfl, ← same, present, Option.some_or]
      · rw [if_pos rfl, if_neg same, Option.or_none]
  | false =>
      have absent := IdMap.contains_eq_false_iff.1 taken
      rw [if_neg Bool.false_ne_true]
      by_cases same : message.id = id
      · subst same
        rw [absent, Option.none_or, if_pos rfl]
        cases shown : ofMessage? visible message with
        | none => exact absent
        | some candidate => simp only [IdMap.get?_insert, if_true]
      · rw [if_neg same, Option.or_none]
        cases ofMessage? visible message with
        | none => rfl
        | some candidate =>
            simp only [IdMap.get?_insert]
            rw [if_neg (Ne.symm same)]

theorem get?_foldl_add
    (visible : IdSet)
    (messages : List Message)
    (found : IdMap Candidate)
    (id : String) :
    (messages.foldl (add visible) found).get? id =
      (found.get? id).or (first? visible id messages) := by
  induction messages generalizing found with
  | nil => exact Option.or_none.symm
  | cons message rest inductionHypothesis =>
      rw [List.foldl_cons, inductionHypothesis, get?_add, Option.or_assoc,
        first?, first?, List.findSome?_cons]
      congr 1
      cases (if message.id = id then ofMessage? visible message else none) <;>
        rfl

theorem first?_eq_some
    {visible : IdSet}
    {id : String}
    {messages : List Message}
    {candidate : Candidate}
    (found : first? visible id messages = some candidate) :
    candidate.id = id ∧ candidate.message ∈ messages ∧
      ofMessage? visible candidate.message = some candidate := by
  obtain ⟨message, member, shown⟩ := List.exists_of_findSome?_eq_some found
  split at shown
  · rename_i same
    obtain ⟨rfl, -⟩ := ofMessage?_eq_some_iff.1 shown
    exact ⟨same, member, shown⟩
  · cases shown

/-- The candidates of a listing are the first visible ones of their
identifiers. -/
theorem mem_ofListing_iff
    {visible : IdSet}
    {messages : List Message}
    {candidate : Candidate} :
    candidate ∈ ofListing visible messages ↔
      first? visible candidate.id messages = some candidate := by
  rw [ofListing, IdMap.mem_values_iff]
  simp only [get?_foldl_add, IdMap.get?_empty, Option.none_or]
  constructor
  · rintro ⟨key, found⟩
    rw [(first?_eq_some found).1]
    exact found
  · intro found
    exact ⟨candidate.id, found⟩

/-- Candidates come out once each and in the order of their identifiers. -/
theorem pairwise_ofListing
    (visible : IdSet)
    (messages : List Message) :
    (ofListing visible messages).Pairwise fun left right =>
      left.id < right.id := by
  rw [ofListing, IdMap.values, List.pairwise_map]
  refine List.Pairwise.imp_of_mem ?_
    (messages.foldl (add visible) .empty).ascending
  intro left right leftMember rightMember less
  have keyOf : ∀ entry ∈ (messages.foldl (add visible) .empty).entries,
      entry.2.id = entry.1 := by
    intro entry member
    have found := IdMap.mem_entries_iff.1 member
    rw [get?_foldl_add, IdMap.get?_empty, Option.none_or] at found
    exact (first?_eq_some found).1
  rw [keyOf left leftMember, keyOf right rightMember]
  exact less

/-- Two listings in the order of identifiers are equal if they have the same
candidates. -/
theorem eq_of_pairwise_id
    {left right : List Candidate}
    (leftOrdered : left.Pairwise fun first second => first.id < second.id)
    (rightOrdered : right.Pairwise fun first second => first.id < second.id)
    (same : ∀ candidate, candidate ∈ left ↔ candidate ∈ right) :
    left = right := by
  have irreflexive : Std.Irrefl fun first second : Candidate =>
      first.id < second.id :=
    ⟨fun candidate => String.lt_irrefl candidate.id⟩
  have antisymmetric : Std.Antisymm fun first second : Candidate =>
      first.id < second.id :=
    ⟨fun first second less greater =>
      absurd (String.lt_trans less greater) (String.lt_irrefl first.id)⟩
  exact leftOrdered.eq_of_mem_iff rightOrdered same

end Candidate

/-! ## Candidates of a store -/

/--
A store answers every lookup with the held messages that lie in one of the
mailboxes, each at least once and nothing else; an identifier belongs to one
message.
-/
structure Serves
    (store : IdSet -> Except Error (List Message))
    (held : Message -> Prop) : Prop where
  /-- Every lookup is answered with the messages in the mailboxes. -/
  lists : ∀ mailboxes, ∃ listing, store mailboxes = .ok listing ∧
    ∀ message, message ∈ listing ↔ held message ∧ ∃ id,
      id ∈ message.mailboxIds ∧ id ∈ mailboxes
  /-- Held messages with the same identifier are the same. -/
  identified : ∀ left right, held left → held right → left.id = right.id →
    left = right

/-- The part of a list that lies in some mailboxes serves the list. -/
theorem serves_filter
    {messages : List Message}
    (identified : ∀ left ∈ messages, ∀ right ∈ messages, left.id = right.id →
      left = right) :
    Serves
      (fun mailboxes =>
        .ok (messages.filter fun message => message.mailboxIds.meets mailboxes))
      (· ∈ messages) where
  lists mailboxes := by
    refine ⟨_, rfl, fun message => ?_⟩
    rw [List.mem_filter, IdSet.meets_iff]
  identified left right leftMember rightMember same :=
    identified left leftMember right rightMember same

namespace Candidate

/-- A candidate is a held message with its visible mailboxes, of which there is
one. -/
structure Shown
    (visible : IdSet)
    (held : Message -> Prop)
    (candidate : Candidate) : Prop where
  /-- The message is held. -/
  isHeld : held candidate.message
  /-- The mailboxes are those of the message that are visible. -/
  mailboxes_eq :
    candidate.mailboxes = candidate.message.mailboxIds.inter visible
  /-- Some mailbox is visible. -/
  exists_mem : ∃ id, id ∈ candidate.mailboxes

/-- The candidates of a listing in which an identifier belongs to one
message. -/
theorem mem_ofListing_of_identified
    {visible : IdSet}
    {messages : List Message}
    (identified : ∀ left ∈ messages, ∀ right ∈ messages, left.id = right.id →
      left = right)
    {candidate : Candidate} :
    candidate ∈ ofListing visible messages ↔
      candidate.Shown visible (· ∈ messages) := by
  rw [mem_ofListing_iff]
  constructor
  · intro found
    obtain ⟨-, member, shown⟩ := first?_eq_some found
    obtain ⟨-, mailboxes, nonempty⟩ := ofMessage?_eq_some_iff.1 shown
    exact ⟨member, mailboxes, nonempty⟩
  · rintro ⟨member, mailboxes, nonempty⟩
    have shown : ofMessage? visible candidate.message = some candidate :=
      ofMessage?_eq_some_iff.2 ⟨rfl, mailboxes, nonempty⟩
    have listed : (first? visible candidate.id messages).isSome = true := by
      rw [first?, List.findSome?_isSome_iff]
      refine ⟨candidate.message, member, ?_⟩
      rw [id, if_pos rfl, shown]
      rfl
    obtain ⟨other, found⟩ := Option.isSome_iff_exists.1 listed
    obtain ⟨sameId, otherMember, otherShown⟩ := first?_eq_some found
    have sameMessage :=
      identified other.message otherMember candidate.message member sameId
    rw [sameMessage, shown] at otherShown
    rw [found, otherShown]

theorem exists_mem_lookup_iff
    {visible : IdSet}
    {scope : Option IdSet}
    {mailboxIds : IdSet} :
    (∃ id, id ∈ mailboxIds ∧ id ∈ lookup visible scope) ↔
      ∃ id, id ∈ mailboxIds.inter visible ∧ ∀ ids, scope = some ids →
        id ∈ ids := by
  cases scope with
  | none => simp [lookup]
  | some ids => simp [lookup, and_assoc]

namespace Shown

variable {visible : IdSet} {held : Message -> Prop} {candidate : Candidate}
  (shown : candidate.Shown visible held)

include shown

/-- The message of a shown candidate lies in a visible mailbox. -/
theorem meets_visible :
    candidate.message.mailboxIds.meets visible = true := by
  obtain ⟨id, member⟩ := shown.exists_mem
  rw [shown.mailboxes_eq, IdSet.mem_inter] at member
  exact IdSet.meets_iff.2 ⟨id, member⟩

/-- The message of a shown candidate is looked up if the candidate lies in the
scope. -/
theorem exists_mem_lookup_iff
    (scope : Option IdSet) :
    (∃ id, id ∈ candidate.message.mailboxIds ∧ id ∈ lookup visible scope) ↔
      ∀ ids, scope = some ids → candidate.mailboxes.meets ids = true := by
  rw [Candidate.exists_mem_lookup_iff, ← shown.mailboxes_eq]
  cases scope with
  | none =>
      obtain ⟨id, member⟩ := shown.exists_mem
      constructor
      · intro _ ids absurd
        cases absurd
      · intro _
        refine ⟨id, member, ?_⟩
        intro ids absurd
        cases absurd
  | some ids => simp

end Shown

/--
From a store that serves what it holds, the candidates are the shown messages,
of which a scope keeps those that lie in one of its mailboxes.
-/
theorem exists_collect_eq_ok
    {store : IdSet -> Except Error (List Message)}
    {held : Message -> Prop}
    (serves : Serves store held)
    (visible : IdSet)
    (scope : Option IdSet) :
    ∃ candidates, collect store visible scope = .ok candidates ∧
      (candidates.Pairwise fun left right => left.id < right.id) ∧
      ∀ candidate, candidate ∈ candidates ↔ candidate.Shown visible held ∧
        ∀ ids, scope = some ids → candidate.mailboxes.meets ids = true := by
  rw [collect]
  cases empty : (lookup visible scope).isEmpty with
  | true =>
      -- The store is not asked, and no shown candidate lies in the scope.
      refine ⟨[], if_pos rfl, List.Pairwise.nil, ?_⟩
      intro candidate
      constructor
      · intro absurd
        cases absurd
      · rintro ⟨shown, inScope⟩
        obtain ⟨id, -, member⟩ := (shown.exists_mem_lookup_iff scope).2 inScope
        rw [IdSet.isEmpty_eq_false_iff.2 ⟨id, member⟩] at empty
        cases empty
  | false =>
      obtain ⟨listing, answered, members⟩ := serves.lists (lookup visible scope)
      have identified : ∀ left ∈ listing, ∀ right ∈ listing,
          left.id = right.id → left = right :=
        fun left leftMember right rightMember =>
          serves.identified left right ((members left).1 leftMember).1
            ((members right).1 rightMember).1
      refine ⟨ofListing visible listing, ?_,
        pairwise_ofListing visible listing, ?_⟩
      · rw [if_neg Bool.false_ne_true, answered]
        rfl
      · intro candidate
        rw [mem_ofListing_of_identified identified]
        constructor
        · rintro ⟨member, mailboxes, nonempty⟩
          obtain ⟨isHeld, listed⟩ := (members candidate.message).1 member
          have shown : candidate.Shown visible held :=
            ⟨isHeld, mailboxes, nonempty⟩
          exact ⟨shown, (shown.exists_mem_lookup_iff scope).1 listed⟩
        · rintro ⟨shown, inScope⟩
          have listed := (shown.exists_mem_lookup_iff scope).2 inScope
          exact ⟨(members candidate.message).2 ⟨shown.isHeld, listed⟩,
            shown.mailboxes_eq, shown.exists_mem⟩

end Candidate
end Query
end MailSearch
