import MailSearch.Proofs.Data.Outcome
import MailSearch.Proofs.Mail.Message
import MailSearch.Proofs.Query.Collection
import MailSearch.Proofs.Query.Examination

/-!
# Narrowing the lookup by a scope

A condition that names mailboxes needs only the candidates in them.  Leaving out
the others changes nothing, not even a failure of the text index: predicates
that do not ask the index come first in a decoded condition, and one of them
rejects every candidate outside the scope before the index is asked.
-/

namespace MailSearch
namespace Query

/-- A joint test goes through its first part, and through its second if need
be. -/
theorem settle_append
    (decisive : Bool)
    (front back : List (Except Error Bool)) :
    settle decisive (front ++ back) =
      settle decisive front >>= fun answer =>
        if answer = decisive then .ok decisive else settle decisive back := by
  induction front with
  | nil =>
      rw [List.nil_append, settle]
      cases decisive <;> rfl
  | cons outcome rest inductionHypothesis =>
      rw [List.cons_append, settle, settle, inductionHypothesis]
      cases outcome with
      | error error => rfl
      | ok answer => cases answer <;> cases decisive <;> rfl

namespace Predicate

/-- A predicate that does not ask the index is decided by the candidate
alone. -/
theorem evaluate_of_not_asksIndex
    {predicate : Predicate}
    (inMemory : predicate.asksIndex = false)
    (index : Index)
    (candidate : Candidate) :
    predicate.evaluate index candidate = .ok (predicate.holds candidate) := by
  have noSearch : predicate.search? = none := by
    rw [asksIndex, Option.isSome_eq_false_iff, Option.isNone_iff_eq_none]
      at inMemory
    exact inMemory
  simp only [evaluate, noSearch]

end Predicate

namespace Filter

/-- The predicates of a decoded condition that do not ask the index come
first. -/
theorem exists_eq_arrange_of_ofJson
    {limit : Nat}
    {value : Json}
    {predicates : List Predicate}
    (decoded : ofJson limit value = .ok (.condition predicates)) :
    ∃ given, predicates = arrange given := by
  rw [ofJson, decode.eq_def] at decoded
  split at decoded
  · split at decoded
    · obtain ⟨given, -, arranged⟩ := Outcome.exists_of_bind_eq_ok decoded
      cases arranged
      exact ⟨given, rfl⟩
    · split at decoded
      · cases decoded
      · obtain ⟨found, -, combined⟩ := Outcome.exists_of_bind_eq_ok decoded
        split at combined
        · obtain ⟨filters, -, absurd⟩ := Outcome.exists_of_bind_eq_ok combined
          cases absurd
        · cases combined
  · cases decoded

/-- The scope of a condition is what one of its predicates says of the
mailboxes. -/
theorem inMailboxes_mem_of_scope?
    {predicates : List Predicate}
    {ids : IdSet}
    (confined : scope? (.condition predicates) = some ids) :
    .inMailboxes ids ∈ predicates := by
  obtain ⟨predicate, member, found⟩ := List.exists_of_findSome?_eq_some confined
  cases predicate <;> cases found
  exact member

/-- One of the predicates that do not ask the index rejects a candidate without
the index. -/
theorem evaluate_arrange_of_rejected
    {given : List Predicate}
    {predicate : Predicate}
    (occurs : predicate ∈ arrange given)
    (inMemory : predicate.asksIndex = false)
    {candidate : Candidate}
    (rejects : predicate.holds candidate = false)
    (index : Predicate.Index) :
    evaluate index candidate (.condition (arrange given)) = .ok false := by
  have front : Decides
      (settle false ((given.filter fun predicate => !predicate.asksIndex).map
        (Predicate.evaluate index candidate)))
      (∀ predicate ∈ given.filter fun predicate => !predicate.asksIndex,
        predicate.holds candidate = true) := by
    refine settle_false_decides fun other member => ?_
    have otherInMemory : other.asksIndex = false := by
      simpa using (List.mem_filter.1 member).2
    exact ⟨_, Predicate.evaluate_of_not_asksIndex otherInMemory index candidate,
      Iff.rfl⟩
  have inFront : predicate ∈ given.filter fun predicate =>
      !predicate.asksIndex := by
    rw [arrange, List.mem_append, List.mem_filter, List.mem_filter] at occurs
    rcases occurs with ⟨member, -⟩ | ⟨-, asks⟩
    · exact List.mem_filter.2 ⟨member, by rw [inMemory, Bool.not_false]⟩
    · rw [inMemory] at asks
      cases asks
  obtain ⟨answer, settled, truth⟩ := front
  have negative : answer = false := by
    rw [← Bool.not_eq_true, truth]
    intro all
    rw [all predicate inFront] at rejects
    cases rejects
  rw [evaluate, evaluateAll_eq_settle, arrange, List.map_append, settle_append,
    settled, negative]
  rfl

/-- A decoded filter rejects the candidates outside its scope, whatever the
index does. -/
theorem evaluate_of_not_meets_scope
    {limit : Nat}
    {value : Json}
    {filter : Filter}
    (decoded : ofJson limit value = .ok filter)
    {ids : IdSet}
    (confined : filter.scope? = some ids)
    {candidate : Candidate}
    (outside : candidate.mailboxes.meets ids = false)
    (index : Predicate.Index) :
    filter.evaluate index candidate = .ok false := by
  cases filter with
  | combination operator filters => cases confined
  | condition predicates =>
      obtain ⟨given, rfl⟩ := exists_eq_arrange_of_ofJson decoded
      exact evaluate_arrange_of_rejected (inMailboxes_mem_of_scope? confined)
        rfl outside index

end Filter

/-- The candidates within a scope are those among all candidates. -/
theorem Candidate.exists_collect_scope_eq_filter
    {store : IdSet -> Except Error (List Message)}
    {held : Message -> Prop}
    (serves : Serves store held)
    (visible : IdSet) :
    ∃ all, collect store visible none = .ok all ∧
      (all.Pairwise fun left right => left.id < right.id) ∧
      (∀ candidate, candidate ∈ all ↔ candidate.Shown visible held) ∧
      ∀ ids, collect store visible (some ids) =
        .ok (all.filter fun candidate => candidate.mailboxes.meets ids) := by
  obtain ⟨all, collected, ordered, members⟩ :=
    exists_collect_eq_ok serves visible none
  have shown : ∀ candidate, candidate ∈ all ↔ candidate.Shown visible held := by
    intro candidate
    rw [members]
    exact and_iff_left fun _ absurd => nomatch absurd
  refine ⟨all, collected, ordered, shown, ?_⟩
  intro ids
  obtain ⟨narrowed, collectedWithin, orderedWithin, membersWithin⟩ :=
    exists_collect_eq_ok serves visible (some ids)
  rw [collectedWithin]
  congr 1
  refine eq_of_pairwise_id orderedWithin (ordered.filter _) fun candidate => ?_
  rw [membersWithin, List.mem_filter, shown]
  simp only [Option.some.injEq, forall_eq']

/-- Whatever the index does, narrowing the lookup by a decoded filter changes no
choice. -/
theorem choose_filter_scope
    {limit : Nat}
    {value : Json}
    {filter : Filter}
    (decoded : Filter.ofJson limit value = .ok filter)
    {ids : IdSet}
    (confined : filter.scope? = some ids)
    (index : Predicate.Index)
    (candidates : List Candidate) :
    choose (fun candidate => filter.evaluate index candidate)
        (candidates.filter fun candidate => candidate.mailboxes.meets ids) =
      choose (fun candidate => filter.evaluate index candidate) candidates :=
  choose_filter fun _ _ outside =>
    Filter.evaluate_of_not_meets_scope decoded confined outside index

/--
A condition that names mailboxes may be answered from the candidates in them
alone.  With a store that serves what it holds and with any index, also one that
fails, examining the candidates within the scope of a decoded filter and
examining all candidates have the same outcome: the same selected candidates
with the same visible mailboxes, or the same first failure of the index.
-/
theorem examine_within_scope
    {limit : Nat}
    {value : Json}
    {filter : Filter}
    (decoded : Filter.ofJson limit value = .ok filter)
    {store : IdSet -> Except Error (List Message)}
    {held : Message -> Prop}
    (serves : Serves store held)
    (visible : IdSet)
    (index : Predicate.Index) :
    ∃ narrowed all,
      Candidate.collect store visible filter.scope? = .ok narrowed ∧
      Candidate.collect store visible none = .ok all ∧
      (narrowed.Pairwise fun left right => left.id < right.id) ∧
      (all.Pairwise fun left right => left.id < right.id) ∧
      (examine (fun candidate => filter.evaluate index candidate)
          (fun _ _ => true)
          narrowed.length 0 narrowed).outcome =
        (examine (fun candidate => filter.evaluate index candidate)
            (fun _ _ => true)
          all.length 0 all).outcome := by
  obtain ⟨all, collected, ordered, -, narrowing⟩ :=
    Candidate.exists_collect_scope_eq_filter serves visible
  cases confined : filter.scope? with
  | none => exact ⟨all, all, collected, collected, ordered, ordered, rfl⟩
  | some ids =>
      refine ⟨_, all, narrowing ids, collected, ordered.filter _, ordered, ?_⟩
      rw [examine_outcome_eq_choose, examine_outcome_eq_choose]
      exact choose_filter_scope decoded confined index all

/-- The index fails on a message outside the scope, which all candidates
include. -/
theorem examine_within_scope_beside_failure :
    let filter : Filter := .condition [.inMailboxes (.ofList ["a"]), .text "x"]
    let messages : List Message := [.bare "m1" ["a", "b"] 1, .bare "m2" ["b"] 2]
    let store := fun mailboxes : IdSet =>
      .ok (messages.filter fun message => message.mailboxIds.meets mailboxes)
    let index : Predicate.Index := fun _ _ id =>
      if id = "m1" then .ok true else .error (.searchUnavailable "offline")
    Filter.ofJson 10 (.obj [("text", .str "x"),
        ("inMailboxes", .arr [.str "a"])]) = .ok filter ∧
      Serves store (· ∈ messages) ∧
      ∃ narrowed all,
        Candidate.collect store (.ofList ["a", "b"]) filter.scope? =
          .ok narrowed ∧
        Candidate.collect store (.ofList ["a", "b"]) none = .ok all ∧
        (narrowed.Pairwise fun left right => left.id < right.id) ∧
        (all.Pairwise fun left right => left.id < right.id) ∧
        (examine (fun candidate => filter.evaluate index candidate)
            (fun _ _ => true)
            narrowed.length 0 narrowed).outcome =
          (examine (fun candidate => filter.evaluate index candidate)
              (fun _ _ => true)
            all.length 0 all).outcome := by
  intro filter messages store index
  have decoded : Filter.ofJson 10
      (.obj [("text", .str "x"), ("inMailboxes", .arr [.str "a"])]) =
        .ok filter := rfl
  have serves : Serves store (· ∈ messages) := serves_filter (by decide)
  exact ⟨decoded, serves,
    examine_within_scope decoded serves (.ofList ["a", "b"]) index⟩

end Query
end MailSearch
