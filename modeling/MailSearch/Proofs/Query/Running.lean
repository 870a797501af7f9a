import MailSearch.Proofs.Query.Collection
import MailSearch.Proofs.Query.Examination

/-!
# Runs of an engine

A run first finds the candidates of the request and then examines them.  The
candidates are those of the mailboxes that are looked up, and where none is
looked up the store is not asked.
-/

namespace MailSearch
namespace Query

/-- The mailboxes that are looked up for a request. -/
def Request.lookup (request : Request) (visible : IdSet) : IdSet :=
  Candidate.lookup visible (request.filter.bind Filter.scope?)

namespace Engine

section Candidates

variable {engine : Engine} {principal : String} {request : Request}
  {visible : IdSet} {messages : List Message} {error : Error}

theorem candidates_of_hidden
    (hidden : engine.visible principal = .error error) :
    engine.candidates principal request.filter = .error error := by
  unfold candidates
  rw [hidden]
  rfl

theorem candidates_of_visible
    (sees : engine.visible principal = .ok visible)
    (filter : Option Filter) :
    engine.candidates principal filter =
      Candidate.collect engine.listing visible (filter.bind Filter.scope?) := by
  unfold candidates
  rw [sees]
  rfl

/-- Without a mailbox to look up the store is not asked. -/
theorem candidates_of_isEmpty_lookup
    (sees : engine.visible principal = .ok visible)
    (unneeded : (request.lookup visible).isEmpty = true) :
    engine.candidates principal request.filter = .ok [] := by
  rw [candidates_of_visible sees]
  exact if_pos unneeded

theorem candidates_of_lookup
    (sees : engine.visible principal = .ok visible)
    (needed : (request.lookup visible).isEmpty = false) :
    engine.candidates principal request.filter =
      (engine.listing (request.lookup visible)).map
        (Candidate.ofListing visible) := by
  rw [candidates_of_visible sees]
  exact if_neg (Bool.eq_false_iff.1 needed)

/-- The candidates of a request come in the order of their identifiers. -/
theorem pairwise_candidates
    {candidates : List Candidate}
    (found : engine.candidates principal request.filter = .ok candidates) :
    candidates.Pairwise fun left right => left.id < right.id := by
  cases sees : engine.visible principal with
  | error error =>
      rw [candidates_of_hidden sees] at found
      cases found
  | ok visible =>
      cases unneeded : (request.lookup visible).isEmpty with
      | true =>
          rw [candidates_of_isEmpty_lookup sees unneeded] at found
          cases found
          exact List.Pairwise.nil
      | false =>
          rw [candidates_of_lookup sees unneeded] at found
          cases listed : engine.listing (request.lookup visible) with
          | error error =>
              rw [listed] at found
              cases found
          | ok messages =>
              rw [listed] at found
              cases found
              exact Candidate.pairwise_ofListing visible messages

end Candidates

/-- Without candidates the caller is told nothing. -/
theorem run_of_candidates_error
    {engine : Engine}
    {principal : String}
    {request : Request}
    {error : Error}
    (failed : engine.candidates principal request.filter = .error error)
    (goOn : Nat -> Nat -> Bool) :
    engine.run principal request goOn = .failed error := by
  unfold run
  rw [failed]

theorem run_of_candidates
    {engine : Engine}
    {principal : String}
    {request : Request}
    {candidates : List Candidate}
    (found : engine.candidates principal request.filter = .ok candidates)
    (goOn : Nat -> Nat -> Bool) :
    engine.run principal request goOn =
      (examine (fun candidate =>
          Filter.evaluate? engine.index candidate request.filter) goOn
        candidates.length 0 candidates).map
          (Answer.ofSelected engine.settings request) := by
  unfold run
  rw [found]

theorem execute_of_candidates_error
    {engine : Engine}
    {principal : String}
    {request : Request}
    {error : Error}
    (failed : engine.candidates principal request.filter = .error error) :
    engine.execute principal request = .error error := by
  unfold execute
  rw [run_of_candidates_error failed]
  rfl

/-- Without a caller, the chosen candidates are answered. -/
theorem execute_of_candidates
    {engine : Engine}
    {principal : String}
    {request : Request}
    {candidates : List Candidate}
    (found : engine.candidates principal request.filter = .ok candidates) :
    engine.execute principal request =
      (choose (fun candidate =>
          Filter.evaluate? engine.index candidate request.filter)
        candidates).map (Answer.ofSelected engine.settings request) := by
  unfold execute
  rw [run_of_candidates found, Run.map, examine_outcome_eq_choose]

end Engine

end Query
end MailSearch
