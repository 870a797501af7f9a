import MailSearch.Proofs.Mail.Message
import MailSearch.Proofs.Query.Examination

/-!
# Failures of the text index

A text index that fails on some searches can keep a query from being answered,
but it cannot change an answer: whatever is answered is also answered with an
index that fails less often.  Every failure of an evaluation is one that the
index gave for the candidate, and filters without full-text searches do not
depend on the index at all.
-/

namespace MailSearch
namespace Query

/-- The full-text searches that a request can ask for. -/
def Request.searches (request : Request) : List (TextScope × String) :=
  match request.filter with
  | none => []
  | some filter => filter.searches

/-- The engine with another text index. -/
def Engine.withIndex (engine : Engine) (index : Predicate.Index) : Engine :=
  { engine with index := index }

/-- The index has no part in finding the candidates. -/
theorem Engine.run_withIndex
    (engine : Engine)
    (index : Predicate.Index)
    (principal : String)
    (request : Request)
    (goOn : Nat -> Nat -> Bool) :
    (engine.withIndex index).run principal request goOn =
      match engine.candidates principal request.filter with
      | .error error => .failed error
      | .ok candidates =>
          (examine (fun candidate =>
              Filter.evaluate? index candidate request.filter) goOn
            candidates.length 0 candidates).map
              (Answer.ofSelected engine.settings request) := rfl

section Refinement

variable {index fuller : Predicate.Index}
  (refines : ∀ scope term id,
    Refines (index scope term id) (fuller scope term id))

include refines

theorem Filter.evaluate?_refines
    (candidate : Candidate)
    (filter : Option Filter) :
    Refines (Filter.evaluate? index candidate filter)
      (Filter.evaluate? fuller candidate filter) := by
  cases filter with
  | none => exact Refines.refl _
  | some filter =>
      exact Filter.evaluate_refines_of_index refines candidate filter

/-- A query that is answered runs in the same way with a fuller index. -/
theorem Engine.run_withIndex_of_refines
    {engine : Engine}
    {principal : String}
    {request : Request}
    {goOn : Nat -> Nat -> Bool}
    {reply : Attempt Answer}
    (answered : ((engine.withIndex index).run principal request goOn).outcome =
      .ok reply) :
    (engine.withIndex fuller).run principal request goOn =
      (engine.withIndex index).run principal request goOn := by
  rw [run_withIndex] at answered ⊢
  rw [run_withIndex]
  cases found : engine.candidates principal request.filter with
  | error error => rfl
  | ok candidates =>
      rw [found] at answered
      obtain ⟨kept, examined⟩ := Run.exists_outcome_of_map answered
      exact congrArg
          (fun run => run.map (Answer.ofSelected engine.settings request))
        (examine_eq_of_refines
          (fun candidate =>
            Filter.evaluate?_refines refines candidate request.filter) examined)

theorem Engine.query_withIndex_of_refines
    {engine : Engine}
    {principal : String}
    {value : Json}
    {reply : Attempt Answer}
    (answered : (engine.withIndex index).query principal value = .ok reply) :
    (engine.withIndex fuller).query principal value = .ok reply := by
  have sameDecoding : (engine.withIndex fuller).decode value =
      (engine.withIndex index).decode value := rfl
  unfold query at answered ⊢
  rw [sameDecoding]
  cases decoded : (engine.withIndex index).decode value with
  | error error =>
      rw [decoded] at answered
      cases answered
  | ok request =>
      rw [decoded] at answered
      change (engine.withIndex index).execute principal request = .ok reply
          at answered
      change (engine.withIndex fuller).execute principal request = .ok reply
      unfold execute at answered ⊢
      rw [run_withIndex_of_refines refines answered, answered]

end Refinement

/-- Without full-text searches the index makes no difference to an
evaluation. -/
theorem Filter.evaluate_of_no_searches
    {filter : Filter}
    (noSearches : filter.searches = [])
    (index other : Predicate.Index)
    (candidate : Candidate) :
    filter.evaluate index candidate = filter.evaluate other candidate := by
  refine evaluate_congr_of_searches fun scope term occurs => ?_
  rw [noSearches] at occurs
  cases occurs

theorem Request.evaluate?_of_no_searches
    {request : Request}
    (noSearches : request.searches = [])
    (index other : Predicate.Index)
    (candidate : Candidate) :
    Filter.evaluate? index candidate request.filter =
      Filter.evaluate? other candidate request.filter := by
  unfold searches at noSearches
  cases given : request.filter with
  | none => rfl
  | some filter =>
      rw [given] at noSearches
      exact Filter.evaluate_of_no_searches noSearches index other candidate

/-- Without full-text searches the index makes no difference to a run. -/
theorem Engine.run_withIndex_of_no_searches
    {request : Request}
    (noSearches : request.searches = [])
    (engine : Engine)
    (index other : Predicate.Index)
    (principal : String)
    (goOn : Nat -> Nat -> Bool) :
    (engine.withIndex index).run principal request goOn =
      (engine.withIndex other).run principal request goOn := by
  rw [run_withIndex, run_withIndex]
  cases engine.candidates principal request.filter with
  | error error => rfl
  | ok candidates =>
      exact congrArg
          (fun run => run.map (Answer.ofSelected engine.settings request))
        (examine_congr fun candidate _ =>
          Request.evaluate?_of_no_searches noSearches index other candidate)

/--
A failing text index can keep a query from being answered but not change its
answer.  With an index that confirms every answer of another one:

* a filter that is evaluated is evaluated to the same, a run that is answered is
  the same run, and a request that is answered has the same answer;
* an evaluation fails only with a failure of the index for the candidate and a
  search that occurs in the filter;
* without full-text searches evaluations and runs do not depend on the index.
-/
theorem answers_survive_index_failures :
    (∀ index fuller : Predicate.Index,
      (∀ scope term id, Refines (index scope term id) (fuller scope term id)) →
        (∀ candidate filter selected,
          Filter.evaluate? index candidate filter = .ok selected →
            Filter.evaluate? fuller candidate filter = .ok selected) ∧
        (∀ (engine : Engine) principal request goOn reply,
          ((engine.withIndex index).run principal request goOn).outcome =
              .ok reply →
            (engine.withIndex fuller).run principal request goOn =
              (engine.withIndex index).run principal request goOn) ∧
        (∀ (engine : Engine) principal value reply,
          (engine.withIndex index).query principal value = .ok reply →
            (engine.withIndex fuller).query principal value = .ok reply)) ∧
    (∀ (index : Predicate.Index) (candidate : Candidate)
        (filter : Filter) error,
      filter.evaluate index candidate = .error error →
        ∃ scope term, (scope, term) ∈ filter.searches ∧
          index scope term candidate.id = .error error) ∧
    (∀ filter : Filter, filter.searches = [] →
      ∀ (index other : Predicate.Index) (candidate : Candidate),
        filter.evaluate index candidate = filter.evaluate other candidate) ∧
    (∀ request : Request, request.searches = [] →
      ∀ (engine : Engine) (index other : Predicate.Index) principal goOn,
        (engine.withIndex index).run principal request goOn =
          (engine.withIndex other).run principal request goOn) := by
  refine ⟨?_, ?_, ?_, ?_⟩
  · intro index fuller refines
    refine ⟨?_, ?_, ?_⟩
    · intro candidate filter selected answered
      exact Filter.evaluate?_refines refines candidate filter selected answered
    · intro engine principal request goOn reply answered
      exact Engine.run_withIndex_of_refines refines answered
    · intro engine principal value reply answered
      exact Engine.query_withIndex_of_refines refines answered
  · intro index candidate filter error failed
    exact Filter.exists_search_of_evaluate_error failed
  · intro filter noSearches index other candidate
    exact Filter.evaluate_of_no_searches noSearches index other candidate
  · intro request noSearches engine index other principal goOn
    exact Engine.run_withIndex_of_no_searches noSearches engine index other
      principal goOn

/-! ## An index that has lost a message -/

namespace Outage

/-- A message that the index still has. -/
def kept : Candidate :=
  ⟨.bare "m1" ["inbox"] 10, .ofList ["inbox"]⟩

/-- A small message that the index has lost. -/
def lost : Candidate :=
  ⟨.bare "m2" ["inbox"] 1, .ofList ["inbox"]⟩

/-- The index fails on all messages but one, which contains every term. -/
def index : Predicate.Index := fun _ _ id =>
  if id = "m1" then .ok true else .error (.searchUnavailable "offline")

/-- The index with the lost message, which contains nothing. -/
def fuller : Predicate.Index := fun _ _ id =>
  .ok (id = "m1")

/-- What answers queries on both messages. -/
def engine : Engine where
  visible _ := .ok (.ofList ["inbox"])
  listing _ := .ok [kept.message, lost.message]
  index := fuller
  settings := .standard

/-- The request for the messages that pass a filter. -/
def request (filter : Filter) : Request where
  accountId := none
  filter := some filter
  sort := none
  position := 0
  limit := none
  collapseThreads := false
  fetchMessages := false
  properties := none

/-- Messages of some size that contain a term. -/
def large : Filter :=
  .condition [.largerThan 5, .text "x"]

/-- Unread messages. -/
def unread : Filter :=
  .condition [.flag .unread true]

/-- The request for large messages as a client sends it. -/
def value : Json :=
  .obj [("filter", .obj [("text", .str "x"), ("minSize", .int 5)])]

theorem index_refines (scope : TextScope) (term id : String) :
    Refines (index scope term id) (fuller scope term id) := by
  intro selected answered
  by_cases same : id = "m1"
  · simpa [index, fuller, same] using answered
  · simp [index, same] at answered

/-- The lost message is too small to be asked about, so the query is answered in
full. -/
theorem answers_survive_lost_message :
    (∀ scope term id, Refines (index scope term id) (fuller scope term id)) ∧
      (Filter.evaluate? index lost (some large) = .ok false ∧
        Filter.evaluate? fuller lost (some large) = .ok false) ∧
      (((engine.withIndex index).run "alice" (request large)
          fun _ _ => true).outcome =
          .ok (Answer.ofSelected .standard (request large) [kept]) ∧
        ((engine.withIndex fuller).run "alice" (request large)
            fun _ _ => true) =
          (engine.withIndex index).run "alice" (request large)
            fun _ _ => true) ∧
      ((engine.withIndex index).query "alice" value =
          .ok (Answer.ofSelected .standard (request large) [kept]) ∧
        (engine.withIndex fuller).query "alice" value =
          .ok (Answer.ofSelected .standard (request large) [kept])) ∧
      ((Filter.condition [.text "x"]).evaluate index lost =
          .error (.searchUnavailable "offline") ∧
        ∃ scope term, (scope, term) ∈ (Filter.condition [.text "x"]).searches ∧
          index scope term lost.id = .error (.searchUnavailable "offline")) ∧
      (unread.searches = [] ∧
        unread.evaluate index lost = unread.evaluate fuller lost ∧
        ((engine.withIndex index).run "alice" (request unread)
            fun _ _ => true) =
          (engine.withIndex fuller).run "alice" (request unread) fun _ _ =>
            true) := by
  obtain ⟨confirmed, failed, unasked, unaskedRun⟩ :=
    answers_survive_index_failures
  obtain ⟨sameSelected, sameRun, sameAnswer⟩ :=
    confirmed index fuller index_refines
  have selected : Filter.evaluate? index lost (some large) = .ok false := rfl
  have ran : ((engine.withIndex index).run "alice" (request large)
      fun _ _ => true).outcome =
      .ok (Answer.ofSelected .standard (request large) [kept]) := rfl
  have answered : (engine.withIndex index).query "alice" value =
      .ok (Answer.ofSelected .standard (request large) [kept]) := rfl
  have offline : (Filter.condition [.text "x"]).evaluate index lost =
      .error (.searchUnavailable "offline") := rfl
  have noSearches : unread.searches = [] := rfl
  exact ⟨index_refines,
    ⟨selected, sameSelected lost (some large) false selected⟩,
    ⟨ran, sameRun engine "alice" (request large) (fun _ _ => true) _ ran⟩,
    ⟨answered, sameAnswer engine "alice" value _ answered⟩,
    ⟨offline, failed index lost (.condition [.text "x"]) _ offline⟩,
    noSearches, unasked unread noSearches index fuller lost,
    unaskedRun (request unread) noSearches engine index fuller "alice"
      fun _ _ => true⟩

end Outage
end Query
end MailSearch
