import MailSearch.Proofs.Query.Answering
import MailSearch.Proofs.Query.Progress

/-!
# Precedence of failures

A query can fail for five reasons, of which the first that applies is reported:
the request is not valid, the visible mailboxes cannot be found out, the
messages cannot be listed though some mailbox is to be looked up, or the text
index fails on a search that the evaluation of a candidate reaches.  Every other
query has an answer, which leaves out nothing, unless the program breaks down
over a message that is to be shown.
-/

namespace MailSearch
namespace Query

/-! ## The first failure in a list -/

/-- The first items of a list go on, and the next one cannot be tested. -/
def FirstFailure
    {α : Type}
    (test : α -> Except Error Bool)
    (goesOn : Bool -> Prop)
    (items : List α)
    (error : Error) : Prop :=
  ∃ before item after, items = before ++ item :: after ∧
    (∀ earlier ∈ before, ∃ answer, test earlier = .ok answer ∧ goesOn answer) ∧
    test item = .error error

section FirstFailure

variable {α : Type} {test : α -> Except Error Bool} {goesOn : Bool -> Prop}
  {item : α} {rest : List α} {error : Error}

theorem not_firstFailure_nil : ¬ FirstFailure test goesOn [] error := by
  rintro ⟨before, item, after, split, -⟩
  exact List.append_ne_nil_of_right_ne_nil before (List.cons_ne_nil item after)
    split.symm

theorem firstFailure_cons_of_error
    {cause : Error}
    (failure : test item = .error cause) :
    FirstFailure test goesOn (item :: rest) error ↔ cause = error := by
  constructor
  · rintro ⟨before, other, after, split, earlier, failed⟩
    cases before with
    | nil =>
        cases split
        rw [failure] at failed
        cases failed
        rfl
    | cons first others =>
        cases split
        obtain ⟨answer, answered, -⟩ := earlier item List.mem_cons_self
        rw [failure] at answered
        cases answered
  · rintro rfl
    exact ⟨[], item, rest, rfl, (fun _ absurd => nomatch absurd), failure⟩

theorem firstFailure_cons_of_ok
    {answer : Bool}
    (answered : test item = .ok answer) :
    FirstFailure test goesOn (item :: rest) error ↔
      goesOn answer ∧ FirstFailure test goesOn rest error := by
  constructor
  · rintro ⟨before, other, after, split, earlier, failed⟩
    cases before with
    | nil =>
        cases split
        rw [answered] at failed
        cases failed
    | cons first others =>
        cases split
        obtain ⟨⟨same, sameAnswered, passes⟩, earlier⟩ :=
          List.forall_mem_cons.1 earlier
        rw [answered] at sameAnswered
        cases sameAnswered
        exact ⟨passes, others, other, after, rfl, earlier, failed⟩
  · rintro ⟨passes, before, other, after, rfl, earlier, failed⟩
    exact ⟨item :: before, other, after, rfl,
      List.forall_mem_cons.2 ⟨⟨answer, answered, passes⟩, earlier⟩, failed⟩

/-- A joint test fails with the first failure that no decisive answer
precedes. -/
theorem settle_eq_error_iff
    {decisive : Bool}
    {items : List α} :
    settle decisive (items.map test) = .error error ↔
      FirstFailure test (· ≠ decisive) items error := by
  induction items with
  | nil =>
      refine iff_of_false ?_ not_firstFailure_nil
      intro absurd
      cases absurd
  | cons item rest inductionHypothesis =>
      rw [List.map_cons, settle]
      cases outcome : test item with
      | error cause =>
          rw [firstFailure_cons_of_error outcome]
          exact Except.error.injEq cause error ▸ Iff.rfl
      | ok answer =>
          rw [firstFailure_cons_of_ok outcome, ← inductionHypothesis]
          change (if answer = decisive then _ else _) = _ ↔ _
          by_cases settled : answer = decisive
          · simp [settled, pure, Except.pure]
          · simp [settled]

end FirstFailure

/-- Candidates are chosen unless one of them cannot be tested, and then the
first one counts. -/
theorem choose_eq_error_iff
    {select : Candidate -> Except Error Bool}
    {candidates : List Candidate}
    {error : Error} :
    choose select candidates = .error error ↔
      FirstFailure select (fun _ => True) candidates error := by
  induction candidates with
  | nil =>
      refine iff_of_false ?_ not_firstFailure_nil
      intro absurd
      cases absurd
  | cons candidate rest inductionHypothesis =>
      rw [choose]
      cases outcome : select candidate with
      | error cause =>
          rw [firstFailure_cons_of_error outcome]
          exact Except.error.injEq cause error ▸ Iff.rfl
      | ok selected =>
          rw [firstFailure_cons_of_ok outcome, true_and, ← inductionHypothesis]
          cases choose select rest <;>
            simp [bind, Except.bind, pure, Except.pure]

/-- When every candidate is tested, the selected ones are chosen in order. -/
theorem choose_eq_filter
    {select : Candidate -> Except Error Bool}
    {selected : Candidate -> Bool}
    {candidates : List Candidate}
    (each : ∀ candidate ∈ candidates,
      select candidate = .ok (selected candidate)) :
    choose select candidates = .ok (candidates.filter selected) := by
  induction candidates with
  | nil => rfl
  | cons candidate rest inductionHypothesis =>
      obtain ⟨first, others⟩ := List.forall_mem_cons.1 each
      rw [choose, first, inductionHypothesis others, List.filter_cons]
      rfl

/-- Candidates are chosen only when every one of them is tested. -/
theorem exists_selected_of_choose_eq_ok
    {select : Candidate -> Except Error Bool}
    {candidates kept : List Candidate}
    (chosen : choose select candidates = .ok kept) :
    ∀ candidate ∈ candidates, ∃ selected, select candidate = .ok selected := by
  induction candidates generalizing kept with
  | nil =>
      intro candidate absurd
      cases absurd
  | cons candidate rest inductionHypothesis =>
      rw [choose] at chosen
      obtain ⟨selected, tested, chosen⟩ := Outcome.exists_of_bind_eq_ok chosen
      obtain ⟨keptLater, chosenLater, -⟩ := Outcome.exists_of_bind_eq_ok chosen
      exact List.forall_mem_cons.2 ⟨⟨selected, tested⟩,
        inductionHypothesis chosenLater⟩

/-! ## Searches that are reached -/

/-- The answer of a filter that leaves an operator undecided, so that the next
one is evaluated. -/
def Operator.undecided : Operator -> Bool
  | .conjunction => true
  | .disjunction => false
  | .exclusion => false

/--
The evaluation of a filter for a candidate reaches a search that the index
cannot answer: all that stands before it, at every level, leaves the result
open.
-/
inductive Breaks
    (index : Predicate.Index)
    (candidate : Candidate) : Filter -> Error -> Prop where
  /-- The predicates before a search hold. -/
  | search {before after : List Predicate} {predicate : Predicate}
      {scope : TextScope}
      {term : String} {error : Error}
      (earlier : ∀ other ∈ before, other.evaluate index candidate = .ok true)
      (asks : predicate.search? = some (scope, term))
      (fails : index scope term candidate.id = .error error) :
      Breaks index candidate (.condition (before ++ predicate :: after)) error
  /-- The filters before one that breaks leave the operator undecided. -/
  | beneath {operator : Operator} {before after : List Filter} {filter : Filter}
      {error : Error}
      (earlier : ∀ other ∈ before, other.evaluate index candidate =
        .ok operator.undecided)
      (breaks : Breaks index candidate filter error) :
      Breaks index candidate
        (.combination operator (before ++ filter :: after)) error

section Evaluation

variable {index : Predicate.Index} {candidate : Candidate} {error : Error}

theorem Predicate.evaluate_eq_error_iff
    {predicate : Predicate} :
    predicate.evaluate index candidate = .error error ↔
      ∃ scope term, predicate.search? = some (scope, term) ∧
        index scope term candidate.id = .error error := by
  rw [evaluate]
  cases predicate.search? with
  | none => simp
  | some search =>
      obtain ⟨scope, term⟩ := search
      simp

theorem Filter.evaluate_condition_eq_error_iff
    {predicates : List Predicate} :
    evaluate index candidate (.condition predicates) = .error error ↔
      FirstFailure (Predicate.evaluate index candidate) (· ≠ false) predicates
        error := by
  rw [evaluate, evaluateAll_eq_settle, settle_eq_error_iff]

theorem Filter.evaluate_combination_eq_error_iff
    {operator : Operator}
    {filters : List Filter} :
    evaluate index candidate (.combination operator filters) = .error error ↔
      FirstFailure (evaluate index candidate) (· ≠ !operator.undecided) filters
        error := by
  rw [evaluate_combination, ← settle_eq_error_iff]
  cases operator with
  | conjunction => rfl
  | disjunction => rfl
  | exclusion =>
      change (settle true (filters.map (evaluate index candidate))).map (!·) =
          .error error ↔
        settle true (filters.map (evaluate index candidate)) = .error error
      cases settle true (filters.map (evaluate index candidate)) <;>
        simp [Except.map]

/-- An evaluation fails exactly with the failure of a search that it reaches. -/
theorem Filter.evaluate_eq_error_iff
    {filter : Filter} :
    filter.evaluate index candidate = .error error ↔
      Breaks index candidate filter error := by
  constructor
  · intro failed
    induction filter with
    | condition predicates =>
        obtain ⟨before, predicate, after, rfl, earlier, failed⟩ :=
          evaluate_condition_eq_error_iff.1 failed
        obtain ⟨scope, term, asks, fails⟩ :=
          Predicate.evaluate_eq_error_iff.1 failed
        refine .search (fun other member => ?_) asks fails
        obtain ⟨answer, answered, goesOn⟩ := earlier other member
        rw [answered, Bool.eq_true_of_not_eq_false goesOn]
    | combination operator filters inductionHypothesis =>
        obtain ⟨before, filter, after, rfl, earlier, failed⟩ :=
          evaluate_combination_eq_error_iff.1 failed
        refine .beneath (fun other member => ?_)
          (inductionHypothesis filter
            (List.mem_append_right before List.mem_cons_self) failed)
        obtain ⟨answer, answered, goesOn⟩ := earlier other member
        rw [answered, Bool.not_eq_not.1 goesOn]
  · intro breaks
    induction breaks with
    | search earlier asks fails =>
        refine evaluate_condition_eq_error_iff.2 ⟨_, _, _, rfl,
          fun other member => ?_,
          Predicate.evaluate_eq_error_iff.2 ⟨_, _, asks, fails⟩⟩
        exact ⟨true, earlier other member, Bool.true_eq_false_eq_False⟩
    | @beneath operator before after filter error earlier breaks failed =>
        refine evaluate_combination_eq_error_iff.2 ⟨before, filter, after, rfl,
          fun other member => ?_, failed⟩
        exact ⟨operator.undecided, earlier other member, Bool.not_eq_not.2 rfl⟩

end Evaluation

theorem Filter.evaluate?_eq_error_iff
    {index : Predicate.Index}
    {candidate : Candidate}
    {filter? : Option Filter}
    {error : Error} :
    evaluate? index candidate filter? = .error error ↔
      ∃ filter, filter? = some filter ∧
        Breaks index candidate filter error := by
  cases filter? with
  | none => simp [evaluate?]
  | some filter => simp [evaluate?, evaluate_eq_error_iff]

/-! ## Outcomes of a request -/

/-- Every collaborator of an engine fails with its own error only. -/
structure Engine.OwnsFailures (engine : Engine) : Prop where
  /-- The visible mailboxes are found out or reported as unavailable. -/
  visible_error : ∀ {principal error}, engine.visible principal = .error error →
    ∃ reason, error = .visibilityUnavailable reason
  /-- Messages are listed or reported as unavailable. -/
  listing_error : ∀ {mailboxes error}, engine.listing mailboxes = .error error →
    ∃ reason, error = .storeUnavailable reason
  /-- A search is answered or reported as unavailable. -/
  index_error : ∀ {scope term id error},
      engine.index scope term id = .error error →
    ∃ reason, error = .searchUnavailable reason

/-- What comes out of a valid request: the first failure that applies, or else a
reply. -/
inductive ComesOut
    (engine : Engine)
    (principal : String)
    (request : Request) : Except Error (Attempt Answer) -> Prop where
  /-- The visible mailboxes cannot be found out. -/
  | unseen {reason : String}
      (hidden : engine.visible principal =
        .error (.visibilityUnavailable reason)) :
      ComesOut engine principal request (.error (.visibilityUnavailable reason))
  /-- No visible mailbox lies in the scope, so that the store is not needed. -/
  | unneeded {visible : IdSet} {answer : Answer}
      (sees : engine.visible principal = .ok visible)
      (nothing : (request.lookup visible).isEmpty = true)
      (tells : answer.Tells engine.settings request []) :
      ComesOut engine principal request (.ok (some answer))
  /-- The messages cannot be listed. -/
  | unlisted {visible : IdSet} {reason : String}
      (sees : engine.visible principal = .ok visible)
      (needed : (request.lookup visible).isEmpty = false)
      (lost : engine.listing (request.lookup visible) =
        .error (.storeUnavailable reason)) :
      ComesOut engine principal request (.error (.storeUnavailable reason))
  /-- The index fails on a search for a candidate, and on none for the
  candidates before. -/
  | unsearched {visible : IdSet} {messages : List Message}
      {before after : List Candidate}
      {candidate : Candidate} {filter : Filter} {reason : String}
      (sees : engine.visible principal = .ok visible)
      (needed : (request.lookup visible).isEmpty = false)
      (lists : engine.listing (request.lookup visible) = .ok messages)
      (split : Candidate.ofListing visible messages =
        before ++ candidate :: after)
      (given : request.filter = some filter)
      (earlier : ∀ other ∈ before, ∃ selected,
        filter.evaluate engine.index other = .ok selected)
      (breaks : Breaks engine.index candidate filter
        (.searchUnavailable reason)) :
      ComesOut engine principal request (.error (.searchUnavailable reason))
  /-- All candidates are evaluated, and the answer shows the selected ones. -/
  | answered {visible : IdSet} {messages : List Message}
      {selected : Candidate -> Bool}
      {answer : Answer}
      (sees : engine.visible principal = .ok visible)
      (needed : (request.lookup visible).isEmpty = false)
      (lists : engine.listing (request.lookup visible) = .ok messages)
      (each : ∀ candidate ∈ Candidate.ofListing visible messages,
        Filter.evaluate? engine.index candidate request.filter =
          .ok (selected candidate))
      (tells : answer.Tells engine.settings request
        ((Candidate.ofListing visible messages).filter selected)) :
      ComesOut engine principal request (.ok (some answer))
  /-- All candidates are evaluated, and one on the page cannot be shown. -/
  | brokenDown {visible : IdSet} {messages : List Message}
      {selected : Candidate -> Bool}
      (sees : engine.visible principal = .ok visible)
      (needed : (request.lookup visible).isEmpty = false)
      (lists : engine.listing (request.lookup visible) = .ok messages)
      (each : ∀ candidate ∈ Candidate.ofListing visible messages,
        Filter.evaluate? engine.index candidate request.filter =
          .ok (selected candidate))
      (cannotShow : ¬ request.CanShow engine.settings
        (Answer.page engine.settings request
          ((Candidate.ofListing visible messages).filter selected))) :
      ComesOut engine principal request (.ok none)

namespace Engine

variable {engine : Engine} {principal : String} {request : Request}

/-- When all candidates are evaluated, the selected ones are replied to. -/
theorem execute_of_evaluated
    {visible : IdSet}
    {messages : List Message}
    {selected : Candidate -> Bool}
    (sees : engine.visible principal = .ok visible)
    (needed : (request.lookup visible).isEmpty = false)
    (lists : engine.listing (request.lookup visible) = .ok messages)
    (each : ∀ candidate ∈ Candidate.ofListing visible messages,
      Filter.evaluate? engine.index candidate request.filter =
        .ok (selected candidate)) :
    engine.execute principal request =
      .ok (Answer.ofSelected engine.settings request
        ((Candidate.ofListing visible messages).filter selected)) := by
  have found : engine.candidates principal request.filter =
      .ok (Candidate.ofListing visible messages) := by
    rw [candidates_of_lookup sees needed, lists]
    rfl
  rw [execute_of_candidates found, choose_eq_filter each]
  rfl

theorem execute_of_comesOut
    {outcome : Except Error (Attempt Answer)}
    (comesOut : ComesOut engine principal request outcome) :
    engine.execute principal request = outcome := by
  cases comesOut with
  | unseen hidden =>
      exact execute_of_candidates_error (candidates_of_hidden hidden)
  | unneeded sees nothing tells =>
      rw [execute_of_candidates (candidates_of_isEmpty_lookup sees nothing),
        ← Answer.ofSelected_eq_some_iff.mpr tells]
      rfl
  | unlisted sees needed lost =>
      refine execute_of_candidates_error ?_
      rw [candidates_of_lookup sees needed, lost]
      rfl
  | @unsearched visible messages before after candidate filter reason sees
        needed lists split
      given earlier breaks =>
      have found : engine.candidates principal request.filter =
          .ok (before ++ candidate :: after) := by
        rw [candidates_of_lookup sees needed, lists, ← split]
        rfl
      have failed : choose
          (fun candidate =>
            Filter.evaluate? engine.index candidate request.filter)
          (before ++ candidate :: after) =
            .error (.searchUnavailable reason) := by
        refine choose_eq_error_iff.2 ⟨before, candidate, after, rfl, ?_, ?_⟩
        · intro other member
          obtain ⟨selected, evaluated⟩ := earlier other member
          exact ⟨selected, by rw [given]; exact evaluated, trivial⟩
        · exact Filter.evaluate?_eq_error_iff.2 ⟨filter, given, breaks⟩
      rw [execute_of_candidates found, failed]
      rfl
  | answered sees needed lists each tells =>
      rw [execute_of_evaluated sees needed lists each,
        Answer.ofSelected_eq_some_iff.mpr tells]
  | brokenDown sees needed lists each cannotShow =>
      rw [← Answer.isSome_ofSelected_iff, Option.not_isSome_iff_eq_none]
        at cannotShow
      rw [execute_of_evaluated sees needed lists each, cannotShow]

section Listed

variable {visible : IdSet} {messages : List Message}
  (sees : engine.visible principal = .ok visible)
  (needed : (request.lookup visible).isEmpty = false)
  (lists : engine.listing (request.lookup visible) = .ok messages)

include sees needed lists

theorem comesOut_of_firstFailure
    (owns : engine.OwnsFailures)
    {error : Error}
    (failure : FirstFailure
      (fun candidate => Filter.evaluate? engine.index candidate request.filter)
        (fun _ => True)
      (Candidate.ofListing visible messages) error) :
    ComesOut engine principal request (.error error) := by
  obtain ⟨before, candidate, after, split, earlier, failed⟩ := failure
  obtain ⟨scope, term, -, fails⟩ :=
    Request.exists_search_of_evaluate?_error failed
  obtain ⟨reason, rfl⟩ := owns.index_error fails
  obtain ⟨filter, given, breaks⟩ := Filter.evaluate?_eq_error_iff.1 failed
  refine .unsearched sees needed lists split given
    (fun other member => ?_) breaks
  obtain ⟨selected, evaluated, -⟩ := earlier other member
  rw [given] at evaluated
  exact ⟨selected, evaluated⟩

theorem exists_comesOut_of_tested
    (tested : ∀ candidate ∈ Candidate.ofListing visible messages,
      ∃ selected, Filter.evaluate? engine.index candidate request.filter =
        .ok selected) :
    ∃ outcome, ComesOut engine principal request outcome := by
  let selected : Candidate -> Bool := fun candidate =>
    (Filter.evaluate? engine.index candidate request.filter).toOption.getD false
  have each : ∀ candidate ∈ Candidate.ofListing visible messages,
      Filter.evaluate? engine.index candidate request.filter =
        .ok (selected candidate) := by
    intro candidate member
    obtain ⟨answer, evaluated⟩ := tested candidate member
    simp only [selected, evaluated]
    rfl
  cases replied : Answer.ofSelected engine.settings request
      ((Candidate.ofListing visible messages).filter selected) with
  | some answer =>
      exact ⟨_,
        .answered sees needed lists each
        (Answer.ofSelected_eq_some_iff.mp replied)⟩
  | none =>
      rw [← Option.not_isSome_iff_eq_none, Answer.isSome_ofSelected_iff]
        at replied
      exact ⟨_, .brokenDown sees needed lists each replied⟩

end Listed

/-- When collaborators own their failures, every valid request comes out in one
of the ways. -/
theorem exists_comesOut
    (owns : engine.OwnsFailures)
    (principal : String)
    (request : Request) :
    ∃ outcome, ComesOut engine principal request outcome := by
  cases sees : engine.visible principal with
  | error error =>
      obtain ⟨reason, rfl⟩ := owns.visible_error sees
      exact ⟨_, .unseen sees⟩
  | ok visible =>
      cases needed : (request.lookup visible).isEmpty with
      | true =>
          obtain ⟨answer, replied⟩ :=
            Answer.exists_ofSelected_nil engine.settings request
          exact ⟨_,
            .unneeded sees needed (Answer.ofSelected_eq_some_iff.mp replied)⟩
      | false =>
          cases lists : engine.listing (request.lookup visible) with
          | error error =>
              obtain ⟨reason, rfl⟩ := owns.listing_error lists
              exact ⟨_, .unlisted sees needed lists⟩
          | ok messages =>
              cases chosen : choose
                  (fun candidate =>
                    Filter.evaluate? engine.index candidate request.filter)
                  (Candidate.ofListing visible messages) with
              | error error =>
                  exact ⟨_, comesOut_of_firstFailure sees needed lists owns
                    (choose_eq_error_iff.1 chosen)⟩
              | ok kept =>
                  exact exists_comesOut_of_tested sees needed lists
                    (exists_selected_of_choose_eq_ok chosen)

/-- A valid request is executed as it comes out, and in no other way. -/
theorem execute_eq_iff
    (owns : engine.OwnsFailures)
    {outcome : Except Error (Attempt Answer)} :
    engine.execute principal request = outcome ↔
      ComesOut engine principal request outcome := by
  constructor
  · rintro rfl
    obtain ⟨outcome, comesOut⟩ := exists_comesOut owns principal request
    rw [execute_of_comesOut comesOut]
    exact comesOut
  · exact execute_of_comesOut

theorem query_of_rejected
    {value : Json}
    {cause : Invalid}
    (rejected : Request.ofJson engine.settings value = .error cause)
    (principal : String) :
    engine.query principal value = .error (.invalidArguments cause) := by
  have decoded : engine.decode value = .error (.invalidArguments cause) := by
    unfold decode
    rw [rejected]
  unfold query
  rw [decoded]
  rfl

end Engine

/-- No valid request comes out as an invalid one. -/
theorem ComesOut.ne_invalidArguments
    {engine : Engine}
    {principal : String}
    {request : Request}
    {outcome : Except Error (Attempt Answer)}
    (comesOut : ComesOut engine principal request outcome)
    (cause : Invalid) :
    outcome ≠ .error (.invalidArguments cause) := by
  intro absurd
  subst absurd
  cases comesOut

namespace Offline

open Interruption (failing)

/-- An engine without collaborators. -/
def alone : Engine where
  visible _ := .error (.visibilityUnavailable "offline")
  listing _ := .error (.storeUnavailable "offline")
  index _ _ _ := .error (.searchUnavailable "offline")
  settings := .standard

theorem failing_ownsFailures : failing.OwnsFailures where
  visible_error failed := by cases failed
  listing_error failed := by cases failed
  index_error := by
    intro scope term id error failed
    change (if id = "m1" then Except.ok true else _) = _ at failed
    split at failed
    · cases failed
    · cases failed
      exact ⟨"offline", rfl⟩

/-- The request for the messages that contain a term, as a client sends it. -/
def searching : Json :=
  .obj [("filter", .obj [("text", .str "x")])]

/-- The same request for messages in a mailbox that nobody may read. -/
def elsewhere : Json :=
  .obj [("filter", .obj [("text", .str "x"),
    ("inMailboxes", .arr [.str "private"])])]

/-- A request with a filter that is none. -/
def malformed : Json :=
  .obj [("filter", .bool true)]

end Offline
end Query
end MailSearch
