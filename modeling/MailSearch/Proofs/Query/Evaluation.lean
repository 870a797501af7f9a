import MailSearch.Query.Filter

/-!
# Evaluation of filters

The evaluation of a filter joins the outcomes of its predicates, and stops early
at every level.  What holds of the outcomes of all predicates that occur in a
filter therefore holds of the outcome of the filter: that another evaluation
confirms it, where its failure comes from, and what it says of the candidate.
-/

namespace MailSearch
namespace Query

/-! ## Outcomes of tests -/

/--
The outcome of several tests of which the first that comes out as the decisive
answer settles the matter, as does a failure before it.
-/
def settle (decisive : Bool) : List (Except Error Bool) -> Except Error Bool
  | [] => .ok (!decisive)
  | outcome :: rest => do
      if (← outcome) = decisive then return decisive else settle decisive rest

/-- A fuller outcome confirms an answer; in place of a failure it may be
anything. -/
def Refines {α : Type} (outcome fuller : Except Error α) : Prop :=
  ∀ answer, outcome = .ok answer → fuller = .ok answer

namespace Refines

variable {α β : Type} {outcome fuller : Except Error α}

theorem refl (outcome : Except Error α) : Refines outcome outcome :=
  fun _ answered => answered

/-- Refinement carries over to computations that go on in refined ways. -/
theorem bind
    {next nextFuller : α -> Except Error β}
    (first : Refines outcome fuller)
    (second : ∀ answer, Refines (next answer) (nextFuller answer)) :
    Refines (outcome >>= next) (fuller >>= nextFuller) := by
  intro answer answered
  cases outcome with
  | error error => cases answered
  | ok value =>
      rw [first value rfl]
      exact second value answer answered

theorem map
    (first : Refines outcome fuller)
    (change : α -> β) :
    Refines (outcome.map change) (fuller.map change) := by
  intro answer answered
  cases outcome with
  | error error => cases answered
  | ok value =>
      rw [first value rfl]
      exact answered

end Refines

/-- An outcome answers a question truly. -/
def Decides (outcome : Except Error Bool) (meaning : Prop) : Prop :=
  ∃ answer, outcome = .ok answer ∧ (answer = true ↔ meaning)

theorem Decides.not
    {outcome : Except Error Bool}
    {meaning : Prop}
    (decides : Decides outcome meaning) :
    Decides (outcome.map (!·)) (¬ meaning) := by
  obtain ⟨answer, rfl, truth⟩ := decides
  refine ⟨!answer, rfl, ?_⟩
  rw [← truth, Bool.not_eq_true', Bool.not_eq_true]

section Settling

variable {α : Type} {items : List α} {test : α -> Except Error Bool}
  (decisive : Bool)

theorem settle_refines
    {testFuller : α -> Except Error Bool}
    (each : ∀ item ∈ items, Refines (test item) (testFuller item)) :
    Refines (settle decisive (items.map test))
      (settle decisive (items.map testFuller)) := by
  induction items with
  | nil => exact Refines.refl _
  | cons item rest inductionHypothesis =>
      obtain ⟨first, others⟩ := List.forall_mem_cons.1 each
      refine first.bind fun answer => ?_
      by_cases settled : answer = decisive
      · simp only [if_pos settled]
        exact Refines.refl _
      · simp only [if_neg settled]
        exact inductionHypothesis others

/-- A joint test fails with the failure of one of its parts. -/
theorem exists_error_of_settle
    {error : Error}
    (failed : settle decisive (items.map test) = .error error) :
    ∃ item ∈ items, test item = .error error := by
  induction items with
  | nil => cases failed
  | cons item rest inductionHypothesis =>
      rw [List.map_cons, settle] at failed
      cases outcome : test item with
      | error other =>
          rw [outcome] at failed
          cases failed
          exact ⟨item, List.mem_cons_self, outcome⟩
      | ok answer =>
          rw [outcome] at failed
          change (if answer = decisive then _ else _) = _ at failed
          split at failed
          · cases failed
          · obtain ⟨other, member, cause⟩ := inductionHypothesis failed
            exact ⟨other, List.mem_cons_of_mem _ member, cause⟩

/-- When every part answers, a joint test comes out as decisive exactly if a
part does. -/
theorem settle_answers
    {meaning : α -> Prop}
    (each : ∀ item ∈ items, Decides (test item) (meaning item)) :
    ∃ answer, settle decisive (items.map test) = .ok answer ∧
      (answer = decisive ↔ ∃ item ∈ items,
        (decisive = true ↔ meaning item)) := by
  induction items with
  | nil => exact ⟨!decisive, rfl, by simp⟩
  | cons item rest inductionHypothesis =>
      obtain ⟨⟨answer, outcome, truth⟩, others⟩ := List.forall_mem_cons.1 each
      have split : (∃ other ∈ item :: rest, (decisive = true ↔ meaning other)) ↔
          answer = decisive ∨ ∃ other ∈ rest,
            (decisive = true ↔ meaning other) := by
        simp only [List.mem_cons, exists_eq_or_imp, ← truth, ← Bool.eq_iff_iff]
        rw [@eq_comm Bool decisive answer]
      rw [List.map_cons, settle, outcome, split]
      by_cases settled : answer = decisive
      · exact ⟨decisive, if_pos settled, by simp [settled]⟩
      · obtain ⟨last, lastOutcome, lastTruth⟩ := inductionHypothesis others
        refine ⟨last, (if_neg settled).trans lastOutcome, ?_⟩
        simp only [lastTruth, settled, false_or]

theorem settle_false_decides
    {meaning : α -> Prop}
    (each : ∀ item ∈ items, Decides (test item) (meaning item)) :
    Decides (settle false (items.map test)) (∀ item ∈ items, meaning item) := by
  obtain ⟨answer, outcome, truth⟩ := settle_answers false each
  refine ⟨answer, outcome, ?_⟩
  rw [← Bool.not_eq_false, truth]
  simp

theorem settle_true_decides
    {meaning : α -> Prop}
    (each : ∀ item ∈ items, Decides (test item) (meaning item)) :
    Decides (settle true (items.map test)) (∃ item ∈ items, meaning item) := by
  obtain ⟨answer, outcome, truth⟩ := settle_answers true each
  refine ⟨answer, outcome, ?_⟩
  rw [truth]
  simp

end Settling

namespace Filter

/-! ## Outcomes of filters -/

/-- Induction over filters: an operator has what all filters below it have. -/
@[induction_eliminator]
theorem induction
    {motive : Filter -> Prop}
    (condition : ∀ predicates, motive (.condition predicates))
    (combination : ∀ operator filters, (∀ filter ∈ filters, motive filter) →
      motive (.combination operator filters))
    (filter : Filter) :
    motive filter :=
  @Filter.rec motive
      (fun filters => ∀ filter ∈ filters, motive filter) condition combination
    (fun _ absent => nomatch absent)
    (fun _ _ first others => List.forall_mem_cons.2 ⟨first, others⟩) filter

theorem evaluateAll_eq_settle
    (index : Predicate.Index)
    (candidate : Candidate)
    (predicates : List Predicate) :
    evaluateAll index candidate predicates =
      settle false (predicates.map (Predicate.evaluate index candidate)) := by
  induction predicates with
  | nil => rfl
  | cons predicate rest inductionHypothesis =>
      rw [evaluateAll, List.map_cons, settle, inductionHypothesis]
      congr 1
      funext answer
      cases answer <;> rfl

theorem evaluateEvery_eq_settle
    (index : Predicate.Index)
    (candidate : Candidate)
    (filters : List Filter) :
    evaluateEvery index candidate filters =
      settle false (filters.map (evaluate index candidate)) := by
  induction filters with
  | nil => simp only [evaluateEvery, List.map_nil, settle, Bool.not_false]
  | cons filter rest inductionHypothesis =>
      rw [evaluateEvery, List.map_cons, settle, inductionHypothesis]
      congr 1
      funext answer
      cases answer <;> rfl

theorem evaluateSome_eq_settle
    (index : Predicate.Index)
    (candidate : Candidate)
    (filters : List Filter) :
    evaluateSome index candidate filters =
      settle true (filters.map (evaluate index candidate)) := by
  induction filters with
  | nil => simp only [evaluateSome, List.map_nil, settle, Bool.not_true]
  | cons filter rest inductionHypothesis =>
      rw [evaluateSome, List.map_cons, settle, inductionHypothesis]

/-- An operator settles on the first filter that excludes all other answers. -/
theorem evaluate_combination
    (index : Predicate.Index)
    (candidate : Candidate)
    (operator : Operator)
    (filters : List Filter) :
    evaluate index candidate (.combination operator filters) =
      match operator with
      | .conjunction => settle false (filters.map (evaluate index candidate))
      | .disjunction => settle true (filters.map (evaluate index candidate))
      | .exclusion =>
          (settle true (filters.map (evaluate index candidate))).map (!·) := by
  cases operator with
  | conjunction => rw [evaluate, evaluateEvery_eq_settle]
  | disjunction => rw [evaluate, evaluateSome_eq_settle]
  | exclusion => rw [evaluate, evaluateSome_eq_settle]

mutual

/-- The predicates that occur in a filter. -/
def predicates : Filter -> List Predicate
  | .condition predicates => predicates
  | .combination _ filters => predicatesBelow filters

/-- The predicates that occur in some filters. -/
def predicatesBelow : List Filter -> List Predicate
  | [] => []
  | filter :: rest => predicates filter ++ predicatesBelow rest

end

theorem predicatesBelow_eq_flatMap (filters : List Filter) :
    predicatesBelow filters = filters.flatMap predicates := by
  induction filters with
  | nil => simp only [predicatesBelow, List.flatMap_nil]
  | cons filter rest inductionHypothesis =>
      rw [predicatesBelow, List.flatMap_cons, inductionHypothesis]

/-- What holds of the predicates of an operator holds of those of each filter
below it. -/
theorem forall_predicates_combination
    {property : Predicate -> Prop}
    {operator : Operator}
    {filters : List Filter} :
    (∀ predicate ∈ (combination operator filters).predicates,
        property predicate) ↔
      ∀ filter ∈ filters, ∀ predicate ∈ filter.predicates,
        property predicate := by
  rw [predicates, predicatesBelow_eq_flatMap]
  simp only [List.mem_flatMap, forall_exists_index, and_imp]
  exact ⟨fun each filter member predicate => each predicate filter member,
    fun each predicate filter member => each filter member predicate⟩

section Comparison

variable {index other : Predicate.Index} {candidate companion : Candidate}

/-- Two evaluations of a filter agree if they agree on the predicates that occur
in it. -/
theorem evaluate_congr
    {filter : Filter}
    (same : ∀ predicate ∈ filter.predicates,
      predicate.evaluate index candidate = predicate.evaluate other companion) :
    filter.evaluate index candidate = filter.evaluate other companion := by
  induction filter with
  | condition predicates =>
      rw [Filter.predicates] at same
      rw [evaluate, evaluate, evaluateAll_eq_settle, evaluateAll_eq_settle,
        List.map_congr_left same]
  | combination operator filters inductionHypothesis =>
      have each : ∀ filter ∈ filters,
          filter.evaluate index candidate = filter.evaluate other companion :=
        fun filter member =>
          inductionHypothesis filter member
            (forall_predicates_combination.1 same filter member)
      rw [evaluate_combination, evaluate_combination, List.map_congr_left each]

/-- An evaluation is confirmed by one that confirms it on all predicates of the
filter. -/
theorem evaluate_refines
    {filter : Filter}
    (each : ∀ predicate ∈ filter.predicates,
      Refines (predicate.evaluate index candidate)
        (predicate.evaluate other companion)) :
    Refines (filter.evaluate index candidate)
      (filter.evaluate other companion) := by
  induction filter with
  | condition predicates =>
      rw [Filter.predicates] at each
      rw [evaluate, evaluate, evaluateAll_eq_settle, evaluateAll_eq_settle]
      exact settle_refines false each
  | combination operator filters inductionHypothesis =>
      have below : ∀ filter ∈ filters,
          Refines (filter.evaluate index candidate)
            (filter.evaluate other companion) :=
        fun filter member =>
          inductionHypothesis filter member
            (forall_predicates_combination.1 each filter member)
      rw [evaluate_combination, evaluate_combination]
      cases operator with
      | conjunction => exact settle_refines false below
      | disjunction => exact settle_refines true below
      | exclusion => exact (settle_refines true below).map _

end Comparison

/-- The evaluation of a filter fails only with the failure of a predicate that
occurs in it. -/
theorem exists_error_of_evaluate
    {index : Predicate.Index}
    {candidate : Candidate}
    {filter : Filter}
    {error : Error}
    (failed : filter.evaluate index candidate = .error error) :
    ∃ predicate ∈ filter.predicates, predicate.evaluate index candidate =
      .error error := by
  induction filter with
  | condition predicates =>
      rw [evaluate, evaluateAll_eq_settle] at failed
      exact exists_error_of_settle false failed
  | combination operator filters inductionHypothesis =>
      have settled : ∃ decisive,
          settle decisive (filters.map (evaluate index candidate)) =
            .error error := by
        rw [evaluate_combination] at failed
        cases operator with
        | conjunction => exact ⟨false, failed⟩
        | disjunction => exact ⟨true, failed⟩
        | exclusion =>
            refine ⟨true, ?_⟩
            cases outcome :
              settle true (filters.map (evaluate index candidate)) with
            | ok answer =>
                rw [outcome] at failed
                cases failed
            | error cause =>
                rw [outcome] at failed
                exact failed
      obtain ⟨decisive, failed⟩ := settled
      obtain ⟨filter, member, cause⟩ := exists_error_of_settle decisive failed
      obtain ⟨predicate, occurs, cause⟩ :=
        inductionHypothesis filter member cause
      refine ⟨predicate, ?_, cause⟩
      rw [predicates, predicatesBelow_eq_flatMap, List.mem_flatMap]
      exact ⟨filter, member, occurs⟩

/-! ## Searches -/

/-- The full-text searches that occur in a filter. -/
def searches (filter : Filter) : List (TextScope × String) :=
  filter.predicates.filterMap Predicate.search?

theorem mem_searches_iff
    {filter : Filter}
    {search : TextScope × String} :
    search ∈ filter.searches ↔
      ∃ predicate ∈ filter.predicates, predicate.search? = some search :=
  List.mem_filterMap

/-- Only the searches of a filter are asked of the index, and only about the
candidate. -/
theorem evaluate_congr_of_searches
    {index other : Predicate.Index}
    {candidate : Candidate}
    {filter : Filter}
    (same : ∀ scope term, (scope, term) ∈ filter.searches →
      index scope term candidate.id = other scope term candidate.id) :
    filter.evaluate index candidate = filter.evaluate other candidate := by
  refine evaluate_congr fun predicate occurs => ?_
  cases found : predicate.search? with
  | none => simp only [Predicate.evaluate, found]
  | some search =>
      simp only [Predicate.evaluate, found]
      exact same search.1 search.2 (mem_searches_iff.2
        ⟨predicate, occurs, found⟩)

/-- An index that answers at least what another one does confirms its
evaluations. -/
theorem evaluate_refines_of_index
    {index fuller : Predicate.Index}
    (refines : ∀ scope term id,
      Refines (index scope term id) (fuller scope term id))
    (candidate : Candidate)
    (filter : Filter) :
    Refines (filter.evaluate index candidate)
      (filter.evaluate fuller candidate) := by
  refine evaluate_refines fun predicate _ => ?_
  cases found : predicate.search? with
  | none =>
      simp only [Predicate.evaluate, found]
      exact Refines.refl _
  | some search =>
      simp only [Predicate.evaluate, found]
      exact refines search.1 search.2 candidate.id

/-- The failure of an evaluation is that of a search in the filter about the
candidate. -/
theorem exists_search_of_evaluate_error
    {index : Predicate.Index}
    {candidate : Candidate}
    {filter : Filter}
    {error : Error}
    (failed : filter.evaluate index candidate = .error error) :
    ∃ scope term, (scope, term) ∈ filter.searches ∧
      index scope term candidate.id = .error error := by
  obtain ⟨predicate, occurs, cause⟩ := exists_error_of_evaluate failed
  cases found : predicate.search? with
  | none =>
      simp only [Predicate.evaluate, found] at cause
      cases cause
  | some search =>
      simp only [Predicate.evaluate, found] at cause
      exact ⟨search.1, search.2,
        mem_searches_iff.2 ⟨predicate, occurs, found⟩, cause⟩

/-! ## Meaning -/

section Meaning

variable {contains : TextScope -> String -> String -> Bool}
  {candidate : Candidate} {filters : List Filter}

theorem selects_conjunction :
    Selects contains candidate (.combination .conjunction filters) ↔
      ∀ filter ∈ filters, Selects contains candidate filter := by
  rw [Selects, meanings_eq_map, List.forall_mem_map]

theorem selects_disjunction :
    Selects contains candidate (.combination .disjunction filters) ↔
      ∃ filter ∈ filters, Selects contains candidate filter := by
  rw [Selects, meanings_eq_map]
  constructor
  · rintro ⟨meaning, member, holds⟩
    obtain ⟨filter, below, rfl⟩ := List.mem_map.1 member
    exact ⟨filter, below, holds⟩
  · rintro ⟨filter, below, selects⟩
    exact ⟨_, List.mem_map_of_mem below, selects⟩

theorem selects_exclusion :
    Selects contains candidate (.combination .exclusion filters) ↔
      ¬ ∃ filter ∈ filters, Selects contains candidate filter := by
  rw [Selects, meanings_eq_map, List.forall_mem_map]
  simp only [not_exists, not_and]

end Meaning

/-- With an index that always answers, evaluation finds out what a filter
means. -/
theorem evaluate_decides
    (contains : TextScope -> String -> String -> Bool)
    (candidate : Candidate)
    (filter : Filter) :
    Decides (filter.evaluate
        (fun scope term id => .ok (contains scope term id)) candidate)
      (filter.Selects contains candidate) := by
  induction filter with
  | condition predicates =>
      rw [evaluate, evaluateAll_eq_settle, Selects]
      refine settle_false_decides fun predicate _ => ?_
      cases found : predicate.search? with
      | none =>
          refine ⟨predicate.holds candidate, ?_, ?_⟩ <;>
            simp only [Predicate.evaluate, isTrue, found]
      | some search =>
          refine ⟨contains search.1 search.2 candidate.id, ?_, ?_⟩ <;>
            simp only [Predicate.evaluate, isTrue, found]
  | combination operator filters inductionHypothesis =>
      rw [evaluate_combination]
      cases operator with
      | conjunction =>
          rw [selects_conjunction]
          exact settle_false_decides inductionHypothesis
      | disjunction =>
          rw [selects_disjunction]
          exact settle_true_decides inductionHypothesis
      | exclusion =>
          rw [selects_exclusion]
          exact (settle_true_decides inductionHypothesis).not

end Filter

end Query
end MailSearch
