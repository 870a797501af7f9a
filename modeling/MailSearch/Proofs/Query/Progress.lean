import MailSearch.Proofs.Query.IndexFailure
import MailSearch.Proofs.Query.Reply

/-!
# Progress and cancellation

The caller of a query is told of every step once and in order, up to the last
one: the first step at which it gives up or a candidate cannot be tested, or
else the end.  What happens at the last step decides the outcome, and only a
caller that goes on at the end gets an answer.
-/

namespace MailSearch
namespace Query

/-! ## The last step -/

/-- At a step of an examination the caller gives up, or the candidate there
cannot be tested. -/
def Halts
    (select : Candidate -> Except Error Bool)
    (wants : Nat -> Bool)
    (candidates : List Candidate)
    (step : Nat) : Prop :=
  wants step = false ∨
    ∃ candidate error, candidates[step]? = some candidate ∧
      select candidate = .error error

/-- The last step of an examination is the first one at which it halts, or else
its end. -/
structure LastStep
    (select : Candidate -> Except Error Bool)
    (wants : Nat -> Bool)
    (candidates : List Candidate)
    (last : Nat) : Prop where
  /-- There is no step behind the end. -/
  le_length : last ≤ candidates.length
  /-- The examination does not halt before. -/
  not_halts_of_lt : ∀ step < last, ¬ Halts select wants candidates step
  /-- The examination halts or has come to its end. -/
  halts_or_eq_length : Halts select wants candidates last ∨
    last = candidates.length

/-- How an examination comes out after its last step. -/
inductive Ending
    (select : Candidate -> Except Error Bool)
    (wants : Nat -> Bool)
    (candidates : List Candidate)
    (last : Nat) : Except Error (List Candidate) -> Prop where
  /-- The caller gave up. -/
  | cancelled
      (givesUp : wants last = false) :
      Ending select wants candidates last (.error .cancelled)
  /-- A candidate could not be tested. -/
  | failed {candidate : Candidate} {error : Error}
      (goesOn : wants last = true)
      (present : candidates[last]? = some candidate)
      (failure : select candidate = .error error) :
      Ending select wants candidates last (.error error)
  /-- All candidates were tested. -/
  | finished {kept : List Candidate}
      (goesOn : wants last = true)
      (atEnd : last = candidates.length)
      (chosen : choose select candidates = .ok kept) :
      Ending select wants candidates last (.ok kept)

section Steps

variable {select : Candidate -> Except Error Bool} {wants : Nat -> Bool}
  {candidates : List Candidate}

/-- An examination does not halt where the caller goes on and the candidate is
tested. -/
theorem not_halts_of_tested
    {step : Nat}
    {candidate : Candidate}
    {selected : Bool}
    (goesOn : wants step = true)
    (present : candidates[step]? = some candidate)
    (tested : select candidate = .ok selected) :
    ¬ Halts select wants candidates step := by
  rintro (givesUp | ⟨other, error, otherPresent, failure⟩)
  · rw [goesOn] at givesUp
    cases givesUp
  · rw [present] at otherPresent
    cases otherPresent
    rw [tested] at failure
    cases failure

theorem LastStep.unique
    {last other : Nat}
    (lastStep : LastStep select wants candidates last)
    (otherStep : LastStep select wants candidates other) :
    last = other := by
  -- A step before both ends at which one of the examinations halts contradicts
  -- the other.
  have notBefore : ∀ {first second : Nat},
      LastStep select wants candidates first →
      LastStep select wants candidates second → ¬ first < second := by
    intro first second firstStep secondStep less
    rcases firstStep.halts_or_eq_length with halts | atEnd
    · exact secondStep.not_halts_of_lt first less halts
    · have bound := secondStep.le_length
      omega
  exact Nat.le_antisymm (Nat.not_lt.1 (notBefore otherStep lastStep))
    (Nat.not_lt.1 (notBefore lastStep otherStep))

/-- An examination that halts at its first step has no other one. -/
theorem LastStep.of_halts_zero
    (halts : Halts select wants candidates 0) :
    LastStep select wants candidates 0 :=
  ⟨Nat.zero_le _, fun step less => absurd less (Nat.not_lt_zero step),
    Or.inl halts⟩

section Tail

variable {candidate : Candidate} {selected : Bool} {last : Nat}
  (tested : select candidate = .ok selected)

include tested

/-- Behind a tested candidate the last step is that of the other candidates. -/
theorem LastStep.cons
    (goesOn : wants 0 = true)
    (lastStep : LastStep select
      (fun step => wants (step + 1)) candidates last) :
    LastStep select wants (candidate :: candidates) (last + 1) := by
  refine ⟨Nat.succ_le_succ lastStep.le_length, ?_, ?_⟩
  · intro step less
    cases step with
    | zero => exact not_halts_of_tested goesOn rfl tested
    | succ step =>
        exact lastStep.not_halts_of_lt step (Nat.lt_of_succ_lt_succ less)
  · rcases lastStep.halts_or_eq_length with halts | atEnd
    · exact Or.inl halts
    · exact Or.inr (congrArg Nat.succ atEnd)

/-- Behind a tested candidate the examination comes out as that of the other
candidates. -/
theorem Ending.cons
    {outcome : Except Error (List Candidate)}
    (ending : Ending select
      (fun step => wants (step + 1)) candidates last outcome) :
    Ending select wants (candidate :: candidates) (last + 1)
      (outcome.map fun kept =>
        if selected then candidate :: kept else kept) := by
  cases ending with
  | cancelled givesUp => exact .cancelled givesUp
  | failed goesOnThen present failure =>
      exact .failed goesOnThen present failure
  | finished goesOnThen atEnd chosen =>
      refine .finished goesOnThen (congrArg Nat.succ atEnd) ?_
      rw [choose, tested, chosen]
      rfl

end Tail

/-- An examination tells of every step up to the last one and comes out as that
one decides. -/
theorem exists_lastStep
    (select : Candidate -> Except Error Bool)
    (goOn : Nat -> Nat -> Bool)
    (total done : Nat)
    (candidates : List Candidate) :
    ∃ last,
      LastStep select (fun step => goOn (done + step) total) candidates last ∧
      (examine select goOn total done candidates).steps =
        (List.range (last + 1)).map (fun step => (done + step, total)) ∧
      Ending select (fun step => goOn (done + step) total) candidates last
        (examine select goOn total done candidates).outcome := by
  induction candidates generalizing done with
  | nil =>
      have noEarlier : ∀ step < 0, ¬ Halts select
          (fun step => goOn (done + step) total) [] step :=
        fun step less => absurd less (Nat.not_lt_zero step)
      refine ⟨0, ⟨Nat.le_refl 0, noEarlier, Or.inr rfl⟩, rfl, ?_⟩
      rw [examine]
      cases decision : goOn done total with
      | false => exact .cancelled decision
      | true => exact .finished decision rfl rfl
  | cons candidate rest inductionHypothesis =>
      rw [examine]
      cases decision : goOn done total with
      | false =>
          exact ⟨0, .of_halts_zero (Or.inl decision), rfl, .cancelled decision⟩
      | true =>
          cases tested : select candidate with
          | error error =>
              exact ⟨0,
                .of_halts_zero (Or.inr ⟨candidate, error, rfl, tested⟩), rfl,
                .failed decision rfl tested⟩
          | ok selected =>
              obtain ⟨last, lastStep, steps, ending⟩ :=
                inductionHypothesis (done + 1)
              -- The steps of the rest are counted from the next one.
              have shifted : ∀ step, done + 1 + step = done + (step + 1) := by
                intro step
                omega
              simp only [shifted] at lastStep steps ending
              refine ⟨last + 1, lastStep.cons tested decision, ?_,
                ending.cons tested⟩
              rw [List.range_succ_eq_map, List.map_cons, List.map_map]
              exact congrArg (List.cons (done, total)) steps

end Steps

namespace Ending

variable {select : Candidate -> Except Error Bool} {wants : Nat -> Bool}
  {candidates : List Candidate} {last : Nat}
    {outcome : Except Error (List Candidate)}
  (ending : Ending select wants candidates last outcome)

include ending

theorem eq_cancelled
    (givesUp : wants last = false) :
    outcome = .error .cancelled := by
  cases ending with
  | cancelled => rfl
  | failed goesOn =>
      rw [givesUp] at goesOn
      cases goesOn
  | finished goesOn =>
      rw [givesUp] at goesOn
      cases goesOn

theorem eq_error
    (goesOn : wants last = true)
    {candidate : Candidate}
    {error : Error}
    (present : candidates[last]? = some candidate)
    (failure : select candidate = .error error) :
    outcome = .error error := by
  cases ending with
  | cancelled givesUp =>
      rw [goesOn] at givesUp
      cases givesUp
  | failed _ otherPresent otherFailure =>
      rw [present] at otherPresent
      cases otherPresent
      rw [failure] at otherFailure
      cases otherFailure
      rfl
  | finished _ atEnd =>
      rw [atEnd, List.getElem?_length] at present
      cases present

theorem eq_choose
    (goesOn : wants last = true)
    (atEnd : last = candidates.length) :
    ∃ kept, outcome = .ok kept ∧ choose select candidates = .ok kept := by
  cases ending with
  | cancelled givesUp =>
      rw [goesOn] at givesUp
      cases givesUp
  | failed _ present =>
      rw [atEnd, List.getElem?_length] at present
      cases present
  | finished _ _ chosen => exact ⟨_, rfl, chosen⟩

theorem atEnd_of_eq_ok
    {kept : List Candidate}
    (ended : outcome = .ok kept) :
    wants last = true ∧ last = candidates.length := by
  subst ended
  cases ending with
  | finished goesOn atEnd => exact ⟨goesOn, atEnd⟩

end Ending

/-- The failure of an evaluation is that of a search in the request about the
candidate. -/
theorem Request.exists_search_of_evaluate?_error
    {request : Request}
    {index : Predicate.Index}
    {candidate : Candidate}
    {error : Error}
    (failed : Filter.evaluate? index candidate request.filter = .error error) :
    ∃ scope term, (scope, term) ∈ request.searches ∧
      index scope term candidate.id = .error error := by
  unfold searches
  cases given : request.filter with
  | none =>
      rw [given] at failed
      cases failed
  | some filter =>
      rw [given] at failed
      exact Filter.exists_search_of_evaluate_error failed

namespace Interruption

/-- The request for all messages that contain a term. -/
def request : Request :=
  Outage.request (.condition [.text "x"])

/-- An engine that has lost a message. -/
def failing : Engine :=
  Outage.engine.withIndex Outage.index

/-- An engine that knows no mailboxes. -/
def blind : Engine :=
  { Outage.engine with
    visible := fun _ => .error (.visibilityUnavailable "offline") }

/-- An engine that lists no messages. -/
def mute : Engine :=
  { Outage.engine with
    listing := fun _ => .error (.storeUnavailable "offline") }

/-- A caller that gives up only when all is done. -/
def impatient (done total : Nat) : Bool :=
  done < total

/-- With the index that fails, the second candidate is the last step. -/
theorem lastStep_failing :
    LastStep (fun candidate =>
        Filter.evaluate? failing.index candidate request.filter)
      (fun _ => true) [Outage.kept, Outage.lost] 1 where
  le_length := by decide
  not_halts_of_lt step less := by
    obtain rfl : step = 0 := by omega
    have tested : Filter.evaluate? failing.index Outage.kept request.filter =
        .ok true := rfl
    exact not_halts_of_tested rfl rfl tested
  halts_or_eq_length := Or.inl (Or.inr ⟨Outage.lost, _, rfl, rfl⟩)

/-- A caller that gives up at the end is told of all steps. -/
theorem lastStep_impatient :
    LastStep (fun candidate =>
        Filter.evaluate? Outage.engine.index candidate request.filter)
      (fun step => impatient step 2) [Outage.kept, Outage.lost] 2 where
  le_length := by decide
  not_halts_of_lt step less := by
    obtain rfl | rfl : step = 0 ∨ step = 1 := by omega
    · have tested :
          Filter.evaluate? Outage.engine.index Outage.kept request.filter =
          .ok true := rfl
      exact not_halts_of_tested rfl rfl tested
    · have tested :
          Filter.evaluate? Outage.engine.index Outage.lost request.filter =
          .ok false := rfl
      exact not_halts_of_tested rfl rfl tested
  halts_or_eq_length := Or.inr rfl

end Interruption
end Query
end MailSearch
