import MailSearch.Query.Engine
import MailSearch.Proofs.Data.Outcome
import MailSearch.Proofs.Query.Evaluation

/-!
# Examination of candidates

What an examination keeps depends on the test of each candidate alone, and a
caller that always goes on has no part in it: then the selected candidates are
kept in order, up to the first candidate that cannot be tested.
-/

namespace MailSearch
namespace Query

namespace Run

variable {α β γ : Type}

theorem map_map
    (run : Run α)
    (first : α -> β)
    (second : β -> γ) :
    (run.map first).map second = run.map fun value => second (first value) := by
  obtain ⟨steps, outcome⟩ := run
  cases outcome <;> rfl

theorem map_after
    (run : Run α)
    (step : Progress)
    (next : α -> β) :
    (run.after step).map next = (run.map next).after step := rfl

theorem exists_outcome_of_map
    {run : Run α}
    {next : α -> β}
    {result : β}
    (ended : (run.map next).outcome = .ok result) :
    ∃ value, run.outcome = .ok value := by
  obtain ⟨steps, outcome⟩ := run
  cases outcome with
  | error error => cases ended
  | ok value => exact ⟨value, rfl⟩

end Run

/-- The selected ones of some candidates, or the first failure to test one. -/
def choose (select : Candidate -> Except Error Bool) :
    List Candidate -> Except Error (List Candidate)
  | [] => .ok []
  | candidate :: rest => do
      let selected ← select candidate
      let kept ← choose select rest
      return if selected then candidate :: kept else kept

section Examination

variable {select other : Candidate -> Except Error Bool}
  {goOn : Nat -> Nat -> Bool} {total : Nat}

/-- Examinations with the same tests tell the caller the same and keep the
same. -/
theorem examine_congr
    {candidates : List Candidate}
    {done : Nat}
    (same : ∀ candidate ∈ candidates, select candidate = other candidate) :
    examine select goOn total done candidates =
      examine other goOn total done candidates := by
  induction candidates generalizing done with
  | nil => rfl
  | cons candidate rest inductionHypothesis =>
      obtain ⟨first, others⟩ := List.forall_mem_cons.1 same
      rw [examine, examine, first, inductionHypothesis others]

/-- Changed candidates are examined as the candidates are that they come
from. -/
theorem examine_map
    (change : Candidate -> Candidate)
    (candidates : List Candidate)
    (done : Nat) :
    examine select goOn total done (candidates.map change) =
      (examine (fun candidate => select (change candidate)) goOn total done
          candidates).map
        (List.map change) := by
  induction candidates generalizing done with
  | nil =>
      rw [List.map_nil, examine, examine]
      cases goOn done total <;> rfl
  | cons candidate rest inductionHypothesis =>
      rw [List.map_cons, examine, examine]
      cases goOn done total with
      | false => rfl
      | true =>
          cases select (change candidate) with
          | error error => rfl
          | ok selected =>
              simp only [if_true, inductionHypothesis, Run.map_after,
                Run.map_map]
              cases selected <;> rfl

/-- An examination that comes to an end is the same with tests that fail less
often. -/
theorem examine_eq_of_refines
    (refines : ∀ candidate, Refines (select candidate) (other candidate))
    {candidates kept : List Candidate}
    {done : Nat}
    (ended : (examine select goOn total done candidates).outcome = .ok kept) :
    examine other goOn total done candidates =
      examine select goOn total done candidates := by
  induction candidates generalizing done kept with
  | nil => rfl
  | cons candidate rest inductionHypothesis =>
      rw [examine] at ended ⊢
      rw [examine]
      cases decision : goOn done total with
      | false => rfl
      | true =>
          simp only [decision, if_true] at ended ⊢
          cases outcome : select candidate with
          | error error =>
              rw [outcome] at ended
              cases ended
          | ok selected =>
              rw [outcome] at ended
              rw [refines candidate selected outcome]
              obtain ⟨keptLater, remaining⟩ := Run.exists_outcome_of_map ended
              rw [inductionHypothesis remaining]

/-- With a caller that always goes on, an examination keeps what is chosen. -/
theorem examine_outcome_eq_choose
    (select : Candidate -> Except Error Bool)
    (total done : Nat)
    (candidates : List Candidate) :
    (examine select (fun _ _ => true) total done candidates).outcome =
      choose select candidates := by
  induction candidates generalizing done with
  | nil => rfl
  | cons candidate rest inductionHypothesis =>
      rw [examine, choose, ← inductionHypothesis (done + 1)]
      simp only [if_true]
      cases select candidate with
      | error error => rfl
      | ok selected =>
          simp only [Run.after, Run.map]
          cases (examine select
            (fun _ _ => true) total (done + 1) rest).outcome <;> rfl

/-- An examination keeps only what is examined. -/
theorem examine_subset
    {candidates kept : List Candidate}
    {done : Nat}
    (ended : (examine select goOn total done candidates).outcome = .ok kept) :
    kept ⊆ candidates := by
  induction candidates generalizing done kept with
  | nil =>
      rw [examine] at ended
      split at ended
      · cases ended
        exact List.nil_subset _
      · cases ended
  | cons candidate rest inductionHypothesis =>
      rw [examine] at ended
      split at ended
      · split at ended
        · cases ended
        · obtain ⟨later, remaining, rfl⟩ := Outcome.exists_of_map_eq_ok ended
          have isPart := inductionHypothesis remaining
          split
          · exact List.cons_subset_cons candidate isPart
          · exact List.subset_cons_of_subset candidate isPart
      · cases ended

end Examination

section Choice

variable {select : Candidate -> Except Error Bool}

/-- Candidates that are tested and not selected make no difference. -/
theorem choose_filter
    {test : Candidate -> Bool}
    {candidates : List Candidate}
    (rejected : ∀ candidate ∈ candidates, test candidate = false →
      select candidate = .ok false) :
    choose select (candidates.filter test) = choose select candidates := by
  induction candidates with
  | nil => rfl
  | cons candidate rest inductionHypothesis =>
      obtain ⟨first, others⟩ := List.forall_mem_cons.1 rejected
      cases passes : test candidate with
      | true =>
          rw [List.filter_cons_of_pos passes, choose, choose,
            inductionHypothesis others]
      | false =>
          rw [List.filter_cons_of_neg (Bool.eq_false_iff.1 passes),
            inductionHypothesis others, choose, first passes]
          cases choose select rest <;> rfl

/-- The chosen candidates stand in the order in which they were examined. -/
theorem sublist_of_choose_eq_ok
    {candidates kept : List Candidate}
    (chosen : choose select candidates = .ok kept) :
    kept.Sublist candidates := by
  induction candidates generalizing kept with
  | nil =>
      cases chosen
      exact List.Sublist.slnil
  | cons candidate rest inductionHypothesis =>
      rw [choose] at chosen
      obtain ⟨selected, -, chosen⟩ := Outcome.exists_of_bind_eq_ok chosen
      obtain ⟨keptLater, chosenLater, chosen⟩ :=
        Outcome.exists_of_bind_eq_ok chosen
      cases chosen
      cases selected with
      | true => exact (inductionHypothesis chosenLater).cons_cons candidate
      | false => exact (inductionHypothesis chosenLater).cons candidate

/-- When every candidate is tested, exactly the selected ones are chosen. -/
theorem exists_choose_eq_ok
    {meaning : Candidate -> Prop}
    {candidates : List Candidate}
    (each : ∀ candidate ∈ candidates,
      Decides (select candidate) (meaning candidate)) :
    ∃ kept, choose select candidates = .ok kept ∧ kept.Sublist candidates ∧
      ∀ candidate, candidate ∈ kept ↔ candidate ∈ candidates ∧
        meaning candidate := by
  induction candidates with
  | nil => exact ⟨[], rfl, List.Sublist.slnil, by simp⟩
  | cons candidate rest inductionHypothesis =>
      obtain ⟨⟨selected, outcome, truth⟩, others⟩ := List.forall_mem_cons.1 each
      obtain ⟨kept, chosen, sublist, members⟩ := inductionHypothesis others
      cases selected with
      | true =>
          refine ⟨candidate :: kept, ?_, sublist.cons_cons candidate, ?_⟩
          · rw [choose, outcome, chosen]
            rfl
          · intro other
            rw [List.mem_cons, List.mem_cons, members]
            constructor
            · rintro (rfl | ⟨member, selects⟩)
              · exact ⟨Or.inl rfl, truth.1 rfl⟩
              · exact ⟨Or.inr member, selects⟩
            · rintro ⟨rfl | member, selects⟩
              · exact Or.inl rfl
              · exact Or.inr ⟨member, selects⟩
      | false =>
          refine ⟨kept, ?_, sublist.cons candidate, ?_⟩
          · rw [choose, outcome, chosen]
            rfl
          · intro other
            rw [List.mem_cons, members]
            constructor
            · rintro ⟨member, selects⟩
              exact ⟨Or.inr member, selects⟩
            · rintro ⟨rfl | member, selects⟩
              · cases truth.2 selects
              · exact ⟨member, selects⟩

end Choice

end Query
end MailSearch
