import Mathlib.Data.List.Forall2
import Mathlib.Data.Option.Basic
import MailSearch.Data.Attempt

/-!
# Outcomes of computations that may fail

A computation in steps has a result only if every step has one, and so has a
computation on which the program may break down.
-/

namespace MailSearch
namespace Outcome

variable {ε α β : Type} {result : β}

theorem exists_of_bind_eq_ok
    {first : Except ε α}
    {next : α -> Except ε β}
    (ended : (first >>= next) = .ok result) :
    ∃ value, first = .ok value ∧ next value = .ok result := by
  cases first with
  | error error => cases ended
  | ok value => exact ⟨value, rfl, ended⟩

theorem or_of_bind_eq_error
    {first : Except ε α}
    {next : α -> Except ε β}
    {error : ε}
    (ended : (first >>= next) = .error error) :
    first = .error error ∨ ∃ value, first = .ok value ∧
      next value = .error error := by
  cases first with
  | error cause =>
      cases ended
      exact .inl rfl
  | ok value => exact .inr ⟨value, rfl, ended⟩

theorem eq_ok_of_toOption
    {outcome : Except ε β}
    (found : outcome.toOption = some result) :
    outcome = .ok result := by
  cases outcome with
  | error error => cases found
  | ok value =>
      cases found
      rfl

theorem exists_of_map_eq_ok
    {first : Except ε α}
    {next : α -> β}
    (ended : first.map next = .ok result) :
    ∃ value, first = .ok value ∧ next value = result := by
  cases first with
  | error error => cases ended
  | ok value =>
      cases ended
      exact ⟨value, rfl, rfl⟩

theorem map_eq_ok_iff
    {first : Except ε α}
    {next : α -> β} :
    first.map next = .ok result ↔ ∃ value, first = .ok value ∧
      next value = result := by
  refine ⟨exists_of_map_eq_ok, ?_⟩
  rintro ⟨value, rfl, rfl⟩
  rfl

theorem map_eq_error_iff
    {first : Except ε α}
    {next : α -> β}
    {error : ε} :
    first.map next = .error error ↔ first = .error error := by
  cases first <;> simp [Except.map]

/-- A check passes if its condition holds. -/
theorem ite_eq_ok_iff
    {condition : Prop}
    [Decidable condition]
    {value : β}
    {error : ε} :
    (if condition then Except.ok value else Except.error error) = .ok result ↔
      condition ∧ value = result := by
  by_cases holds : condition
  · rw [if_pos holds, Except.ok.injEq, and_iff_right holds]
  · rw [if_neg holds]
    exact ⟨nofun, fun both => absurd both.1 holds⟩

/-- Behind a refusal there is a result only if its condition does not hold. -/
theorem of_refusal_eq_ok
    {condition : Prop}
    [Decidable condition]
    {error : ε}
    {next : Except ε β}
    (ended : (do
      if condition then throw error
      next) = .ok result) :
    ¬ condition ∧ next = .ok result := by
  by_cases holds : condition
  · rw [if_pos holds] at ended
    cases ended
  · rw [if_neg holds] at ended
    exact ⟨holds, ended⟩

section Lists

variable {test other : α -> Except ε β} {items : List α} {results : List β}

theorem mapM_cons_eq_ok_iff
    {item : α} :
    (item :: items).mapM test = .ok results ↔
      ∃ first rest, test item = .ok first ∧ items.mapM test = .ok rest ∧
        first :: rest = results := by
  rw [List.mapM_cons]
  constructor
  · intro ended
    obtain ⟨first, tested, ended⟩ := exists_of_bind_eq_ok ended
    obtain ⟨rest, testedRest, ended⟩ := exists_of_bind_eq_ok ended
    cases ended
    exact ⟨first, rest, tested, testedRest, rfl⟩
  · rintro ⟨first, rest, tested, testedRest, rfl⟩
    rw [tested, testedRest]
    rfl

/-- The results of a list are those of its items. -/
theorem mem_results_iff
    (ended : items.mapM test = .ok results)
    {result : β} :
    result ∈ results ↔ ∃ item ∈ items, test item = .ok result := by
  induction items generalizing results with
  | nil =>
      cases ended
      simp
  | cons item rest inductionHypothesis =>
      obtain ⟨first, others, tested, testedRest, rfl⟩ :=
        mapM_cons_eq_ok_iff.1 ended
      rw [List.mem_cons, inductionHypothesis testedRest]
      simp only [List.mem_cons, exists_eq_or_imp, tested, Except.ok.injEq,
        @eq_comm _ first]

/-- A list has results if all its items have one. -/
theorem exists_mapM_eq_ok
    (each : ∀ item ∈ items, ∃ result, test item = .ok result) :
    ∃ results, items.mapM test = .ok results := by
  induction items with
  | nil => exact ⟨[], rfl⟩
  | cons item rest inductionHypothesis =>
      obtain ⟨⟨first, tested⟩, others⟩ := List.forall_mem_cons.1 each
      obtain ⟨results, testedRest⟩ := inductionHypothesis others
      exact ⟨first :: results,
        mapM_cons_eq_ok_iff.2 ⟨first, results, tested, testedRest, rfl⟩⟩

/-- The items of a list with results have results. -/
theorem exists_of_mapM_eq_ok
    (ended : items.mapM test = .ok results) :
    ∀ item ∈ items, ∃ result, test item = .ok result := by
  induction items generalizing results with
  | nil =>
      intro item absurd
      cases absurd
  | cons item rest inductionHypothesis =>
      obtain ⟨first, others, tested, testedRest, -⟩ :=
        mapM_cons_eq_ok_iff.1 ended
      exact List.forall_mem_cons.2 ⟨⟨first, tested⟩,
        inductionHypothesis testedRest⟩

/-- The results of a list stand in the order of its items. -/
theorem mapM_eq_ok_iff :
    items.mapM test = .ok results ↔
      List.Forall₂ (fun item result => test item = .ok result)
        items results := by
  induction items generalizing results with
  | nil =>
      rw [List.forall₂_nil_left_iff]
      exact ⟨fun ended => (Except.ok.inj ended).symm, fun none =>
        by rw [none]; rfl⟩
  | cons item rest inductionHypothesis =>
      rw [mapM_cons_eq_ok_iff, List.forall₂_cons_left_iff]
      constructor
      · rintro ⟨first, others, tested, testedRest, rfl⟩
        exact ⟨first, others, tested, inductionHypothesis.mp testedRest, rfl⟩
      · rintro ⟨first, others, tested, testedRest, rfl⟩
        exact ⟨first, others, tested, inductionHypothesis.mpr testedRest, rfl⟩

/-- Items that are all related to something are related to a list. -/
theorem exists_forall₂
    {relation : α -> β -> Prop}
    (each : ∀ item ∈ items, ∃ result, relation item result) :
    ∃ results, List.Forall₂ relation items results := by
  induction items with
  | nil => exact ⟨[], .nil⟩
  | cons item rest inductionHypothesis =>
      obtain ⟨⟨result, related⟩, others⟩ := List.forall_mem_cons.1 each
      obtain ⟨results, relatedRest⟩ := inductionHypothesis others
      exact ⟨result :: results, .cons related relatedRest⟩

/-- Items of a list that is related to another are each related to something. -/
theorem exists_of_forall₂
    {relation : α -> β -> Prop}
    (each : List.Forall₂ relation items results) :
    ∀ item ∈ items, ∃ result, relation item result := by
  induction each with
  | nil => exact List.forall_mem_nil _
  | cons first _ inductionHypothesis =>
      exact List.forall_mem_cons.mpr ⟨⟨_, first⟩, inductionHypothesis⟩

/-- What holds of each result beside its item holds of all results. -/
theorem forall_right
    {holds : β -> Prop}
    (each : List.Forall₂ (fun _ result => holds result) items results) :
    ∀ result ∈ results, holds result := by
  induction each with
  | nil => exact List.forall_mem_nil _
  | cons first _ inductionHypothesis =>
      exact List.forall_mem_cons.mpr ⟨first, inductionHypothesis⟩

/-- Another test that confirms all results of a list has the same results. -/
theorem mapM_eq_ok_of_confirmed
    (confirms : ∀ item ∈ items, ∀ result, test item = .ok result →
      other item = .ok result)
    (ended : items.mapM test = .ok results) :
    items.mapM other = .ok results := by
  induction items generalizing results with
  | nil => exact ended
  | cons item rest inductionHypothesis =>
      obtain ⟨first, others⟩ := List.forall_mem_cons.1 confirms
      obtain ⟨result, results, tested, testedRest, rfl⟩ :=
        mapM_cons_eq_ok_iff.1 ended
      exact mapM_cons_eq_ok_iff.2 ⟨result, results, first result tested,
        inductionHypothesis others testedRest, rfl⟩

end Lists

end Outcome

namespace Attempt

variable {α β : Type} {attempt : α -> Attempt β} {items : List α}
  {results : List β}

/-- A list has results if each item has the result at its place. -/
theorem mapM_eq_some_iff :
    items.mapM attempt = some results ↔
      items.map attempt = results.map some := by
  induction items generalizing results with
  | nil =>
      rw [List.mapM_nil, List.map_nil, @eq_comm _ [], List.map_eq_nil_iff]
      exact ⟨fun same => (Option.some.inj same).symm, congrArg some ∘ Eq.symm⟩
  | cons item rest inductionHypothesis =>
      rw [List.mapM_cons, List.map_cons, @eq_comm _ (_ :: _),
        List.map_eq_cons_iff]
      constructor
      · intro ended
        obtain ⟨first, isFirst, ended⟩ := Option.bind_eq_some_iff.mp ended
        obtain ⟨others, areOthers, ended⟩ := Option.bind_eq_some_iff.mp ended
        cases ended
        exact ⟨first, others, rfl, isFirst.symm,
          (inductionHypothesis.mp areOthers).symm⟩
      · rintro ⟨first, others, rfl, isFirst, areOthers⟩
        rw [← isFirst, inductionHypothesis.mpr areOthers.symm]
        rfl

/-- What holds of the result of each item holds of all results in their
order. -/
theorem map_eq_map_of_map_eq_some
    {γ : Type}
    {ofItem : α -> γ}
    {ofResult : β -> γ}
    (agree : ∀ result ∈ results, ∀ item, attempt item = some result →
      ofResult result = ofItem item)
    (each : items.map attempt = results.map some) :
    results.map ofResult = items.map ofItem := by
  induction items generalizing results with
  | nil =>
      rw [List.map_nil, @eq_comm _ [], List.map_eq_nil_iff] at each
      rw [each]
      rfl
  | cons item rest inductionHypothesis =>
      rw [List.map_cons, @eq_comm _ (_ :: _), List.map_eq_cons_iff] at each
      obtain ⟨first, others, rfl, isFirst, areOthers⟩ := each
      obtain ⟨agreeFirst, agreeOthers⟩ := List.forall_mem_cons.mp agree
      rw [List.map_cons, List.map_cons, agreeFirst item isFirst.symm,
        inductionHypothesis agreeOthers areOthers.symm]

/-- The program breaks down over a list only if it does over one of the
items. -/
theorem isSome_mapM_iff :
    (items.mapM attempt).isSome = true ↔ ∀ item ∈ items,
      (attempt item).isSome = true := by
  induction items with
  | nil => exact iff_of_true rfl (List.forall_mem_nil _)
  | cons item rest inductionHypothesis =>
      rw [List.mapM_cons, List.forall_mem_cons, ← inductionHypothesis]
      cases attempt item with
      | none => simp
      | some first =>
          cases rest.mapM attempt <;> simp

/-- The results of a list are those of its items. -/
theorem mem_results_iff
    (ended : items.mapM attempt = some results)
    {result : β} :
    result ∈ results ↔ ∃ item ∈ items, attempt item = some result := by
  rw [← List.mem_map_of_injective (Option.some_injective β),
    ← mapM_eq_some_iff.mp ended, List.mem_map]

end Attempt
end MailSearch
