import MailSearch.Proofs.Query.Grammar
import MailSearch.Proofs.Query.Narrowing

/-!
# Conditions with one property

A condition with one property stands for the predicate of its value.  If the
predicate needs no text index, the condition answers for a candidate what the
predicate says of it.
-/

namespace MailSearch
namespace Query

namespace Filter

section Singles

variable {name : String} {shape : Shape}
  (shaped : shapes.lookup name = some shape) {value : Json}
  {predicate : Predicate} (reads : shape.Reads value predicate)
  (notNull : value.isNull = false)

include shaped reads notNull

/-- A condition with one property denotes the predicate of its value. -/
theorem denotes_single
    (limit : Nat) :
    Grammar limit 1 (.obj [(name, value)]) ∧
      Denotes (.obj [(name, value)]) (.condition [predicate]) := by
  have plain : Json.last? "operator" [(name, value)] = none := by
    have differs : name ≠ "operator" := by
      rintro rfl
      cases shaped
    simp [Json.last?, differs]
  have sorted : Json.sortMembers [] [(name, value)] =
      [(name, value.sortKeys)] := by
    simp [Json.sortMembers, Json.insertMember]
  have read : Predicate.ofProperty name value.sortKeys = .ok predicate :=
    Predicate.ofProperty_eq_ok_iff.mpr ⟨shape, shaped,
      Shape.reads_sortKeys_iff.mpr reads⟩
  have each : (givenMembers [(name, value)]).mapM
      (fun member => Predicate.ofProperty member.1 member.2) =
        .ok [predicate] := by
    have counts : (!value.sortKeys.isNull) = true := by
      rw [isNull_sortKeys, notNull, Bool.not_false]
    rw [givenMembers, sorted, List.filter_cons, if_pos counts, List.filter_nil,
      List.mapM_cons, read]
    rfl
  have alone : arrange [predicate] = [predicate] := by
    cases asks : predicate.asksIndex <;> simp [arrange, asks]
  have decoded := conditionOf_of_mapM each
  rw [alone] at decoded
  exact (conditionOf_eq_ok_iff plain).mp decoded

/-- A condition with one property is decoded as the predicate of its value. -/
theorem ofJson_single
    (limit : Nat) :
    ofJson limit (.obj [(name, value)]) = .ok (.condition [predicate]) := by
  rw [ofJson, decode_eq_ok_iff (Nat.le_refl limit), Nat.add_sub_cancel_left]
  exact denotes_single shaped reads notNull limit

end Singles

end Filter

/-- A value is a filter, and whether it selects a candidate is known. -/
def Answers (index : Predicate.Index) (limit : Nat) (candidate : Candidate)
    (value : Json)
    (answer : Bool) : Prop :=
  ∃ filter, Filter.ofJson limit value = .ok filter ∧
    filter.evaluate index candidate = .ok answer

/-- A filter with one property that needs no index answers as its predicate
does. -/
theorem answers_single
    {name : String}
    {shape : Shape}
    (shaped : shapes.lookup name = some shape)
    {value : Json}
    {predicate : Predicate}
    (reads : shape.Reads value predicate)
    (notNull : value.isNull = false)
    (inMemory : predicate.asksIndex = false)
    (index : Predicate.Index)
    (limit : Nat)
    (candidate : Candidate) :
    Answers index limit candidate (.obj [(name, value)])
      (predicate.holds candidate) := by
  refine ⟨_, Filter.ofJson_single shaped reads notNull limit, ?_⟩
  rw [Filter.evaluate, Filter.evaluateAll,
    Predicate.evaluate_of_not_asksIndex inMemory]
  cases predicate.holds candidate <;> rfl

end Query
end MailSearch
