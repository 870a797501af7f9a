import Mathlib.Data.List.Sort
import MailSearch.Query.Page
import MailSearch.Query.SortOrder

/-!
# Sorted listings

A sort order compares candidates key by key, and those that agree on every key
by their identifiers.  Sorting candidates that come in the order of identifiers
lists them in this strict order, in which a set of candidates has only one
listing.
-/

namespace MailSearch
namespace Query

/-! ## Comparison by keys -/

instance (field : SortField) : Std.TransCmp field.compare := by
  cases field with
  | id => exact inferInstanceAs (Std.TransCmp (compareOn Candidate.id))
  | date =>
      exact inferInstanceAs (Std.TransCmp (compareLex
        (compareOn fun candidate : Candidate => candidate.message.sentAt.second)
        (compareOn fun candidate : Candidate => candidate.message.sentAt.nano)))
  | subject =>
      exact inferInstanceAs
        (Std.TransCmp (compareOn fun candidate : Candidate =>
          candidate.message.subject))
  | sender =>
      exact inferInstanceAs (Std.TransCmp
        (compareOn fun candidate : Candidate =>
          (candidate.message.header? "from").getD ""))
  | recipient =>
      exact inferInstanceAs (Std.TransCmp
        (compareOn fun candidate : Candidate =>
          (candidate.message.header? "to").getD ""))
  | size =>
      exact inferInstanceAs
        (Std.TransCmp (compareOn fun candidate : Candidate =>
          candidate.message.size))

theorem SortField.swap_compare
    (field : SortField)
    (left right : Candidate) :
    (field.compare left right).swap = field.compare right left :=
  Std.OrientedCmp.eq_swap.symm

/-- A key that runs downwards compares the other way round. -/
instance (key : SortKey) : Std.TransCmp key.compare := by
  obtain ⟨field, direction⟩ := key
  cases direction with
  | ascending => exact inferInstanceAs (Std.TransCmp field.compare)
  | descending =>
      have turned : SortKey.compare ⟨field, .descending⟩ =
          fun left right => field.compare right left := by
        funext left right
        exact field.swap_compare left right
      rw [turned]
      infer_instance

namespace SortOrder

theorem compareBy_cons
    (key : SortKey)
    (rest : List SortKey) :
    compareBy (key :: rest) = compareLex key.compare (compareBy rest) := by
  funext left right
  unfold compareLex
  rw [compareBy]
  cases key.compare left right <;> rfl

instance (keys : List SortKey) : Std.TransCmp (compareBy keys) := by
  induction keys with
  | nil => exact { eq_swap := rfl, isLE_trans := fun _ _ => rfl }
  | cons key rest inductionHypothesis =>
      rw [compareBy_cons]
      infer_instance

instance (order : SortOrder) : Std.TransCmp order.compare :=
  inferInstanceAs (Std.TransCmp (compareBy order.keys))

theorem precedes_eq_isLE
    (order : SortOrder)
    (left right : Candidate) :
    order.precedes left right = (order.compare left right).isLE := by
  unfold precedes
  cases order.compare left right <;> rfl

theorem precedes_trans
    (order : SortOrder)
    (left middle right : Candidate)
    (first : order.precedes left middle = true)
    (second : order.precedes middle right = true) :
    order.precedes left right = true := by
  rw [precedes_eq_isLE] at first second ⊢
  exact Std.TransCmp.isLE_trans first second

theorem precedes_total
    (order : SortOrder)
    (left right : Candidate) :
    (order.precedes left right || order.precedes right left) = true := by
  have turned : order.compare right left = (order.compare left right).swap :=
    Std.OrientedCmp.eq_swap
  rw [precedes_eq_isLE, precedes_eq_isLE, turned]
  cases order.compare left right <;> rfl

end SortOrder

/-! ## The strict order -/

/--
One candidate stands before another: the first key on which they differ puts it
first, or they agree on every key and its identifier is less.
-/
inductive Before (left right : Candidate) : List SortKey -> Prop where
  /-- No key is left, and the identifier is less. -/
  | tie (less : left.id < right.id) : Before left right []
  /-- The first key puts the candidate first. -/
  | differ {key : SortKey} {rest : List SortKey}
      (first : key.compare left right = .lt) : Before left right (key :: rest)
  /-- The candidates agree on the first key, and the other keys decide. -/
  | agree {key : SortKey} {rest : List SortKey}
      (same : key.compare left right = .eq)
      (decided : Before left right rest) : Before left right (key :: rest)

theorem before_iff
    {left right : Candidate}
    {keys : List SortKey} :
    Before left right keys ↔
      SortOrder.compareBy keys left right = .lt ∨
        SortOrder.compareBy keys left right = .eq ∧ left.id < right.id := by
  induction keys with
  | nil =>
      constructor
      · rintro ⟨less⟩
        exact Or.inr ⟨rfl, less⟩
      · rintro (absurd | ⟨-, less⟩)
        · cases absurd
        · exact .tie less
  | cons key rest inductionHypothesis =>
      rw [SortOrder.compareBy]
      constructor
      · intro before
        cases before with
        | differ first => rw [first]; exact Or.inl rfl
        | agree same decided => rw [same]; exact inductionHypothesis.1 decided
      · intro compared
        cases outcome : key.compare left right with
        | lt => exact .differ outcome
        | eq =>
            rw [outcome] at compared
            exact .agree outcome (inductionHypothesis.2 compared)
        | gt =>
            rw [outcome] at compared
            rcases compared with absurd | ⟨absurd, -⟩ <;> cases absurd

theorem Before.asymm
    {left right : Candidate}
    {keys : List SortKey}
    (before : Before left right keys) :
    ¬ Before right left keys := by
  intro after
  rcases before_iff.1 before with less | ⟨same, less⟩
  · rcases before_iff.1 after with greater | ⟨same, -⟩
    · exact Std.OrientedCmp.not_lt_of_lt less greater
    · rw [Std.OrientedCmp.eq_symm same] at less
      cases less
  · rcases before_iff.1 after with greater | ⟨-, greater⟩
    · rw [Std.OrientedCmp.eq_symm same] at greater
      cases greater
    · exact String.lt_irrefl left.id (String.lt_trans less greater)

theorem Before.irrefl
    (candidate : Candidate)
    (keys : List SortKey) :
    ¬ Before candidate candidate keys :=
  fun before => before.asymm before

/-- A set of candidates has only one listing in the strict order. -/
theorem eq_of_pairwise_before
    {keys : List SortKey}
    {left right : List Candidate}
    (leftOrdered : left.Pairwise fun first second => Before first second keys)
    (rightOrdered : right.Pairwise fun first second => Before first second keys)
    (same : ∀ candidate, candidate ∈ left ↔ candidate ∈ right) :
    left = right := by
  have irreflexive : Std.Irrefl fun first second : Candidate =>
      Before first second keys :=
    ⟨fun candidate => Before.irrefl candidate keys⟩
  have antisymmetric : Std.Antisymm fun first second : Candidate =>
      Before first second keys :=
    ⟨fun first second before after => absurd after before.asymm⟩
  exact leftOrdered.eq_of_mem_iff rightOrdered same

namespace SortOrder

theorem mem_apply
    {order : SortOrder}
    {candidates : List Candidate}
    {candidate : Candidate} :
    candidate ∈ order.apply candidates ↔ candidate ∈ candidates :=
  List.mem_mergeSort

/-- Candidates that are in order already stay as they are. -/
theorem apply_eq_self
    {order : SortOrder}
    {candidates : List Candidate}
    (sorted : candidates.Pairwise fun left right =>
      order.precedes left right = true) :
    order.apply candidates = candidates :=
  List.mergeSort_of_pairwise sorted

section Stability

variable {order : SortOrder} {left right : Candidate}

/-- Identifiers decide between candidates that may stand in either order. -/
theorem before_of_precedes
    (precedes : order.precedes left right = true)
    (less : left.id < right.id) :
    Before left right order.keys := by
  rw [precedes_eq_isLE] at precedes
  rw [before_iff]
  cases outcome : order.compare left right with
  | lt => exact Or.inl outcome
  | eq => exact Or.inr ⟨outcome, less⟩
  | gt =>
      rw [outcome] at precedes
      cases precedes

theorem before_of_not_precedes
    (notPrecedes : order.precedes right left = false) :
    Before left right order.keys := by
  rw [precedes_eq_isLE] at notPrecedes
  refine before_iff.2 (Or.inl (Std.OrientedCmp.lt_of_not_isLE ?_))
  exact Bool.not_eq_true _ ▸ notPrecedes

end Stability

/-- Candidates that come in the order of identifiers are sorted into the strict
order. -/
theorem pairwise_apply
    (order : SortOrder)
    {candidates : List Candidate}
    (ordered : candidates.Pairwise fun left right => left.id < right.id) :
    (order.apply candidates).Pairwise fun left right =>
      Before left right order.keys := by
  induction candidates with
  | nil =>
      rw [apply, List.mergeSort_nil]
      exact List.Pairwise.nil
  | cons candidate rest inductionHypothesis =>
      obtain ⟨least, restOrdered⟩ := List.pairwise_cons.1 ordered
      -- The candidate goes behind those of the sorted rest that it may not
      -- precede.
      obtain ⟨front, back, sorted, sortedRest, greater⟩ :=
        List.mergeSort_cons order.precedes_trans order.precedes_total
          candidate rest
      have precedence :=
        List.pairwise_mergeSort order.precedes_trans order.precedes_total
        (candidate :: rest)
      rw [sorted, List.pairwise_append, List.pairwise_cons] at precedence
      obtain ⟨-, ⟨candidateFirst, -⟩, -⟩ := precedence
      have frontBefore : ∀ other ∈ front,
          Before other candidate order.keys := by
        intro other member
        exact before_of_not_precedes
          (Bool.not_eq_true' _ ▸ greater other member)
      have beforeBack : ∀ other ∈ back, Before candidate other order.keys := by
        intro other member
        have sortedMember : other ∈ order.apply rest := by
          rw [apply, sortedRest]
          exact List.mem_append_right front member
        exact before_of_precedes (candidateFirst other member)
          (least other (mem_apply.1 sortedMember))
      have others := inductionHypothesis restOrdered
      rw [apply, sortedRest, List.pairwise_append] at others
      obtain ⟨frontOrdered, backOrdered, across⟩ := others
      rw [apply, sorted, List.pairwise_append, List.pairwise_cons]
      refine ⟨frontOrdered, ⟨beforeBack, backOrdered⟩, ?_⟩
      intro first firstMember second secondMember
      rcases List.mem_cons.1 secondMember with rfl | secondMember
      · exact frontBefore first firstMember
      · exact across first firstMember second secondMember

end SortOrder

/-! ## Pages -/

/-- A page is the part of the listing between two places that the listing
bounds. -/
theorem Page.slice_eq_extract
    {α : Type}
    (position limit : Nat)
    (items : List α) :
    slice position limit items =
      items.extract (min position items.length)
        (min (position + limit) items.length) := by
  have sameStart : items.drop (min position items.length) =
      items.drop position := by
    rw [List.drop_eq_drop_iff]
    omega
  have sameLength : (items.drop position).take
      (min (position + limit) items.length - min position items.length) =
        (items.drop position).take limit := by
    rw [List.take_eq_take_iff, List.length_drop]
    omega
  rw [slice, List.extract_eq_take_drop, sameStart, sameLength]

end Query
end MailSearch
