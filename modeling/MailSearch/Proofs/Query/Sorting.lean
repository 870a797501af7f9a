import Mathlib.Data.List.FinRange
import Mathlib.Data.List.Pairwise
import Mathlib.Data.String.Basic
import Mathlib.Logic.Function.Basic
import MailSearch.Proofs.Query.Ordering
import MailSearch.Proofs.Query.Ranges

/-!
# Stable sorting

Sorting lists every candidate once.  The first key on which two candidates
differ puts them in its direction, and candidates that agree on every key keep
the order in which they came.  The candidates themselves need not be compared or
moved for this: it is enough to sort their places by what the keys look at, read
off once for each candidate, and to take the candidates out of their places in
that order.
-/

namespace MailSearch

namespace Message

/-- The text of the first field with a name, empty when there is none. -/
def firstText (message : Message) (name : String) : String :=
  (message.headerValues name).headD ""

/-- The date in the first date field if it can be read, or else that of the
delivery. -/
def effectiveDate (message : Message) : Calendar.Instant :=
  match message.headerValues "date" with
  | [] => message.receivedAt
  | first :: _ => (Calendar.MailDate.ofText? first).getD message.receivedAt

theorem header?_eq_head?
    (message : Message)
    (name : String) :
    message.header? name = (message.headerValues name).head? := by
  rw [header?, headerValues, List.head?_map, List.head?_filter]

theorem getD_header?
    (message : Message)
    (name : String) :
    (message.header? name).getD "" = message.firstText name := by
  rw [header?_eq_head?, firstText, List.headD_eq_head?_getD]

theorem sentAt_eq_effectiveDate
    (message : Message) :
    message.sentAt = message.effectiveDate := by
  rw [sentAt, header?_eq_head?, effectiveDate]
  cases message.headerValues "date" <;> rfl

end Message

namespace Query

/-! ## What keys look at -/

namespace SortField

/-- One candidate is less than another by a field.  Texts are compared by their
code points. -/
def Less : SortField -> Candidate -> Candidate -> Prop
  | .id, left, right => left.message.id.toList < right.message.id.toList
  | .date, left, right =>
      left.message.effectiveDate.before right.message.effectiveDate = true
  | .subject, left, right =>
      (left.message.firstText "subject").toList <
        (right.message.firstText "subject").toList
  | .sender, left, right =>
      (left.message.firstText "from").toList <
        (right.message.firstText "from").toList
  | .recipient, left, right =>
      (left.message.firstText "to").toList <
        (right.message.firstText "to").toList
  | .size, left, right => left.message.size < right.message.size

/-- Two candidates are the same by a field. -/
def Same : SortField -> Candidate -> Candidate -> Prop
  | .id, left, right => left.message.id = right.message.id
  | .date, left, right =>
      left.message.effectiveDate = right.message.effectiveDate
  | .subject, left, right =>
      left.message.firstText "subject" = right.message.firstText "subject"
  | .sender, left, right =>
      left.message.firstText "from" = right.message.firstText "from"
  | .recipient, left, right =>
      left.message.firstText "to" = right.message.firstText "to"
  | .size, left, right => left.message.size = right.message.size

variable {field : SortField} {left right : Candidate}

theorem Same.symm
    (same : field.Same left right) :
    field.Same right left := by
  cases field <;> exact Eq.symm same

theorem compare_eq_lt_iff :
    field.compare left right = .lt ↔ field.Less left right := by
  have texts : ∀ first second : String,
      Ord.compare first second = .lt ↔ first.toList < second.toList :=
    fun first second => compareOfLessAndEq_eq_lt
  cases field with
  | id => exact texts _ _
  | date =>
      rw [Less, ← Message.sentAt_eq_effectiveDate,
        ← Message.sentAt_eq_effectiveDate]
      exact Calendar.Instant.before_iff.symm
  | subject =>
      rw [Less, ← Message.getD_header?, ← Message.getD_header?]
      exact texts _ _
  | sender =>
      rw [Less, ← Message.getD_header?, ← Message.getD_header?]
      exact texts _ _
  | recipient =>
      rw [Less, ← Message.getD_header?, ← Message.getD_header?]
      exact texts _ _
  | size => exact Std.compare_eq_lt

theorem compare_eq_eq_iff :
    field.compare left right = .eq ↔ field.Same left right := by
  cases field with
  | id => exact Std.LawfulEqOrd.compare_eq_iff_eq
  | date =>
      rw [Same, ← Message.sentAt_eq_effectiveDate,
        ← Message.sentAt_eq_effectiveDate]
      exact Calendar.Instant.compare_eq_iff
  | subject =>
      rw [Same, ← Message.getD_header?, ← Message.getD_header?]
      exact Std.LawfulEqOrd.compare_eq_iff_eq
  | sender =>
      rw [Same, ← Message.getD_header?, ← Message.getD_header?]
      exact Std.LawfulEqOrd.compare_eq_iff_eq
  | recipient =>
      rw [Same, ← Message.getD_header?, ← Message.getD_header?]
      exact Std.LawfulEqOrd.compare_eq_iff_eq
  | size => exact Std.LawfulEqOrd.compare_eq_iff_eq

end SortField

/-! ## The first difference -/

/-- A key puts one candidate before another: the lesser one if it runs
upwards. -/
def SortKey.Leads (key : SortKey) (left right : Candidate) : Prop :=
  match key.direction with
  | .ascending => key.field.Less left right
  | .descending => key.field.Less right left

/-- The first key on which two candidates differ puts the left one first. -/
def Leads (keys : List SortKey) (left right : Candidate) : Prop :=
  ∃ front key back, keys = front ++ key :: back ∧
    (∀ earlier ∈ front, earlier.field.Same left right) ∧ key.Leads left right

/-- Two candidates agree on every key. -/
def Ties (keys : List SortKey) (left right : Candidate) : Prop :=
  ∀ key ∈ keys, key.field.Same left right

section Comparing

variable {left right : Candidate}

theorem SortKey.compare_eq_lt_iff
    {key : SortKey} :
    key.compare left right = .lt ↔ key.Leads left right := by
  obtain ⟨field, direction⟩ := key
  cases direction with
  | ascending => exact SortField.compare_eq_lt_iff
  | descending =>
      rw [SortKey.compare, Direction.apply, SortField.swap_compare]
      exact SortField.compare_eq_lt_iff

theorem SortKey.compare_eq_eq_iff
    {key : SortKey} :
    key.compare left right = .eq ↔ key.field.Same left right := by
  obtain ⟨field, direction⟩ := key
  cases direction with
  | ascending => exact SortField.compare_eq_eq_iff
  | descending =>
      rw [SortKey.compare, Direction.apply, Ordering.swap_eq_eq]
      exact SortField.compare_eq_eq_iff

namespace SortOrder

/-- The later keys decide where the earlier ones do not. -/
theorem compareBy_append
    (front back : List SortKey)
    (left right : Candidate) :
    compareBy (front ++ back) left right =
      (compareBy front left right).then (compareBy back left right) := by
  induction front with
  | nil => rfl
  | cons key rest inductionHypothesis =>
      rw [List.cons_append, compareBy, compareBy, inductionHypothesis]
      cases key.compare left right <;> rfl

theorem compareBy_eq_eq_iff
    {keys : List SortKey} :
    compareBy keys left right = .eq ↔ Ties keys left right := by
  induction keys with
  | nil => exact iff_of_true rfl (List.forall_mem_nil _)
  | cons key rest inductionHypothesis =>
      rw [compareBy_cons, compareLex, Ordering.then_eq_eq,
        SortKey.compare_eq_eq_iff, inductionHypothesis, Ties, Ties,
        List.forall_mem_cons]

theorem compareBy_eq_lt_iff
    {keys : List SortKey} :
    compareBy keys left right = .lt ↔ Leads keys left right := by
  constructor
  · intro less
    induction keys with
    | nil => cases less
    | cons key rest inductionHypothesis =>
        rw [compareBy_cons, compareLex, Ordering.then_eq_lt] at less
        rcases less with first | ⟨same, later⟩
        · exact ⟨[], key, rest, rfl, List.forall_mem_nil _,
            SortKey.compare_eq_lt_iff.mp first⟩
        · obtain ⟨front, decisive, back, rfl, tied, leads⟩ :=
            inductionHypothesis later
          exact ⟨key :: front, decisive, back, rfl,
            List.forall_mem_cons.mpr ⟨SortKey.compare_eq_eq_iff.mp same,
              tied⟩, leads⟩
  · rintro ⟨front, key, back, rfl, tied, leads⟩
    rw [compareBy_append, compareBy_eq_eq_iff.mpr tied, compareBy,
      SortKey.compare_eq_lt_iff.mpr leads]
    rfl

theorem precedes_iff
    {order : SortOrder} :
    order.precedes left right = true ↔
      Leads order.keys left right ∨ Ties order.keys left right := by
  rw [precedes_eq_isLE, ← compareBy_eq_lt_iff, ← compareBy_eq_eq_iff, compare]
  cases compareBy order.keys left right <;> simp

theorem not_precedes_of_leads
    {order : SortOrder}
    (leads : Leads order.keys left right) :
    order.precedes right left = false := by
  have less : order.compare left right = .lt := compareBy_eq_lt_iff.mpr leads
  have swapped : order.compare right left = (order.compare left right).swap :=
    Std.OrientedCmp.eq_swap
  rw [precedes_eq_isLE, swapped, less]
  rfl

/-- A key whose field came before decides nothing, in whatever direction it
runs. -/
theorem compareBy_repeated
    (front middle back : List SortKey)
    (field : SortField)
    (first later : Direction)
    (left right : Candidate) :
    compareBy (front ++ ⟨field, first⟩ :: middle ++ ⟨field, later⟩ :: back)
        left right =
      compareBy (front ++ ⟨field, first⟩ :: middle ++ back) left right := by
  rw [compareBy_append, compareBy_append (front ++ ⟨field, first⟩ :: middle)]
  cases decided : compareBy (front ++ ⟨field, first⟩ :: middle) left right with
  | lt => rfl
  | gt => rfl
  | eq =>
      have same : field.Same left right :=
        compareBy_eq_eq_iff.mp decided ⟨field, first⟩
          (List.mem_append_right front List.mem_cons_self)
      have tied : SortKey.compare ⟨field, later⟩ left right = .eq :=
        SortKey.compare_eq_eq_iff.mpr same
      rw [compareBy, tied]

end SortOrder

end Comparing

/-! ## Places -/

section Places

variable {α : Type} {count : Nat}

/-- Items of a list stand in it one before the other. -/
theorem sublist_or_sublist_of_mem
    {items : List α}
    {left right : α}
    (isLeft : left ∈ items)
    (isRight : right ∈ items)
    (different : left ≠ right) :
    [left, right].Sublist items ∨ [right, left].Sublist items := by
  have symmetric : Std.Symm fun first second : α =>
      [first, second].Sublist items ∨ [second, first].Sublist items :=
    ⟨fun _ _ => Or.symm⟩
  have ordered : items.Pairwise fun first second =>
      [first, second].Sublist items ∨ [second, first].Sublist items :=
    List.pairwise_iff_forall_sublist.mpr Or.inl
  exact ordered.forall isLeft isRight different

/-- In a list without repetition no two items stand in both orders. -/
theorem not_sublist_swap_of_nodup
    {items : List α}
    (distinct : items.Nodup)
    {left right : α}
    (inOrder : [left, right].Sublist items) :
    ¬ [right, left].Sublist items := by
  intro swapped
  induction items with
  | nil => cases inOrder
  | cons item rest inductionHypothesis =>
      obtain ⟨unrepeated, restDistinct⟩ := List.nodup_cons.mp distinct
      cases inOrder with
      | cons _ later =>
          cases swapped with
          | cons _ swappedLater =>
              exact inductionHypothesis restDistinct later swappedLater
          | cons_cons _ _ => exact unrepeated (later.mem (by simp))
      | cons_cons _ later =>
          cases swapped with
          | cons _ swappedLater => exact unrepeated (swappedLater.mem (by simp))
          | cons_cons _ _ => exact unrepeated (later.mem (by simp))

/-- Take items out of slots one after the other.  What was taken is not there
any more. -/
def takeOut (slots : Fin count -> Option α) : List (Fin count) -> List α
  | [] => []
  | place :: rest =>
      (slots place).toList ++ takeOut (Function.update slots place none) rest

/-- From full slots every item is taken out once. -/
theorem takeOut_eq_map
    {slots : Fin count -> Option α}
    {item : Fin count -> α}
    {places : List (Fin count)}
    (distinct : places.Nodup)
    (full : ∀ place ∈ places, slots place = some (item place)) :
    takeOut slots places = places.map item := by
  induction places generalizing slots with
  | nil => rfl
  | cons place rest inductionHypothesis =>
      obtain ⟨unrepeated, restDistinct⟩ := List.nodup_cons.mp distinct
      obtain ⟨first, others⟩ := List.forall_mem_cons.mp full
      have stillFull : ∀ other ∈ rest,
          Function.update slots place none other = some (item other) := by
        intro other isOther
        have apart : other ≠ place := fun same => unrepeated (same ▸ isOther)
        rw [Function.update_of_ne apart, others other isOther]
      rw [takeOut, first, inductionHypothesis restDistinct stillFull]
      rfl

end Places

/-- What sort orders look at in a candidate. -/
structure SortRow where
  /-- The identifier. -/
  id : String
  /-- The date. -/
  date : Calendar.Instant
  /-- The subject. -/
  subject : String
  /-- The first sender. -/
  sender : String
  /-- The first recipient. -/
  recipient : String
  /-- The size. -/
  size : Nat

namespace SortRow

/-- What is looked at in a candidate. -/
def ofCandidate (candidate : Candidate) : SortRow where
  id := candidate.id
  date := candidate.message.sentAt
  subject := candidate.message.subject
  sender := (candidate.message.header? "from").getD ""
  recipient := (candidate.message.header? "to").getD ""
  size := candidate.message.size

/-- The order of two rows by a field. -/
def compare (left right : SortRow) : SortField -> Ordering
  | .id => Ord.compare left.id right.id
  | .date => left.date.compare right.date
  | .subject => Ord.compare left.subject right.subject
  | .sender => Ord.compare left.sender right.sender
  | .recipient => Ord.compare left.recipient right.recipient
  | .size => Ord.compare left.size right.size

/-- The order of two rows by the first key on which they differ. -/
def compareBy (keys : List SortKey) (left right : SortRow) : Ordering :=
  ((keys.map fun key =>
      key.direction.apply (left.compare right key.field)).find?
    (· != .eq)).getD .eq

theorem compare_ofCandidate
    (left right : Candidate)
    (field : SortField) :
    (ofCandidate left).compare (ofCandidate right) field =
      field.compare left right := by
  cases field <;> rfl

theorem compareBy_ofCandidate
    (keys : List SortKey)
    (left right : Candidate) :
    compareBy keys (ofCandidate left) (ofCandidate right) =
      SortOrder.compareBy keys left right := by
  induction keys with
  | nil => rfl
  | cons key rest inductionHypothesis =>
      rw [compareBy, List.map_cons, List.find?_cons, SortOrder.compareBy,
        ← inductionHypothesis, SortKey.compare, compare_ofCandidate]
      cases key.direction.apply (key.field.compare left right) <;> rfl

end SortRow

namespace SortOrder

/-- The places of the candidates in the order in which the candidates are
listed. -/
def places (order : SortOrder) (candidates : List Candidate) :
    List (Fin candidates.length) :=
  let row place := SortRow.ofCandidate (candidates.get place)
  (List.finRange candidates.length).mergeSort fun left right =>
    SortRow.compareBy order.keys (row left) (row right) != .gt

section Listing

variable (order : SortOrder) (candidates : List Candidate)

/-- Places are sorted like the candidates in them. -/
theorem places_eq :
    order.places candidates = (List.finRange candidates.length).mergeSort
        fun left right =>
      order.precedes (candidates.get left) (candidates.get right) := by
  unfold places precedes compare
  simp only [SortRow.compareBy_ofCandidate]

theorem places_perm :
    (order.places candidates).Perm (List.finRange candidates.length) :=
  List.mergeSort_perm _ _

theorem nodup_places :
    (order.places candidates).Nodup :=
  (order.places_perm candidates).nodup_iff.mpr (List.nodup_finRange _)

theorem mem_places
    (place : Fin candidates.length) :
    place ∈ order.places candidates :=
  (order.places_perm candidates).mem_iff.mpr (List.mem_finRange place)

/-- The candidates are listed in the order of their sorted places. -/
theorem apply_eq_map_places :
    order.apply candidates = (order.places candidates).map candidates.get := by
  have moved := List.map_mergeSort (f := candidates.get) (s := order.precedes)
    (l := List.finRange candidates.length) fun _ _ _ _ => rfl
  rw [places_eq, moved, List.map_get_finRange, apply]

theorem apply_eq_takeOut :
    order.apply candidates =
      takeOut (fun place => some (candidates.get place))
        (order.places candidates) := by
  rw [apply_eq_map_places, takeOut_eq_map (order.nodup_places candidates)
    fun _ _ => rfl]

variable {order candidates} {left right : Fin candidates.length}

theorem precedes_of_sublist_places
    (listed : [left, right].Sublist (order.places candidates)) :
    order.precedes (candidates.get left) (candidates.get right) = true := by
  have sorted : (order.places candidates).Pairwise fun first second =>
      order.precedes (candidates.get first) (candidates.get second) = true := by
    rw [places_eq]
    exact List.pairwise_mergeSort (fun first middle last => order.precedes_trans
      (candidates.get first) (candidates.get middle) (candidates.get last))
      (fun first last =>
        order.precedes_total (candidates.get first) (candidates.get last)) _
  exact List.pairwise_iff_forall_sublist.mp sorted listed

/-- Places whose candidates may stand in either order keep their own order. -/
theorem sublist_places_of_precedes
    (precedes : order.precedes (candidates.get left)
      (candidates.get right) = true)
    (less : left < right) :
    [left, right].Sublist (order.places candidates) := by
  have given : [left, right].Sublist (List.finRange candidates.length) := by
    rcases sublist_or_sublist_of_mem (List.mem_finRange left)
        (List.mem_finRange right) less.ne
      with inOrder | swapped
    · exact inOrder
    · exact absurd (List.pairwise_iff_forall_sublist.mp
          (List.pairwise_lt_finRange _) swapped)
        (not_lt_of_gt less)
  rw [places_eq]
  exact List.pair_sublist_mergeSort
    (fun first middle last => order.precedes_trans (candidates.get first)
      (candidates.get middle) (candidates.get last))
    (fun first last =>
      order.precedes_total (candidates.get first) (candidates.get last))
    precedes given

/-- The first difference of two candidates says which one is listed first, or
else their places. -/
theorem sublist_places_iff :
    [left, right].Sublist (order.places candidates) ↔
      Leads order.keys (candidates.get left) (candidates.get right) ∨
        Ties order.keys (candidates.get left) (candidates.get right) ∧
          left < right := by
  have distinct := order.nodup_places candidates
  constructor
  · intro listed
    refine (precedes_iff.mp (precedes_of_sublist_places listed)).imp_right
      fun tied => ⟨tied, ?_⟩
    by_contra notLess
    have different : left ≠ right := by
      rintro rfl
      exact not_sublist_swap_of_nodup distinct listed listed
    have turned :
        order.precedes (candidates.get right) (candidates.get left) = true :=
      precedes_iff.mpr (Or.inr fun key isKey => (tied key isKey).symm)
    exact not_sublist_swap_of_nodup distinct listed
      (sublist_places_of_precedes turned
        (lt_of_le_of_ne (not_lt.mp notLess) different.symm))
  · rintro (leads | ⟨tied, less⟩)
    · have notTurned := not_precedes_of_leads leads
      have different : left ≠ right := by
        rintro rfl
        rw [precedes_iff.mpr (Or.inl leads)] at notTurned
        cases notTurned
      rcases sublist_or_sublist_of_mem (order.mem_places candidates left)
        (order.mem_places candidates right) different with inOrder | swapped
      · exact inOrder
      · rw [precedes_of_sublist_places swapped] at notTurned
        cases notTurned
    · exact sublist_places_of_precedes (precedes_iff.mpr (Or.inr tied)) less

end Listing

end SortOrder

/--
Sorting candidates takes each of them once, unchanged, out of its place, in the
order of the places sorted by what the keys look at.  Of two places, the one
comes first whose candidate the first key on which they differ puts first, or
the lesser place where the candidates agree on every key.  A key whose field
came before changes nothing.
-/
theorem sorted_by_first_difference
    (order : SortOrder)
    (candidates : List Candidate) :
    (order.apply candidates).Perm candidates ∧
      (order.places candidates).Perm (List.finRange candidates.length) ∧
      order.apply candidates = (order.places candidates).map candidates.get ∧
      order.apply candidates =
        takeOut (fun place => some (candidates.get place))
          (order.places candidates) ∧
      (∀ left right, [left, right].Sublist (order.places candidates) ↔
        Leads order.keys (candidates.get left) (candidates.get right) ∨
          Ties order.keys (candidates.get left) (candidates.get right) ∧
            left < right) ∧
      ∀ (shorter : SortOrder) front middle back field first later,
        order.keys = front ++ ⟨field, first⟩ :: middle ++
          ⟨field, later⟩ :: back →
        shorter.keys = front ++ ⟨field, first⟩ :: middle ++ back →
          order.apply candidates = shorter.apply candidates := by
  refine ⟨List.mergeSort_perm _ _, order.places_perm candidates,
    order.apply_eq_map_places candidates, order.apply_eq_takeOut candidates,
    fun left right => SortOrder.sublist_places_iff, ?_⟩
  intro shorter front middle back field first later repeated dropped
  have same : order.precedes = shorter.precedes := by
    funext left right
    rw [SortOrder.precedes, SortOrder.precedes, SortOrder.compare,
      SortOrder.compare, repeated, dropped, SortOrder.compareBy_repeated]
  rw [SortOrder.apply, SortOrder.apply, same]

end Query
end MailSearch
