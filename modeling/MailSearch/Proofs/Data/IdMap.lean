import Mathlib.Data.List.Induction
import Mathlib.Data.List.Sort
import MailSearch.Data.IdMap

/-!
# Lookups in maps from identifiers

What each operation does to the values that a map has for its keys.
-/

namespace MailSearch
namespace IdMap

variable {α : Type}

@[simp] theorem get?_empty (key : String) : (empty : IdMap α).get? key =
    none := rfl

theorem lookup_cons_eq_ite
    (key present : String)
    (held : α)
    (rest : List (String × α)) :
    ((present, held) :: rest).lookup key =
      if key = present then some held else rest.lookup key := by
  rw [List.lookup_cons]
  by_cases same : key = present
  · simp [same]
  · rw [if_neg same, beq_eq_false_iff_ne.2 same]

theorem lookup_insertSorted
    (key other : String)
    (value : α)
    (entries : List (String × α)) :
    (insertSorted key value entries).lookup other =
      if other = key then some value else entries.lookup other := by
  induction entries with
  | nil => exact lookup_cons_eq_ite other key value []
  | cons first rest inductionHypothesis =>
      obtain ⟨present, held⟩ := first
      simp only [insertSorted]
      split
      · exact lookup_cons_eq_ite other key value _
      · split
        · rename_i equal
          subst equal
          simp only [lookup_cons_eq_ite]
          split <;> rfl
        · rename_i different
          simp only [lookup_cons_eq_ite, inductionHypothesis]
          by_cases same : other = key
          · subst same
            simp [different]
          · simp [same]

@[simp] theorem get?_insert
    (map : IdMap α)
    (key other : String)
    (value : α) :
    (map.insert key value).get? other =
      if other = key then some value else map.get? other :=
  lookup_insertSorted key other value map.entries

/-- The entries are the keys with their values. -/
theorem mem_entries_iff
    {map : IdMap α}
    {key : String}
    {value : α} :
    (key, value) ∈ map.entries ↔ map.get? key = some value := by
  obtain ⟨entries, ascending⟩ := map
  change (key, value) ∈ entries ↔ entries.lookup key = some value
  induction entries with
  | nil => simp
  | cons first rest inductionHypothesis =>
      obtain ⟨present, held⟩ := first
      obtain ⟨least, restAscending⟩ := List.pairwise_cons.1 ascending
      rw [List.mem_cons, inductionHypothesis restAscending, lookup_cons_eq_ite]
      by_cases same : key = present
      · subst same
        have absent : rest.lookup key ≠ some value := by
          intro found
          have member := (inductionHypothesis restAscending).2 found
          exact String.lt_irrefl key (least _ member)
        simp [absent, eq_comm]
      · simp [same]

/-- The values are those of the keys. -/
theorem mem_values_iff
    {map : IdMap α}
    {value : α} :
    value ∈ map.values ↔ ∃ key, map.get? key = some value := by
  simp only [values, List.mem_map, Prod.exists, exists_eq_right,
    mem_entries_iff]

theorem contains_iff
    {map : IdMap α}
    {key : String} :
    map.contains key = true ↔ ∃ value, map.get? key = some value := by
  simp only [contains, List.any_eq_true, Prod.exists, beq_iff_eq,
    ← mem_entries_iff]
  constructor
  · rintro ⟨other, value, member, rfl⟩
    exact ⟨value, member⟩
  · rintro ⟨value, member⟩
    exact ⟨key, value, member, rfl⟩

theorem contains_eq_false_iff
    {map : IdMap α}
    {key : String} :
    map.contains key = false ↔ map.get? key = none := by
  rw [← Bool.not_eq_true, contains_iff, Option.eq_none_iff_forall_ne_some]
  exact not_exists

/-! ## Maps of lists -/

@[simp] theorem ofList_nil : (ofList [] : IdMap α) = empty := rfl

theorem ofList_append_singleton
    (entries : List (String × α))
    (entry : String × α) :
    ofList (entries ++ [entry]) = (ofList entries).insert entry.1 entry.2 := by
  rw [ofList, List.foldl_append]
  rfl

/-- Where no key is given two values, the map of a list has its entries. -/
theorem get?_ofList_eq_some_iff
    {entries : List (String × α)}
    (functional : ∀ left ∈ entries, ∀ right ∈ entries, left.1 = right.1 →
      left.2 = right.2)
    {key : String}
    {value : α} :
    (ofList entries).get? key = some value ↔ (key, value) ∈ entries := by
  induction entries using List.reverseRecOn with
  | nil => simp
  | append_singleton entries entry inductionHypothesis =>
      obtain ⟨present, held⟩ := entry
      have before : ∀ left ∈ entries, ∀ right ∈ entries, left.1 = right.1 →
          left.2 = right.2 :=
        fun left isLeft right isRight =>
          functional left (List.mem_append_left _ isLeft)
            right (List.mem_append_left _ isRight)
      have last : (present, held) ∈ entries ++ [(present, held)] := by simp
      rw [ofList_append_singleton, get?_insert, List.mem_append,
        List.mem_singleton]
      split
      · rename_i same
        subst same
        constructor
        · intro found
          cases found
          exact Or.inr rfl
        · rintro (earlier | isLast)
          · exact congrArg some
              (functional _ last _ (List.mem_append_left _ earlier) rfl)
          · cases isLast
            rfl
      · rename_i different
        rw [inductionHypothesis before]
        constructor
        · exact Or.inl
        · rintro (earlier | isLast)
          · exact earlier
          · cases isLast
            exact absurd rfl different

/-! ## Keys -/

/-- Entries with ascending keys stand in only one order. -/
theorem eq_of_pairwise_keys
    {left right : List (String × α)}
    (leftAscending : left.Pairwise fun first second => first.1 < second.1)
    (rightAscending : right.Pairwise fun first second => first.1 < second.1)
    (same : ∀ entry, entry ∈ left ↔ entry ∈ right) :
    left = right := by
  have irreflexive : Std.Irrefl fun first second : String × α =>
      first.1 < second.1 :=
    ⟨fun entry => String.lt_irrefl entry.1⟩
  have antisymmetric : Std.Antisymm fun first second : String × α =>
      first.1 < second.1 :=
    ⟨fun _ _ before after => absurd after (String.lt_asymm before)⟩
  exact leftAscending.eq_of_mem_iff rightAscending same

/-- A map is determined by the values that it has for its keys. -/
theorem eq_of_get?
    {left right : IdMap α}
    (same : ∀ key, left.get? key = right.get? key) :
    left = right := by
  have entries : left.entries = right.entries := by
    refine eq_of_pairwise_keys left.ascending right.ascending fun entry => ?_
    rw [mem_entries_iff, mem_entries_iff, same]
  cases left
  cases right
  cases entries
  rfl

theorem pairwise_keys
    (map : IdMap α) :
    map.keys.Pairwise (· < ·) :=
  List.pairwise_map.mpr map.ascending

theorem mem_keys_iff
    {map : IdMap α}
    {key : String} :
    key ∈ map.keys ↔ (map.get? key).isSome = true := by
  simp only [keys, List.mem_map, Prod.exists, exists_and_right, exists_eq_right,
    mem_entries_iff, Option.isSome_iff_exists]

/-- Maps that have values for the same keys list the same keys. -/
theorem keys_eq_of_isSome
    {β : Type}
    {left : IdMap α}
    {right : IdMap β}
    (same : ∀ key, (left.get? key).isSome = (right.get? key).isSome) :
    left.keys = right.keys := by
  refine left.pairwise_keys.eq_of_mem_iff right.pairwise_keys fun key => ?_
  rw [mem_keys_iff, mem_keys_iff, same]

end IdMap
end MailSearch
