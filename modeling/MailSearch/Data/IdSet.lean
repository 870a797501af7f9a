/-!
# Sets of identifiers

A finite set of texts, held in strictly ascending order, so that equal sets are
equal values and every listing of a set comes out the same.
-/

namespace MailSearch

/-- A finite set of texts. -/
structure IdSet where
  /-- The members in ascending order. -/
  ids : List String
  /-- Every member is less than the ones behind it. -/
  ascending : ids.Pairwise (· < ·)
  deriving DecidableEq

namespace IdSet

/-- Put a text at its place in an ascending list, unless it is there. -/
def insertSorted (id : String) : List String -> List String
  | [] => [id]
  | first :: rest =>
      if id < first then id :: first :: rest
      else if id = first then first :: rest
      else first :: insertSorted id rest

theorem mem_insertSorted {id other : String} {ids : List String} :
    other ∈ insertSorted id ids ↔ other = id ∨ other ∈ ids := by
  induction ids with
  | nil => simp [insertSorted]
  | cons first rest ih =>
      simp only [insertSorted]
      split
      · simp
      · split
        · rename_i equal
          subst equal
          simp
        · simp only [List.mem_cons, ih]
          constructor
          · rintro (rfl | rfl | member) <;> simp_all
          · rintro (rfl | rfl | member) <;> simp_all

theorem pairwise_insertSorted {id : String} {ids : List String}
    (ascending : ids.Pairwise (· < ·)) :
      (insertSorted id ids).Pairwise (· < ·) := by
  induction ids with
  | nil => simp [insertSorted]
  | cons first rest ih =>
      have parts := List.pairwise_cons.1 ascending
      simp only [insertSorted]
      split
      · rename_i less
        refine List.pairwise_cons.2 ⟨?_, ascending⟩
        intro other member
        rcases List.mem_cons.1 member with rfl | member
        · exact less
        · exact String.lt_trans less (parts.1 other member)
      · split
        · exact ascending
        · rename_i notLess notEqual
          refine List.pairwise_cons.2 ⟨?_, ih parts.2⟩
          intro other member
          rcases mem_insertSorted.1 member with rfl | member
          · exact Std.lt_of_le_of_ne (String.not_lt.1 notLess)
              (fun equal => notEqual equal.symm)
          · exact parts.1 other member

/-- The set without members. -/
def empty : IdSet :=
  ⟨[], List.Pairwise.nil⟩

/-- Add a member. -/
def insert (set : IdSet) (id : String) : IdSet :=
  ⟨insertSorted id set.ids, pairwise_insertSorted set.ascending⟩

/-- The set of the items of a list. -/
def ofList (ids : List String) : IdSet :=
  ids.foldl insert empty

/-- Whether a text is a member. -/
def contains (set : IdSet) (id : String) : Bool :=
  set.ids.contains id

/-- The members that satisfy a test. -/
def filter (set : IdSet) (test : String -> Bool) : IdSet :=
  ⟨set.ids.filter test, set.ascending.filter test⟩

/-- The members of both sets. -/
def inter (left right : IdSet) : IdSet :=
  left.filter right.contains

/-- Whether there is no member. -/
def isEmpty (set : IdSet) : Bool :=
  set.ids.isEmpty

/-- Whether the sets have a member in common. -/
def meets (left right : IdSet) : Bool :=
  left.ids.any right.contains

instance : Membership String IdSet :=
  ⟨fun set id => id ∈ set.ids⟩

theorem mem_def {set : IdSet} {id : String} : id ∈ set ↔ id ∈ set.ids := Iff.rfl

@[simp] theorem contains_iff {set : IdSet} {id : String} :
    set.contains id = true ↔ id ∈ set := by
  simp [contains, mem_def]

@[simp] theorem not_mem_empty {id : String} : ¬ id ∈ empty := by
  simp [mem_def, empty]

@[simp] theorem mem_insert {set : IdSet} {id other : String} :
    other ∈ set.insert id ↔ other = id ∨ other ∈ set := mem_insertSorted

@[simp] theorem mem_filter {set : IdSet} {test : String -> Bool} {id : String} :
    id ∈ set.filter test ↔ id ∈ set ∧ test id = true := by
  simp [mem_def, filter]

@[simp] theorem mem_inter {left right : IdSet} {id : String} :
    id ∈ left.inter right ↔ id ∈ left ∧ id ∈ right := by
  simp [inter]

@[simp] theorem mem_ofList {ids : List String} {id : String} : id ∈ ofList ids ↔
    id ∈ ids := by
  suffices general : ∀ set : IdSet, id ∈ ids.foldl insert set ↔ id ∈ set ∨
      id ∈ ids by
    simpa [ofList] using general empty
  induction ids with
  | nil => simp
  | cons first rest ih =>
      intro set
      simp only [List.foldl_cons, ih, mem_insert, List.mem_cons]
      constructor
      · rintro ((equal | member) | member) <;> simp_all
      · rintro (member | equal | member) <;> simp_all

end IdSet
end MailSearch
