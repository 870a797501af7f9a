/-!
# Maps from identifiers

A finite map whose keys are texts, held as a list of entries with strictly
ascending keys, so that every listing of a map comes out in the order of keys.
-/

namespace MailSearch

/-- A finite map from texts. -/
structure IdMap (α : Type) where
  /-- The entries in ascending order of their keys. -/
  entries : List (String × α)
  /-- Every key is less than the ones behind it. -/
  ascending : entries.Pairwise (fun left right => left.1 < right.1)

namespace IdMap

variable {α : Type}

/-- Put an entry at its place among ascending entries; a present key gets the
new value. -/
def insertSorted (key : String)
    (value : α) : List (String × α) -> List (String × α)
  | [] => [(key, value)]
  | first :: rest =>
      if key < first.1 then (key, value) :: first :: rest
      else if key = first.1 then (key, value) :: rest
      else first :: insertSorted key value rest

theorem key_of_mem_insertSorted {key : String} {value : α}
    {entries : List (String × α)}
    {entry : String × α} (member : entry ∈ insertSorted key value entries) :
    entry.1 = key ∨ entry ∈ entries := by
  induction entries with
  | nil =>
      simp only [insertSorted, List.mem_singleton] at member
      simp [member]
  | cons first rest ih =>
      simp only [insertSorted] at member
      split at member
      · rcases List.mem_cons.1 member with rfl | member
        · simp
        · exact Or.inr member
      · split at member
        · rcases List.mem_cons.1 member with rfl | member
          · simp
          · exact Or.inr (List.mem_cons_of_mem _ member)
        · rcases List.mem_cons.1 member with rfl | member
          · simp
          · rcases ih member with equal | member
            · exact Or.inl equal
            · exact Or.inr (List.mem_cons_of_mem _ member)

theorem pairwise_insertSorted {key : String} {value : α}
    {entries : List (String × α)}
    (ascending : entries.Pairwise (fun left right => left.1 < right.1)) :
    (insertSorted key value entries).Pairwise
      (fun left right => left.1 < right.1) := by
  induction entries with
  | nil => simp [insertSorted]
  | cons first rest ih =>
      have parts := List.pairwise_cons.1 ascending
      simp only [insertSorted]
      split
      · rename_i less
        refine List.pairwise_cons.2 ⟨?_, ascending⟩
        intro other member
        rcases List.mem_cons.1 member with rfl | member
        · exact less
        · exact String.lt_trans less (parts.1 other member)
      · split
        · rename_i equal
          refine List.pairwise_cons.2 ⟨?_, parts.2⟩
          intro other member
          simpa only [equal] using parts.1 other member
        · rename_i notLess notEqual
          refine List.pairwise_cons.2 ⟨?_, ih parts.2⟩
          intro other member
          rcases key_of_mem_insertSorted member with equal | member
          · rw [equal]
            exact Std.lt_of_le_of_ne (String.not_lt.1 notLess)
              (fun equal => notEqual equal.symm)
          · exact parts.1 other member

/-- The map without entries. -/
def empty : IdMap α :=
  ⟨[], List.Pairwise.nil⟩

/-- Set the value of a key. -/
def insert (map : IdMap α) (key : String) (value : α) : IdMap α :=
  ⟨insertSorted key value map.entries, pairwise_insertSorted map.ascending⟩

/-- The map of a list of entries, of which a later one replaces an earlier
one. -/
def ofList (entries : List (String × α)) : IdMap α :=
  entries.foldl (fun map (key, value) => map.insert key value) empty

/-- The value of a key. -/
def get? (map : IdMap α) (key : String) : Option α :=
  map.entries.lookup key

/-- Whether a key has a value. -/
def contains (map : IdMap α) (key : String) : Bool :=
  map.entries.any fun entry => entry.1 == key

/-- The keys in ascending order. -/
def keys (map : IdMap α) : List String :=
  map.entries.map Prod.fst

/-- The values in the order of their keys. -/
def values (map : IdMap α) : List α :=
  map.entries.map Prod.snd

/-- The number of entries. -/
def size (map : IdMap α) : Nat :=
  map.entries.length

end IdMap
end MailSearch
