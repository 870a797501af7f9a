import MailSearch.Proofs.Query.Acceptance

/-!
# Lists that stand for requests

A list of values stands for a request if it is not longer than a request has
members: the values are those of the members in order, and the members without a
value are absent.
-/

namespace MailSearch
namespace Query
namespace Request

/-- The values in order as members of an object. -/
def named (items : List Json) : List (String × Json) :=
  memberNames.zip items

theorem distinct_named
    (items : List Json) :
    (named items).Pairwise fun left right => left.1 ≠ right.1 :=
  Json.distinct_zip (by decide) items

theorem mem_memberNames_of_last?_named
    {items : List Json}
    {name : String}
    (present : Json.last? name (named items) ≠ none) :
    name ∈ memberNames := by
  by_contra foreign
  refine present (Json.last?_eq_none_iff.mpr ?_)
  rintro ⟨other, value⟩ isMember rfl
  exact foreign (List.of_mem_zip isMember).1

/-- The values of a list are read as those of the members in order. -/
theorem Members.record_arr_eq_ok_iff
    {items : List Json}
    {found : Members} :
    Json.record layout read empty (Json.arr items).sortKeys = .ok found ↔
      items.length ≤ memberNames.length ∧
        Json.record layout read empty (Json.obj (named items)).sortKeys =
          .ok found := by
  have optional : ∀ field ∈ layout.fields, field.2 = true := by decide
  rw [Json.sortKeys, Json.sortItems_eq_map, Json.record_arr_eq_ok_iff optional,
    List.length_map, record_eq_ok_iff]
  refine and_congr_right' ?_
  -- The object is read with its keys sorted, and the order does not count.
  refine (foldlM_read_eq_ok_iff
    (distinct_named (items.map Json.sortKeys))).trans ?_
  refine and_congr (iff_of_true ?_ ?_) (forall_congr' fun slot => ?_)
  · rintro ⟨name, value⟩ isMember
    exact mem_memberNames_iff.mp (List.of_mem_zip isMember).1
  · intro name present
    exact mem_memberNames_iff.mp (mem_memberNames_of_last?_named present)
  · rw [named, List.zip_map_right, Json.member?_map_values, get_empty, ← named,
      Json.last?_of_distinct (distinct_named items)]
    cases Json.member? slot.name (named items) with
    | none => cases found.get slot <;> simp [Takes]
    | some value => cases found.get slot <;> simp [Takes, eq_comm]

/--
A list is decoded as the object of its named values, unless it is too long; a
list that is too long is no request.
-/
theorem ofJson_arr_eq_ok_iff
    {settings : Settings}
    {items : List Json}
    {request : Request} :
    ofJson settings (.arr items) = .ok request ↔
      items.length ≤ memberNames.length ∧ ofJson settings (.obj (named items)) =
        .ok request := by
  cases read : Json.record Members.layout Members.read .empty
    (Json.arr items).sortKeys with
  | ok members =>
      obtain ⟨fits, readObject⟩ := Members.record_arr_eq_ok_iff.mp read
      rw [ofJson_of_record read, ofJson_of_record readObject]
      exact (and_iff_right fits).symm
  | error error =>
      rw [ofJson_of_record_error read]
      refine iff_of_false nofun ?_
      rintro ⟨fits, decoded⟩
      obtain ⟨members, readObject, -⟩ := ofJson_eq_ok_iff_makes.mp decoded
      rw [Members.record_arr_eq_ok_iff.mpr ⟨fits, readObject⟩] at read
      cases read

end Request
end Query
end MailSearch
