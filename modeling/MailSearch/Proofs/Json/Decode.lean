import MailSearch.Proofs.Data.Outcome
import MailSearch.Proofs.Json.Value

/-!
# What decoders accept

Each decoder accepts the values of one form, whether their keys are sorted or
not. A member that may be absent or `null` stands for nothing then.
-/

namespace MailSearch
namespace Json

section Decoders

variable {value : Json}

theorem string_eq_ok_iff
    {text : String} :
    string value = .ok text ↔ value = .str text := by
  cases value <;> simp [string]

theorem boolean_eq_ok_iff
    {truth : Bool} :
    boolean value = .ok truth ↔ value = .bool truth := by
  cases value <;> simp [boolean]

theorem list_string_eq_ok_iff
    {texts : List String} :
    list string value = .ok texts ↔ value = strings texts := by
  cases value with
  | arr items =>
      simp only [list, strings, arr.injEq]
      rw [Outcome.mapM_eq_ok_iff]
      simp only [string_eq_ok_iff]
      constructor
      · intro each
        induction each with
        | nil => rfl
        | cons first _ inductionHypothesis =>
            rw [first, inductionHypothesis, List.map_cons]
      · rintro rfl
        simp
  | _ => simp [list, strings]

end Decoders

/-! ## Values that may be absent -/

/-- A value that may be absent or `null` stands for what its form says, if for
anything. -/
inductive Optionally {α : Type} (stands : Json -> α -> Prop) :
    Option Json -> Option α -> Prop where
  /-- Nothing is given. -/
  | absent : Optionally stands none none
  /-- The value is `null`, which counts as nothing. -/
  | null : Optionally stands (some .null) none
  /-- The value has the form. -/
  | given {value : Json} {meaning : α} (form : stands value meaning) :
      Optionally stands (some value) (some meaning)

/-- A form that the value `null` does not have is decoded with `null` for
nothing. -/
theorem nullable_eq_ok_iff
    {α : Type}
    {decode : Json -> Decoded α}
    {stands : Json -> α -> Prop}
    (decodes : ∀ value meaning, decode value = .ok meaning ↔
      stands value meaning)
    (notNull : ∀ meaning, ¬ stands .null meaning)
    {value : Json}
    {found : Option α} :
    nullable decode value = .ok found ↔
      Optionally stands (some value) found := by
  constructor
  · intro decoded
    cases value with
    | null =>
        cases decoded
        exact .null
    | _ =>
        obtain ⟨meaning, form, rfl⟩ := Outcome.exists_of_map_eq_ok decoded
        exact .given ((decodes _ _).mp form)
  · intro optionally
    cases optionally with
    | null => rfl
    | @given _ meaning form =>
        have decoded := (decodes value meaning).mpr form
        cases value with
        | null => exact absurd form (notNull meaning)
        | _ => exact Outcome.map_eq_ok_iff.mpr ⟨meaning, decoded, rfl⟩

/-- A form that sorting keys neither gives nor takes away is found with sorted
keys too. -/
theorem optionally_map_sortKeys_iff
    {α : Type}
    {stands : Json -> α -> Prop}
    (keeps : ∀ value meaning, stands value.sortKeys meaning ↔
      stands value meaning)
    {given : Option Json}
    {found : Option α} :
    Optionally stands (given.map sortKeys) found ↔
      Optionally stands given found := by
  constructor
  · intro optionally
    cases given with
    | none =>
        cases optionally
        exact .absent
    | some value =>
        rw [Option.map_some] at optionally
        generalize sorted : value.sortKeys = plain at optionally
        cases optionally with
        | null =>
            cases eq_of_sortKeys sorted nofun nofun
            exact .null
        | given form =>
            rw [← sorted] at form
            exact .given ((keeps value _).mp form)
  · intro optionally
    cases optionally with
    | absent => exact .absent
    | null => exact .null
    | given form => exact .given ((keeps _ _).mpr form)

/-- Decoding a value that may be absent or `null` finds what it stands for. -/
theorem optionally_iff_decoded
    {α : Type}
    {decode : Json -> Decoded α}
    {stands : Json -> α -> Prop}
    (decodes : ∀ value meaning, decode value = .ok meaning ↔
      stands value meaning)
    (notNull : ∀ meaning, ¬ stands .null meaning)
    (keeps : ∀ value meaning, stands value.sortKeys meaning ↔
      stands value meaning)
    {given : Option Json}
    {result : Option α} :
    Optionally stands given result ↔
      ∃ found, Option.Rel
          (fun value meaning => nullable decode value.sortKeys = .ok meaning)
        given found ∧ found.join = result := by
  rw [← optionally_map_sortKeys_iff keeps]
  cases given with
  | none =>
      constructor
      · intro optionally
        cases optionally
        exact ⟨none, .none, rfl⟩
      · rintro ⟨found, decoded, rfl⟩
        cases decoded
        exact .absent
  | some value =>
      simp only [Option.map_some, ← nullable_eq_ok_iff decodes notNull]
      constructor
      · intro decoded
        exact ⟨some result, .some decoded, rfl⟩
      · rintro ⟨found, decoded, rfl⟩
        cases decoded with
        | some decoded => exact decoded

/-- What is found is what a given value stands for. -/
theorem Optionally.exists_of_some
    {α : Type}
    {stands : Json -> α -> Prop}
    {given : Option Json}
    {meaning : α}
    (optionally : Optionally stands given (some meaning)) :
    ∃ value, given = some value ∧ stands value meaning := by
  cases optionally with
  | given form => exact ⟨_, rfl, form⟩

/-- Where nothing is given, `null` says as much. -/
theorem Optionally.null_of_absent
    {α : Type}
    {stands : Json -> α -> Prop}
    {found : Option α}
    (optionally : Optionally stands none found) :
    Optionally stands (some .null) found := by
  cases optionally
  exact .null

/-- A value stands for something, or for nothing, if it is `null` or has the
form. -/
theorem exists_optionally_iff
    {α : Type}
    {stands : Json -> α -> Prop}
    {given : Option Json} :
    (∃ found, Optionally stands given found) ↔
      ∀ value, given = some value → value = .null ∨ ∃ meaning,
        stands value meaning := by
  constructor
  · rintro ⟨found, optionally⟩ value rfl
    cases optionally with
    | null => exact Or.inl rfl
    | given form => exact Or.inr ⟨_, form⟩
  · intro each
    cases given with
    | none => exact ⟨none, .absent⟩
    | some value =>
        rcases each value rfl with rfl | ⟨meaning, form⟩
        · exact ⟨none, .null⟩
        · exact ⟨some meaning, .given form⟩

/-! ## Lists that stand for records -/

section Lists

variable {α : Type} {layout : Layout} {step : α -> String -> Json -> Decoded α}

/-- A list is not longer than the record that it stands for. -/
theorem length_le_of_foldItems
    {fields : List (String × Bool)}
    {items : List Json}
    {total index : Nat}
    {state found : α}
    (decoded : foldItems layout step total index fields items state =
      .ok found) :
    items.length ≤ fields.length := by
  induction fields generalizing items index state with
  | nil =>
      cases items with
      | nil => exact Nat.le_refl _
      | cons => cases decoded
  | cons field rest inductionHypothesis =>
      cases items with
      | nil => exact Nat.zero_le _
      | cons item later =>
          rw [foldItems] at decoded
          obtain ⟨_, -, decoded⟩ := Outcome.exists_of_bind_eq_ok decoded
          exact Nat.succ_le_succ (inductionHypothesis decoded)

/-- Items are decoded as the first members are, if the others may be absent. -/
theorem foldItems_eq_foldlM_zip
    {fields : List (String × Bool)}
    (optional : ∀ field ∈ fields, field.2 = true)
    {items : List Json}
    (fits : items.length ≤ fields.length)
    (total index : Nat)
    (state : α) :
    foldItems layout step total index fields items state =
      ((fields.map Prod.fst).zip items).foldlM
          (fun state (name, value) => step state name value)
        state := by
  induction fields generalizing items index state with
  | nil =>
      obtain rfl := List.eq_nil_of_length_eq_zero (Nat.le_zero.mp fits)
      rfl
  | cons field rest inductionHypothesis =>
      obtain ⟨first, restOptional⟩ := List.forall_mem_cons.mp optional
      cases items with
      | nil =>
          rw [foldItems, if_pos first,
            inductionHypothesis restOptional (Nat.zero_le _),
            List.zip_nil_right, List.zip_nil_right]
      | cons item later =>
          rw [foldItems, List.map_cons, List.zip_cons_cons, List.foldlM_cons]
          congr 1
          funext next
          exact inductionHypothesis restOptional
            (Nat.le_of_succ_le_succ fits) _ next

/--
A list stands for a record whose members may all be absent if it is not longer
than the record and the object with the names in order does.
-/
theorem record_arr_eq_ok_iff
    (optional : ∀ field ∈ layout.fields, field.2 = true)
    {items : List Json}
    {initial found : α} :
    record layout step initial (.arr items) = .ok found ↔
      items.length ≤ layout.fields.length ∧
        record layout step initial (.obj (layout.names.zip items)) =
          .ok found := by
  rw [record, record, Layout.names]
  constructor
  · intro decoded
    have fits := length_le_of_foldItems decoded
    exact ⟨fits, foldItems_eq_foldlM_zip optional fits _ _ _ ▸ decoded⟩
  · rintro ⟨fits, decoded⟩
    rw [foldItems_eq_foldlM_zip optional fits]
    exact decoded

end Lists

end Json
end MailSearch
