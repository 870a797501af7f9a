import MailSearch.Proofs.Data.Outcome
import MailSearch.Query.SortOrder

/-!
# Texts of sort keys

A text stands for a sort key if its words are the name of a field, which then
runs downwards, or the name of a field and that of a direction.  The reader of
sort orders accepts exactly the lists of such texts, unless they are empty.
-/

namespace MailSearch
namespace Query

/-- A text stands for a sort key. -/
inductive SortKey.Spells : String -> SortKey -> Prop where
  /-- A field alone runs downwards. -/
  | bare {text : String} {field : SortField}
      (words : Text.words text.toList = [field.name.toList]) :
      Spells text ⟨field, .descending⟩
  /-- Behind the field stands the direction. -/
  | directed {text : String} {field : SortField} {direction : Direction}
      (words : Text.words text.toList = [field.name.toList,
        direction.name.toList]) :
      Spells text ⟨field, direction⟩

theorem SortField.ofName?_eq_some_iff
    {name : String}
    {field : SortField} :
    ofName? name = some field ↔ field.name = name := by
  constructor
  · intro found
    have named : (field.name == name) = true :=
      List.find?_some (p := fun field : SortField => field.name == name) found
    exact beq_iff_eq.mp named
  · rintro rfl
    exact ofName?_name field

namespace SortKey

/-- The words of a text as the reader looks at them. -/
theorem map_ofList_eq_iff
    {words : List (List Char)}
    {names : List String} :
    words.map String.ofList = names ↔ words = names.map String.toList := by
  constructor
  · rintro rfl
    simp
  · rintro rfl
    simp

/-- A text is read as a sort key if it stands for it. -/
theorem parse_eq_ok_iff
    {text : String}
    {key : SortKey} :
    parse text = .ok key ↔ Spells text key := by
  constructor
  · intro read
    unfold parse at read
    split at read
    · cases read
    · rename_i name rest words
      rw [map_ofList_eq_iff] at words
      split at read
      · cases read
      · rename_i field found
        cases read
        rw [SortField.ofName?_eq_some_iff] at found
        subst found
        exact .bare words
      · rename_i field direction more found
        rw [SortField.ofName?_eq_some_iff] at found
        subst found
        split at read
        · rename_i isDirection
          split at read
          · rename_i isLast
            cases List.isEmpty_iff.mp isLast
            cases read
            rcases isDirection with rfl | rfl
            · exact @Spells.directed text field .descending words
            · exact @Spells.directed text field .ascending words
          · cases read
        · cases read
  · intro spells
    unfold parse
    cases spells with
    | @bare field words =>
        rw [words]
        simp [SortField.ofName?_name]
    | @directed field direction words =>
        rw [words]
        cases direction <;> simp [SortField.ofName?_name, Direction.name]

end SortKey

/-- A list of texts is read as the sort order of the keys that they stand
for. -/
theorem SortOrder.parse_eq_ok_iff
    {texts : List String}
    {order : SortOrder} :
    parse texts = .ok order ↔ List.Forall₂ SortKey.Spells texts order.keys := by
  have spells : SortKey.Spells = fun text key =>
      SortKey.parse text = .ok key := by
    funext text key
    exact propext SortKey.parse_eq_ok_iff.symm
  rw [spells, ← Outcome.mapM_eq_ok_iff]
  unfold parse
  cases texts.mapM SortKey.parse with
  | error cause => simp [bind, Except.bind]
  | ok keys =>
      obtain ⟨others, nonempty⟩ := order
      by_cases given : keys = []
      · subst given
        simp [bind, Except.bind, throw, throwThe, MonadExceptOf.throw,
          nonempty.symm]
      · simp [bind, Except.bind, given, pure, Except.pure]

end Query
end MailSearch
