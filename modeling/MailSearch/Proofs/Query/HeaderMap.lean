import MailSearch.Proofs.Data.IdMap
import MailSearch.Proofs.Text.LetterCase
import MailSearch.Query.Projection

/-!
# Header fields by name

The map of header fields that a client is shown has one entry for every name in
any letter case: the first field of the name, as it is spelled there.
-/

namespace MailSearch
namespace Query
namespace Projection

/-- The first field with a name, in any letter case. -/
def first? (fields : List HeaderField) (name : String) : Option HeaderField :=
  fields.find? fun field => Text.sameAscii field.1 name

section Fields

variable {fields : List HeaderField} {field : HeaderField} {name : String}

theorem sameAscii_of_first?
    (found : first? fields name = some field) :
    Text.sameAscii field.1 name = true :=
  List.find?_some (p := fun field : HeaderField =>
    Text.sameAscii field.1 name) found

theorem first?_congr
    {other : String}
    (same : Text.sameAscii name other = true) :
    first? fields name = first? fields other := by
  have sameTest : (fun field : HeaderField => Text.sameAscii field.1 name) =
      fun field => Text.sameAscii field.1 other :=
    funext fun field => Text.sameAscii_congr same field.1
  rw [first?, first?, sameTest]

theorem exists_first?_of_mem
    (isField : field ∈ fields)
    (same : Text.sameAscii field.1 name = true) :
    ∃ found, first? fields name = some found := by
  apply Option.isSome_iff_exists.mp
  rw [first?, List.find?_isSome]
  exact ⟨field, isField, same⟩

/-- The first of all fields is the first of those before the last, or else the
last. -/
theorem first?_append_singleton
    (fields : List HeaderField)
    (field : HeaderField)
    (name : String) :
    first? (fields ++ [field]) name =
      (first? fields name).or
        (if Text.sameAscii field.1 name = true then some field else none) := by
  rw [first?, List.find?_append, first?, List.find?_singleton]

/-- A test of names that ignores letter case keeps the first field of a name or
all others. -/
theorem first?_filter
    {test : HeaderField -> Bool}
    (ignores : ∀ left right : HeaderField,
        Text.sameAscii left.1 right.1 = true →
      test left = test right) :
    first? (fields.filter test) name = (first? fields name).filter test := by
  induction fields with
  | nil => rfl
  | cons field rest inductionHypothesis =>
      have cons : ∀ others, first? (field :: others) name =
          if Text.sameAscii field.1 name = true then some field
            else first? others name := by
        intro others
        rw [first?, List.find?_cons]
        cases Text.sameAscii field.1 name <;> rfl
      rw [cons]
      cases same : Text.sameAscii field.1 name with
      | false =>
          rw [if_neg Bool.false_ne_true, ← inductionHypothesis,
            List.filter_cons]
          split
          · rw [cons, same, if_neg Bool.false_ne_true]
          · rfl
      | true =>
          rw [if_pos rfl, List.filter_cons, Option.filter_some]
          split
          · rw [cons, same, if_pos rfl]
          · rename_i rejected
            rw [inductionHypothesis]
            cases found : first? rest name with
            | none => rfl
            | some other =>
                have alike : Text.sameAscii other.1 field.1 = true := by
                  rw [Text.sameAscii_congr same]
                  exact sameAscii_of_first? found
                rw [Option.filter_some, ignores other field alike,
                  if_neg rejected]

end Fields

/-! ## The map -/

theorem firstHeaders_append_singleton
    (fields : List HeaderField)
    (field : HeaderField) :
    firstHeaders (fields ++ [field]) =
      addHeader (firstHeaders fields) field := by
  rw [firstHeaders, List.foldl_append]
  rfl

/-- The entries are the fields that are the first ones of their names. -/
theorem get?_firstHeaders_eq_some_iff
    {fields : List HeaderField}
    {name value : String} :
    (firstHeaders fields).get? name = some value ↔
      first? fields name = some (name, value) := by
  induction fields using List.reverseRecOn generalizing name value with
  | nil => exact iff_of_false nofun nofun
  | append_singleton fields field inductionHypothesis =>
      have present : ((firstHeaders fields).keys.any fun key =>
          Text.sameAscii key field.1) =
          (first? fields field.1).isSome := by
        rw [Bool.eq_iff_iff, List.any_eq_true, Option.isSome_iff_exists]
        constructor
        · rintro ⟨key, isKey, same⟩
          obtain ⟨held, found⟩ :=
            Option.isSome_iff_exists.mp (IdMap.mem_keys_iff.mp isKey)
          rw [← first?_congr same]
          exact ⟨_, inductionHypothesis.mp found⟩
        · rintro ⟨⟨key, held⟩, found⟩
          have same := sameAscii_of_first? found
          rw [← first?_congr same] at found
          refine ⟨key, IdMap.mem_keys_iff.mpr ?_, same⟩
          rw [inductionHypothesis.mpr found]
          rfl
      rw [firstHeaders_append_singleton, addHeader,
        first?_append_singleton, present]
      cases earlier : first? fields field.1 with
      | some other =>
          rw [if_pos (Option.isSome_some), inductionHypothesis]
          cases found : first? fields name with
          | some first => rw [Option.some_or]
          | none =>
              -- A later field is not the first of its name.
              have different : Text.sameAscii field.1 name ≠ true := by
                intro same
                rw [first?_congr same, found] at earlier
                cases earlier
              rw [if_neg different, Option.none_or]
      | none =>
          rw [if_neg (by simp), IdMap.get?_insert]
          by_cases same : name = field.1
          · subst same
            rw [if_pos rfl, earlier, Option.none_or,
              if_pos (Text.sameAscii_self _)]
            simp [Prod.ext_iff]
          · rw [if_neg same, inductionHypothesis]
            cases found : first? fields name with
            | some first => rw [Option.some_or]
            | none =>
                rw [Option.none_or]
                refine iff_of_false nofun fun isField => ?_
                split at isField
                · cases isField
                  exact same rfl
                · cases isField

end Projection
end Query
end MailSearch
