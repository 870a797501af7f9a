import MailSearch.Proofs.Mime.HeaderBlock

/-!
# Header blocks one behind the other

A text behind a line end is read by itself, with one exception: lines at its
front that continue a field, before it begins one of its own, go to the last
field before it.  That is so even behind a line that is no field, so the two
blocks are read as they would be alone exactly if there are no such lines, or no
field that they could go to.
-/

namespace MailSearch
namespace Mime
namespace HeaderBlock

open Text (pieces)
open Text.Utf8 (encode)

theorem ofBytes_eq_nil_iff
    {bytes : List UInt8} :
    ofBytes bytes = [] ↔ rawFields bytes = [] := by
  rw [ofBytes_eq_map, List.map_eq_nil_iff]

/-- The fields with lines that continue the last one. -/
def extendLast (lines : List (List Char)) (fields : List RawField) :
    List RawField :=
  (extendedBy lines fields.reverse).reverse

/-- Every line that continues a field adds a blank at least. -/
theorem extendLast_eq_self_iff
    {lines : List (List Char)}
    {fields : List RawField} :
    extendLast lines fields = fields ↔ lines = [] ∨ fields = [] := by
  rw [extendLast, List.reverse_eq_iff]
  cases reversed : fields.reverse with
  | nil => simp [extendedBy, List.reverse_eq_nil_iff.mp reversed]
  | cons field rest =>
      have nonempty : fields ≠ [] := by
        rintro rfl
        cases reversed
      obtain ⟨name, value⟩ := field
      simp only [extendedBy, List.cons.injEq, Prod.mk.injEq, true_and,
        and_true, nonempty, or_false, List.append_right_eq_self,
        List.flatMap_eq_nil_iff]
      constructor
      · intro absent
        exact List.eq_nil_iff_forall_not_mem.mpr fun line isLine =>
          List.cons_ne_nil _ _ (absent line isLine)
      · rintro rfl line absurd
        cases absurd

/-! ## Joined texts -/

section Joining

variable (front back : List Char)

theorem unmarked_append_feed :
    unmarked (front ++ '\n' :: back) = unmarked front ++ '\n' :: back := by
  unfold unmarked
  cases front with
  | nil => rfl
  | cons c rest =>
      rw [List.cons_append, List.head?_cons, List.head?_cons, List.tail_cons,
        List.tail_cons]
      split <;> rfl

/-- Behind a line feed a text adds its own fields, and its strays to the last
field before. -/
theorem unfolded_append_feed :
    unfolded (front ++ '\n' :: back) =
      extendLast (strays (pieces '\n' back)) (unfolded front) ++
        unfolded back := by
  rw [unfolded_eq, unfolded_eq, unfolded_eq, fieldsBehind_append_feed,
    extendLast, List.reverse_reverse, ← List.reverse_append]
  exact congrArg List.reverse
    (foldl_addLine_eq (pieces '\n' back) (fieldsBehind [] front))

theorem unfolded_append_singleton_feed :
    unfolded (front ++ ['\n']) = unfolded front := by
  rw [unfolded_eq, unfolded_eq, fieldsBehind_append_feed, fieldsBehind_nil]

end Joining

/-- The fields of two texts of which the first one ends with a line feed. -/
theorem rawFields_append
    {front back : List Char}
    (closed : front = [] ∨ front.getLast? = some '\n')
    (plain : back.head? ≠ some mark) :
    rawFields (encode (front ++ back)) =
      extendLast (strays (pieces '\n' back)) (rawFields (encode front)) ++
        rawFields (encode back) := by
  have alone : rawFields (encode back) = unfolded back := by
    rw [rawFields, textOf_encode, unmarked, if_neg plain]
  rw [alone, rawFields, rawFields, textOf_encode, textOf_encode]
  rcases closed with rfl | ended
  · rw [List.nil_append, unmarked, if_neg plain]
    rfl
  · obtain ⟨body, rfl⟩ := List.getLast?_eq_some_iff.mp ended
    rw [List.append_assoc, List.singleton_append, unmarked_append_feed,
      unmarked_append_feed, unfolded_append_feed,
      unfolded_append_singleton_feed]

/--
Two texts, of which the first one ends with a line end, have the fields of both.
Only lines of the second one that continue a field in front of its own fields go
to the last field of the first one; without them, or without such a field, each
text is read as it would be alone.
-/
theorem fields_of_joined_texts
    {front back : List Char}
    (closed : front = [] ∨ front.getLast? = some '\n')
    (plain : back.head? ≠ some mark) :
    (rawFields (encode (front ++ back)) =
      extendLast (strays (pieces '\n' back)) (rawFields (encode front)) ++
        rawFields (encode back)) ∧
    (rawFields (encode (front ++ back)) = rawFields (encode front) ++ rawFields
        (encode back) ↔
      strays (pieces '\n' back) = [] ∨ ofBytes (encode front) = []) ∧
    (strays (pieces '\n' back) = [] ∨ ofBytes (encode front) = [] →
      ofBytes (encode (front ++ back)) = ofBytes (encode front) ++
        ofBytes (encode back)) := by
  have joined := rawFields_append closed plain
  have apart : rawFields (encode (front ++ back)) =
      rawFields (encode front) ++ rawFields (encode back) ↔
        strays (pieces '\n' back) = [] ∨ ofBytes (encode front) = [] := by
    rw [joined, List.append_left_inj, extendLast_eq_self_iff,
      ofBytes_eq_nil_iff]
  refine ⟨joined, apart, fun noStrays => ?_⟩
  rw [ofBytes_eq_map, apart.mpr noStrays, List.map_append, ofBytes_eq_map,
    ofBytes_eq_map]

/-- A mark at the front, a folded field and a line without colon keep to their
own block. -/
theorem blocks_apart_behind_mark :
    strays (pieces '\n' "no field\r\nTo: b\n c\n".toList) = [] ∧
    ofBytes (encode ("\uFEFFSubject: a\r\n".toList ++
        "no field\r\nTo: b\n c\n".toList)) =
      ofBytes (encode "\uFEFFSubject: a\r\n".toList) ++
        ofBytes (encode "no field\r\nTo: b\n c\n".toList) := by
  have noStrays : strays (pieces '\n' "no field\r\nTo: b\n c\n".toList) =
      [] := by decide
  exact ⟨noStrays,
    (fields_of_joined_texts (.inr (by decide)) (by decide)).2.2 (.inl noStrays)⟩

/-- The line that continues one without colon alters the field in front of
both. -/
theorem continued_junk_alters_field :
    ¬ ∀ front back : List Char, (front = [] ∨ front.getLast? = some '\n') →
      (∀ c, back.head? = some c → c ≠ ' ' ∧ c ≠ '\t' ∧ c ≠ mark) →
      ofBytes (encode (front ++ back)) = ofBytes (encode front) ++
        ofBytes (encode back) := by
  intro apart
  have begins : ∀ c, "junk\n cont\n".toList.head? = some c → c ≠ ' ' ∧
      c ≠ '\t' ∧ c ≠ mark := by
    rintro c ⟨⟩
    decide
  have same :=
    apart "A: x\n".toList "junk\n cont\n".toList (.inr (by decide)) begins
  have joined : ofBytes (encode ("A: x\n".toList ++ "junk\n cont\n".toList)) =
      [("A", "x cont")] := by
    decide +kernel
  have alone : ofBytes (encode "A: x\n".toList) ++
      ofBytes (encode "junk\n cont\n".toList) =
      [("A", "x")] := by
    decide +kernel
  rw [joined, alone] at same
  exact absurd same (by decide)

end HeaderBlock
end Mime
end MailSearch
