import Mathlib.Data.List.TakeWhile
import MailSearch.Text.Blank

/-!
# Trimmed texts

Blanks around a text do not count when it is trimmed, and a text that begins and
ends with other characters is trimmed already.
-/

namespace MailSearch
namespace Text

/-- What is said of the characters of a text is decided on the text, not on all
characters. -/
instance (priority := 2000) decidableForallMem
    {p : Char -> Prop}
    [DecidablePred p]
    (text : List Char) :
    Decidable (∀ c ∈ text, p c) :=
  List.decidableBAll p text

/-! ## Blanks around a text -/

theorem trim_append_of_blank_front
    {front : List Char}
    (blank : ∀ c ∈ front, isBlank c = true)
    (text : List Char) :
    trim (front ++ text) = trim text := by
  rw [trim, trim, trimFront, trimFront, List.dropWhile_append_of_pos blank]

theorem trimBack_append_of_blank
    {back : List Char}
    (blank : ∀ c ∈ back, isBlank c = true)
    (text : List Char) :
    trimBack (text ++ back) = trimBack text := by
  have blankReversed : ∀ c ∈ back.reverse, isBlank c = true :=
    fun c isChar => blank c (List.mem_reverse.mp isChar)
  rw [trimBack, trimBack, List.reverse_append,
    List.dropWhile_append_of_pos blankReversed]

theorem trim_append_of_blank_back
    {back : List Char}
    (blank : ∀ c ∈ back, isBlank c = true)
    (text : List Char) :
    trim (text ++ back) = trim text := by
  rw [trim, trim, trimFront, trimFront, List.dropWhile_append]
  split
  · rename_i noneLeft
    rw [List.isEmpty_iff.mp noneLeft, List.dropWhile_eq_nil_iff.mpr blank]
  · exact trimBack_append_of_blank blank _

/-! ## Texts without blanks -/

/-- A text is not empty and has no blanks. -/
structure Solid (text : List Char) : Prop where
  /-- The text is not empty. -/
  nonempty : text ≠ []
  /-- The text has no blanks. -/
  notBlank : ∀ c ∈ text, isBlank c = false

/-- A solid text stops the trimming at the front. -/
theorem Solid.trimFront_append
    {text : List Char}
    (solid : Solid text)
    (rest : List Char) :
    trimFront (text ++ rest) = text ++ rest := by
  obtain ⟨c, later, rfl⟩ := List.exists_cons_of_ne_nil solid.nonempty
  exact List.dropWhile_cons_of_neg
    (Bool.eq_false_iff.mp (solid.notBlank c List.mem_cons_self))

/-- A solid text stops the trimming at the back. -/
theorem Solid.trimBack_append
    {text : List Char}
    (solid : Solid text)
    (front : List Char) :
    trimBack (front ++ text) = front ++ text := by
  obtain ⟨c, later, isLast⟩ :=
    List.exists_cons_of_ne_nil (List.reverse_ne_nil_iff.mpr solid.nonempty)
  have notBlank : isBlank c = false :=
    solid.notBlank c (List.mem_reverse.mp (isLast ▸ List.mem_cons_self))
  rw [trimBack, List.reverse_append, isLast, List.cons_append,
    List.dropWhile_cons_of_neg (Bool.eq_false_iff.mp notBlank),
      ← List.cons_append, ← isLast,
    ← List.reverse_append, List.reverse_reverse]

theorem Solid.append
    {left right : List Char}
    (leftSolid : Solid left)
    (rightSolid : Solid right) :
    Solid (left ++ right) where
  nonempty := List.append_ne_nil_of_left_ne_nil leftSolid.nonempty right
  notBlank :=
    List.forall_mem_append.mpr ⟨leftSolid.notBlank, rightSolid.notBlank⟩

theorem isBlank_of_printable
    {c : Char}
    (printable : 0x21 ≤ c.toNat ∧ c.toNat ≤ 0x7E) :
    isBlank c = false := by
  unfold isBlank
  simp
  omega

theorem isBlank_of_isAlphanum
    {c : Char}
    (alphanumeric : c.isAlphanum = true) :
    isBlank c = false := by
  apply isBlank_of_printable
  have ranges : (65 ≤ c.toNat ∧ c.toNat ≤ 90) ∨ (97 ≤ c.toNat ∧ c.toNat ≤ 122) ∨
      (48 ≤ c.toNat ∧ c.toNat ≤ 57) := by
    rcases Bool.or_eq_true_iff.mp alphanumeric with letter | digit
    · rcases Bool.or_eq_true_iff.mp letter with capital | small
      · exact .inl ((of_decide_eq_true capital).imp UInt32.le_iff_toNat_le.mp
          UInt32.le_iff_toNat_le.mp)
      · obtain ⟨atLeast, atMost⟩ := Bool.and_eq_true_iff.mp small
        exact .inr (.inl ⟨UInt32.le_iff_toNat_le.mp (of_decide_eq_true atLeast),
          UInt32.le_iff_toNat_le.mp (of_decide_eq_true atMost)⟩)
    · obtain ⟨atLeast, atMost⟩ := Bool.and_eq_true_iff.mp digit
      exact .inr (.inr ⟨UInt32.le_iff_toNat_le.mp (of_decide_eq_true atLeast),
        UInt32.le_iff_toNat_le.mp (of_decide_eq_true atMost)⟩)
  omega

theorem Solid.of_isAlphanum
    {text : List Char}
    (nonempty : text ≠ [])
    (alphanumeric : ∀ c ∈ text, c.isAlphanum = true) :
    Solid text :=
  ⟨nonempty, fun c isChar => isBlank_of_isAlphanum (alphanumeric c isChar)⟩

/-! ## Texts between other characters -/

/-- A text begins and ends with characters that are not blank. -/
structure Framed (text : List Char) : Prop where
  /-- The first character is not blank. -/
  first : ∃ c, text.head? = some c ∧ isBlank c = false
  /-- The last character is not blank. -/
  last : ∃ c, text.getLast? = some c ∧ isBlank c = false

namespace Framed

variable {text left right : List Char}

/-- A text without blanks is framed unless it is empty. -/
theorem of_solid
    (nonempty : text ≠ [])
    (solid : ∀ c ∈ text, isBlank c = false) :
    Framed text where
  first :=
    ⟨text.head nonempty, List.head?_eq_some_head nonempty,
      solid _ (List.head_mem nonempty)⟩
  last :=
    ⟨text.getLast nonempty, List.getLast?_eq_some_getLast nonempty,
      solid _ (List.getLast_mem nonempty)⟩

/-- Anything may stand between two framed texts. -/
theorem append
    (leftFramed : Framed left)
    (middle : List Char)
    (rightFramed : Framed right) :
    Framed (left ++ middle ++ right) where
  first := by
    obtain ⟨c, isFirst, notBlank⟩ := leftFramed.first
    exact ⟨c,
      by rw [List.append_assoc, List.head?_append, isFirst, Option.some_or],
      notBlank⟩
  last := by
    obtain ⟨c, isLast, notBlank⟩ := rightFramed.last
    exact ⟨c, by rw [List.getLast?_append, isLast, Option.some_or], notBlank⟩

theorem of_solid_text
    (solid : Solid text) :
    Framed text :=
  .of_solid solid.nonempty solid.notBlank

theorem trim_eq
    (framed : Framed text) :
    trim text = text := by
  have unchanged : ∀ chars : List Char,
      (∃ c, chars.head? = some c ∧ isBlank c = false) →
      chars.dropWhile isBlank = chars := by
    rintro chars ⟨c, isFirst, notBlank⟩
    obtain ⟨rest, rfl⟩ := List.head?_eq_some_iff.mp isFirst
    exact List.dropWhile_cons_of_neg (Bool.eq_false_iff.mp notBlank)
  have front : trimFront text = text := unchanged text framed.first
  have back : text.reverse.dropWhile isBlank = text.reverse := by
    apply unchanged
    rw [List.head?_reverse]
    exact framed.last
  rw [trim, front, trimBack, back, List.reverse_reverse]

end Framed

/-! ## Trimmed texts -/

theorem prefix_trimBack
    (text : List Char) :
    trimBack text <+: text := by
  rw [← List.reverse_suffix, trimBack, List.reverse_reverse]
  exact List.dropWhile_suffix isBlank

theorem trim_sublist
    (text : List Char) :
    (trim text).Sublist text :=
  (prefix_trimBack (trimFront text)).sublist.trans
    (List.dropWhile_sublist isBlank)

theorem trim_subset
    (text : List Char) :
    trim text ⊆ text :=
  (trim_sublist text).subset

/-- What trimming leaves begins and ends with characters that are not blank. -/
theorem framed_trim
    {text : List Char}
    (nonempty : trim text ≠ []) :
    Framed (trim text) where
  first := by
    obtain ⟨c, rest, split⟩ := List.exists_cons_of_ne_nil nonempty
    obtain ⟨back, whole⟩ := prefix_trimBack (trimFront text)
    have notBlank := head?_trimFront_not_blank text
    rw [← whole, ← trim, split] at notBlank
    rw [split]
    exact ⟨c, rfl, by simpa using notBlank⟩
  last := by
    have notBlank := head?_trimFront_not_blank (trimFront text).reverse
    have isLast : (trim text).getLast? =
        (trimFront (trimFront text).reverse).head? := by
      rw [trim, trimBack, List.getLast?_reverse]
      rfl
    cases ends : (trim text).getLast? with
    | none => exact absurd (List.getLast?_eq_none_iff.mp ends) nonempty
    | some c =>
        rw [← isLast, ends] at notBlank
        exact ⟨c, rfl, by simpa using notBlank⟩

/-- A trimmed text stays as it is when it is trimmed again. -/
theorem trim_trim
    (text : List Char) :
    trim (trim text) = trim text := by
  by_cases nonempty : trim text = []
  · rw [nonempty, trim_nil]
  · exact (framed_trim nonempty).trim_eq

theorem framed_of_trim_eq
    {text : List Char}
    (trimmed : trim text = text)
    (nonempty : text ≠ []) :
    Framed text := by
  rw [← trimmed]
  apply framed_trim
  rwa [trimmed]

end Text
end MailSearch
