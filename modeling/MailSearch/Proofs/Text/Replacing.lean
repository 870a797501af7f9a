import Mathlib.Data.List.Infix
import MailSearch.Text.Occurrence

/-!
# Replacements word by word

Replacing goes from left to right through a text.  In a text made of words it
works on each word by itself, as long as every word is the pattern as a whole or
has nothing of an occurrence in it, neither its start nor all of it.
-/

namespace MailSearch
namespace Text

section Words

variable {α : Type} {pattern word : List α}

/--
No occurrence of a pattern starts in a word, whatever stands behind the word: no
part at its end begins with the pattern or is the beginning of it.
-/
def ClearOf (pattern word : List α) : Prop :=
  ∀ part ∈ word.tails, part = [] ∨ ¬ pattern <+: part ∧ ¬ part <+: pattern

instance [DecidableEq α] : Decidable (ClearOf pattern word) :=
  inferInstanceAs (Decidable (∀ part ∈ word.tails, _))

theorem clearOf_nil
    (pattern : List α) :
    ClearOf pattern [] := by
  simp [ClearOf]

theorem clearOf_cons_iff
    {item : α} :
    ClearOf pattern (item :: word) ↔
      (¬ pattern <+: item :: word ∧ ¬ item :: word <+: pattern) ∧
        ClearOf pattern word := by
  simp only [ClearOf, List.tails_cons, List.forall_mem_cons,
    reduceCtorEq, false_or]

/-- A word without the first item of a pattern is clear of it. -/
theorem clearOf_of_not_mem
    {first : α}
    (begins : pattern.head? = some first)
    (different : first ∉ word) :
    ClearOf pattern word := by
  obtain ⟨rest, rfl⟩ := List.head?_eq_some_iff.mp begins
  induction word with
  | nil => exact clearOf_nil _
  | cons item others inductionHypothesis =>
      rw [List.mem_cons, not_or] at different
      refine clearOf_cons_iff.mpr ⟨⟨?_, ?_⟩, inductionHypothesis different.2⟩
      · rw [List.cons_prefix_cons]
        exact fun occurs => different.1 occurs.1
      · rw [List.cons_prefix_cons]
        exact fun occurs => different.1 occurs.1.symm

/-- Behind a word that is clear of a pattern anything may stand. -/
theorem ClearOf.not_prefix_append
    {item : α}
    (clear : ClearOf pattern (item :: word))
    (rest : List α) :
    ¬ pattern <+: item :: (word ++ rest) := by
  obtain ⟨⟨notWithin, notBegun⟩, -⟩ := clearOf_cons_iff.mp clear
  intro occurs
  exact (List.prefix_or_prefix_of_prefix occurs
      (List.prefix_append (item :: word) rest)).elim
    notWithin notBegun

end Words

section Replacing

variable {α β : Type} [BEq α] {pattern word : List α}

theorem replaceAll_nil
    (pattern replacement : List α) :
    replaceAll pattern replacement [] = [] := by
  rw [replaceAll]

/-- Nothing but the replacement is added to a text. -/
theorem replaceAll_subset
    (pattern replacement text : List α) :
    replaceAll pattern replacement text ⊆ replacement ++ text := by
  fun_induction replaceAll pattern replacement text with
  | case1 => exact List.nil_subset _
  | case2 item rest found inductionHypothesis =>
      refine List.append_subset.mpr ⟨List.subset_append_left _ _, ?_⟩
      refine List.Subset.trans inductionHypothesis
        (List.append_subset.mpr ⟨List.subset_append_left _ _,
          fun other isLeft => ?_⟩)
      exact List.mem_append_right
        _ (List.mem_cons_of_mem item (List.drop_subset _ rest isLeft))
  | case3 item rest absent inductionHypothesis =>
      refine List.cons_subset.mpr ⟨List.mem_append_right _ List.mem_cons_self,
        ?_⟩
      exact List.Subset.trans inductionHypothesis (List.append_subset.mpr
        ⟨List.subset_append_left _ _, fun other isRest =>
          List.mem_append_right _ (List.mem_cons_of_mem item isRest)⟩)

variable [LawfulBEq α]

/-- A pattern at the front of a text is replaced. -/
theorem replaceAll_pattern_append
    (nonempty : pattern ≠ [])
    (replacement rest : List α) :
    replaceAll pattern replacement (pattern ++ rest) =
      replacement ++ replaceAll pattern replacement rest := by
  obtain ⟨item, others, rfl⟩ := List.exists_cons_of_ne_nil nonempty
  rw [List.cons_append, replaceAll]
  simp

/-- An item at which no occurrence starts is kept. -/
theorem replaceAll_cons_of_unmarked
    {item : α}
    {rest : List α}
    (noOccurrence : ¬ pattern <+: item :: rest)
    (replacement : List α) :
    replaceAll pattern replacement (item :: rest) =
      item :: replaceAll pattern replacement rest := by
  rw [← List.isPrefixOf_iff_prefix, Bool.not_eq_true] at noOccurrence
  rw [replaceAll, noOccurrence, Bool.and_false]
  rfl

/-- A text that lacks an item of the pattern stays as it is. -/
theorem replaceAll_of_not_mem
    {item : α}
    (inPattern : item ∈ pattern)
    {text : List α}
    (notInText : item ∉ text)
    (replacement : List α) :
    replaceAll pattern replacement text = text := by
  induction text with
  | nil => exact replaceAll_nil pattern replacement
  | cons first rest inductionHypothesis =>
      have noOccurrence : ¬ pattern <+: first :: rest := fun occurs =>
        notInText (occurs.subset inPattern)
      rw [replaceAll_cons_of_unmarked noOccurrence,
        inductionHypothesis fun later =>
          notInText (List.mem_cons_of_mem first later)]

/-- Replacing passes over a word that is clear of the pattern. -/
theorem replaceAll_append_of_clearOf
    (clear : ClearOf pattern word)
    (replacement rest : List α) :
    replaceAll pattern replacement (word ++ rest) =
      word ++ replaceAll pattern replacement rest := by
  induction word with
  | nil => rfl
  | cons item others inductionHypothesis =>
      rw [List.cons_append,
        replaceAll_cons_of_unmarked (clear.not_prefix_append rest),
        inductionHypothesis (clearOf_cons_iff.mp clear).2]
      rfl

theorem replaceAll_of_clearOf
    (clear : ClearOf pattern word)
    (replacement : List α) :
    replaceAll pattern replacement word = word := by
  have alone := replaceAll_append_of_clearOf clear replacement []
  rwa [replaceAll_nil, List.append_nil] at alone

/-- A pattern is replaced in each word by itself. -/
theorem replaceAll_flatMap
    (nonempty : pattern ≠ [])
    {write : β -> List α}
    {items : List β}
    (whole : ∀ item ∈ items, write item = pattern ∨
      ClearOf pattern (write item))
    (replacement : List α) :
    replaceAll pattern replacement (items.flatMap write) =
      items.flatMap fun item =>
        replaceAll pattern replacement (write item) := by
  induction items with
  | nil => exact replaceAll_nil pattern replacement
  | cons item rest inductionHypothesis =>
      obtain ⟨first, others⟩ := List.forall_mem_cons.mp whole
      rw [List.flatMap_cons, List.flatMap_cons, ← inductionHypothesis others]
      rcases first with same | clear
      · have alone := replaceAll_pattern_append nonempty replacement []
        rw [List.append_nil, replaceAll_nil, List.append_nil] at alone
        rw [same, alone, replaceAll_pattern_append nonempty]
      · rw [replaceAll_append_of_clearOf clear, replaceAll_of_clearOf clear]

end Replacing

end Text
end MailSearch
