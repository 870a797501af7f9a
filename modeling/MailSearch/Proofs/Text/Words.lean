import MailSearch.Proofs.Text.Blank

/-!
# Words of a text

The words of a text are its maximal runs of characters that are not blank.  So
the words say how a text is laid out: one after the other, with blanks between
them and perhaps around them.
-/

namespace MailSearch
namespace Text

/-- A text has blanks only. -/
def Blanks (text : List Char) : Prop :=
  ∀ c ∈ text, isBlank c = true

instance (text : List Char) : Decidable (Blanks text) :=
  inferInstanceAs (Decidable (∀ c ∈ text, isBlank c = true))

/-- What follows a word is nothing or begins with a blank. -/
inductive EndsWord : List Char -> Prop where
  /-- The text ends with the word. -/
  | atEnd : EndsWord []
  /-- A blank ends the word. -/
  | atBlank {blank : Char} (isBlank : isBlank blank = true)
        (later : List Char) :
      EndsWord (blank :: later)

@[simp] theorem words_nil : words [] = [] := rfl

/-- A blank ends the words before it, and the words behind it begin anew. -/
theorem words_append_cons
    {blank : Char}
    (between : isBlank blank = true)
    (front back : List Char) :
    words (front ++ blank :: back) = words front ++ words back := by
  rw [words, words, words, List.splitOnP_append_cons front back between,
    List.filter_append]

theorem words_cons_of_blank
    {blank : Char}
    (leading : isBlank blank = true)
    (text : List Char) :
    words (blank :: text) = words text :=
  words_append_cons leading [] text

/-- Blanks in front of a text do not change its words. -/
theorem words_append_of_blanks_front
    {front : List Char}
    (blanks : Blanks front)
    (text : List Char) :
    words (front ++ text) = words text := by
  induction front with
  | nil => rfl
  | cons blank rest inductionHypothesis =>
      obtain ⟨first, restBlanks⟩ := List.forall_mem_cons.mp blanks
      rw [List.cons_append, words_cons_of_blank first,
        inductionHypothesis restBlanks]

theorem words_of_blanks
    {text : List Char}
    (blanks : Blanks text) :
    words text = [] := by
  have added := words_append_of_blanks_front blanks []
  rwa [List.append_nil] at added

/-- A text without blanks is its only word. -/
theorem words_of_solid
    {word : List Char}
    (solid : Solid word) :
    words word = [word] := by
  rw [words, List.splitOnP_eq_singleton solid.notBlank]
  exact List.filter_eq_self.mpr (by simp [solid.nonempty])

/-- The first word of a text comes before those of what follows it. -/
theorem words_append_of_solid
    {front word rest : List Char}
    (blanks : Blanks front)
    (solid : Solid word)
    (ends : EndsWord rest) :
    words (front ++ word ++ rest) = word :: words rest := by
  rw [List.append_assoc, words_append_of_blanks_front blanks]
  cases ends with
  | atEnd => rw [List.append_nil, words_of_solid solid, words_nil]
  | atBlank between later =>
      rw [words_append_cons between, words_of_solid solid,
        words_cons_of_blank between]
      rfl

/-- A text has blanks only, or a first word behind its leading blanks. -/
theorem blanks_or_exists_word
    (text : List Char) :
    Blanks text ∨ ∃ front word rest, text = front ++ word ++ rest ∧
      Blanks front ∧
      Solid word ∧ EndsWord rest := by
  induction text with
  | nil => exact .inl (List.forall_mem_nil _)
  | cons c later inductionHypothesis =>
      by_cases blank : isBlank c = true
      · rcases inductionHypothesis
          with blanks | ⟨front, word, rest, rfl, blanks, solid, ends⟩
        · exact .inl (List.forall_mem_cons.mpr ⟨blank, blanks⟩)
        · exact .inr ⟨c :: front, word, rest, rfl,
            List.forall_mem_cons.mpr ⟨blank, blanks⟩, solid, ends⟩
      · -- The word goes on up to the next blank.
        refine .inr ⟨[], c :: later.takeWhile (!isBlank ·),
          later.dropWhile (!isBlank ·), ?_, List.forall_mem_nil _,
          ⟨List.cons_ne_nil _ _, ?_⟩, ?_⟩
        · rw [List.nil_append, List.cons_append,
            List.takeWhile_append_dropWhile]
        · refine List.forall_mem_cons.mpr ⟨Bool.eq_false_iff.mpr blank,
            fun other isMember => ?_⟩
          have taken : (!isBlank other) = true :=
            List.mem_takeWhile_imp (p := fun c => !isBlank c) isMember
          simpa using taken
        · have stopped := List.head?_dropWhile_not (!isBlank ·) later
          revert stopped
          cases later.dropWhile (!isBlank ·) with
          | nil => exact fun _ => .atEnd
          | cons stop others =>
              intro isStop
              exact .atBlank (by simpa using isStop) others

theorem words_eq_nil_iff
    {text : List Char} :
    words text = [] ↔ Blanks text := by
  refine ⟨fun none => ?_, words_of_blanks⟩
  rcases blanks_or_exists_word text
    with blanks | ⟨front, word, rest, rfl, blanks, solid, ends⟩
  · exact blanks
  · rw [words_append_of_solid blanks solid ends] at none
    cases none

/-- The first word of a text stands behind its leading blanks and before the
other words. -/
theorem words_eq_cons_iff
    {text word : List Char}
    {others : List (List Char)} :
    words text = word :: others ↔ Solid word ∧ ∃ front rest, Blanks front ∧
      EndsWord rest ∧
      text = front ++ word ++ rest ∧ words rest = others := by
  constructor
  · intro split
    rcases blanks_or_exists_word text
      with blanks | ⟨front, first, rest, rfl, blanks, solid, ends⟩
    · rw [words_of_blanks blanks] at split
      cases split
    · rw [words_append_of_solid blanks solid ends] at split
      cases split
      exact ⟨solid, front, rest, blanks, ends, rfl, rfl⟩
  · rintro ⟨solid, front, rest, blanks, ends, rfl, rfl⟩
    exact words_append_of_solid blanks solid ends

/-- A text of one word has this word and blanks around it. -/
theorem words_eq_singleton_iff
    {text word : List Char} :
    words text = [word] ↔ Solid word ∧ ∃ front back, Blanks front ∧
      Blanks back ∧
      text = front ++ word ++ back := by
  simp only [words_eq_cons_iff, words_eq_nil_iff]
  constructor
  · rintro ⟨solid, front, back, frontBlanks, -, laidOut, backBlanks⟩
    exact ⟨solid, front, back, frontBlanks, backBlanks, laidOut⟩
  · rintro ⟨solid, front, back, frontBlanks, backBlanks, laidOut⟩
    refine ⟨solid, front, back, frontBlanks, ?_, laidOut, backBlanks⟩
    cases back with
    | nil => exact .atEnd
    | cons blank later =>
        exact .atBlank (backBlanks blank List.mem_cons_self) later

/-- A text of two words has at least one blank between them, and perhaps some
around them. -/
theorem words_eq_pair_iff
    {text first second : List Char} :
    words text = [first, second] ↔ Solid first ∧ Solid second ∧
        ∃ front gap back,
      Blanks front ∧ Blanks gap ∧ gap ≠ [] ∧ Blanks back ∧
        text = front ++ first ++ gap ++ second ++ back := by
  rw [words_eq_cons_iff]
  simp only [words_eq_singleton_iff]
  constructor
  · rintro ⟨firstSolid, front, _, frontBlanks, ends, rfl, secondSolid, gap,
      back, gapBlanks,
      backBlanks, rfl⟩
    refine ⟨firstSolid, secondSolid, front, gap, back, frontBlanks, gapBlanks,
      ?_, backBlanks,
      by simp only [List.append_assoc]⟩
    -- Without a gap, the second word would begin with the blank that ends the
    -- first one.
    rintro rfl
    obtain ⟨c, later, rfl⟩ := List.exists_cons_of_ne_nil secondSolid.nonempty
    have solid : isBlank c = false := secondSolid.notBlank c List.mem_cons_self
    cases ends with
    | atBlank blank _ => rw [blank] at solid; cases solid
  · rintro ⟨firstSolid, secondSolid, front, gap, back, frontBlanks,
      gapBlanks, nonempty,
      backBlanks, rfl⟩
    refine ⟨firstSolid, front, gap ++ second ++ back, frontBlanks, ?_,
      by simp only [List.append_assoc], secondSolid, gap, back, gapBlanks,
        backBlanks, rfl⟩
    obtain ⟨blank, later, rfl⟩ := List.exists_cons_of_ne_nil nonempty
    exact .atBlank (gapBlanks blank List.mem_cons_self) _

end Text
end MailSearch
