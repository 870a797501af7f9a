import MailSearch.Proofs.Text.Blank
import MailSearch.Proofs.Text.Lines
import MailSearch.Text.Utf8

/-!
# Lines and their ends

A line ends with a line feed, or with a carriage return and a line feed.  A text
is cut at its line feeds, so what stands behind one has no part in the lines
before it.
-/

namespace MailSearch
namespace Text

/-- What ends a line. -/
inductive LineEnd where
  /-- A line feed. -/
  | feed
  /-- A carriage return and a line feed. -/
  | returnFeed
  deriving DecidableEq, Repr

/-- The characters that end a line. -/
def LineEnd.chars : LineEnd -> List Char
  | .feed => ['\n']
  | .returnFeed => ['\r', '\n']

/-- The bytes that end a line. -/
def LineEnd.bytes (ending : LineEnd) : List UInt8 :=
  Utf8.encode ending.chars

@[simp] theorem LineEnd.bytes_feed : LineEnd.feed.bytes = [0x0A] :=
  rfl

@[simp] theorem LineEnd.bytes_returnFeed : LineEnd.returnFeed.bytes =
    [0x0D, 0x0A] :=
  rfl

theorem LineEnd.eq_of_mem_chars
    {ending : LineEnd} :
    ∀ c ∈ ending.chars, c = '\r' ∨ c = '\n' := by
  cases ending <;> simp [chars]

section Pieces

variable {α : Type} [BEq α] [LawfulBEq α] {mark : α}

/-- A text is cut at a mark into the pieces before it and those behind it. -/
theorem pieces_append_cons
    (left right : List α) :
    pieces mark (left ++ mark :: right) =
      pieces mark left ++ pieces mark right := by
  induction left with
  | nil => simp [pieces]
  | cons item rest inductionHypothesis =>
      rw [List.cons_append, pieces, pieces, inductionHypothesis]
      split
      · rfl
      · cases cut : pieces mark rest with
        | nil => exact absurd cut (pieces_ne_nil mark rest)
        | cons first others => rfl

/-- A text without the mark is a piece as a whole. -/
theorem pieces_of_not_mem
    {text : List α}
    (unmarked : mark ∉ text) :
    pieces mark text = [text] := by
  induction text with
  | nil => rfl
  | cons item rest inductionHypothesis =>
      rw [List.mem_cons, not_or] at unmarked
      obtain ⟨different, unmarkedRest⟩ := unmarked
      rw [pieces, if_neg (by simpa using Ne.symm different),
        inductionHypothesis unmarkedRest]

/-- What follows the last mark of a text belongs to its last piece. -/
theorem pieces_append_of_not_mem
    {tail : List α}
    (unmarked : mark ∉ tail)
    (text : List α) :
    ∃ others last, pieces mark text = others ++ [last] ∧
      pieces mark (text ++ tail) = others ++ [last ++ tail] := by
  induction text with
  | nil => exact ⟨[], [], rfl, pieces_of_not_mem unmarked⟩
  | cons item rest inductionHypothesis =>
      obtain ⟨others, last, cut, cutLonger⟩ := inductionHypothesis
      rw [List.cons_append, pieces, pieces, cut, cutLonger]
      split
      · exact ⟨[] :: others, last, rfl, rfl⟩
      · cases others with
        | nil => exact ⟨[], item :: last, rfl, rfl⟩
        | cons first others => exact ⟨(item :: first) :: others, last, rfl, rfl⟩

/-- A piece has nothing but what stands in the text, and not the mark. -/
theorem subset_of_mem_pieces
    {text piece : List α}
    (isPiece : piece ∈ pieces mark text) :
    piece ⊆ text ∧ mark ∉ piece := by
  induction text generalizing piece with
  | nil =>
      rw [pieces, List.mem_singleton] at isPiece
      rw [isPiece]
      exact ⟨List.nil_subset [], List.not_mem_nil⟩
  | cons item rest inductionHypothesis =>
      rw [pieces] at isPiece
      split at isPiece
      · rcases List.mem_cons.mp isPiece with rfl | later
        · exact ⟨List.nil_subset _, List.not_mem_nil⟩
        · obtain ⟨within, unmarked⟩ := inductionHypothesis later
          exact ⟨List.subset_cons_of_subset item within, unmarked⟩
      · rename_i different
        cases cut : pieces mark rest with
        | nil => exact absurd cut (pieces_ne_nil mark rest)
        | cons first others =>
            rw [cut] at isPiece inductionHypothesis
            rcases List.mem_cons.mp isPiece with rfl | later
            · obtain ⟨within, unmarked⟩ :=
                inductionHypothesis List.mem_cons_self
              refine ⟨List.cons_subset_cons item within, ?_⟩
              rw [List.mem_cons, not_or]
              exact ⟨fun same => different (beq_iff_eq.mpr same.symm), unmarked⟩
            · obtain ⟨within, unmarked⟩ :=
                inductionHypothesis (List.mem_cons_of_mem first later)
              exact ⟨List.subset_cons_of_subset item within, unmarked⟩

/-- Joined with the mark again, the pieces of a text are the text. -/
theorem joinWith_pieces
    (text : List α) :
    joinWith [mark] (pieces mark text) = text := by
  induction text with
  | nil => rfl
  | cons item rest inductionHypothesis =>
      rw [pieces]
      cases cut : pieces mark rest with
      | nil => exact absurd cut (pieces_ne_nil mark rest)
      | cons first others =>
          rw [cut] at inductionHypothesis
          split
          · rename_i same
            rw [joinWith_cons_cons, inductionHypothesis, beq_iff_eq.mp same,
              List.nil_append]
          · rw [← inductionHypothesis, joinWith_cons, joinWith_cons,
              List.cons_append]

/-- What is joined with a mark is cut there again. -/
theorem pieces_joinWith
    {items : List (List α)}
    (nonempty : items ≠ [])
    (unmarked : ∀ item ∈ items, mark ∉ item) :
    pieces mark (joinWith [mark] items) = items := by
  induction items with
  | nil => exact absurd rfl nonempty
  | cons first rest inductionHypothesis =>
      obtain ⟨unmarkedFirst, unmarkedRest⟩ := List.forall_mem_cons.mp unmarked
      cases rest with
      | nil => exact pieces_of_not_mem unmarkedFirst
      | cons next others =>
          rw [joinWith_cons_cons, pieces_append_cons,
            pieces_of_not_mem unmarkedFirst,
            inductionHypothesis (List.cons_ne_nil next others) unmarkedRest,
            List.singleton_append]

end Pieces

section Cutting

variable {α : Type} [BEq α] [LawfulBEq α] {mark : α}

/-- Without the mark there is nowhere to cut. -/
theorem cutFirst_of_not_mem
    {text : List α}
    (unmarked : mark ∉ text) :
    cutFirst mark text = none := by
  induction text with
  | nil => rfl
  | cons item rest inductionHypothesis =>
      rw [List.mem_cons, not_or] at unmarked
      obtain ⟨different, unmarkedRest⟩ := unmarked
      rw [cutFirst, if_neg (by simpa using Ne.symm different),
        inductionHypothesis unmarkedRest, Option.map_none]

/-- What does not hold the mark stays behind the first mark of a text. -/
theorem cutFirst_append_of_not_mem
    {tail : List α}
    (unmarked : mark ∉ tail)
    (text : List α) :
    cutFirst mark (text ++ tail) =
      (cutFirst mark text).map fun (before, after) =>
        (before, after ++ tail) := by
  induction text with
  | nil => exact cutFirst_of_not_mem unmarked
  | cons item rest inductionHypothesis =>
      rw [List.cons_append, cutFirst, cutFirst, inductionHypothesis]
      split
      · rfl
      · cases cutFirst mark rest <;> rfl

/-- A text is cut at the first mark. -/
theorem cutFirst_append_cons
    {before : List α}
    (unmarked : mark ∉ before)
    (after : List α) :
    cutFirst mark (before ++ mark :: after) = some (before, after) := by
  induction before with
  | nil => simp [cutFirst]
  | cons item rest inductionHypothesis =>
      rw [List.mem_cons, not_or] at unmarked
      obtain ⟨different, unmarkedRest⟩ := unmarked
      rw [List.cons_append, cutFirst, if_neg (by simpa using Ne.symm different),
        inductionHypothesis unmarkedRest]
      rfl

theorem cutLast_of_not_mem
    {text : List α}
    (unmarked : mark ∉ text) :
    cutLast mark text = none := by
  induction text with
  | nil => rfl
  | cons item rest inductionHypothesis =>
      rw [List.mem_cons, not_or] at unmarked
      obtain ⟨different, unmarkedRest⟩ := unmarked
      rw [cutLast, inductionHypothesis unmarkedRest]
      exact if_neg (by simpa using Ne.symm different)

/-- A text is cut at the last mark. -/
theorem cutLast_append_cons
    {after : List α}
    (unmarked : mark ∉ after)
    (before : List α) :
    cutLast mark (before ++ mark :: after) = some (before, after) := by
  induction before with
  | nil =>
      rw [List.nil_append, cutLast, cutLast_of_not_mem unmarked]
      exact if_pos (beq_self_eq_true mark)
  | cons item rest inductionHypothesis =>
      rw [List.cons_append, cutLast, inductionHypothesis]

/-- A text cut at the last mark is put together from the parts again. -/
theorem cutLast_eq_some_iff
    {text before after : List α} :
    cutLast mark text = some (before, after) ↔ text = before ++ mark :: after ∧
      mark ∉ after := by
  constructor
  · intro cut
    by_cases marked : mark ∈ text
    · obtain ⟨back, front, reversed, unmarked⟩ :=
        List.eq_append_cons_of_mem (List.mem_reverse.mpr marked)
      have split : text = front.reverse ++ mark :: back.reverse := by
        rw [← List.reverse_reverse text, reversed, List.reverse_append,
          List.reverse_cons, List.append_assoc, List.singleton_append]
      rw [← List.mem_reverse] at unmarked
      rw [split, cutLast_append_cons unmarked] at cut
      cases cut
      exact ⟨split, unmarked⟩
    · rw [cutLast_of_not_mem marked] at cut
      cases cut
  · rintro ⟨rfl, unmarked⟩
    exact cutLast_append_cons unmarked before

end Cutting

end Text
end MailSearch
