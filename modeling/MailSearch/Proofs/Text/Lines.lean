import MailSearch.Proofs.Text.LetterCase
import MailSearch.Text.Occurrence

/-!
# Lines, their lower case and searches in them

A search for a text without line feed finds it in joined lines exactly if it
finds it in one of the lines.  Lower case does not reach over a line feed, not
even for the sigma at the end of a word, so lines may be joined before or after
they are lowered.
-/

namespace MailSearch
namespace Text

/-! ## Searches in joined lines -/

section Joining

variable {α : Type} {mark : α} {needle : List α}

/-- A sequence without the mark stands at the front of a text exactly if it ends
before the mark. -/
theorem prefix_append_cons_iff
    (unmarked : mark ∉ needle)
    (left right : List α) :
    needle <+: left ++ mark :: right ↔ needle <+: left := by
  induction needle generalizing left with
  | nil => simp
  | cons item rest inductionHypothesis =>
      rw [List.mem_cons, not_or] at unmarked
      obtain ⟨different, unmarkedRest⟩ := unmarked
      cases left with
      | nil => simp [Ne.symm different]
      | cons first others =>
          rw [List.cons_append, List.cons_prefix_cons, List.cons_prefix_cons,
            inductionHypothesis unmarkedRest]

/-- A sequence without the mark does not reach over it. -/
theorem infix_append_cons_iff
    (unmarked : mark ∉ needle)
    (left right : List α) :
    needle <:+: left ++ mark :: right ↔ needle <:+: left ∨
      needle <:+: right := by
  induction left with
  | nil =>
      have front := prefix_append_cons_iff unmarked [] right
      rw [List.nil_append] at front
      rw [List.nil_append, List.infix_cons_iff, front, List.prefix_nil,
        List.infix_nil]
  | cons first others inductionHypothesis =>
      rw [List.cons_append, List.infix_cons_iff, List.infix_cons_iff,
        inductionHypothesis, ← List.cons_append,
        prefix_append_cons_iff unmarked, or_assoc]

theorem joinWith_cons_cons
    (mark : α)
    (item next : List α)
    (rest : List (List α)) :
    joinWith [mark] (item :: next :: rest) =
      item ++ mark :: joinWith [mark] (next :: rest) := by
  rw [joinWith, List.append_assoc, List.singleton_append]
  intro absurd
  cases absurd

theorem joinWith_cons
    (mark : α)
    (item : List α)
    (rest : List (List α)) :
    joinWith [mark] (item :: rest) = item ++ rest.flatMap fun next =>
      mark :: next := by
  induction rest generalizing item with
  | nil => rw [joinWith, List.flatMap_nil, List.append_nil]
  | cons next others inductionHypothesis =>
      rw [joinWith_cons_cons, inductionHypothesis, List.flatMap_cons,
        List.cons_append]

/-- Lines are joined in two groups, and these with each other. -/
theorem joinWith_append
    {left right : List (List α)}
    (leftNonempty : left ≠ [])
    (rightNonempty : right ≠ [])
    (mark : α) :
    joinWith [mark] (left ++ right) = joinWith [mark] left ++ mark ::
      joinWith [mark] right := by
  obtain ⟨first, others, rfl⟩ := List.exists_cons_of_ne_nil leftNonempty
  obtain ⟨next, later, rfl⟩ := List.exists_cons_of_ne_nil rightNonempty
  rw [List.cons_append, joinWith_cons, joinWith_cons, joinWith_cons,
    List.flatMap_append, List.flatMap_cons, List.append_assoc, List.cons_append]

/-- What stands in one of some lines stands in the joined lines. -/
theorem infix_joinWith_of_mem
    {item : List α}
    {items : List (List α)}
    (member : item ∈ items)
    (mark : α) :
    item <:+: joinWith [mark] items := by
  induction items with
  | nil => cases member
  | cons first rest inductionHypothesis =>
      cases rest with
      | nil =>
          obtain rfl := List.mem_singleton.1 member
          exact List.infix_rfl
      | cons next others =>
          rw [joinWith_cons_cons]
          rcases List.mem_cons.1 member with rfl | later
          · exact (List.prefix_append item _).isInfix
          · exact (List.infix_cons (inductionHypothesis later)).trans
              (List.suffix_append first _).isInfix

/-- Something without a mark stands in joined lines exactly if it stands in one
of them. -/
theorem infix_joinWith_iff
    (nonempty : needle ≠ [])
    (unmarked : mark ∉ needle)
    {items : List (List α)} :
    needle <:+: joinWith [mark] items ↔ ∃ item ∈ items, needle <:+: item := by
  induction items with
  | nil => simp [joinWith, nonempty]
  | cons first rest inductionHypothesis =>
      cases rest with
      | nil => simp [joinWith]
      | cons next others =>
          rw [joinWith_cons_cons, infix_append_cons_iff unmarked,
            inductionHypothesis]
          simp only [List.mem_cons, exists_eq_or_imp]

end Joining

/-! ## Lower case of joined lines -/

theorem lowerChar_ne_nil (c : Char) : lowerChar c ≠ [] := by
  unfold lowerChar
  split
  · simp
  · split
    · simp
    · split <;> simp

/-- Only the empty text has an empty lower case. -/
theorem lower_ne_nil
    {text : List Char}
    (nonempty : text ≠ []) :
    lower text ≠ [] := by
  cases text with
  | nil => exact absurd rfl nonempty
  | cons c rest =>
      rw [lower, lowerAfter]
      intro absurd
      have small := (List.append_eq_nil_iff.1 absurd).1
      split at small
      · split at small <;> cases small
      · exact lowerChar_ne_nil c small

/-- A character that ends the search for a cased letter beside a sigma. -/
structure Neutral (c : Char) : Prop where
  /-- The character is no cased letter. -/
  notCased : isCased c = false
  /-- The character is not passed over. -/
  notIgnorable : isCaseIgnorable c = false

theorem neutral_feed : Neutral '\n' where
  notCased := by decide +kernel
  notIgnorable := by decide +kernel

/-- Behind a neutral character no letter is looked for. -/
theorem Neutral.startsCased_append
    {neutral : Char}
    (isNeutral : Neutral neutral)
    (text rest : List Char) :
    startsCased (text ++ neutral :: rest) = startsCased text := by
  induction text with
  | nil =>
      rw [List.nil_append, startsCased,
        List.dropWhile_cons_of_neg (Bool.eq_false_iff.1 isNeutral.notIgnorable)]
      exact isNeutral.notCased
  | cons c others inductionHypothesis =>
      unfold startsCased at inductionHypothesis ⊢
      rw [List.cons_append]
      cases ignorable : isCaseIgnorable c with
      | true =>
          rw [List.dropWhile_cons_of_pos ignorable,
            List.dropWhile_cons_of_pos ignorable]
          exact inductionHypothesis
      | false =>
          have kept := Bool.eq_false_iff.1 ignorable
          rw [List.dropWhile_cons_of_neg kept, List.dropWhile_cons_of_neg kept]

/-- What stands before a line feed has no part in the lower case of what
follows. -/
theorem lowerAfter_append_feed
    (before older text : List Char) :
    lowerAfter (before ++ '\n' :: older) text = lowerAfter before text := by
  induction text generalizing before with
  | nil => rfl
  | cons c rest inductionHypothesis =>
      rw [lowerAfter, lowerAfter, neutral_feed.startsCased_append,
        ← List.cons_append, inductionHypothesis]

theorem lowerAfter_text_append_feed
    (before left right : List Char) :
    lowerAfter before (left ++ '\n' :: right) =
      lowerAfter before left ++ '\n' :: lower right := by
  induction left generalizing before with
  | nil =>
      have fresh := lowerAfter_append_feed [] before right
      rw [List.nil_append] at fresh
      change '\n' :: lowerAfter ('\n' :: before) right = '\n' :: lower right
      rw [fresh, lower]
  | cons c rest inductionHypothesis =>
      rw [List.cons_append, lowerAfter, lowerAfter,
        neutral_feed.startsCased_append, inductionHypothesis, List.append_assoc]

/-- Lines can be joined before or after they are lowered. -/
theorem lower_joinWith
    (items : List (List Char)) :
    lower (joinWith ['\n'] items) = joinWith ['\n'] (items.map lower) := by
  induction items with
  | nil => rfl
  | cons first rest inductionHypothesis =>
      cases rest with
      | nil => rfl
      | cons next others =>
          calc lower (joinWith ['\n'] (first :: next :: others))
              = lower (first ++ '\n' :: joinWith ['\n'] (next :: others)) := by
                rw [joinWith_cons_cons]
            _ = lower first ++ '\n' ::
                lower (joinWith ['\n'] (next :: others)) :=
                lowerAfter_text_append_feed [] first _
            _ = lower first ++ '\n' ::
                joinWith ['\n'] ((next :: others).map lower) := by
                rw [inductionHypothesis]
            _ = joinWith ['\n'] ((first :: next :: others).map lower) := by
                simp only [List.map_cons, joinWith_cons_cons]

/-! ## Marks in lower case -/

/-- A character of ASCII that stands before the letters there. -/
def IsMark (c : Char) : Prop :=
  0 < c.toNat ∧ c.toNat ≤ 0x40

instance : DecidablePred IsMark :=
  fun _ => inferInstanceAs (Decidable (_ ∧ _))

/-- A mark is none of the characters behind it. -/
theorem IsMark.ne_of_lt
    {mark c : Char}
    (isMark : IsMark mark)
    (behind : 0x40 < c.toNat) :
    mark ≠ c := by
  rintro rfl
  exact Nat.not_lt.mpr isMark.2 behind

/-- Capital letters become letters, so only a mark becomes this mark. -/
theorem IsMark.toLower_ne
    {mark : Char}
    (isMark : IsMark mark)
    {c : Char}
    (different : c ≠ mark) :
    c.toLower ≠ mark := by
  unfold Char.toLower
  split
  · rename_i capital
    rintro rfl
    have most := isMark.2
    have least : 65 ≤ c.val.toNat := capital.1
    have bound : c.val.toNat ≤ 90 := capital.2
    have distance : (32 : UInt32).toNat = 32 := rfl
    change (c.val + 32).toNat ≤ 64 at most
    rw [UInt32.toNat_add] at most
    omega
  · exact different

/-- Among the small letters of another character a mark does not stand. -/
theorem IsMark.not_mem_lowerChar
    {mark : Char}
    (isMark : IsMark mark)
    {c : Char}
    (different : c ≠ mark) :
    mark ∉ lowerChar c := by
  have ascii : Utf8.IsAscii mark := Nat.lt_of_le_of_lt isMark.2 (by decide)
  by_cases asciiText : Utf8.IsAscii c
  · rw [lowerChar, if_pos (show c.toNat < 0x80 from asciiText),
      List.mem_singleton]
    exact (isMark.toLower_ne different).symm
  · rcases lowerChar_cases asciiText
      with kelvin | dotted | ⟨small, single, beyond⟩
    · rw [kelvin, List.mem_singleton]
      exact isMark.ne_of_lt (by decide)
    · rw [dotted, List.mem_cons, List.mem_singleton, not_or]
      exact ⟨isMark.ne_of_lt (by decide), isMark.ne_of_lt (by decide)⟩
    · rw [single, List.mem_singleton]
      rintro rfl
      exact beyond ascii

theorem IsMark.not_mem_lowerBetween
    {mark : Char}
    (isMark : IsMark mark)
    {c : Char}
    (different : c ≠ mark)
    (before after : List Char) :
    mark ∉ lowerBetween before after c := by
  rcases lowerBetween_cases before after c with same | ⟨-, final⟩
  · rw [same]
    exact isMark.not_mem_lowerChar different
  · rw [final, List.mem_singleton]
    exact isMark.ne_of_lt (by decide)

/-- A text without a mark lacks it in lower case too. -/
theorem IsMark.not_mem_lower
    {mark : Char}
    (isMark : IsMark mark)
    {text : List Char}
    (unmarked : mark ∉ text) :
    mark ∉ lower text := by
  suffices general : ∀ before, mark ∉ lowerAfter before text from general []
  induction text with
  | nil =>
      intro before absurd
      cases absurd
  | cons c rest inductionHypothesis =>
      rw [List.mem_cons, not_or] at unmarked
      obtain ⟨different, unmarkedRest⟩ := unmarked
      intro before
      rw [lowerAfter_cons, List.mem_append, not_or]
      exact ⟨isMark.not_mem_lowerBetween (Ne.symm different) before rest,
        inductionHypothesis unmarkedRest (c :: before)⟩

end Text
end MailSearch
