import MailSearch.Proofs.Text.Blank
import MailSearch.Proofs.Text.Lines

/-!
# Lower case of parts of a text

A part of a text has the lower case that it has by itself, except for its
capital sigmas: whether one is final depends on the letters around it.  So the
lower case of the part stands in that of the text, at the place of the part,
exactly if each of its capital sigmas is final in both or in neither.
-/

namespace MailSearch
namespace Text

/-! ## Texts between others -/

/-- A part is lowered between what stands before it and behind it. -/
theorem lower_append_append
    (front part back : List Char) :
    lower (front ++ part ++ back) = lowerWithin [] (part ++ back) front ++
      (lowerWithin front.reverse back part ++ lowerAfter (front ++ part).reverse
        back) := by
  rw [lower, List.append_assoc, lowerAfter_append, lowerAfter_append,
    List.append_nil, List.reverse_append]

theorem lowerBetween_eq_iff
    {c : Char}
    {before after otherBefore otherAfter : List Char} :
    lowerBetween before after c = lowerBetween otherBefore otherAfter c ↔
      (c = 'Σ' → isFinal before after = isFinal otherBefore otherAfter) := by
  unfold lowerBetween
  by_cases sigma : c = 'Σ'
  · rw [if_pos sigma, if_pos sigma]
    cases isFinal before after <;> cases isFinal otherBefore otherAfter <;>
      simp [sigma]
  · rw [if_neg sigma, if_neg sigma]
    exact iff_of_true rfl fun absurd => (sigma absurd).elim

theorem length_lowerBetween
    (c : Char)
    (before after otherBefore otherAfter : List Char) :
    (lowerBetween before after c).length =
      (lowerBetween otherBefore otherAfter c).length := by
  unfold lowerBetween
  split
  · split <;> split <;> rfl
  · rfl

theorem length_lowerWithin
    (part before after otherBefore otherAfter : List Char) :
    (lowerWithin before after part).length =
      (lowerWithin otherBefore otherAfter part).length := by
  induction part generalizing before otherBefore with
  | nil => rfl
  | cons c rest inductionHypothesis =>
      rw [lowerWithin, lowerWithin, List.length_append, List.length_append,
        inductionHypothesis _ (c :: otherBefore), length_lowerBetween]

/-- Between other texts a text has the same lower case if its sigmas are final
as before. -/
theorem lowerWithin_eq_iff
    {part before after otherBefore otherAfter : List Char} :
    lowerWithin before after part = lowerWithin otherBefore otherAfter part ↔
      ∀ left right, part = left ++ 'Σ' :: right →
        isFinal (left.reverse ++ before) (right ++ after) =
          isFinal (left.reverse ++ otherBefore) (right ++ otherAfter) := by
  induction part generalizing before otherBefore with
  | nil =>
      exact iff_of_true rfl fun left right absurd =>
        by cases left <;> cases absurd
  | cons c rest inductionHypothesis =>
      have sameLength :=
        length_lowerBetween c before (rest ++ after) otherBefore
        (rest ++ otherAfter)
      rw [lowerWithin, lowerWithin,
        List.append_eq_append_iff_of_size_eq_left sameLength,
          lowerBetween_eq_iff,
        inductionHypothesis]
      constructor
      · rintro ⟨first, others⟩ left right split
        cases left with
        | nil =>
            obtain ⟨rfl, rfl⟩ := List.cons.inj split
            exact first rfl
        | cons head left =>
            obtain ⟨rfl, later⟩ := List.cons.inj split
            have final := others left right later
            rwa [List.reverse_cons, List.append_assoc, List.append_assoc]
      · intro each
        refine ⟨fun sigma => ?_, fun left right split => ?_⟩
        · exact each [] rest (by rw [sigma, List.nil_append])
        · have final := each (c :: left) right (by rw [split, List.cons_append])
          rwa [List.reverse_cons, List.append_assoc, List.append_assoc] at final

/-! ## Sigmas that stay as they are -/

/-- Every capital sigma of a part is final in the text if and only if it is
final in the part. -/
def KeepsSigmas (front part back : List Char) : Prop :=
  ∀ left right, part = left ++ 'Σ' :: right →
    isFinal (left.reverse ++ front.reverse) (right ++ back) =
      isFinal left.reverse right

section Parts

variable {front part back : List Char}

theorem lowerWithin_eq_lower_iff :
    lowerWithin front.reverse back part = lower part ↔
      KeepsSigmas front part back := by
  rw [lower, ← lowerWithin_nil, lowerWithin_eq_iff]
  simp only [List.append_nil]
  rfl

/-- The lower case of a part stands where the part does exactly if its sigmas
stay as they are. -/
theorem keepsSigmas_iff :
    KeepsSigmas front part back ↔
      lowerWithin [] (part ++ back) front ++ lower part <+:
        lower (front ++ part ++ back) := by
  have sameLength :
      (lower part).length = (lowerWithin front.reverse back part).length := by
    rw [lower, ← lowerWithin_nil, length_lowerWithin]
  rw [lower_append_append, List.prefix_append_right_inj,
    ← lowerWithin_eq_lower_iff]
  constructor
  · intro same
    rw [same]
    exact List.prefix_append _ _
  · intro atFront
    have within :=
      List.prefix_of_prefix_length_le atFront (List.prefix_append _ _)
        sameLength.le
    exact (within.eq_of_length sameLength).symm

theorem KeepsSigmas.infix_lower
    (keeps : KeepsSigmas front part back) :
    lower part <:+: lower (front ++ part ++ back) := by
  rw [lower_append_append, lowerWithin_eq_lower_iff.mpr keeps]
  exact ⟨_, _, List.append_assoc _ _ _⟩

theorem keepsSigmas_of_not_mem
    (plain : 'Σ' ∉ part)
    (front back : List Char) :
    KeepsSigmas front part back := by
  rintro left right rfl
  exact absurd (List.mem_append_right left List.mem_cons_self) plain

end Parts

/-! ## Neutral characters beside a part -/

/-- A text is empty or begins with a neutral character. -/
def BeginsNeutral (text : List Char) : Prop :=
  ∀ c, text.head? = some c → Neutral c

theorem beginsNeutral_cons
    {c : Char}
    (neutral : Neutral c)
    (rest : List Char) :
    BeginsNeutral (c :: rest) := by
  rintro _ ⟨⟩
  exact neutral

theorem BeginsNeutral.startsCased_append
    {rest : List Char}
    (begins : BeginsNeutral rest)
    (text : List Char) :
    startsCased (text ++ rest) = startsCased text := by
  cases rest with
  | nil => rw [List.append_nil]
  | cons c others => exact (begins c rfl).startsCased_append text others

/-- A part between neutral characters or ends of the text keeps its sigmas. -/
theorem keepsSigmas_of_neutral
    {front back : List Char}
    (frontNeutral : BeginsNeutral front.reverse)
    (backNeutral : BeginsNeutral back)
    (part : List Char) :
    KeepsSigmas front part back := by
  intro left right _
  rw [isFinal, isFinal, frontNeutral.startsCased_append,
    backNeutral.startsCased_append]

/-- The code points of the blanks. -/
def blankCodes : List Nat :=
  [0x09, 0x0A, 0x0B, 0x0C, 0x0D, 0x20, 0x85, 0xA0, 0x1680, 0x2000, 0x2001,
    0x2002, 0x2003, 0x2004, 0x2005, 0x2006, 0x2007, 0x2008, 0x2009, 0x200A,
    0x2028, 0x2029, 0x202F, 0x205F, 0x3000]

/-- Blanks are neutral. -/
theorem neutral_of_isBlank
    {c : Char}
    (blank : isBlank c = true) :
    Neutral c := by
  have listed : c.toNat ∈ blankCodes := by
    unfold isBlank at blank
    simp only [Bool.or_eq_true, Bool.and_eq_true, decide_eq_true_eq,
      beq_iff_eq] at blank
    simp only [blankCodes, List.mem_cons, List.not_mem_nil, or_false]
    omega
  have each : ∀ code ∈ blankCodes, inRanges casedRanges code = false ∧
      inRanges caseIgnorableRanges code = false := by
    decide +kernel
  obtain ⟨notCased, notIgnorable⟩ := each c.toNat listed
  exact ⟨notCased, notIgnorable⟩

theorem beginsNeutral_of_blanks
    {text : List Char}
    (blanks : ∀ c ∈ text, isBlank c = true) :
    BeginsNeutral text := by
  intro c isFirst
  exact neutral_of_isBlank (blanks c (List.mem_of_head? isFirst))

/-! ## Trimmed texts -/

theorem trimFront_append_of_head?
    {text : List Char}
    (solid : ∃ c, text.head? = some c ∧ isBlank c = false)
    (front : List Char) :
    trimFront (front ++ text) = trimFront front ++ text := by
  obtain ⟨c, isFirst, notBlank⟩ := solid
  obtain ⟨rest, rfl⟩ := List.head?_eq_some_iff.mp isFirst
  rw [trimFront, List.dropWhile_append, trimFront]
  split
  · rename_i none
    rw [List.isEmpty_iff.mp none, List.nil_append,
      List.dropWhile_cons_of_neg (Bool.eq_false_iff.mp notBlank)]
  · rfl

theorem trimBack_eq
    (text : List Char) :
    trimBack text = (trimFront text.reverse).reverse := rfl

/-- Only blanks are trimmed away, which are neutral. -/
theorem startsCased_append_trimBack
    (text rest : List Char) :
    startsCased (text ++ trimBack rest) = startsCased (text ++ rest) := by
  have blanks : ∀ c ∈ (rest.reverse.takeWhile isBlank).reverse,
      isBlank c = true := by
    intro c isMember
    exact List.mem_takeWhile_imp (List.mem_reverse.mp isMember)
  have split :
      rest = trimBack rest ++ (rest.reverse.takeWhile isBlank).reverse := by
    rw [trimBack, ← List.reverse_append, List.takeWhile_append_dropWhile,
      List.reverse_reverse]
  conv => rhs; rw [split, ← List.append_assoc]
  rw [(beginsNeutral_of_blanks blanks).startsCased_append]

/-- Around a framed part, trimming takes away from what stands before and behind
it. -/
theorem trim_append_append
    {part : List Char}
    (framed : Framed part)
    (front back : List Char) :
    trim (front ++ part ++ back) = trimFront front ++ part ++
      trimBack back := by
  have first : ∃ c, (part ++ back).head? = some c ∧ isBlank c = false := by
    obtain ⟨c, isFirst, notBlank⟩ := framed.first
    exact ⟨c, by rw [List.head?_append, isFirst, Option.some_or], notBlank⟩
  have last : ∃ c, (trimFront front ++ part).reverse.head? = some c ∧
      isBlank c = false := by
    obtain ⟨c, isLast, notBlank⟩ := framed.last
    exact ⟨c,
      by rw [List.head?_reverse, List.getLast?_append, isLast, Option.some_or],
      notBlank⟩
  rw [trim, List.append_assoc, trimFront_append_of_head? first,
    ← List.append_assoc, trimBack_eq, List.reverse_append,
    trimFront_append_of_head? last, List.reverse_append,
    List.reverse_reverse, ← trimBack_eq]

/-! ## Parts of texts -/

/-- A text stands in another one with its capital sigmas as they are. -/
def StandsIn (part text : List Char) : Prop :=
  ∃ front back, text = front ++ part ++ back ∧ KeepsSigmas front part back

namespace StandsIn

variable {part text : List Char}

theorem infix_lower
    (stands : StandsIn part text) :
    lower part <:+: lower text := by
  obtain ⟨front, back, rfl, keeps⟩ := stands
  exact keeps.infix_lower

theorem of_not_mem
    (plain : 'Σ' ∉ part)
    (isPart : part <:+: text) :
    StandsIn part text := by
  obtain ⟨front, back, rfl⟩ := isPart
  exact ⟨front, back, rfl, keepsSigmas_of_not_mem plain front back⟩

/-- A framed part stands in the trimmed text as it does in the text. -/
theorem trim
    (framed : Framed part)
    (stands : StandsIn part text) :
    StandsIn part (trim text) := by
  obtain ⟨front, back, rfl, keeps⟩ := stands
  refine ⟨trimFront front, trimBack back,
    trim_append_append framed front back, ?_⟩
  intro left right split
  rw [← keeps left right split]
  have before : (trimFront front).reverse = trimBack front.reverse := by
    rw [trimBack_eq, List.reverse_reverse]
  rw [isFinal, isFinal, before, startsCased_append_trimBack,
    startsCased_append_trimBack]

end StandsIn

end Text
end MailSearch
