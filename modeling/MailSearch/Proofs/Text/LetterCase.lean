import Mathlib.Data.List.Infix
import MailSearch.Proofs.Text.Utf8
import MailSearch.Text.LetterCase
import MailSearch.Text.Occurrence

/-!
# The bytes of lower case

Most letters take as many bytes in lower case as they do themselves, and what
stands around a letter has no effect on that.  Only the letters of ASCII have
ASCII in lower case, but for the Kelvin sign and the dotted `İ`.  So an ASCII
text that their small letters do not fit is found in the bytes of the lower case
exactly where it stands in the text in some letter case.  Names that differ in
the case of ASCII letters only are the same for every comparison.
-/

namespace MailSearch
namespace Text

open Utf8 (encode IsAscii)

/-- The lower case of a character takes as many bytes as the character. -/
def KeepsWidth (c : Char) : Prop :=
  (encode (lowerChar c)).length = (String.utf8EncodeChar c).length

instance : DecidablePred KeepsWidth :=
  fun _ => inferInstanceAs (Decidable (_ = _))

/-- A text begins with a mark in some letter case. -/
def Spells (mark text : List Char) : Prop :=
  mark <+: text.map Char.toLower

instance (mark text : List Char) : Decidable (Spells mark text) :=
  inferInstanceAs (Decidable (_ <+: _))

/-- A text holds a mark in some letter case. -/
def Mentions (mark text : List Char) : Prop :=
  mark <:+: text.map Char.toLower

instance (mark text : List Char) : Decidable (Mentions mark text) :=
  decidable_of_iff (occursIn mark (text.map Char.toLower) = true)
    (occursIn_iff _ _)

section Spelling

variable {mark text : List Char}

theorem Spells.length_le
    (spelled : Spells mark text) :
    mark.length ≤ text.length := by
  have atMost := List.IsPrefix.length_le spelled
  rwa [List.length_map] at atMost

theorem Spells.mentions
    (spelled : Spells mark text) :
    Mentions mark text :=
  List.IsPrefix.isInfix spelled

theorem mentions_cons_iff
    {c : Char} :
    Mentions mark (c :: text) ↔ Spells mark (c :: text) ∨
      Mentions mark text := by
  rw [Mentions, List.map_cons, List.infix_cons_iff]
  rfl

theorem Mentions.of_suffix
    {tail : List Char}
    (mentioned : Mentions mark tail)
    (isSuffix : tail <:+ text) :
    Mentions mark text :=
  List.IsInfix.trans mentioned (isSuffix.map Char.toLower).isInfix

end Spelling

/-! ## One character -/

theorem toLower_of_not_isAscii
    {c : Char}
    (notAscii : ¬ IsAscii c) :
    c.toLower = c := by
  have least : 0x80 ≤ c.val.toNat := Nat.le_of_not_lt notAscii
  unfold Char.toLower
  rw [dif_neg]
  rintro ⟨-, most⟩
  have bound : c.val.toNat ≤ 90 := most
  omega

theorem isAscii_toLower
    {c : Char}
    (ascii : IsAscii c) :
    IsAscii c.toLower := by
  have small : ∀ code < 0x80, (Char.ofNat code).toLower.toNat < 0x80 := by
    decide +kernel
  have found := small c.toNat ascii
  rwa [Char.ofNat_toNat] at found

theorem isAscii_of_toLower
    {c : Char}
    (ascii : IsAscii c.toLower) :
    IsAscii c := by
  by_contra beyond
  rw [toLower_of_not_isAscii beyond] at ascii
  exact beyond ascii

theorem keepsWidth_of_isAscii
    {c : Char}
    (ascii : IsAscii c) :
    KeepsWidth c := by
  rw [KeepsWidth, lowerChar, if_pos (show c.toNat < 0x80 from ascii),
    Utf8.encode_singleton, Utf8.utf8EncodeChar_of_isAscii ascii,
    Utf8.utf8EncodeChar_of_isAscii (isAscii_toLower ascii)]
  rfl

/-- A text that spells a mark of ASCII begins with ASCII characters, as many as
the mark has. -/
theorem exists_of_spells
    {mark text : List Char}
    (ascii : ∀ c ∈ mark, IsAscii c)
    (spelled : Spells mark text) :
    ∃ front rest, text = front ++ rest ∧ front.length = mark.length ∧
      ∀ c ∈ front, IsAscii c := by
  have split := List.prefix_iff_eq_take.mp spelled
  rw [← List.map_take] at split
  refine ⟨text.take mark.length, text.drop mark.length,
    (List.take_append_drop mark.length text).symm, ?_, ?_⟩
  · have lengths := congrArg List.length split
    rw [List.length_map] at lengths
    exact lengths.symm
  · intro c isFront
    apply isAscii_of_toLower
    apply ascii
    rw [split]
    exact List.mem_map_of_mem isFront

/-- The small letters of a run are beyond ASCII, but for that of the Kelvin
sign. -/
theorem small_of_mem_caseRuns :
    ∀ run ∈ caseRuns, run.last = run.first ∧
        (run.first : Int) + run.shift = 'k'.toNat ∨
      0x80 ≤ (run.first : Int) + run.shift ∧
        ((run.last : Int) + run.shift < 0xD800 ∨
          0xDFFF < (run.first : Int) + run.shift ∧
            (run.last : Int) + run.shift < 0x110000) := by
  decide +kernel

/-- Beyond ASCII only the Kelvin sign and the dotted `İ` have ASCII in lower
case. -/
theorem lowerChar_cases
    {c : Char}
    (notAscii : ¬ IsAscii c) :
    lowerChar c = ['k'] ∨ lowerChar c = ['i', '\u0307'] ∨
      ∃ small, lowerChar c = [small] ∧ ¬ IsAscii small := by
  by_cases dotted : c = 'İ'
  · subst dotted
    exact .inr (.inl (by decide +kernel))
  · rw [lowerChar, if_neg (show ¬ c.toNat < 0x80 from notAscii), if_neg dotted]
    split
    · rename_i run found
      have inRun := List.find?_some found
      simp only [Bool.and_eq_true, decide_eq_true_eq] at inRun
      rcases small_of_mem_caseRuns run (List.mem_of_find?_eq_some found)
        with kelvin | beyond
      · have code : ((c.toNat : Int) + run.shift).toNat = 'k'.toNat := by omega
        rw [code]
        exact .inl rfl
      · refine .inr (.inr ⟨_, rfl, ?_⟩)
        generalize isCode : ((c.toNat : Int) + run.shift).toNat = code
        have valid : code.isValidChar := by
          unfold Nat.isValidChar
          omega
        have direct : Char.ofNat code = Char.ofNatAux code valid :=
          dif_pos valid
        rw [direct]
        change ¬ code < 0x80
        omega
    · exact .inr (.inr ⟨c, rfl, notAscii⟩)

/-! ## The characters of a text -/

/-- A capital sigma between two texts, the first one backwards, is final. -/
def isFinal (before after : List Char) : Bool :=
  startsCased before && !startsCased after

/-- The small letters of a character between two texts, the first one
backwards. -/
def lowerBetween (before after : List Char) (c : Char) : List Char :=
  if c = 'Σ' then
    if isFinal before after then ['ς'] else ['σ']
  else lowerChar c

/-- The lower case of a text between two others, the first one backwards. -/
def lowerWithin (before after : List Char) : List Char -> List Char
  | [] => []
  | c :: rest =>
      lowerBetween before (rest ++ after) c ++ lowerWithin (c :: before)
        after rest

/-- A text is lowered up to any place, and from there on behind what was
lowered. -/
theorem lowerAfter_append
    (before text after : List Char) :
    lowerAfter before (text ++ after) =
      lowerWithin before after text ++ lowerAfter (text.reverse ++ before)
        after := by
  induction text generalizing before with
  | nil => rfl
  | cons c rest inductionHypothesis =>
      rw [List.cons_append, lowerAfter, inductionHypothesis, lowerWithin,
        List.append_assoc, List.reverse_cons, List.append_assoc,
        List.singleton_append]
      rfl

theorem lowerAfter_cons
    (before : List Char)
    (c : Char)
    (rest : List Char) :
    lowerAfter before (c :: rest) = lowerBetween before rest c ++
      lowerAfter (c :: before) rest :=
  rfl

theorem lowerWithin_nil
    (before text : List Char) :
    lowerWithin before [] text = lowerAfter before text := by
  have whole := lowerAfter_append before text []
  rwa [List.append_nil, lowerAfter, List.append_nil, eq_comm] at whole

/-- What stands around a character decides at most whether it is a final
sigma. -/
theorem lowerBetween_cases
    (before after : List Char)
    (c : Char) :
    lowerBetween before after c = lowerChar c ∨ c = 'Σ' ∧
      lowerBetween before after c = ['ς'] := by
  have inner : lowerChar 'Σ' = ['σ'] := by decide +kernel
  unfold lowerBetween
  by_cases sigma : c = 'Σ'
  · subst sigma
    rw [if_pos rfl, inner]
    split
    · exact .inr ⟨rfl, rfl⟩
    · exact .inl rfl
  · exact .inl (if_neg sigma)

/-! ## The width of lower case -/

/-- The number of bytes that a text takes in lower case. -/
def lowerWidth (text : List Char) : Nat :=
  (encode (lower text)).length

section Width

variable {left right text : List Char}

/-- What stands around a text has no effect on the number of bytes that it takes
in lower case. -/
theorem length_encode_lowerWithin
    (before after text : List Char) :
    (encode (lowerWithin before after text)).length =
      (encode (text.flatMap lowerChar)).length := by
  induction text generalizing before with
  | nil => rfl
  | cons c rest inductionHypothesis =>
      have width : (encode (lowerBetween before (rest ++ after) c)).length =
          (encode (lowerChar c)).length := by
        rcases lowerBetween_cases before (rest ++ after) c
          with same | ⟨rfl, final⟩
        · rw [same]
        · rw [final]
          decide +kernel
      rw [lowerWithin, List.flatMap_cons, Utf8.encode_append,
        Utf8.encode_append, List.length_append, List.length_append, width,
        inductionHypothesis]

theorem lowerWidth_eq_flatMap
    (text : List Char) :
    lowerWidth text = (encode (text.flatMap lowerChar)).length := by
  rw [lowerWidth, lower, ← lowerWithin_nil, length_encode_lowerWithin]

theorem length_encode_lowerWithin_eq_lowerWidth
    (before after text : List Char) :
    (encode (lowerWithin before after text)).length = lowerWidth text := by
  rw [length_encode_lowerWithin, lowerWidth_eq_flatMap]

/-- A text takes as many bytes in lower case as it does itself if its characters
do. -/
theorem lowerWidth_eq
    (keeps : ∀ c ∈ text, KeepsWidth c) :
    lowerWidth text = (encode text).length := by
  rw [lowerWidth_eq_flatMap]
  induction text with
  | nil => rfl
  | cons c rest inductionHypothesis =>
      obtain ⟨first, others⟩ := List.forall_mem_cons.mp keeps
      rw [List.flatMap_cons, Utf8.encode_append, List.length_append, first,
        inductionHypothesis others, Utf8.encode_cons, List.length_append]

end Width

/-! ## Marks in lower case -/

/--
A mark of ASCII that only the same letters have in lower case: it has no `k`,
which the Kelvin sign becomes, and does not end in `i`, which begins the lower
case of the dotted `İ`.
-/
structure IsUnmistakable (mark : List Char) : Prop where
  /-- The mark is ASCII. -/
  ascii : ∀ c ∈ mark, IsAscii c
  /-- The mark has no `k`. -/
  noKelvin : 'k' ∉ mark
  /-- The mark does not end in `i`. -/
  notDotted : mark.getLast? ≠ some 'i'

theorem IsUnmistakable.tail
    {first : Char}
    {others : List Char}
    (isMark : IsUnmistakable (first :: others)) :
    IsUnmistakable others := by
  refine ⟨(List.forall_mem_cons.mp isMark.ascii).2,
    fun isKelvin => isMark.noKelvin (List.mem_cons_of_mem first isKelvin), ?_⟩
  have notDotted := isMark.notDotted
  cases others with
  | nil => nofun
  | cons second rest => rwa [List.getLast?_cons_cons] at notDotted

/-- The bytes of the small letters of a character beyond ASCII do not begin a
mark. -/
theorem IsUnmistakable.not_prefix
    {mark : List Char}
    (isMark : IsUnmistakable mark)
    (nonempty : mark ≠ [])
    {c : Char}
    (beyond : ¬ IsAscii c)
    (before rest : List Char) :
    ¬ encode mark <+: encode (lowerAfter before (c :: rest)) := by
  obtain ⟨first, others, rfl⟩ := List.exists_cons_of_ne_nil nonempty
  have asciiFirst := isMark.ascii first List.mem_cons_self
  rw [lowerAfter_cons]
  rcases lowerBetween_cases before rest c with same | ⟨-, final⟩
  · rw [same]
    rcases lowerChar_cases beyond with kelvin | dotted | ⟨small, single, large⟩
    · rw [kelvin, List.singleton_append, Utf8.encode_cons_of_isAscii asciiFirst,
        Utf8.encode_cons_of_isAscii (by decide), List.cons_prefix_cons,
        asciiFirst.ofNat_inj (by decide)]
      rintro ⟨rfl, -⟩
      exact isMark.noKelvin List.mem_cons_self
    · rw [dotted, List.cons_append, Utf8.encode_cons_of_isAscii asciiFirst,
        Utf8.encode_cons_of_isAscii (by decide), List.cons_prefix_cons,
        asciiFirst.ofNat_inj (by decide)]
      rintro ⟨rfl, isPrefix⟩
      cases others with
      | nil => exact isMark.notDotted rfl
      | cons second rest =>
          have asciiSecond := isMark.tail.ascii second List.mem_cons_self
          exact Utf8.not_encode_cons_prefix asciiSecond (by decide) _ _ isPrefix
    · rw [single]
      exact Utf8.not_encode_cons_prefix asciiFirst large _ _
  · rw [final]
    exact Utf8.not_encode_cons_prefix asciiFirst (by decide) _ _

/-- A mark stands at the front of the lower case of a text if the text spells
it. -/
theorem encode_prefix_lowerAfter_iff
    {mark : List Char}
    (isMark : IsUnmistakable mark)
    (before text : List Char) :
    encode mark <+: encode (lowerAfter before text) ↔ Spells mark text := by
  induction mark generalizing text before with
  | nil => exact ⟨fun _ => List.nil_prefix, fun _ => List.nil_prefix⟩
  | cons first others inductionHypothesis =>
      have asciiFirst := isMark.ascii first List.mem_cons_self
      cases text with
      | nil =>
          rw [Utf8.encode_cons_of_isAscii asciiFirst, lowerAfter]
          simp [encode, Spells]
      | cons c rest =>
          by_cases ascii : IsAscii c
          · have notSigma : c ≠ 'Σ' := by
              rintro rfl
              exact absurd ascii (by decide)
            rw [lowerAfter, if_neg notSigma, lowerChar,
              if_pos (show c.toNat < 0x80 from ascii), List.singleton_append,
              Utf8.encode_cons_of_isAscii asciiFirst,
              Utf8.encode_cons_of_isAscii (isAscii_toLower ascii),
                List.cons_prefix_cons,
              asciiFirst.ofNat_inj (isAscii_toLower ascii),
                inductionHypothesis isMark.tail,
              Spells, Spells, List.map_cons, List.cons_prefix_cons]
          · refine iff_of_false
              (isMark.not_prefix (List.cons_ne_nil _ _) ascii before rest) ?_
            rw [Spells, List.map_cons, List.cons_prefix_cons,
              toLower_of_not_isAscii ascii]
            rintro ⟨rfl, -⟩
            exact ascii asciiFirst

/-! ## Names in any letter case -/

theorem asciiLowercase_eq_empty_iff
    {name : String} :
    asciiLowercase name = "" ↔ name = "" := by
  rw [asciiLowercase, String.ofList_eq_empty_iff, List.map_eq_nil_iff,
    String.toList_eq_nil_iff]

theorem sameAscii_iff
    {left right : String} :
    sameAscii left right = true ↔ asciiLowercase left = asciiLowercase right :=
  beq_iff_eq

@[simp] theorem sameAscii_self
    (name : String) :
    sameAscii name name = true :=
  sameAscii_iff.mpr rfl

theorem sameAscii_comm
    (left right : String) :
    sameAscii left right = sameAscii right left :=
  Bool.beq_comm

/-- Names in the same letters are the same as the same names. -/
theorem sameAscii_congr
    {left right : String}
    (same : sameAscii left right = true)
    (name : String) :
    sameAscii name left = sameAscii name right := by
  rw [sameAscii, sameAscii, sameAscii_iff.mp same]

end Text
end MailSearch
