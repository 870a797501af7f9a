import MailSearch.Proofs.Mime.Blocks
import MailSearch.Proofs.Mime.PlainLines
import MailSearch.Proofs.Text.Replacing

/-!
# Escaped text

A plain text is written in HTML with entities for the characters that mean
something there. Converting that back gives the text in normal form, whatever it
looks like: an entity is decoded once, and what it stands for is no part of a
tag or of another entity.
-/

namespace MailSearch
namespace Html

open Text (ClearOf replaceAll)

/-! ## Writing a text in HTML -/

/-- How a character is written in HTML; an apostrophe may be written by name or
by number. -/
def escapeChar (byName : Bool) (c : Char) : List Char :=
  if c = '&' then "&amp;".toList
  else if c = '<' then "&lt;".toList
  else if c = '>' then "&gt;".toList
  else if c = '"' then "&quot;".toList
  else if c = '\'' then if byName then "&apos;".toList else "&#39;".toList
  else [c]

/-- A text written in HTML, with a choice for the character at each place. -/
def escape (byName : Nat -> Bool) (text : List Char) : List Char :=
  text.zipIdx.flatMap fun (c, place) => escapeChar (byName place) c

/-- The characters that are written as entities. -/
def escaped : List Char :=
  ['&', '<', '>', '"', '\'']

theorem escapeChar_of_not_mem
    {c : Char}
    (plain : c ∉ escaped)
    (byName : Bool) :
    escapeChar byName c = [c] := by
  simp only [escaped, List.mem_cons, List.not_mem_nil, or_false,
    not_or] at plain
  obtain ⟨notAmpersand, notLess, notGreater, notQuote, notApostrophe⟩ := plain
  rw [escapeChar, if_neg notAmpersand, if_neg notLess, if_neg notGreater,
    if_neg notQuote, if_neg notApostrophe]

/-- No bracket of a tag is left in a text that is written in HTML. -/
theorem not_mem_escape
    {bracket : Char}
    (isBracket : bracket = '<' ∨ bracket = '>')
    (byName : Nat -> Bool)
    (text : List Char) :
    bracket ∉ escape byName text := by
  intro written
  obtain ⟨⟨c, place⟩, -, inChar⟩ := List.mem_flatMap.mp written
  have special : ∀ byName, ∀ c ∈ escaped,
      '<' ∉ escapeChar byName c ∧ '>' ∉ escapeChar byName c := by
    decide
  by_cases isSpecial : c ∈ escaped
  · rcases isBracket with rfl | rfl
    · exact (special _ c isSpecial).1 inChar
    · exact (special _ c isSpecial).2 inChar
  · dsimp only at inChar
    rw [escapeChar_of_not_mem isSpecial, List.mem_singleton] at inChar
    subst inChar
    rcases isBracket with rfl | rfl
    · exact isSpecial (by decide)
    · exact isSpecial (by decide)

/-! ## Replacements in words -/

/--
Some replacements, one after the other, work on a word by itself: each one finds
the word to be its pattern, or clear of it.
-/
def Separate : List Replacement -> List Char -> Prop
  | [], _ => True
  | rule :: rules, word =>
      (word = rule.pattern.toList ∨ ClearOf rule.pattern.toList word) ∧
        Separate rules (rule.apply word)

instance : ∀ rules word, Decidable (Separate rules word)
  | [], _ => isTrue trivial
  | rule :: rules, word =>
      have : Decidable (Separate rules (rule.apply word)) :=
        instDecidableSeparate rules _
      inferInstanceAs (Decidable (_ ∧ _))

/-- Replacements that work on each word by itself change a text word by word. -/
theorem applyAll_flatMap
    {α : Type}
    {items : List α}
    {rules : List Replacement}
    (nonempty : ∀ rule ∈ rules, rule.pattern.toList ≠ [])
    {write : α -> List Char}
    (separate : ∀ item ∈ items, Separate rules (write item)) :
    applyAll rules (items.flatMap write) = items.flatMap fun item =>
      applyAll rules (write item) := by
  induction rules generalizing write with
  | nil => rfl
  | cons rule rules inductionHypothesis =>
      obtain ⟨nonemptyFirst, nonemptyRest⟩ := List.forall_mem_cons.mp nonempty
      have word : rule.apply (items.flatMap write) =
          items.flatMap fun item => rule.apply (write item) :=
        Text.replaceAll_flatMap nonemptyFirst
          (fun item isItem => (separate item isItem).1) _
      calc applyAll (rule :: rules) (items.flatMap write)
          = applyAll rules (rule.apply (items.flatMap write)) := rfl
        _ = applyAll rules (items.flatMap fun item =>
          rule.apply (write item)) := by rw [word]
        _ = items.flatMap fun item => applyAll (rule :: rules) (write item) :=
            inductionHypothesis nonemptyRest fun item isItem =>
              (separate item isItem).2

/-- A character that begins no pattern is left alone. -/
theorem separate_singleton
    {c : Char}
    {rules : List Replacement}
    (different : ∀ rule ∈ rules, ∃ first,
      rule.pattern.toList.head? = some first ∧ first ≠ c) :
    Separate rules [c] ∧ applyAll rules [c] = [c] := by
  induction rules with
  | nil => exact ⟨trivial, rfl⟩
  | cons rule rules inductionHypothesis =>
      obtain ⟨⟨first, begins, notFirst⟩, others⟩ :=
        List.forall_mem_cons.mp different
      have clear :=
        Text.clearOf_of_not_mem begins (mt List.mem_singleton.mp notFirst)
      have same : rule.apply [c] = [c] := Text.replaceAll_of_clearOf clear _
      have later := inductionHypothesis others
      rw [Separate, same]
      refine ⟨⟨.inr clear, later.1⟩, ?_⟩
      calc applyAll (rule :: rules) [c] = applyAll rules (rule.apply [c]) := rfl
        _ = [c] := by rw [same, later.2]

/-! ## Decoding -/

/-- An escaped character is decoded as itself, whatever stands beside it. -/
theorem decode_escapeChar
    (byName : Bool)
    (c : Char) :
    Separate entities (escapeChar byName c) ∧
      applyAll entities (escapeChar byName c) = [c] := by
  have special : ∀ byName, ∀ c ∈ escaped,
      Separate entities (escapeChar byName c) ∧
      applyAll entities (escapeChar byName c) = [c] := by
    decide +kernel
  -- Every entity begins with an ampersand, so the other characters are touched
  -- by none.
  by_cases isSpecial : c ∈ escaped
  · exact special byName c isSpecial
  · rw [escapeChar_of_not_mem isSpecial]
    have begins : ∀ rule ∈ entities, rule.pattern.toList.head? = some '&' := by
      decide
    refine separate_singleton fun rule isRule => ⟨'&', begins rule isRule, ?_⟩
    rintro rfl
    exact isSpecial (by decide)

/-- The entities of an escaped text are decoded to the text. -/
theorem decode_escape
    (byName : Nat -> Bool)
    (text : List Char) :
    applyAll entities (escape byName text) = text := by
  have nonempty : ∀ rule ∈ entities, rule.pattern.toList ≠ [] := by
    decide
  rw [escape, applyAll_flatMap nonempty fun _ _ => (decode_escapeChar _ _).1]
  calc text.zipIdx.flatMap (fun (c, place) =>
        applyAll entities (escapeChar (byName place) c))
      = text.zipIdx.flatMap (fun (c, _) => [c]) := by
        simp only [(decode_escapeChar _ _).2]
    _ = text.zipIdx.map Prod.fst := List.map_eq_flatMap.symm
    _ = text := List.zipIdx_map_fst 0 text

/-! ## Texts without tags -/

theorem stripTags_of_not_mem
    {text : List Char}
    (noLess : '<' ∉ text)
    (noGreater : '>' ∉ text) :
    stripTags false text = text := by
  induction text with
  | nil => rfl
  | cons c rest inductionHypothesis =>
      rw [List.mem_cons, not_or] at noLess noGreater
      rw [stripTags, if_neg (Ne.symm noLess.1), if_neg (Ne.symm noGreater.1),
        inductionHypothesis noLess.2 noGreater.2]
      rfl

/-- Replacements of texts with a character do not change a text without it. -/
theorem applyAll_of_not_mem
    {c : Char}
    {rules : List Replacement}
    (inPattern : ∀ rule ∈ rules, c ∈ rule.pattern.toList)
    {text : List Char}
    (absent : c ∉ text) :
    applyAll rules text = text := by
  induction rules with
  | nil => rfl
  | cons rule rules inductionHypothesis =>
      obtain ⟨first, others⟩ := List.forall_mem_cons.mp inPattern
      have same : rule.apply text = text :=
        Text.replaceAll_of_not_mem first absent _
      calc
        applyAll (rule :: rules) text = applyAll rules (rule.apply text) := rfl
        _ = text := by rw [same, inductionHypothesis others]

theorem applyAll_lineBreaks_of_not_mem
    {text : List Char}
    (noLess : '<' ∉ text) :
    applyAll lineBreaks text = text :=
  applyAll_of_not_mem (by decide) noLess

/-- A text that is written in HTML is converted back to its normal form. -/
theorem escaped_text_converts_back
    (byName : Nat -> Bool)
    (text : String) :
    plainText (String.ofList (escape byName text.toList)) =
      some (String.ofList (normalForm text.toList)) := by
  have noLess := not_mem_escape (.inl rfl) byName text.toList
  have noGreater := not_mem_escape (.inr rfl) byName text.toList
  rw [plainText, String.toList_ofList,
      plainChars_of_removed (removeBlocks_of_not_mem noLess _)
    (removeBlocks_of_not_mem noLess _), Option.map_some, shown,
    applyAll_lineBreaks_of_not_mem noLess,
      stripTags_of_not_mem noLess noGreater, decode_escape,
    tidy_eq_normalForm]

/-- Text that looks like tags and entities comes out as it is. -/
example :
    plainText (String.ofList (escape
        (fun _ => true) "<script> &amp;lt; '\r\n\n \n\"".toList)) =
      some "<script> &amp;lt; '\n\n\"" := by
  decide +kernel

end Html
end MailSearch
