import MailSearch.Proofs.Mime.BlockOffsets
import MailSearch.Proofs.Mime.Escaping
import MailSearch.Proofs.Text.LineEnd

/-!
# Texts in normal form

A text is in normal form if it and its lines are trimmed and no two of its lines
that follow each other are empty.  HTML that can be converted is in normal form
then, whatever it looks like, and a text in normal form is tidied no further.
So a converted text is converted as it is, unless it looks like HTML again; that
takes an entity in the original.
-/

namespace MailSearch
namespace Html

open Text (pieces trim joinWith dropReturn Framed)
open Text.Utf8 (encode IsAscii)

/-- The whole text and its lines are trimmed, and no two empty lines follow each
other. -/
structure IsNormal (text : List Char) : Prop where
  /-- The text has no blanks at its ends. -/
  trimmed : trim text = text
  /-- No line has blanks at its ends. -/
  trimmed_lines : ∀ line ∈ pieces '\n' text, trim line = line
  /-- Of two lines that follow each other one at least is not empty. -/
  filled : (pieces '\n' text).IsChain EitherFilled

/-! ## Lines in normal form -/

section Lines

variable {lines : List (List Char)}

/-- Lines whose first and last are not empty are framed by the characters of
these. -/
theorem framed_joinWith
    (trimmed : ∀ line ∈ lines, trim line = line)
    (nonempty : lines ≠ [])
    (first : [] ∉ lines.head?)
    (last : [] ∉ lines.getLast?) :
    Framed (joinWith ['\n'] lines) where
  first := by
    obtain ⟨line, rest, rfl⟩ := List.exists_cons_of_ne_nil nonempty
    have filled : line ≠ [] := fun absurd => first (congrArg some absurd)
    obtain ⟨c, isFirst, notBlank⟩ :=
      (Text.framed_of_trim_eq (trimmed line List.mem_cons_self) filled).first
    exact ⟨c,
      by rw [Text.joinWith_cons, List.head?_append, isFirst, Option.some_or],
      notBlank⟩
  last := by
    obtain rfl | ⟨front, line, rfl⟩ := List.eq_nil_or_concat lines
    · exact absurd rfl nonempty
    · rw [List.concat_eq_append] at *
      have filled : line ≠ [] :=
        fun absurd => last (by rw [List.getLast?_concat, absurd]; rfl)
      obtain ⟨c, isLast, notBlank⟩ := (Text.framed_of_trim_eq
        (trimmed line (List.mem_append_right front List.mem_cons_self))
          filled).last
      refine ⟨c, ?_, notBlank⟩
      cases front with
      | nil => exact isLast
      | cons other others =>
          rw [Text.joinWith_append (List.cons_ne_nil other others)
              (List.cons_ne_nil line []),
            List.getLast?_append, List.getLast?_cons, joinWith, isLast]
          rfl

/-- An empty line at the front does not show in a trimmed text. -/
theorem exists_filled_front
    (chain : lines.IsChain EitherFilled) :
    ∃ inner, inner <:+ lines ∧ [] ∉ inner.head? ∧
      trim (joinWith ['\n'] inner) = trim (joinWith ['\n'] lines) := by
  cases lines with
  | nil => exact ⟨[], List.suffix_rfl, nofun, rfl⟩
  | cons line rest =>
      cases line with
      | cons c chars => exact ⟨_, List.suffix_rfl, nofun, rfl⟩
      | nil =>
          refine ⟨rest, List.suffix_cons [] rest, ?_, ?_⟩
          · cases rest with
            | nil => exact nofun
            | cons next others =>
                rintro ⟨⟩
                exact (List.isChain_cons_cons.mp chain).1.elim (· rfl) (· rfl)
          · cases rest with
            | nil => rfl
            | cons next others =>
                rw [Text.joinWith_cons_cons, List.nil_append]
                exact (Text.trim_append_of_blank_front blank_feed _).symm

/-- Nor does an empty line at the back. -/
theorem exists_filled_back
    (chain : lines.IsChain EitherFilled) :
    ∃ inner, inner <+: lines ∧ [] ∉ inner.getLast? ∧
      trim (joinWith ['\n'] inner) = trim (joinWith ['\n'] lines) := by
  obtain rfl | ⟨front, line, rfl⟩ := List.eq_nil_or_concat lines
  · exact ⟨[], List.prefix_rfl, nofun, rfl⟩
  · rw [List.concat_eq_append] at *
    cases line with
    | cons c chars =>
        refine ⟨_, List.prefix_rfl, ?_, rfl⟩
        rw [List.getLast?_concat]
        exact nofun
    | nil =>
        refine ⟨front, List.prefix_append front [[]], fun empty => ?_, ?_⟩
        · have either := (List.isChain_append.mp chain).2.2 [] empty [] rfl
          exact either.elim (· rfl) (· rfl)
        · rw [← trim_inLines, ← trim_inLines, inLines, inLines,
            List.flatMap_append]
          exact (Text.trim_append_of_blank_back blank_feed _).symm

/-- Trimmed lines, no two of them empty behind each other, make a text in normal
form. -/
theorem isNormal_trim_joinWith
    (trimmed : ∀ line ∈ lines, trim line = line)
    (unbroken : ∀ line ∈ lines, '\n' ∉ line)
    (chain : lines.IsChain EitherFilled) :
    IsNormal (trim (joinWith ['\n'] lines)) := by
  obtain ⟨behind, isSuffix, first, sameBehind⟩ := exists_filled_front chain
  obtain ⟨inner, isPrefix, last, sameInner⟩ :=
    exists_filled_back (chain.suffix isSuffix)
  have isInfix : inner <:+: lines := isPrefix.isInfix.trans isSuffix.isInfix
  rw [← sameBehind, ← sameInner]
  by_cases empty : inner = []
  · rw [empty]
    exact ⟨rfl, by decide, List.isChain_singleton []⟩
  · have firstInner : [] ∉ inner.head? := by
      obtain ⟨line, rest, rfl⟩ := List.exists_cons_of_ne_nil empty
      obtain ⟨others, rfl⟩ := isPrefix
      exact first
    have framed : Framed (joinWith ['\n'] inner) :=
      framed_joinWith (fun line isLine =>
        trimmed line (isInfix.subset isLine)) empty firstInner last
    have cut : pieces '\n' (joinWith ['\n'] inner) = inner :=
      Text.pieces_joinWith empty fun line isLine =>
        unbroken line (isInfix.subset isLine)
    rw [framed.trim_eq]
    refine ⟨framed.trim_eq, ?_, ?_⟩
    · rw [cut]
      exact fun line isLine => trimmed line (isInfix.subset isLine)
    · rw [cut]
      exact List.IsChain.infix chain isInfix

end Lines

/-! ## Tidied texts -/

theorem dropReturn_subset
    (line : List Char) :
    dropReturn line ⊆ line := by
  unfold dropReturn
  split
  · exact List.dropLast_subset line
  · exact List.Subset.refl line

/-- A line of a text has nothing but what stands in the text, and no line
feed. -/
theorem subset_of_mem_linesAtFeeds
    {text line : List Char}
    (isLine : line ∈ linesAtFeeds text) :
    line ⊆ text ∧ '\n' ∉ line := by
  rcases List.mem_append.mp isLine with inner | last
  · obtain ⟨piece, isPiece, rfl⟩ := List.mem_map.mp inner
    obtain ⟨within, unbroken⟩ :=
      Text.subset_of_mem_pieces (List.mem_of_mem_dropLast isPiece)
    exact ⟨List.Subset.trans (dropReturn_subset piece) within, fun feed =>
      unbroken (dropReturn_subset piece feed)⟩
  · rw [Option.mem_toList] at last
    exact Text.subset_of_mem_pieces (List.mem_of_getLast? last)

/-- The lines that are kept are trimmed lines of the text. -/
theorem exists_of_mem_destutter
    {text line : List Char}
    (isKept : line ∈ ((linesAtFeeds text).map trim).destutter EitherFilled) :
    ∃ whole ∈ linesAtFeeds text, trim whole = line :=
  List.mem_map.mp ((List.destutter_sublist _ _).subset isKept)

/-- A tidied text is in normal form. -/
theorem isNormal_tidy
    (text : List Char) :
    IsNormal (tidy text) := by
  rw [tidy_eq_normalForm]
  refine isNormal_trim_joinWith (fun line isLine => ?_) (fun line isLine => ?_)
    (List.isChain_destutter _ _)
  · obtain ⟨whole, -, rfl⟩ := exists_of_mem_destutter isLine
    exact Text.trim_trim whole
  · obtain ⟨whole, isWhole, rfl⟩ := exists_of_mem_destutter isLine
    exact fun feed =>
      (subset_of_mem_linesAtFeeds isWhole).2 (Text.trim_subset whole feed)

/-- Tidying brings in line feeds only. -/
theorem not_mem_tidy
    {c : Char}
    (notFeed : c ≠ '\n')
    {text : List Char}
    (absent : c ∉ text) :
    c ∉ tidy text := by
  rw [tidy_eq_normalForm]
  intro isChar
  have joined := Text.trim_subset _ isChar
  rw [← List.singleton_infix_iff,
      Text.infix_joinWith_iff (List.cons_ne_nil c [])
    (mt List.mem_singleton.mp notFeed.symm)] at joined
  obtain ⟨line, isLine, inLine⟩ := joined
  obtain ⟨whole, isWhole, rfl⟩ := exists_of_mem_destutter isLine
  exact absent ((subset_of_mem_linesAtFeeds isWhole).1
    (Text.trim_subset whole ((List.singleton_infix_iff _ _).mp inLine)))

/-- A text in normal form is tidy already. -/
theorem IsNormal.tidy_eq
    {text : List Char}
    (normal : IsNormal text) :
    tidy text = text := by
  have keptReturn : ∀ line ∈ pieces '\n' text, dropReturn line = line := by
    intro line isLine
    refine if_neg fun isReturn => ?_
    have nonempty : line ≠ [] := by
      rintro rfl
      cases isReturn
    obtain ⟨c, isLast, notBlank⟩ :=
      (Text.framed_of_trim_eq (normal.trimmed_lines line isLine) nonempty).last
    cases isReturn.symm.trans isLast
    cases notBlank
  have lines : linesAtFeeds text = pieces '\n' text := by
    obtain none | ⟨front, last, cut⟩ := List.eq_nil_or_concat (pieces '\n' text)
    · exact absurd none (Text.pieces_ne_nil '\n' text)
    · rw [List.concat_eq_append] at cut
      have keptFront : front.map dropReturn = front := by
        refine (List.map_congr_left fun line isLine => ?_).trans
          (List.map_id front)
        exact keptReturn line (cut ▸ List.mem_append_left [last] isLine)
      rw [linesAtFeeds, cut, List.dropLast_concat, keptFront,
        List.getLast?_concat]
      rfl
  have trimmed : (pieces '\n' text).map trim = pieces '\n' text :=
    (List.map_congr_left normal.trimmed_lines).trans (List.map_id _)
  rw [tidy_eq_normalForm, normalForm, lines, trimmed,
    List.destutter_of_isChain _ _ normal.filled, Text.joinWith_pieces,
    normal.trimmed]

/-! ## Characters that nothing brings in -/

/-- What stands in a text without its blocks stands in the text. -/
theorem not_mem_of_removeBlocks
    {mark : Char}
    (ascii : IsAscii mark)
    {tag : String}
    {html left : List Char}
    (removed : removeBlocks tag html = some left)
    (absent : mark ∉ html) :
    mark ∉ left := by
  unfold removeBlocks at removed
  dsimp only at removed
  split at removed
  · cases removed
    exact absent
  · obtain ⟨bytes, dropped, decoded⟩ := Option.bind_eq_some_iff.mp removed
    intro isChar
    have isByte : UInt8.ofNat mark.toNat ∈ encode left := by
      refine List.mem_flatMap.mpr ⟨mark, isChar, ?_⟩
      rw [Text.Utf8.utf8EncodeChar_of_isAscii ascii]
      exact List.mem_singleton_self _
    rw [Text.Utf8.encode_of_decode? decoded] at isByte
    obtain ⟨pair, isPair, isFirst⟩ :=
      List.mem_map.mp (dropBlocks_subset dropped isByte)
    exact absent
      (Text.Utf8.mem_of_mem_encode ascii (isFirst ▸ (List.of_mem_zip isPair).1))

theorem not_mem_applyAll
    {c : Char}
    {rules : List Replacement}
    (fresh : ∀ rule ∈ rules, c ∉ rule.replacement.toList)
    {text : List Char}
    (absent : c ∉ text) :
    c ∉ applyAll rules text := by
  induction rules generalizing text with
  | nil => exact absent
  | cons rule rules inductionHypothesis =>
      obtain ⟨first, others⟩ := List.forall_mem_cons.mp fresh
      refine inductionHypothesis others fun isChar => ?_
      rcases List.mem_append.mp (Text.replaceAll_subset _ _ text isChar)
        with inRule | inText
      · exact first inRule
      · exact absent inText

/-- Stripping tags adds nothing and leaves no bracket. -/
theorem stripTags_subset
    (inTag : Bool)
    (text : List Char) :
    ∀ c ∈ stripTags inTag text, c ∈ text ∧ c ≠ '<' ∧ c ≠ '>' := by
  induction text generalizing inTag with
  | nil =>
      rw [stripTags]
      exact List.forall_mem_nil _
  | cons first rest inductionHypothesis =>
      have later : ∀ inTag, ∀ c ∈ stripTags inTag rest, c ∈ first :: rest ∧
          c ≠ '<' ∧ c ≠ '>' :=
        fun inTag c isChar => (inductionHypothesis inTag c isChar).imp_left
          (List.mem_cons_of_mem first)
      rw [stripTags]
      split
      · exact later true
      · split
        · exact later false
        · split
          · exact later true
          · exact List.forall_mem_cons.mpr ⟨⟨List.mem_cons_self, ‹_›, ‹_›⟩,
              later false⟩

/-- Without an ampersand nothing is decoded to a bracket. -/
theorem not_mem_shown
    {visible : List Char}
    (absent : '&' ∉ visible) :
    '<' ∉ shown visible ∧ '>' ∉ shown visible := by
  have inEntities : ∀ rule ∈ entities, '&' ∈ rule.pattern.toList := by
    decide
  have notInBreaks : ∀ rule ∈ lineBreaks, '&' ∉ rule.replacement.toList := by
    decide
  have stripped := stripTags_subset false (applyAll lineBreaks visible)
  have noEntity :=
    fun isChar => not_mem_applyAll notInBreaks absent (stripped '&' isChar).1
  rw [shown, applyAll_of_not_mem inEntities noEntity]
  constructor
  · exact not_mem_tidy (by decide) fun isChar => (stripped '<' isChar).2.1 rfl
  · exact not_mem_tidy (by decide) fun isChar => (stripped '>' isChar).2.2 rfl

/-! ## Converted texts -/

/-- What HTML is converted to was shown of what is left without scripts and
styles. -/
theorem exists_of_plainChars
    {html text : List Char}
    (converted : plainChars html = some text) :
    ∃ scriptless visible, removeBlocks "script" html = some scriptless ∧
      removeBlocks "style" scriptless = some visible ∧
        shown visible = text := by
  obtain ⟨scriptless, scripts, converted⟩ :=
    Option.bind_eq_some_iff.mp converted
  obtain ⟨visible, styles, converted⟩ := Option.bind_eq_some_iff.mp converted
  exact ⟨scriptless, visible, scripts, styles, Option.some.inj converted⟩

/-- HTML can be converted if scripts can be cut out of it, and styles of what is
left then. -/
theorem isSome_plainChars_iff
    {html : List Char} :
    (plainChars html).isSome = true ↔
      CanBeCut "script" html ∧
        ∀ scriptless, removeBlocks "script" html = some scriptless →
          CanBeCut "style" scriptless := by
  have forStyles : ∀ text, CanBeCut "style" text ↔
      (removeBlocks "style" text).isSome = true :=
    fun text => (isSome_removeBlocks_iff (.inr rfl)).symm
  rw [← isSome_removeBlocks_iff (.inl rfl)]
  simp only [forStyles]
  cases scripts : removeBlocks "script" html with
  | none => simp [plainChars, scripts]
  | some scriptless =>
      cases styles : removeBlocks "style" scriptless with
      | none => simp [plainChars, scripts, styles]
      | some visible => simp [plainChars_of_removed scripts styles, styles]

/-- A text in normal form that does not look like HTML is converted as it is. -/
theorem IsNormal.plainChars_eq
    {text : List Char}
    (normal : IsNormal text)
    (noLess : '<' ∉ text)
    (noGreater : '>' ∉ text)
    (noAmpersand : '&' ∉ text) :
    plainChars text = some text := by
  have inEntities : ∀ rule ∈ entities, '&' ∈ rule.pattern.toList := by
    decide
  rw [plainChars_of_removed (removeBlocks_of_not_mem noLess _)
      (removeBlocks_of_not_mem noLess _),
    shown, applyAll_lineBreaks_of_not_mem noLess,
      stripTags_of_not_mem noLess noGreater,
    applyAll_of_not_mem inEntities noAmpersand, normal.tidy_eq]

/--
The text of any HTML is in normal form: it and its lines are trimmed, and no two
empty lines follow each other.  HTML without an ampersand has a text without
brackets, and a text that has neither brackets nor ampersands is converted as it
is.  HTML has a text exactly if scripts can be cut out of it, and styles of what
is left then.
-/
theorem plain_text_is_normal
    (html : String) :
    (∀ text, plainText html = some text →
      IsNormal text.toList ∧
        ('&' ∉ html.toList → '<' ∉ text.toList ∧ '>' ∉ text.toList) ∧
        ('<' ∉ text.toList → '>' ∉ text.toList → '&' ∉ text.toList →
          plainText text = some text)) ∧
    ((plainText html).isSome = true ↔
      CanBeCut "script" html.toList ∧
        ∀ scriptless, removeBlocks "script" html.toList = some scriptless →
          CanBeCut "style" scriptless) := by
  refine ⟨fun text converted => ?_, ?_⟩
  · obtain ⟨chars, convertedChars, rfl⟩ := Option.map_eq_some_iff.mp converted
    obtain ⟨scriptless, visible, scripts, styles, rfl⟩ :=
      exists_of_plainChars convertedChars
    have normal : IsNormal (shown visible) := isNormal_tidy _
    rw [String.toList_ofList]
    refine ⟨normal, fun absent => ?_, fun noLess noGreater noAmpersand => ?_⟩
    · exact not_mem_shown (not_mem_of_removeBlocks (by decide) styles
        (not_mem_of_removeBlocks (by decide) scripts absent))
    · rw [plainText, String.toList_ofList,
        normal.plainChars_eq noLess noGreater noAmpersand, Option.map_some]
  · rw [plainText, Option.isSome_map]
    exact isSome_plainChars_iff

end Html
end MailSearch
