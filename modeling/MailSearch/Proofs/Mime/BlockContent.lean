import MailSearch.Proofs.Mime.BlockOffsets
import MailSearch.Proofs.Text.Blank
import MailSearch.Proofs.Text.Replacing

/-!
# The content of scripts and styles

Scripts are removed first and styles second, from a text whose characters keep
their width in lower case.  Then what stands in a block has no effect, because
the block is cut out as a whole.  For a style this asks that its content does
not look like a script to the first pass.
-/

namespace MailSearch
namespace Html

open Text (KeepsWidth Spells Mentions ClearOf)
open Text.Utf8 (encode IsAscii)

/-- A block is begun in a text and not closed again. -/
def LeavesOpen (opening closing text : List Char) : Prop :=
  ∃ tail, tail <:+ text ∧ Spells opening tail ∧ ¬ Mentions closing tail

theorem LeavesOpen.of_suffix
    {opening closing text longer : List Char}
    (leaves : LeavesOpen opening closing text)
    (isSuffix : text <:+ longer) :
    LeavesOpen opening closing longer := by
  obtain ⟨tail, isTail, opened, unclosed⟩ := leaves
  exact ⟨tail, isTail.trans isSuffix, opened, unclosed⟩

/-! ## Marks in texts -/

section Marks

variable {mark word : List Char} {c : Char}

theorem eq_less_of_toLower
    (small : c.toLower = '<') :
    c = '<' := by
  by_contra different
  exact Text.IsMark.toLower_ne (by decide) different small

/-- A mark does not reach over the `<` behind a text. -/
theorem spells_append_less_iff
    (isMark : IsTagMark mark)
    (c : Char)
    (rest right : List Char) :
    Spells mark (c :: (rest ++ '<' :: right)) ↔ Spells mark (c :: rest) := by
  obtain ⟨others, rfl, single⟩ := isMark.begins
  have within := Text.prefix_append_cons_iff single (rest.map Char.toLower)
    (right.map Char.toLower)
  rw [Spells, Spells, List.map_cons, List.map_cons, List.map_append,
    List.map_cons, List.cons_prefix_cons, List.cons_prefix_cons]
  exact and_congr_right fun _ => within

/-- A word that is clear of a mark does not begin it, whatever stands behind the
word. -/
theorem not_spells_append_of_clearOf
    (clear : ClearOf mark ((c :: word).map Char.toLower))
    (rest : List Char) :
    ¬ Spells mark (c :: (word ++ rest)) := by
  rw [Spells, List.map_cons, List.map_append]
  exact clear.not_prefix_append _

/-- A word that is clear of a mark adds no mention of it. -/
theorem mentions_append_of_clearOf
    (clear : ClearOf mark (word.map Char.toLower))
    (rest : List Char) :
    Mentions mark (word ++ rest) ↔ Mentions mark rest := by
  induction word with
  | nil => rfl
  | cons c others inductionHypothesis =>
      rw [List.cons_append, Text.mentions_cons_iff,
        inductionHypothesis (Text.clearOf_cons_iff.mp clear).2]
      exact or_iff_right (not_spells_append_of_clearOf clear rest)

/-- A mark does not begin where no `<` stands. -/
theorem clearOf_of_no_less
    (isMark : IsTagMark mark)
    (plain : '<' ∉ word) :
    ClearOf mark (word.map Char.toLower) := by
  obtain ⟨rest, rfl, -⟩ := isMark.begins
  refine Text.clearOf_of_not_mem List.head?_cons fun isSmall => ?_
  obtain ⟨c, isChar, small⟩ := List.mem_map.mp isSmall
  exact plain (eq_less_of_toLower small ▸ isChar)

end Marks

/-! ## Closing marks -/

section Closing

variable {closing text word : List Char}

theorem behindClosing?_eq_none_iff
    (isMark : IsTagMark closing) :
    behindClosing? closing text = none ↔ ¬ Mentions closing text := by
  induction text with
  | nil =>
      obtain ⟨others, rfl, -⟩ := isMark.begins
      simp [behindClosing?, Mentions]
  | cons c others inductionHypothesis =>
      rw [behindClosing?, Text.mentions_cons_iff]
      split
      · rename_i spelled
        simp [spelled]
      · rename_i spelled
        rw [inductionHypothesis]
        simp [spelled]

/-- The search for a closing mark goes on behind a text at its `<`, if it did
not end in the text. -/
theorem behindClosing?_append_less
    (isMark : IsTagMark closing)
    (text right : List Char) :
    behindClosing? closing (text ++ '<' :: right) =
      ((behindClosing? closing text).map (· ++ '<' :: right)).or
        (behindClosing? closing ('<' :: right)) := by
  induction text with
  | nil => rfl
  | cons c others inductionHypothesis =>
      have same := spells_append_less_iff isMark c others right
      rw [List.cons_append, behindClosing?, behindClosing?]
      by_cases spelled : Spells closing (c :: others)
      · have atMost := spelled.length_le
        rw [List.length_cons] at atMost
        rw [if_pos (same.mpr spelled), if_pos spelled,
          List.drop_append_of_le_length (by omega)]
        rfl
      · rw [if_neg (mt same.mp spelled), if_neg spelled, inductionHypothesis]

/-- The search for a closing mark passes over a word that is clear of it. -/
theorem behindClosing?_append_of_clearOf
    (clear : ClearOf closing (word.map Char.toLower))
    (rest : List Char) :
    behindClosing? closing (word ++ rest) = behindClosing? closing rest := by
  induction word with
  | nil => rfl
  | cons c others inductionHypothesis =>
      rw [List.cons_append, behindClosing?,
        if_neg (not_spells_append_of_clearOf clear rest),
        inductionHypothesis (Text.clearOf_cons_iff.mp clear).2]

/-- A closing mark at the front is the first one. -/
theorem behindClosing?_of_spelled
    (isMark : IsTagMark closing)
    (spelled : word.map Char.toLower = closing)
    (rest : List Char) :
    behindClosing? closing (word ++ rest) = some rest := by
  obtain ⟨others, begins, -⟩ := isMark.begins
  cases word with
  | nil =>
      rw [begins] at spelled
      cases spelled
  | cons c chars =>
      have found : Spells closing (c :: (chars ++ rest)) := by
        rw [Spells, ← spelled, List.map_cons, List.map_cons, List.map_append,
          ← List.cons_append]
        exact List.prefix_append _ _
      have length : closing.length - 1 = chars.length := by
        rw [← spelled, List.length_map, List.length_cons, Nat.add_sub_cancel]
      rw [List.cons_append, behindClosing?, if_pos found, length,
        List.drop_left]

end Closing

/-! ## Texts one behind the other -/

section Appending

variable {opening closing text word inside : List Char}

/-- A text that does not hold the opening mark is kept. -/
theorem withoutBlocks_of_not_mentions
    (closing : List Char)
    (plain : ¬ Mentions opening text) :
    withoutBlocks opening closing text = text := by
  induction text with
  | nil => exact withoutBlocks_nil
  | cons c rest inductionHypothesis =>
      rw [Text.mentions_cons_iff, not_or] at plain
      rw [withoutBlocks_of_not_spells plain.1, inductionHypothesis plain.2]

/-- A word that is clear of the opening mark is kept, whatever stands behind
it. -/
theorem withoutBlocks_append_of_clearOf
    (clear : ClearOf opening (word.map Char.toLower))
    (closing rest : List Char) :
    withoutBlocks opening closing (word ++ rest) =
      word ++ withoutBlocks opening closing rest := by
  induction word with
  | nil => rfl
  | cons c others inductionHypothesis =>
      rw [List.cons_append,
        withoutBlocks_of_not_spells (not_spells_append_of_clearOf clear rest),
        inductionHypothesis (Text.clearOf_cons_iff.mp clear).2,
        List.cons_append]

variable (opens : IsTagMark opening) (closes : IsTagMark closing)

include opens closes

/--
What stands at a `<` behind a text is read by itself, or, if a block is left
open in the text, from the end of that block on.
-/
theorem withoutBlocks_append_less
    (text : List Char) :
    (∀ right, withoutBlocks opening closing (text ++ '<' :: right) =
      withoutBlocks opening closing text ++ withoutBlocks opening closing
        ('<' :: right)) ∨
    (LeavesOpen opening closing text ∧
      ∀ right, withoutBlocks opening closing (text ++ '<' :: right) =
        withoutBlocks opening closing text ++
          ((behindClosing? closing ('<' :: right)).map
            (withoutBlocks opening closing)).getD []) := by
  fun_induction withoutBlocks opening closing text with
  | case1 => exact .inl fun right => rfl
  | case2 c rest spelled left found inductionHypothesis =>
      have goesOn : ∀ right,
          withoutBlocks opening closing (c :: rest ++ '<' :: right) =
          withoutBlocks opening closing (left ++ '<' :: right) := by
        intro right
        have opened := (spells_append_less_iff opens c rest right).mpr spelled
        rw [List.cons_append, withoutBlocks_of_spells opened,
          ← List.cons_append, behindClosing?_append_less closes, found]
        rfl
      simp only [goesOn]
      exact inductionHypothesis.imp_right fun both =>
        ⟨both.1.of_suffix (suffix_of_behindClosing? found), both.2⟩
  | case3 c rest spelled found =>
      refine .inr ⟨⟨c :: rest, List.suffix_rfl, spelled,
        (behindClosing?_eq_none_iff closes).mp found⟩, fun right => ?_⟩
      have opened := (spells_append_less_iff opens c rest right).mpr spelled
      rw [List.cons_append, withoutBlocks_of_spells opened, ← List.cons_append,
        behindClosing?_append_less closes, found]
      rfl
  | case4 c rest plain inductionHypothesis =>
      have kept : ∀ right,
          withoutBlocks opening closing (c :: rest ++ '<' :: right) =
          c :: withoutBlocks opening closing (rest ++ '<' :: right) :=
            fun right =>
        withoutBlocks_of_not_spells
          (mt (spells_append_less_iff opens c rest right).mp plain)
      rcases inductionHypothesis with apart | ⟨leaves, goesOn⟩
      · exact .inl fun right => by rw [kept, apart, List.cons_append]
      · refine .inr ⟨leaves.of_suffix (List.suffix_cons c rest),
          fun right => ?_⟩
        rw [kept, goesOn, List.cons_append]

/-- A block is cut out of a text, together with its marks. -/
theorem withoutBlocks_block
    (opened : Spells opening ('<' :: inside))
    (unclosed : ¬ Mentions closing ('<' :: inside))
    (closed : ('<' :: word).map Char.toLower = closing)
    (before after : List Char) :
    withoutBlocks opening closing
        (before ++ '<' :: (inside ++ '<' :: (word ++ after))) =
      withoutBlocks opening closing before ++ withoutBlocks opening closing
        after := by
  have behind :
      behindClosing? closing ('<' :: (inside ++ '<' :: (word ++ after))) =
      some after := by
    rw [← List.cons_append, behindClosing?_append_less closes,
      (behindClosing?_eq_none_iff closes).mpr unclosed, ← List.cons_append,
      behindClosing?_of_spelled closes closed]
    rfl
  have begins :=
    (spells_append_less_iff opens '<' inside (word ++ after)).mpr opened
  rcases withoutBlocks_append_less opens closes before with apart | ⟨-, goesOn⟩
  · rw [apart, withoutBlocks_of_spells begins, behind]
    rfl
  · rw [goesOn, behind]
    rfl

/--
A part between `<` and another mark, without the marks of a block, is kept,
unless a block was left open before it: then it is a part of that block.
-/
theorem withoutBlocks_beside
    (clearOpening : ClearOf opening (('<' :: word).map Char.toLower))
    (clearClosing : ClearOf closing (('<' :: word).map Char.toLower))
    (before after : List Char) :
    (∀ inside, ¬ Mentions opening ('<' :: inside) →
      withoutBlocks opening closing
          (before ++ '<' :: (inside ++ '<' :: (word ++ after))) =
        withoutBlocks opening closing before ++
          '<' :: (inside ++
            '<' :: (word ++ withoutBlocks opening closing after))) ∨
    LeavesOpen opening closing before ∧
      ∀ inside, ¬ Mentions closing ('<' :: inside) →
        withoutBlocks opening closing
            (before ++ '<' :: (inside ++ '<' :: (word ++ after))) =
          withoutBlocks opening closing before ++
            ((behindClosing? closing after).map
              (withoutBlocks opening closing)).getD [] := by
  -- A block that was left open swallows the part up to its closing mark, which
  -- the part lacks.
  rcases withoutBlocks_append_less opens closes before
    with apart | ⟨leaves, goesOn⟩
  · refine .inl fun inside plain => ?_
    have kept : withoutBlocks opening closing
        ('<' :: inside ++ '<' :: (word ++ after)) =
        '<' :: inside ++ '<' :: word ++ withoutBlocks opening closing
          after := by
      rcases withoutBlocks_append_less opens closes ('<' :: inside)
        with alone | ⟨within, -⟩
      · rw [alone, withoutBlocks_of_not_mentions closing plain,
          ← List.cons_append, withoutBlocks_append_of_clearOf clearOpening,
          List.append_assoc]
      · obtain ⟨tail, isTail, spelled, -⟩ := within
        exact absurd (spelled.mentions.of_suffix isTail) plain
    rw [List.cons_append] at kept
    rw [apart, kept]
    simp only [List.cons_append, List.append_assoc]
  · refine .inr ⟨leaves, fun inside unclosed => ?_⟩
    rw [goesOn, ← List.cons_append, behindClosing?_append_less closes,
      (behindClosing?_eq_none_iff closes).mpr unclosed, ← List.cons_append,
      behindClosing?_append_of_clearOf clearClosing]
    rfl

end Appending

/-! ## Scripts and styles -/

/-- A text without scripts and without the styles that are left then. -/
def visible (html : List Char) : List Char :=
  withoutBlocks (openingMark "style") (closingMark "style")
    (withoutBlocks (openingMark "script") (closingMark "script") html)

/-- If every character keeps its width, the plain text is that of the visible
part. -/
theorem plainChars_eq_shown_visible
    {html : List Char}
    (keeps : ∀ c ∈ html, KeepsWidth c) :
    plainChars html = some (shown (visible html)) := by
  have keepsLeft : ∀ c ∈ withoutBlocks (openingMark "script")
      (closingMark "script") html,
      KeepsWidth c :=
        fun c isLeft => keeps c (withoutBlocks_subset _ _ html isLeft)
  exact plainChars_of_removed (removeBlocks_eq (.inl rfl) keeps)
    (removeBlocks_eq (.inr rfl) keepsLeft)

/-- If the text takes another number of bytes in lower case, scripts and styles
are not removed. -/
theorem plainChars_of_length_ne
    {html : List Char}
    (different : (encode (Text.lower html)).length ≠ (encode html).length) :
    plainChars html = some (shown html) :=
  plainChars_of_removed (removeBlocks_of_length_ne different "script")
    (removeBlocks_of_length_ne different "style")

/-! ## The frame of a block -/

/-- What stands around the content of a block. -/
structure Frame where
  /-- The text before the block. -/
  before : String
  /-- The name in the opening tag. -/
  opened : String
  /-- What follows the name in the opening tag. -/
  attributes : String
  /-- The name in the closing tag. -/
  closed : String
  /-- The text behind the block. -/
  after : String

namespace Frame

/-- The text with a content in its place. -/
def around (frame : Frame) (content : String) : String :=
  frame.before ++ "<" ++ frame.opened ++ frame.attributes ++ ">" ++
    content ++ "</" ++
    frame.closed ++ ">" ++ frame.after

/-- The frame is that of a block of a tag, whose name may be in any letter
case. -/
structure IsBlock (frame : Frame) (tag : String) : Prop where
  /-- The opening tag has the name. -/
  opened : Text.asciiLowercase frame.opened = tag
  /-- The closing tag has the name. -/
  closed : Text.asciiLowercase frame.closed = tag
  /-- The opening tag holds no other tag. -/
  attributes : '<' ∉ frame.attributes.toList
  /-- All characters keep their width in lower case. -/
  keepsWidth : ∀ c ∈
      frame.before.toList ++ frame.attributes.toList ++ frame.after.toList,
    KeepsWidth c

/-- The content of a block, which its tag does not close and no script begins or
ends in. -/
structure Holds (frame : Frame) (tag content : String) : Prop where
  /-- All characters keep their width in lower case. -/
  keepsWidth : ∀ c ∈ content.toList, KeepsWidth c
  /-- The block is not closed within its content. -/
  unclosed : ¬ Mentions (closingMark tag) content.toList
  /-- No script begins in a style. -/
  noScript : tag = "style" → ¬ Mentions (openingMark "script") content.toList
  /-- No script that was left open before a style ends in it. -/
  sameScript : tag = "style" →
    LeavesOpen (openingMark "script") (closingMark "script")
        frame.before.toList →
      ¬ Mentions (closingMark "script") content.toList

variable {frame : Frame} {tag content : String}

/-- The text from the opening tag to the end of the content, without its first
character. -/
def inside (frame : Frame) (content : String) : List Char :=
  frame.opened.toList ++ (frame.attributes.toList ++ ['>']) ++ content.toList

theorem toList_around (frame : Frame) (content : String) :
    (frame.around content).toList = frame.before.toList ++
      '<' :: (frame.inside content ++
        '<' :: ('/' :: frame.closed.toList ++ ['>'] ++
          frame.after.toList)) := by
  simp [around, inside]

theorem IsBlock.toLower_opened
    (isBlock : frame.IsBlock tag) :
    frame.opened.toList.map Char.toLower = tag.toList := by
  rw [← isBlock.opened, Text.asciiLowercase, String.toList_ofList]

theorem IsBlock.toLower_closed
    (isBlock : frame.IsBlock tag) :
    ('<' :: ('/' :: frame.closed.toList ++ ['>'])).map Char.toLower =
      closingMark tag := by
  rw [closingMark, ← isBlock.closed, Text.asciiLowercase, String.toList_ofList]
  simp

theorem IsBlock.spells_inside
    (isBlock : frame.IsBlock tag)
    (content : String) :
    Spells (openingMark tag) ('<' :: frame.inside content) := by
  rw [Spells, List.map_cons, inside, List.map_append, List.map_append,
    isBlock.toLower_opened, List.append_assoc]
  exact List.prefix_append (openingMark tag) _

/-- The opening tag adds no mention of another mark to the content. -/
theorem IsBlock.mentions_inside_iff
    (isBlock : frame.IsBlock tag)
    {mark : List Char}
    (isMark : IsTagMark mark)
    (clear : ClearOf mark (openingMark tag))
    (content : String) :
    Mentions mark ('<' :: frame.inside content) ↔
      Mentions mark content.toList := by
  have clearName :
      ClearOf mark (('<' :: frame.opened.toList).map Char.toLower) := by
    rw [List.map_cons, isBlock.toLower_opened]
    exact clear
  have clearAttributes :
      ClearOf mark ((frame.attributes.toList ++ ['>']).map Char.toLower) :=
    clearOf_of_no_less isMark (by simpa using isBlock.attributes)
  rw [inside, List.append_assoc, ← List.cons_append,
    mentions_append_of_clearOf clearName,
    mentions_append_of_clearOf clearAttributes]

theorem keepsWidth_around
    (isTag : ∀ c ∈ tag.toList, IsAscii c)
    (isBlock : frame.IsBlock tag)
    (holds : frame.Holds tag content) :
    ∀ c ∈ (frame.around content).toList, KeepsWidth c := by
  have name : ∀ name : String, Text.asciiLowercase name = tag →
      ∀ c ∈ name.toList, KeepsWidth c := by
    rintro name rfl c isChar
    apply Text.keepsWidth_of_isAscii
    apply Text.isAscii_of_toLower
    apply isTag
    rw [Text.asciiLowercase, String.toList_ofList]
    exact List.mem_map_of_mem isChar
  have mark : ∀ c ∈ ['<', '>', '/'], KeepsWidth c := by
    decide
  intro c isChar
  have place :
      c ∈ frame.before.toList ++ frame.attributes.toList ++ frame.after.toList ∨
      c ∈ frame.opened.toList ∨ c ∈ frame.closed.toList ∨ c ∈ content.toList ∨
        c ∈ ['<', '>', '/'] := by
    rw [toList_around, inside] at isChar
    simp only [List.mem_append, List.mem_cons] at isChar ⊢
    grind only
  rcases place with isFrame | isOpened | isClosed | isContent | isMark
  · exact isBlock.keepsWidth c isFrame
  · exact name _ isBlock.opened c isOpened
  · exact name _ isBlock.closed c isClosed
  · exact holds.keepsWidth c isContent
  · exact mark c isMark

/-- A script is cut out, whatever it holds. -/
theorem visible_around_script
    (isBlock : frame.IsBlock "script")
    (holds : frame.Holds "script" content) :
    visible (frame.around content).toList =
      withoutBlocks (openingMark "style") (closingMark "style")
        (withoutBlocks (openingMark "script") (closingMark "script")
            frame.before.toList ++
          withoutBlocks (openingMark "script") (closingMark "script")
            frame.after.toList) := by
  obtain ⟨opens, closes⟩ := isTagMark_of_tag (.inl rfl)
  have unclosed :=
    mt (isBlock.mentions_inside_iff closes (by decide) content).mp
      holds.unclosed
  rw [visible, toList_around,
      withoutBlocks_block opens closes (isBlock.spells_inside content)
    unclosed isBlock.toLower_closed]

/-- A style is cut out, or it is a part of a script that begins before it. -/
theorem visible_around_style
    (isBlock : frame.IsBlock "style")
    {other : String}
    (holds : frame.Holds "style" content)
    (holdsOther : frame.Holds "style" other) :
    visible (frame.around content).toList =
      visible (frame.around other).toList := by
  obtain ⟨opens, closes⟩ := isTagMark_of_tag (.inl rfl)
  obtain ⟨opensStyle, closesStyle⟩ := isTagMark_of_tag (.inr rfl)
  have clearOpening : ClearOf (openingMark "script") (closingMark "style") := by
    decide
  have clearClosing : ClearOf (closingMark "script") (closingMark "style") := by
    decide
  rw [← isBlock.toLower_closed] at clearOpening clearClosing
  have clearName : ClearOf (closingMark "script") (openingMark "style") := by
    decide
  rw [visible, visible, toList_around, toList_around]
  rcases withoutBlocks_beside opens closes clearOpening clearClosing
      frame.before.toList
    frame.after.toList with apart | ⟨leaves, within⟩
  · have noScript := fun content (holds : frame.Holds "style" content) =>
      mt (isBlock.mentions_inside_iff opens (by decide) content).mp
        (holds.noScript rfl)
    have unclosed := fun content (holds : frame.Holds "style" content) =>
      mt (isBlock.mentions_inside_iff closesStyle (by decide) content).mp
        holds.unclosed
    rw [apart _ (noScript content holds), apart _ (noScript other holdsOther),
      withoutBlocks_block opensStyle closesStyle (isBlock.spells_inside content)
        (unclosed content holds) isBlock.toLower_closed,
      withoutBlocks_block opensStyle closesStyle (isBlock.spells_inside other)
        (unclosed other holdsOther) isBlock.toLower_closed]
  · have sameScript := fun content (holds : frame.Holds "style" content) =>
      mt (isBlock.mentions_inside_iff closes clearName content).mp
        (holds.sameScript rfl leaves)
    rw [within _ (sameScript content holds),
      within _ (sameScript other holdsOther)]

end Frame

/--
What a script or a style holds has no effect on the plain text, in a text whose
characters keep their width in lower case; of a style no part may look like the
begin of a script, or like the end of one that was left open before it.  If the
text takes another number of bytes in lower case, scripts and styles are
converted like the rest of it.
-/
theorem block_content_has_no_effect
    {tag : String}
    (isTag : tag = "script" ∨ tag = "style")
    {frame : Frame}
    (isBlock : frame.IsBlock tag) :
    (∀ content other, frame.Holds tag content → frame.Holds tag other →
      ∃ text, plainText (frame.around content) = some text ∧
        plainText (frame.around other) = some text) ∧
    ∀ content, (encode (Text.lower (frame.around content).toList)).length ≠
        (encode (frame.around content).toList).length →
      plainText (frame.around content) =
        some (String.ofList (shown (frame.around content).toList)) := by
  have ascii : ∀ c ∈ tag.toList, IsAscii c := by
    rcases isTag with rfl | rfl <;> decide
  refine ⟨fun content other holds holdsOther => ?_, fun content different => ?_⟩
  · have same : visible (frame.around content).toList =
        visible (frame.around other).toList := by
      rcases isTag with rfl | rfl
      · rw [Frame.visible_around_script isBlock holds,
          Frame.visible_around_script isBlock holdsOther]
      · exact Frame.visible_around_style isBlock holds holdsOther
    have plain :=
      plainChars_eq_shown_visible (Frame.keepsWidth_around ascii isBlock holds)
    have plainOther :=
      plainChars_eq_shown_visible
        (Frame.keepsWidth_around ascii isBlock holdsOther)
    rw [← same] at plainOther
    exact ⟨_, congrArg (Option.map String.ofList) plain,
      congrArg (Option.map String.ofList) plainOther⟩
  · rw [plainText, plainChars_of_length_ne different, Option.map_some]

/-- Two contents of a style behind a closed script give the same text. -/
theorem block_content_has_no_effect_of_style :
    ∃ text,
      plainText
          "<script>a < b</script>Show<STYLE id=a>p \x7b </p> \x7d</Style> too" =
        some text ∧
      plainText "<script>a < b</script>Show<STYLE id=a></Style> too" =
        some text := by
  have isBlock : Frame.IsBlock
      ⟨"<script>a < b</script>Show", "STYLE", " id=a", "Style",
        " too"⟩ "style" := by
    refine ⟨?_, ?_, ?_, ?_⟩ <;> decide +kernel
  have noEffect :=
    (block_content_has_no_effect (.inr rfl) isBlock).1 "p \x7b </p> \x7d" ""
    (by refine ⟨?_, ?_, fun _ => ?_, fun _ _ => ?_⟩ <;> decide +kernel)
    (by refine ⟨?_, ?_, fun _ => ?_, fun _ _ => ?_⟩ <;> decide +kernel)
  have rules : Frame.around ⟨"<script>a < b</script>Show", "STYLE",
      " id=a", "Style", " too"⟩ "p \x7b </p> \x7d" =
      "<script>a < b</script>Show<STYLE id=a>p \x7b </p> \x7d</Style> too" := by
    decide
  have none : Frame.around ⟨"<script>a < b</script>Show", "STYLE",
      " id=a", "Style", " too"⟩ "" =
      "<script>a < b</script>Show<STYLE id=a></Style> too" := by
    decide
  rwa [rules, none] at noEffect

/-- A script with a character that is longer in lower case is shown. -/
theorem script_shown_if_longer_in_lower_case :
    ¬ ∀ tag ∈ ["script", "style"],
      ∀ before attributes content other after : String,
      '<' ∉ attributes.toList → '>' ∉ attributes.toList →
      ¬ Mentions (closingMark tag) content.toList →
        ¬ Mentions (closingMark tag) other.toList →
      plainText (before ++ "<" ++ tag ++ attributes ++ ">" ++ content ++ "</" ++
          tag ++ ">" ++ after) =
        plainText (before ++ "<" ++ tag ++ attributes ++ ">" ++ other ++ "</" ++
          tag ++ ">" ++ after) := by
  intro noEffect
  have same :=
    noEffect "script" (by decide) "" "" "İ" "" "" (by decide) (by decide)
    (by decide +kernel) (by decide +kernel)
  have shown : plainText "<script>İ</script>" = some "İ" := by decide +kernel
  have removed : plainText "<script></script>" = some "" := by decide +kernel
  exact absurd (shown.symm.trans (same.trans removed)) (by decide)

-- A style whose content looks like the begin of a script hides what follows it.
example : plainText "<style><script</style>Shown" = some "" := by
  decide +kernel

end Html
end MailSearch
