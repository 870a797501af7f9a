import MailSearch.Proofs.Mime.Blocks

/-!
# Where blocks are found

The lower case of a text is divided into blocks like the text itself, part for
part, because only the letters of a tag have the tag in lower case.  A block is
cut out of the text at the distances that it has in lower case, and a distance
that ends inside a character breaks the program down.  The distances are its own
as long as every part of the text takes as many bytes in lower case; that the
whole text does is not enough.
-/

namespace MailSearch
namespace Html

open Text (KeepsWidth Spells IsUnmistakable lowerAfter lowerBetween lowerWithin
  lowerWidth)
open Text.Utf8 (encode IsAscii FallsBetween)

/-! ## Searches for marks -/

section Marks

variable {mark items left : List UInt8}

/-- The search for a mark goes on behind items at which it does not stand. -/
theorem dropThrough_append
    (passes : Passes (mark <+: ·) items left) :
    Text.dropThrough mark (items ++ left) = Text.dropThrough mark left := by
  induction items with
  | nil => rfl
  | cons byte others inductionHypothesis =>
      rw [List.cons_append, Text.dropThrough,
        if_neg (mt List.isPrefixOf_iff_prefix.mp passes.1),
        inductionHypothesis passes.2]

theorem dropThrough_of_prefix
    (nonempty : mark ≠ [])
    (isPrefix : mark <+: left) :
    Text.dropThrough mark left = some (left.drop mark.length) := by
  cases left with
  | nil => exact absurd (List.prefix_nil.mp isPrefix) nonempty
  | cons byte others =>
      rw [Text.dropThrough, if_pos (List.isPrefixOf_iff_prefix.mpr isPrefix)]

end Marks

theorem IsTagMark.encode_ne_nil
    {mark : List Char}
    (isMark : IsTagMark mark) :
    encode mark ≠ [] := by
  obtain ⟨rest, rfl, -⟩ := isMark.begins
  rw [Text.Utf8.encode_cons_of_isAscii (isMark.ascii '<' List.mem_cons_self)]
  exact List.cons_ne_nil _ _

/-! ## From a text to its lower case -/

section Lower

variable {mark opening closing kept rest text last : List Char}
  {parts : List (Part Char)}

/-- No mark begins among the small letters of a character other than `<`. -/
theorem passes_lowerBetween
    {c : Char}
    (isTag : IsTagMark mark)
    (different : c ≠ '<')
    (before after : List Char)
    (left : List UInt8) :
    Passes (encode mark <+: ·) (encode (lowerBetween before after c)) left := by
  have missing : UInt8.ofNat '<'.toNat ∉ encode (lowerBetween before after c) :=
    fun isByte =>
    Text.IsMark.not_mem_lowerBetween (by decide) different before after
      (Text.Utf8.mem_of_mem_encode (by decide) isByte)
  obtain ⟨tail, rfl, -⟩ := isTag.begins
  refine passes_of_not_mem ?_ missing left
  rw [Text.Utf8.encode_cons_of_isAscii (by decide)]
  rfl

/-- Where a text does not spell a mark, the bytes of its lower case do not begin
it. -/
theorem Passes.encode_lowerWithin
    (isTag : IsTagMark mark)
    (isOwn : IsUnmistakable mark)
    (passes : Passes (Spells mark) kept rest)
    (before : List Char) :
    Passes (encode mark <+: ·) (encode (lowerWithin before rest kept))
      (encode (lowerAfter (kept.reverse ++ before) rest)) := by
  induction kept generalizing before with
  | nil => trivial
  | cons c others inductionHypothesis =>
      obtain ⟨unspelled, passesOthers⟩ := passes
      have absent :=
        mt (Text.encode_prefix_lowerAfter_iff isOwn before _).mp unspelled
      rw [lowerWithin, Text.Utf8.encode_append, passes_append_iff,
        List.reverse_cons, List.append_assoc, List.singleton_append]
      refine ⟨?_, inductionHypothesis passesOthers (c :: before)⟩
      by_cases begins : c = '<'
      · subst begins
        refine ⟨?_, trivial⟩
        rwa [Text.lowerAfter_cons, Text.lowerAfter_append,
          Text.Utf8.encode_append, Text.Utf8.encode_append] at absent
      · exact passes_lowerBetween isTag begins _ _ _

/-- The search for a closing mark ends in the lower case where it ends in the
text. -/
theorem dropThrough_lowerAfter
    (isTag : IsTagMark closing)
    (isOwn : IsUnmistakable closing)
    (found : behindClosing? closing (kept ++ rest) = some rest)
    (before : List Char) :
    Text.dropThrough (encode closing)
        (encode (lowerAfter before (kept ++ rest))) =
      some (encode (lowerAfter (kept.reverse ++ before) rest)) := by
  obtain ⟨front, word, whole, sameLength, passes, spelled⟩ :=
    exists_of_behindClosing? isTag found
  rw [← List.append_assoc] at whole
  obtain rfl := List.append_cancel_right whole
  have ascii : ∀ c ∈ word, IsAscii c := by
    obtain ⟨first, others, same, length, ascii⟩ :=
      Text.exists_of_spells isOwn.ascii spelled
    obtain ⟨rfl, -⟩ := List.append_inj same (sameLength.trans length.symm)
    exact ascii
  have distance :
      (encode (lowerWithin (front.reverse ++ before) rest word)).length =
      (encode closing).length := by
    rw [Text.length_encode_lowerWithin_eq_lowerWidth,
      Text.lowerWidth_eq fun c isChar =>
        Text.keepsWidth_of_isAscii (ascii c isChar),
      Text.Utf8.length_encode_of_isAscii ascii, sameLength,
      Text.Utf8.length_encode_of_isAscii isOwn.ascii]
  have isPrefix :=
    (Text.encode_prefix_lowerAfter_iff isOwn (front.reverse ++ before)
      _).mpr spelled
  rw [List.append_assoc, Text.lowerAfter_append, Text.Utf8.encode_append,
    dropThrough_append (passes.encode_lowerWithin isTag isOwn before),
    dropThrough_of_prefix isTag.encode_ne_nil isPrefix, Text.lowerAfter_append,
    Text.Utf8.encode_append, List.drop_left' distance, List.reverse_append,
      List.append_assoc]

/-- If a text does not close a block, neither does its lower case. -/
theorem dropThrough_lowerAfter_eq_none
    (isTag : IsTagMark closing)
    (isOwn : IsUnmistakable closing)
    (endless : behindClosing? closing text = none)
    (before : List Char) :
    Text.dropThrough (encode closing) (encode (lowerAfter before text)) =
      none := by
  have passes :
      Passes (encode closing <+: ·) (encode (lowerAfter before text)) [] := by
    rw [← Text.lowerWithin_nil]
    exact (passes_of_behindClosing?_eq_none endless).encode_lowerWithin isTag
      isOwn before
  rw [← List.append_nil (encode (lowerAfter before text)),
    dropThrough_append passes]
  exact if_neg (by simpa using isTag.encode_ne_nil)

/-- The lower case of a text is divided like the text, each part as far as its
lower case goes. -/
theorem Divides.encode_lowerAfter
    (opens : IsTagMark opening)
    (ownOpening : IsUnmistakable opening)
    (closes : IsTagMark closing)
    (ownClosing : IsUnmistakable closing)
    (divides : Divides (Spells opening) (behindClosing? closing) text
      parts last)
    (before : List Char) :
    ∃ lowerParts lowerLast,
      Divides (encode opening <+: ·) (Text.dropThrough (encode closing))
        (encode (lowerAfter before text)) lowerParts lowerLast ∧
      lowerParts.map (Part.measure List.length) =
        parts.map (Part.measure lowerWidth) := by
  induction divides generalizing before with
  | plain passes =>
      have passesLower := passes.encode_lowerWithin opens ownOpening before
      rw [Text.lowerWithin_nil, lowerAfter] at passesLower
      exact ⟨[], _, .plain passesLower, rfl⟩
  | @closed kept block left last parts passes opened closed others
        inductionHypothesis =>
      have passesLower := passes.encode_lowerWithin opens ownOpening before
      have openedLower :=
        (Text.encode_prefix_lowerAfter_iff ownOpening (kept.reverse ++ before)
          _).mpr opened
      have closedLower :=
        dropThrough_lowerAfter closes ownClosing closed (kept.reverse ++ before)
      obtain ⟨lowerParts, lowerLast, dividesLower, distances⟩ :=
        inductionHypothesis (block.reverse ++ (kept.reverse ++ before))
      rw [Text.lowerAfter_append, Text.Utf8.encode_append]
        at passesLower openedLower closedLower
      refine ⟨⟨encode (lowerWithin before (block ++ left) kept),
        encode (lowerWithin (kept.reverse ++ before) left block)⟩ :: lowerParts,
        lowerLast, ?_, ?_⟩
      · rw [Text.lowerAfter_append, Text.lowerAfter_append,
          Text.Utf8.encode_append, Text.Utf8.encode_append]
        exact .closed passesLower openedLower closedLower dividesLower
      · rw [List.map_cons, List.map_cons, distances, Part.measure, Part.measure,
          Text.length_encode_lowerWithin_eq_lowerWidth,
          Text.length_encode_lowerWithin_eq_lowerWidth]
  | @unclosed kept block passes opened endless =>
      have passesLower := passes.encode_lowerWithin opens ownOpening before
      have openedLower :=
        (Text.encode_prefix_lowerAfter_iff ownOpening (kept.reverse ++ before)
          _).mpr opened
      have endlessLower :=
        dropThrough_lowerAfter_eq_none closes ownClosing endless
        (kept.reverse ++ before)
      refine ⟨[⟨encode (lowerWithin before block kept),
        encode (lowerAfter (kept.reverse ++ before) block)⟩], [], ?_, ?_⟩
      · rw [Text.lowerAfter_append, Text.Utf8.encode_append]
        exact .unclosed passesLower openedLower endlessLower
      · rw [List.map_singleton, List.map_singleton, Part.measure, Part.measure,
          Text.length_encode_lowerWithin_eq_lowerWidth, ← Text.lowerWithin_nil,
          Text.length_encode_lowerWithin_eq_lowerWidth]

end Lower

/-! ## Places in a text -/

section Places

variable {text : List Char} {distances : List (Nat × Nat)}

theorem sum_measure
    (parts : List (Part UInt8)) :
    ((parts.map (Part.measure List.length)).map fun block =>
        block.1 + block.2).sum =
      (parts.flatMap Part.items).length := by
  induction parts with
  | nil => rfl
  | cons part others inductionHypothesis =>
      rw [List.map_cons, List.map_cons, List.sum_cons, inductionHypothesis,
        List.flatMap_cons, List.length_append, Part.items, List.length_append,
        Part.measure]

theorem cutsBetween_encode_iff
    (within : ∀ place ∈ places distances, place ≤ (encode text).length) :
    CutsBetween distances (encode text) ↔
      ∀ place ∈ places distances, FallsBetween text place :=
  forall₂_congr fun place isPlace =>
    Text.Utf8.isBoundary_drop_encode_iff (within place isPlace)

/-- If blocks are cut out between characters, a text is left. -/
theorem exists_encode_eq_cutAt
    (within : ∀ place ∈ places distances, place ≤ (encode text).length)
    (cuts : CutsBetween distances (encode text)) :
    ∃ left, encode left = cutAt distances (encode text) := by
  induction distances generalizing text with
  | nil => exact ⟨text, rfl⟩
  | cons first others inductionHypothesis =>
      obtain ⟨near, far⟩ := first
      have between := (cutsBetween_encode_iff within).mp cuts
      rw [places, List.forall_mem_cons, List.forall_mem_cons] at between
      obtain ⟨⟨front, back, split, isNear⟩, ⟨older, behind, splitBehind, isFar⟩,
          -⟩ := between
      have take : (encode text).take near = encode front := by
        rw [split, Text.Utf8.encode_append, List.take_left' isNear]
      have drop : (encode text).drop (near + far) = encode behind := by
        rw [splitBehind, Text.Utf8.encode_append, List.drop_left' isFar]
      have length : (encode text).length =
          near + far + (encode behind).length := by
        rw [splitBehind, Text.Utf8.encode_append, List.length_append, isFar]
      rw [places, List.forall_mem_cons, List.forall_mem_cons,
        List.forall_mem_map] at within
      rw [CutsBetween, places, List.forall_mem_cons, List.forall_mem_cons,
        List.forall_mem_map] at cuts
      obtain ⟨left, isLeft⟩ := @inductionHypothesis behind
        (fun place isPlace => by
          have atMost := within.2.2 place isPlace
          omega)
        (fun place isPlace => by
          rw [← drop, List.drop_drop]
          exact cuts.2.2 place isPlace)
      exact ⟨front ++ left,
        by rw [cutAt, take, drop, Text.Utf8.encode_append, isLeft]⟩

/-- At its own distances, a text is cut between its characters. -/
theorem fallsBetween_of_mem_places
    (parts : List (Part Char))
    (last : List Char) :
    ∀ place ∈ places (parts.map (Part.measure fun text =>
        (encode text).length)),
      FallsBetween (parts.flatMap Part.items ++ last) place := by
  induction parts with
  | nil => exact List.forall_mem_nil _
  | cons part others inductionHypothesis =>
      rw [List.map_cons, Part.measure, places, List.forall_mem_cons,
        List.forall_mem_cons, List.forall_mem_map, List.flatMap_cons,
        Part.items, List.append_assoc]
      refine ⟨⟨part.kept, _, List.append_assoc _ _ _, rfl⟩,
        ⟨part.kept ++ part.block, _, rfl, ?_⟩, fun place isPlace => ?_⟩
      · rw [Text.Utf8.encode_append, List.length_append]
      · obtain ⟨front, back, split, rfl⟩ := inductionHypothesis place isPlace
        refine ⟨part.kept ++ part.block ++ front, back, ?_, ?_⟩
        · rw [split, List.append_assoc, List.append_assoc, List.append_assoc]
        · rw [Text.Utf8.encode_append, Text.Utf8.encode_append,
            List.length_append, List.length_append]

/-- At its own distances, the parts that are kept are left of a text. -/
theorem cutAt_encode
    (parts : List (Part Char))
    (last : List Char) :
    cutAt (parts.map (Part.measure fun text => (encode text).length))
        (encode (parts.flatMap Part.items ++ last)) =
      encode (parts.flatMap Part.kept ++ last) := by
  induction parts with
  | nil => rfl
  | cons part others inductionHypothesis =>
      rw [List.map_cons, List.flatMap_cons, List.flatMap_cons, Part.items,
        List.append_assoc, List.append_assoc, List.append_assoc,
        Text.Utf8.encode_append, Text.Utf8.encode_append,
        Part.measure, cutAt_append rfl rfl, inductionHypothesis,
          ← Text.Utf8.encode_append]

end Places

/-! ## Scripts and styles -/

/-- Where a text spells a tag, it is divided into blocks. -/
def DividesText (tag : String) (text : List Char) (parts : List (Part Char))
    (last : List Char) :
    Prop :=
  Divides (Spells (openingMark tag)) (behindClosing? (closingMark tag)) text
    parts last

/-- Where bytes are those of a tag, they are divided into blocks. -/
def DividesBytes (tag : String) (bytes : List UInt8) (parts : List (Part UInt8))
    (last : List UInt8) : Prop :=
  Divides (encode (openingMark tag) <+: ·)
      (Text.dropThrough (encode (closingMark tag)))
    bytes parts last

/-- Both what is kept of a part and its block take as many bytes in lower
case. -/
def Part.KeepsWidth (part : Part Char) : Prop :=
  part.measure lowerWidth = part.measure fun text => (encode text).length

theorem isUnmistakable_of_tag
    {tag : String}
    (isTag : tag = "script" ∨ tag = "style") :
    IsUnmistakable (openingMark tag) ∧ IsUnmistakable (closingMark tag) := by
  rcases isTag with rfl | rfl
  · exact ⟨⟨by decide, by decide, by decide⟩, ⟨by decide, by decide, by decide⟩⟩
  · exact ⟨⟨by decide, by decide, by decide⟩, ⟨by decide, by decide, by decide⟩⟩

section Removing

variable {tag : String} {html last : List Char} {parts : List (Part Char)}

/-- The lower case of a text has its blocks where the text has them. -/
theorem DividesText.exists_dividesBytes
    (isTag : tag = "script" ∨ tag = "style")
    (divides : DividesText tag html parts last) :
    ∃ lowerParts lowerLast,
      DividesBytes tag (encode (Text.lower html)) lowerParts lowerLast ∧
      lowerParts.map (Part.measure List.length) =
        parts.map (Part.measure lowerWidth) := by
  obtain ⟨opens, closes⟩ := isTagMark_of_tag isTag
  obtain ⟨ownOpening, ownClosing⟩ := isUnmistakable_of_tag isTag
  exact divides.encode_lowerAfter opens ownOpening closes ownClosing []

/-- The distances of the blocks in lower case lead to the end of the text at
most. -/
theorem DividesText.le_of_mem_places
    (isTag : tag = "script" ∨ tag = "style")
    (sameWidth : lowerWidth html = (encode html).length)
    (divides : DividesText tag html parts last) :
    ∀ place ∈ places (parts.map (Part.measure lowerWidth)),
      place ≤ (encode html).length := by
  obtain ⟨lowerParts, lowerLast, dividesBytes, distances⟩ :=
    divides.exists_dividesBytes isTag
  intro place isPlace
  rw [← distances] at isPlace
  have atMost := Html.le_of_mem_places place isPlace
  have whole := congrArg List.length dividesBytes.items_eq
  have sameLength : (encode (Text.lower html)).length = (encode html).length :=
    sameWidth
  rw [sum_measure] at atMost
  rw [sameLength, List.length_append] at whole
  omega

/-- The blocks are cut out at the distances that they have in lower case. -/
theorem DividesText.removeBlocks_eq_ite
    (isTag : tag = "script" ∨ tag = "style")
    (sameWidth : lowerWidth html = (encode html).length)
    (divides : DividesText tag html parts last) :
    removeBlocks tag html =
      if CutsBetween (parts.map (Part.measure lowerWidth)) (encode html) then
        Text.Utf8.decode?
          (cutAt (parts.map (Part.measure lowerWidth)) (encode html))
      else none := by
  obtain ⟨opens, closes⟩ := isTagMark_of_tag isTag
  obtain ⟨lowerParts, lowerLast, dividesBytes, distances⟩ :=
    divides.exists_dividesBytes isTag
  have opening : ("<" ++ tag).toList = openingMark tag := String.toList_append
  have closing : ("</" ++ tag ++ ">").toList = closingMark tag := by
    rw [String.toList_append, String.toList_append]
    rfl
  have sameLength : (encode (Text.lower html)).length = (encode html).length :=
    sameWidth
  rw [DividesBytes, ← List.map_snd_zip (Nat.le_of_eq sameWidth)] at dividesBytes
  have left :=
    dividesBytes.dropBlocks_eq opens.encode_ne_nil closes.encode_ne_nil
  rw [distances, List.map_fst_zip (Nat.le_of_eq sameWidth.symm)] at left
  rw [removeBlocks, if_neg (not_not_intro sameLength), Text.Utf8.bytes,
    Text.Utf8.bytes, opening, closing]
  dsimp only
  rw [left]
  split
  · rw [Option.bind_some]
  · rfl

/-- Something is left exactly if all blocks begin and end between characters. -/
theorem DividesText.isSome_removeBlocks_iff
    (isTag : tag = "script" ∨ tag = "style")
    (sameWidth : lowerWidth html = (encode html).length)
    (divides : DividesText tag html parts last) :
    (removeBlocks tag html).isSome = true ↔
      ∀ place ∈ places (parts.map (Part.measure lowerWidth)),
        FallsBetween html place := by
  have within := divides.le_of_mem_places isTag sameWidth
  rw [divides.removeBlocks_eq_ite isTag sameWidth,
    ← cutsBetween_encode_iff within]
  split
  · rename_i cuts
    obtain ⟨left, isLeft⟩ := exists_encode_eq_cutAt within cuts
    rw [← isLeft, Text.Utf8.decode?_encode]
    exact iff_of_true rfl cuts
  · rename_i cutsNot
    exact iff_of_false Bool.false_ne_true cutsNot

/--
The blocks of a tag can be cut out of a text: it takes another number of bytes
in lower case, so that none is cut out, or all of them begin and end between
characters.
-/
def CanBeCut (tag : String) (html : List Char) : Prop :=
  lowerWidth html = (encode html).length → ∀ parts last,
      DividesText tag html parts last →
    ∀ place ∈ places (parts.map (Part.measure lowerWidth)),
      FallsBetween html place

/-- Something is left of a text exactly if the blocks can be cut out of it. -/
theorem isSome_removeBlocks_iff
    (isTag : tag = "script" ∨ tag = "style") :
    (removeBlocks tag html).isSome = true ↔ CanBeCut tag html := by
  by_cases sameWidth : lowerWidth html = (encode html).length
  · obtain ⟨parts, last, divides⟩ :=
      exists_divides (openingMark tag) (closingMark tag) html
    rw [CanBeCut, forall_prop_of_true sameWidth]
    constructor
    · intro removed parts last divides
      exact (DividesText.isSome_removeBlocks_iff isTag sameWidth
        divides).mp removed
    · intro falls
      exact (DividesText.isSome_removeBlocks_iff isTag sameWidth divides).mpr
        (falls parts last divides)
  · rw [removeBlocks_of_length_ne sameWidth]
    exact iff_of_true rfl fun same => absurd same sameWidth

/-- What is left are the bytes between the blocks. -/
theorem DividesText.encode_eq_cutAt
    (isTag : tag = "script" ∨ tag = "style")
    (sameWidth : lowerWidth html = (encode html).length)
    (divides : DividesText tag html parts last)
    {left : List Char}
    (removed : removeBlocks tag html = some left) :
    encode left =
      cutAt (parts.map (Part.measure lowerWidth)) (encode html) := by
  rw [divides.removeBlocks_eq_ite isTag sameWidth,
    Option.ite_none_right_eq_some] at removed
  exact Text.Utf8.encode_of_decode? removed.2

/-- If every part keeps its width, what is left is what stands between the
blocks. -/
theorem DividesText.removeBlocks_eq
    (isTag : tag = "script" ∨ tag = "style")
    (sameWidth : lowerWidth html = (encode html).length)
    (divides : DividesText tag html parts last)
    (keeps : ∀ part ∈ parts, part.KeepsWidth) :
    removeBlocks tag html = some (parts.flatMap Part.kept ++ last) := by
  have within := divides.le_of_mem_places isTag sameWidth
  rw [List.map_congr_left keeps] at within
  rw [divides.removeBlocks_eq_ite isTag sameWidth, List.map_congr_left keeps,
    if_pos ((cutsBetween_encode_iff within).mpr ?_), divides.items_eq,
      cutAt_encode,
    Text.Utf8.decode?_encode]
  rw [divides.items_eq]
  exact fallsBetween_of_mem_places parts last

/-- If every character keeps its width, the blocks are removed that the text
spells. -/
theorem removeBlocks_eq
    (isTag : tag = "script" ∨ tag = "style")
    (keeps : ∀ c ∈ html, KeepsWidth c) :
    removeBlocks tag html =
      some (withoutBlocks (openingMark tag) (closingMark tag) html) := by
  obtain ⟨opens, -⟩ := isTagMark_of_tag isTag
  obtain ⟨parts, last, divides⟩ :=
    exists_divides (openingMark tag) (closingMark tag) html
  rw [divides.withoutBlocks_eq opens]
  refine DividesText.removeBlocks_eq isTag (Text.lowerWidth_eq keeps) divides
    fun part isPart => ?_
  have within : ∀ c ∈ part.items, KeepsWidth c := fun c isChar => keeps c <| by
    rw [divides.items_eq]
    exact List.mem_append_left last (List.mem_flatMap.mpr
      ⟨part, isPart, isChar⟩)
  obtain ⟨kept, block⟩ := List.forall_mem_append.mp within
  rw [Part.KeepsWidth, Part.measure, Part.measure, Text.lowerWidth_eq kept,
    Text.lowerWidth_eq block]

end Removing

/--
In a text that takes as many bytes in lower case, scripts and styles are found
where the text spells their tags: part for part the lower case is divided like
the text.  They are cut out at the distances that they have in lower case.  If
one of these ends inside a character of the text, the program breaks down, and
otherwise the bytes between the blocks are left.  That is what stands between
the blocks of the text itself if every part of it takes as many bytes in lower
case.
-/
theorem blocks_cut_at_distances_in_lower_case
    {tag : String}
    (isTag : tag = "script" ∨ tag = "style")
    {html : List Char}
    (sameWidth : lowerWidth html = (encode html).length) :
    (∃ parts last, DividesText tag html parts last) ∧
    ∀ parts last, DividesText tag html parts last →
      (html = parts.flatMap Part.items ++ last ∧
        withoutBlocks (openingMark tag) (closingMark tag) html =
          parts.flatMap Part.kept ++ last) ∧
      (∃ lowerParts lowerLast,
        DividesBytes tag (encode (Text.lower html)) lowerParts lowerLast ∧
        lowerParts.map (Part.measure List.length) =
          parts.map (Part.measure lowerWidth)) ∧
      ((removeBlocks tag html).isSome = true ↔
        ∀ place ∈ places (parts.map (Part.measure lowerWidth)),
          FallsBetween html place) ∧
      (∀ left, removeBlocks tag html = some left →
        encode left =
          cutAt (parts.map (Part.measure lowerWidth)) (encode html)) ∧
      ((∀ part ∈ parts, part.KeepsWidth) →
        removeBlocks tag html =
          some (withoutBlocks (openingMark tag) (closingMark tag) html)) := by
  obtain ⟨opens, -⟩ := isTagMark_of_tag isTag
  refine ⟨exists_divides _ _ html, fun parts last divides => ?_⟩
  have between := Divides.withoutBlocks_eq opens divides
  refine ⟨⟨divides.items_eq, between⟩, divides.exists_dividesBytes isTag,
    divides.isSome_removeBlocks_iff isTag sameWidth,
    fun left removed => divides.encode_eq_cutAt isTag sameWidth removed,
      fun keeps => ?_⟩
  rw [between]
  exact divides.removeBlocks_eq isTag sameWidth keeps

/-- Letters of other widths in a script have no effect if they make up for each
other there. -/
theorem blocks_cut_with_other_widths_inside :
    removeBlocks "script" "a<SCRIPT>ȺȺ\u212A</Script>b".toList =
      some "ab".toList := by
  have divides : DividesText "script" "a<SCRIPT>ȺȺ\u212A</Script>b".toList
      [⟨"a".toList, "<SCRIPT>ȺȺ\u212A</Script>".toList⟩] "b".toList := by
    have passes : Passes (Spells (openingMark "script")) "a".toList
        ("<SCRIPT>ȺȺ\u212A</Script>".toList ++ "b".toList) :=
          ⟨by decide +kernel, trivial⟩
    have plain : Passes (Spells (openingMark "script")) "b".toList [] :=
      ⟨by decide +kernel, trivial⟩
    exact .closed passes (by decide +kernel) (by decide +kernel) (.plain plain)
  have keeps :
      ∀ part ∈ [(⟨"a".toList, "<SCRIPT>ȺȺ\u212A</Script>".toList⟩ : Part Char)],
      part.KeepsWidth := by
    intro part isPart
    obtain rfl := List.mem_singleton.mp isPart
    rw [Part.KeepsWidth]
    decide +kernel
  obtain ⟨⟨-, left⟩, -, -, -, same⟩ :=
    (blocks_cut_at_distances_in_lower_case (.inl rfl) (by decide +kernel)).2
      _ _ divides
  rw [same keeps, left]
  decide +kernel

/--
Letters of other widths on both sides of a script move the place at which it is
cut out, and the program breaks down if that place is inside a letter.
-/
theorem blocks_cut_at_wrong_place :
    ¬ (∀ tag ∈ ["script", "style"], ∀ html : List Char,
        lowerWidth html = (encode html).length → ∀ left,
            removeBlocks tag html = some left →
          left = withoutBlocks (openingMark tag) (closingMark tag) html) ∧
      ¬ ∀ tag ∈ ["script", "style"], ∀ html : List Char,
        lowerWidth html = (encode html).length →
          (removeBlocks tag html).isSome = true := by
  constructor
  · intro always
    have removed : removeBlocks "script" "ȺȺ<script>x</script>ab\u212A".toList =
        some "ȺȺ<s\u212A".toList := by
      decide +kernel
    have same :=
      always "script" (by decide) "ȺȺ<script>x</script>ab\u212A".toList
      (by decide +kernel) _ removed
    have spelled : withoutBlocks (openingMark "script") (closingMark "script")
        "ȺȺ<script>x</script>ab\u212A".toList = "ȺȺab\u212A".toList := by
      decide +kernel
    exact absurd (same.trans spelled) (by decide)
  · intro always
    have breaksDown :
        removeBlocks "script" "\u212A<script>x</script>ȺȺ".toList = none := by
      decide +kernel
    have removed :=
      always "script" (by decide) "\u212A<script>x</script>ȺȺ".toList
      (by decide +kernel)
    rw [breaksDown] at removed
    cases removed

end Html
end MailSearch
