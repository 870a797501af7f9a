import Mathlib.Algebra.GroupWithZero.Nat
import Mathlib.Data.List.Basic
import MailSearch.Mime.Html
import MailSearch.Proofs.Text.LetterCase
import MailSearch.Proofs.Text.Lines

/-!
# Blocks of a tag

A scan from left to right divides a sequence into items that are kept and
blocks: a block begins at the first place where one opens, and reaches through
the first place from there on where one closes, or to the end if there is none.
Over characters the scan looks for the tags that a text spells, and the
characters between the blocks are what is left.  Over bytes it looks for them in
the lower case of a text, and what is left is cut out of the text itself at the
distances that were found, if these lead to places between its characters.
-/

namespace MailSearch
namespace Html

open Text (Spells)
open Text.Utf8 (encode IsAscii)

/-- A mark that only its first character begins, such as `</style>`. -/
structure IsTagMark (mark : List Char) : Prop where
  /-- The mark begins with `<` and has none behind it. -/
  begins : ∃ rest, mark = '<' :: rest ∧ '<' ∉ rest
  /-- The mark is ASCII. -/
  ascii : ∀ c ∈ mark, IsAscii c

/-! ## Division into blocks -/

/-- Items that are kept, and the block behind them. -/
structure Part (α : Type) where
  /-- The items in front of the block. -/
  kept : List α
  /-- The block. -/
  block : List α

namespace Part

variable {α : Type}

/-- All items of a part. -/
def items (part : Part α) : List α :=
  part.kept ++ part.block

/-- How far the block is away, and how far it reaches. -/
def measure (width : List α -> Nat) (part : Part α) : Nat × Nat :=
  (width part.kept, width part.block)

end Part

section Division

variable {α : Type} {opens : List α → Prop} {behind? : List α → Option (List α)}
variable {item : α} {front items rest : List α} {parts : List (Part α)}
  {last : List α}

/-- No block begins at one of the items, if `rest` stands behind them. -/
def Passes (opens : List α → Prop) : List α → List α → Prop
  | [], _ => True
  | item :: items, rest =>
      ¬ opens (item :: (items ++ rest)) ∧ Passes opens items rest

theorem passes_append_iff :
    Passes opens (front ++ items) rest ↔
      Passes opens front (items ++ rest) ∧ Passes opens items rest := by
  induction front with
  | nil => exact (iff_of_eq (true_and _)).symm
  | cons item others inductionHypothesis =>
      rw [List.cons_append, Passes, Passes, inductionHypothesis, and_assoc,
        List.append_assoc]

/-- Nothing begins among items of which none is the first one of a mark. -/
theorem passes_of_not_mem
    {first : α}
    {mark : List α}
    (begins : mark.head? = some first)
    (absent : first ∉ items)
    (rest : List α) :
    Passes (mark <+: ·) items rest := by
  induction items with
  | nil => trivial
  | cons item others inductionHypothesis =>
      rw [List.mem_cons, not_or] at absent
      obtain ⟨different, absentOthers⟩ := absent
      obtain ⟨tail, rfl⟩ := List.head?_eq_some_iff.mp begins
      exact ⟨fun isPrefix => different (List.cons_prefix_cons.mp isPrefix).1,
        inductionHypothesis absentOthers⟩

/--
A scan divides a sequence into parts with a block each and the last items.
Where a block opens, `behind?` gives what follows it, if it is closed.
-/
inductive Divides (opens : List α → Prop) (behind? : List α → Option (List α)) :
    List α → List (Part α) → List α → Prop
  /-- No block begins any more. -/
  | plain {last : List α} :
      Passes opens last [] → Divides opens behind? last [] last
  /-- The first block is closed, and the scan goes on behind it. -/
  | closed {kept block left last : List α} {parts : List (Part α)} :
      Passes opens kept (block ++ left) → opens (block ++ left) →
      behind? (block ++ left) = some left →
        Divides opens behind? left parts last →
      Divides opens behind? (kept ++ (block ++ left))
        (⟨kept, block⟩ :: parts) last
  /-- The first block is not closed. -/
  | unclosed {kept block : List α} :
      Passes opens kept block → opens block → behind? block = none →
      Divides opens behind? (kept ++ block) [⟨kept, block⟩] []

/-- The parts and the last items are the whole sequence. -/
theorem Divides.items_eq
    (divides : Divides opens behind? items parts last) :
    items = parts.flatMap Part.items ++ last := by
  induction divides with
  | plain passes => rfl
  | closed passes opened closes others inductionHypothesis =>
      rw [List.flatMap_cons, List.append_assoc, ← inductionHypothesis,
        Part.items, List.append_assoc]
  | unclosed passes opened endless =>
      rw [List.flatMap_cons, List.flatMap_nil, List.append_nil, List.append_nil,
        Part.items]

/-- An item at which no block begins is kept. -/
theorem Divides.exists_cons
    (divides : Divides opens behind? rest parts last)
    (unopened : ¬ opens (item :: rest)) :
    ∃ parts last, Divides opens behind? (item :: rest) parts last := by
  cases divides with
  | plain passes =>
      refine ⟨_, _, .plain ⟨?_, passes⟩⟩
      rwa [List.append_nil]
  | closed passes opened closes others =>
      have longer : Passes opens (item :: _) _ := ⟨unopened, passes⟩
      exact ⟨_, _, .closed longer opened closes others⟩
  | unclosed passes opened endless =>
      have longer : Passes opens (item :: _) _ := ⟨unopened, passes⟩
      exact ⟨_, _, .unclosed longer opened endless⟩

/-- What is left of items if blocks are cut out at measured distances. -/
def cutAt : List (Nat × Nat) → List α → List α
  | [], items => items
  | (kept, block) :: others, items =>
      items.take kept ++ cutAt others (items.drop (kept + block))

theorem cutAt_append
    {near far : Nat}
    {kept block : List α}
    (keptLength : kept.length = near)
    (blockLength : block.length = far)
    (distances : List (Nat × Nat))
    (left : List α) :
    cutAt ((near, far) :: distances) (kept ++ (block ++ left)) =
      kept ++ cutAt distances left := by
  subst keptLength blockLength
  rw [cutAt, List.take_left, ← List.append_assoc,
    List.drop_left' List.length_append]

/-- The places at which blocks at measured distances begin and end. -/
def places : List (Nat × Nat) → List Nat
  | [] => []
  | (kept, block) :: others =>
      kept :: (kept + block) :: (places others).map (kept + block + ·)

/-- No place lies behind the last block. -/
theorem le_of_mem_places
    {distances : List (Nat × Nat)} :
    ∀ place ∈ places distances,
      place ≤ (distances.map fun block => block.1 + block.2).sum := by
  induction distances with
  | nil => exact List.forall_mem_nil _
  | cons first others inductionHypothesis =>
      rw [places, List.forall_mem_cons, List.forall_mem_cons,
        List.forall_mem_map, List.map_cons, List.sum_cons]
      refine ⟨by omega, Nat.le_add_right _ _, fun place isPlace => ?_⟩
      exact Nat.add_le_add_left (inductionHypothesis place isPlace) _

end Division

/-! ## Blocks in characters -/

/-- What follows the first place at which a text spells a closing mark. -/
def behindClosing? (closing : List Char) : List Char -> Option (List Char)
  | [] => none
  | c :: rest =>
      if Spells closing (c :: rest) then some (rest.drop (closing.length - 1))
      else behindClosing? closing rest

theorem length_behindClosing?_lt
    {closing text rest : List Char}
    (found : behindClosing? closing text = some rest) :
    rest.length < text.length := by
  induction text with
  | nil => cases found
  | cons c others inductionHypothesis =>
      rw [behindClosing?] at found
      rw [List.length_cons]
      split at found
      · cases found
        rw [List.length_drop]
        omega
      · exact Nat.lt_succ_of_lt (inductionHypothesis found)

/-- What follows a closing mark stands at the end of the text. -/
theorem suffix_of_behindClosing?
    {closing text rest : List Char}
    (found : behindClosing? closing text = some rest) :
    rest <:+ text := by
  induction text with
  | nil => cases found
  | cons c others inductionHypothesis =>
      rw [behindClosing?] at found
      split at found
      · cases found
        exact (List.drop_suffix _ others).trans (List.suffix_cons c others)
      · exact (inductionHypothesis found).trans (List.suffix_cons c others)

/--
A text without its blocks: without every part from a place where it spells the
opening mark through the next place where it spells the closing mark, or through
the end if there is none.
-/
def withoutBlocks (opening closing text : List Char) : List Char :=
  match text with
  | [] => []
  | c :: rest =>
      if Spells opening (c :: rest) then
        match _found : behindClosing? closing (c :: rest) with
        | some rest => withoutBlocks opening closing rest
        | none => []
      else c :: withoutBlocks opening closing rest
termination_by text.length
decreasing_by
  · exact length_behindClosing?_lt _found
  · exact Nat.lt_succ_self _

/-- Nothing is added to a text. -/
theorem withoutBlocks_subset
    (opening closing text : List Char) :
    withoutBlocks opening closing text ⊆ text := by
  fun_induction withoutBlocks opening closing text with
  | case1 => exact List.Subset.refl _
  | case2 c rest spelled left found inductionHypothesis =>
      exact List.Subset.trans inductionHypothesis
        (suffix_of_behindClosing? found).subset
  | case3 c rest spelled found => exact List.nil_subset _
  | case4 c rest plain inductionHypothesis =>
      exact List.cons_subset_cons c inductionHypothesis

section Equations

variable {opening closing : List Char} {c : Char} {rest : List Char}

@[simp] theorem withoutBlocks_nil :
    withoutBlocks opening closing [] = [] := by
  rw [withoutBlocks]

theorem withoutBlocks_of_not_spells
    (plain : ¬ Spells opening (c :: rest)) :
    withoutBlocks opening closing (c :: rest) =
      c :: withoutBlocks opening closing rest := by
  rw [withoutBlocks, if_neg plain]

/-- An opening mark begins a block. -/
theorem withoutBlocks_of_spells
    (opened : Spells opening (c :: rest)) :
    withoutBlocks opening closing (c :: rest) =
      ((behindClosing? closing (c :: rest)).map
        (withoutBlocks opening closing)).getD [] := by
  rw [withoutBlocks, if_pos opened]
  split
  · rename_i left found
    rw [found]
    rfl
  · rename_i found
    rw [found]
    rfl

end Equations

section Parts

variable {opening closing text front rest last : List Char}
  {parts : List (Part Char)}

/-- The search for a closing mark ends at the first place that spells it, right
behind the mark. -/
theorem exists_of_behindClosing?
    (closes : IsTagMark closing)
    (found : behindClosing? closing text = some rest) :
    ∃ front word, text = front ++ (word ++ rest) ∧
      word.length = closing.length ∧
      Passes (Spells closing) front (word ++ rest) ∧
        Spells closing (word ++ rest) := by
  induction text with
  | nil => cases found
  | cons c others inductionHypothesis =>
      rw [behindClosing?] at found
      split at found
      · rename_i spelled
        cases found
        obtain ⟨tail, rfl, -⟩ := closes.begins
        have atMost := spelled.length_le
        rw [List.length_cons, List.length_cons, Nat.succ_le_succ_iff] at atMost
        have whole : c :: others.take tail.length ++ others.drop tail.length =
            c :: others := by
          rw [List.cons_append, List.take_append_drop]
        refine ⟨[], c :: others.take tail.length, whole.symm, ?_, trivial, ?_⟩
        · rw [List.length_cons, List.length_take_of_le atMost, List.length_cons]
        · exact whole.symm ▸ spelled
      · rename_i unspelled
        obtain ⟨front, word, rfl, sameLength, passes, spelled⟩ :=
          inductionHypothesis found
        exact ⟨c :: front, word, rfl, sameLength, ⟨unspelled, passes⟩, spelled⟩

/-- Without an end the search passes over the whole text. -/
theorem passes_of_behindClosing?_eq_none
    (endless : behindClosing? closing text = none) :
    Passes (Spells closing) text [] := by
  induction text with
  | nil => trivial
  | cons c others inductionHypothesis =>
      rw [behindClosing?] at endless
      split at endless
      · cases endless
      · rename_i unspelled
        refine ⟨?_, inductionHypothesis endless⟩
        rwa [List.append_nil]

theorem exists_divides
    (opening closing text : List Char) :
    ∃ parts last,
      Divides (Spells opening) (behindClosing? closing) text parts last := by
  fun_induction withoutBlocks opening closing text with
  | case1 => exact ⟨[], [], .plain trivial⟩
  | case2 c rest spelled left found inductionHypothesis =>
      obtain ⟨parts, last, others⟩ := inductionHypothesis
      obtain ⟨block, whole⟩ := suffix_of_behindClosing? found
      rw [← whole] at spelled found ⊢
      exact ⟨_, _,
        .closed (show Passes _ [] _ from trivial) spelled found others⟩
  | case3 c rest spelled endless =>
      exact ⟨_, _, .unclosed (show Passes _ [] _ from trivial) spelled endless⟩
  | case4 c rest unspelled inductionHypothesis =>
      obtain ⟨parts, last, others⟩ := inductionHypothesis
      exact others.exists_cons unspelled

theorem withoutBlocks_append
    (closing : List Char)
    (passes : Passes (Spells opening) front rest) :
    withoutBlocks opening closing (front ++ rest) =
      front ++ withoutBlocks opening closing rest := by
  induction front with
  | nil => rfl
  | cons c others inductionHypothesis =>
      obtain ⟨unspelled, passesOthers⟩ := passes
      rw [List.cons_append, withoutBlocks_of_not_spells unspelled,
        inductionHypothesis passesOthers, List.cons_append]

/-- The blocks of a text are those of its division. -/
theorem Divides.withoutBlocks_eq
    (opens : IsTagMark opening)
    (divides : Divides (Spells opening) (behindClosing? closing) text
      parts last) :
    withoutBlocks opening closing text = parts.flatMap Part.kept ++ last := by
  have begins : ∀ {text}, Spells opening text →
      withoutBlocks opening closing text =
        ((behindClosing? closing text).map (withoutBlocks opening closing)).getD
          [] := by
    intro text spelled
    cases text with
    | nil =>
        obtain ⟨others, rfl, -⟩ := opens.begins
        exact absurd spelled (by simp [Spells])
    | cons c rest => exact withoutBlocks_of_spells spelled
  induction divides with
  | plain passes =>
      have kept := withoutBlocks_append closing passes
      rwa [withoutBlocks_nil, List.append_nil] at kept
  | closed passes opened closes others inductionHypothesis =>
      rw [withoutBlocks_append closing passes, begins opened, closes,
        Option.map_some, Option.getD_some, inductionHypothesis,
        List.flatMap_cons, List.append_assoc]
  | unclosed passes opened endless =>
      rw [withoutBlocks_append closing passes, begins opened, endless]
      simp

end Parts

/-! ## Blocks in bytes -/

section Bytes

variable {opening closing : List UInt8} {pairs rest : List (UInt8 × UInt8)}

theorem isPrefixOf_take_iff
    {mark : List UInt8} :
    mark.isPrefixOf ((pairs.take mark.length).map Prod.snd) = true ↔
      mark <+: pairs.map Prod.snd := by
  rw [List.isPrefixOf_iff_prefix, List.map_take, List.prefix_take_iff]
  exact and_iff_left (Nat.le_refl _)

/-- The search for a closing mark is the search for it in the second bytes. -/
theorem map_afterClosing
    (nonempty : closing ≠ [])
    (pairs : List (UInt8 × UInt8)) :
    (afterClosing closing pairs).map (List.map Prod.snd) =
      Text.dropThrough closing (pairs.map Prod.snd) := by
  induction pairs with
  | nil =>
      rw [afterClosing, List.map_nil, Text.dropThrough,
        if_neg (by simpa using nonempty)]
      rfl
  | cons pair others inductionHypothesis =>
      obtain ⟨first, tail, rfl⟩ := List.exists_cons_of_ne_nil nonempty
      rw [afterClosing, List.map_cons, Text.dropThrough, ← inductionHypothesis,
        ← List.map_cons]
      by_cases found : (first :: tail) <+: (pair :: others).map Prod.snd
      · rw [if_pos (isPrefixOf_take_iff.mpr found),
          if_pos (List.isPrefixOf_iff_prefix.mpr found)]
        simp
      · rw [if_neg (mt isPrefixOf_take_iff.mp found),
          if_neg (mt List.isPrefixOf_iff_prefix.mp found)]

theorem dropBlocks_nil :
    dropBlocks opening closing [] = some [] := by
  rw [dropBlocks]

/-- A block that begins between two characters goes, if it ends between two
characters. -/
theorem dropBlocks_of_marked
    (nonempty : opening ≠ [])
    (found : opening <+: pairs.map Prod.snd) :
    dropBlocks opening closing pairs =
      if Text.Utf8.isBoundary (pairs.map Prod.fst) then
        match afterClosing closing pairs with
        | some left =>
            if Text.Utf8.isBoundary (left.map Prod.fst) then dropBlocks opening
              closing left
            else none
        | none => some []
      else none := by
  cases pairs with
  | nil => exact absurd (List.prefix_nil.mp found) nonempty
  | cons pair rest =>
      rw [dropBlocks, if_pos (isPrefixOf_take_iff.mpr found)]
      split
      · split
        · rename_i left closed
          rw [closed]
        · rename_i closed
          rw [closed]
      · rfl

/-- The first bytes are kept where the second bytes do not begin a block. -/
theorem dropBlocks_append
    (closing : List UInt8)
    (passes : Passes (opening <+: ·) (pairs.map Prod.snd) (rest.map Prod.snd)) :
    dropBlocks opening closing (pairs ++ rest) =
      (dropBlocks opening closing rest).map (pairs.map Prod.fst ++ ·) := by
  induction pairs with
  | nil => exact Option.map_id'.symm
  | cons pair others inductionHypothesis =>
      rw [List.map_cons, Passes, ← List.map_append, ← List.map_cons] at passes
      rw [List.cons_append, dropBlocks,
        if_neg (mt isPrefixOf_take_iff.mp passes.1),
        inductionHypothesis passes.2, Option.map_map, List.map_cons]
      rfl

/-- What follows a closing mark stands at the end of the pairs. -/
theorem suffix_of_afterClosing
    (found : afterClosing closing pairs = some rest) :
    rest <:+ pairs := by
  induction pairs with
  | nil => cases found
  | cons pair others inductionHypothesis =>
      rw [afterClosing] at found
      split at found
      · cases found
        exact (List.drop_suffix _ others).trans (List.suffix_cons pair others)
      · exact (inductionHypothesis found).trans (List.suffix_cons pair others)

/-- Nothing is added to the first bytes. -/
theorem dropBlocks_subset
    {left : List UInt8}
    (dropped : dropBlocks opening closing pairs = some left) :
    left ⊆ pairs.map Prod.fst := by
  fun_induction dropBlocks opening closing pairs generalizing left with
  | case1 =>
      cases dropped
      exact List.nil_subset _
  | case2 pair rest opened starts others closed ends inductionHypothesis =>
      exact List.Subset.trans (inductionHypothesis dropped)
        ((suffix_of_afterClosing closed).map Prod.fst).subset
  | case3 => cases dropped
  | case4 =>
      cases dropped
      exact List.nil_subset _
  | case5 => cases dropped
  | case6 pair rest unopened inductionHypothesis =>
      obtain ⟨others, droppedOthers, rfl⟩ := Option.map_eq_some_iff.mp dropped
      exact List.cons_subset_cons pair.1 (inductionHypothesis droppedOthers)

/-- Blocks at measured distances begin and end between two characters of some
bytes. -/
def CutsBetween (distances : List (Nat × Nat)) (bytes : List UInt8) : Prop :=
  ∀ place ∈ places distances, Text.Utf8.isBoundary (bytes.drop place) = true

instance (distances : List (Nat × Nat)) (bytes : List UInt8) :
    Decidable (CutsBetween distances bytes) :=
  inferInstanceAs (Decidable (∀ place ∈ places distances, _))

theorem cutsBetween_nil
    (bytes : List UInt8) :
    CutsBetween [] bytes :=
  List.forall_mem_nil _

theorem cutsBetween_cons_iff
    {near far : Nat}
    {kept block : List UInt8}
    (keptLength : kept.length = near)
    (blockLength : block.length = far)
    (distances : List (Nat × Nat))
    (left : List UInt8) :
    CutsBetween ((near, far) :: distances) (kept ++ (block ++ left)) ↔
      Text.Utf8.isBoundary (block ++ left) = true ∧
        Text.Utf8.isBoundary left = true ∧
        CutsBetween distances left := by
  subst keptLength blockLength
  have behind : (kept ++ (block ++ left)).drop (kept.length + block.length) =
      left := by
    rw [← List.append_assoc, List.drop_left' List.length_append]
  rw [CutsBetween, places, List.forall_mem_cons, List.forall_mem_cons,
    List.forall_mem_map, List.drop_left, behind]
  simp only [← List.drop_drop, behind, CutsBetween]

/--
Blocks are cut out of the first bytes at the distances that they have in the
second bytes, if they begin and end between two characters there.
-/
theorem Divides.dropBlocks_eq
    {parts : List (Part UInt8)}
    {last : List UInt8}
    (opens : opening ≠ [])
    (closes : closing ≠ [])
    (divides : Divides (opening <+: ·) (Text.dropThrough closing)
      (pairs.map Prod.snd) parts last) :
    dropBlocks opening closing pairs =
      if CutsBetween (parts.map (Part.measure List.length))
          (pairs.map Prod.fst) then
        some (cutAt (parts.map (Part.measure List.length)) (pairs.map Prod.fst))
      else none := by
  generalize isItems : pairs.map Prod.snd = items at divides
  induction divides generalizing pairs with
  | plain passes =>
      rw [← isItems, ← List.map_nil] at passes
      have kept := dropBlocks_append closing passes
      rw [dropBlocks_nil, List.append_nil, Option.map_some,
        List.append_nil] at kept
      rw [kept, List.map_nil, if_pos (cutsBetween_nil _), cutAt]
  | closed passes opened closed others inductionHypothesis =>
      obtain ⟨front, behind, rfl, rfl, isBehind⟩ :=
        List.map_eq_append_iff.mp isItems
      obtain ⟨within, left, rfl, rfl, rfl⟩ := List.map_eq_append_iff.mp isBehind
      rw [← List.map_append] at passes opened closed
      rw [← map_afterClosing closes, Option.map_eq_some_iff] at closed
      obtain ⟨found, isFound, sameSeconds⟩ := closed
      obtain ⟨older, whole⟩ := suffix_of_afterClosing isFound
      -- What was found is a suffix of the same length as the rest of the
      -- division.
      have sameLength := congrArg List.length sameSeconds
      rw [List.length_map, List.length_map] at sameLength
      obtain ⟨-, rfl⟩ := List.append_inj' whole sameLength
      rw [dropBlocks_append closing passes,
        dropBlocks_of_marked opens opened, isFound, List.map_cons, Part.measure,
        List.length_map, List.length_map]
      simp only [List.map_append, inductionHypothesis rfl,
        cutAt_append (List.length_map Prod.fst) (List.length_map Prod.fst),
        cutsBetween_cons_iff (List.length_map Prod.fst)
          (List.length_map Prod.fst)]
      split_ifs <;> simp_all only [Option.map_some, Option.map_none, and_self,
        not_true_eq_false, true_and, reduceCtorEq]
  | unclosed passes opened endless =>
      obtain ⟨front, behind, rfl, rfl, rfl⟩ := List.map_eq_append_iff.mp isItems
      rw [← map_afterClosing closes, Option.map_eq_none_iff] at endless
      have cut : cutAt [(front.length, behind.length)]
          (front.map Prod.fst ++ (behind.map Prod.fst ++ [])) =
            front.map Prod.fst := by
        rw [cutAt_append (List.length_map _) (List.length_map _), cutAt,
          List.append_nil]
      have noneLeft : Text.Utf8.isBoundary [] = true := rfl
      rw [dropBlocks_append closing passes,
        dropBlocks_of_marked opens opened, endless, List.map_singleton,
        Part.measure, List.length_map, List.length_map, List.map_append,
        ← List.append_nil (behind.map Prod.fst), cut]
      simp only [cutsBetween_cons_iff (List.length_map Prod.fst)
          (List.length_map Prod.fst),
        noneLeft, cutsBetween_nil, and_true]
      split_ifs
      · rw [Option.map_some, List.append_nil]
      · rfl

end Bytes

/-! ## Removing blocks -/

/-- The text that begins a block of a tag. -/
def openingMark (tag : String) : List Char :=
  '<' :: tag.toList

/-- The text that ends a block of a tag. -/
def closingMark (tag : String) : List Char :=
  '<' :: '/' :: tag.toList ++ ['>']

theorem isTagMark_of_tag
    {tag : String}
    (isTag : tag = "script" ∨ tag = "style") :
    IsTagMark (openingMark tag) ∧ IsTagMark (closingMark tag) := by
  rcases isTag with rfl | rfl
  · exact ⟨⟨⟨_, rfl, by decide⟩, by decide⟩, ⟨⟨_, rfl, by decide⟩, by decide⟩⟩
  · exact ⟨⟨⟨_, rfl, by decide⟩, by decide⟩, ⟨⟨_, rfl, by decide⟩, by decide⟩⟩

/-- A text that takes another number of bytes in lower case is left as it is. -/
theorem removeBlocks_of_length_ne
    {html : List Char}
    (different : (encode (Text.lower html)).length ≠ (encode html).length)
    (tag : String) :
    removeBlocks tag html = some html := by
  rw [removeBlocks, if_pos different]

/-- A text without `<` is left as it is. -/
theorem removeBlocks_of_not_mem
    {html : List Char}
    (plain : '<' ∉ html)
    (tag : String) :
    removeBlocks tag html = some html := by
  unfold removeBlocks
  dsimp only
  split
  · rfl
  · rename_i sameWidth
    have widths := not_not.mp sameWidth
    have begins : (Text.Utf8.bytes ("<" ++ tag)).head? =
        some (UInt8.ofNat '<'.toNat) := by
      rw [Text.Utf8.bytes, String.toList_append]
      exact congrArg List.head?
        (Text.Utf8.encode_cons_of_isAscii (by decide) tag.toList)
    have absent : UInt8.ofNat '<'.toNat ∉ encode (Text.lower html) :=
      fun isByte =>
      Text.IsMark.not_mem_lower (by decide) plain
        (Text.Utf8.mem_of_mem_encode (by decide) isByte)
    have passes := passes_of_not_mem begins absent []
    rw [← List.map_snd_zip (Nat.le_of_eq widths), ← List.map_nil] at passes
    have kept := dropBlocks_append (Text.Utf8.bytes ("</" ++ tag ++ ">")) passes
    rw [dropBlocks_nil, List.append_nil, Option.map_some, List.append_nil,
      List.map_fst_zip (Nat.le_of_eq widths.symm)] at kept
    rw [kept, Option.bind_some, Text.Utf8.decode?_encode]

/-- Scripts go first, and then the styles that are left. -/
theorem plainChars_of_removed
    {html scriptless visible : List Char}
    (scripts : removeBlocks "script" html = some scriptless)
    (styles : removeBlocks "style" scriptless = some visible) :
    plainChars html = some (shown visible) := by
  rw [plainChars, scripts]
  dsimp only [bind, Option.bind]
  rw [styles]
  rfl

end Html
end MailSearch
