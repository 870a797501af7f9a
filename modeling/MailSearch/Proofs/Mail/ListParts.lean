import Mathlib.Algebra.Ring.Parity
import MailSearch.Proofs.Mail.AddressList

/-!
# Parts of an address list

A list of addresses is cut at those of its commas that stand outside quotes and
angle brackets.  Quotes are open behind an odd number of them, and an angle
bracket is open if the last one outside quotes opens; the mode in which a list
is read says no more than this.  The parts between these commas are determined
by the list and are read one by one, so a list may be read in two pieces
wherever nothing is open in front of a comma.
-/

namespace MailSearch
namespace Address

open Text (joinWith)

/-! ## What is open behind a text -/

/-- Quotes are open behind a text. -/
def QuotesOpen (text : List Char) : Prop :=
  Odd (text.count '"')

/-- An angle bracket is open behind a text: the last one outside quotes
opens. -/
def BracketOpen (text : List Char) : Prop :=
  ∃ front back, text = front ++ '<' :: back ∧ ¬ QuotesOpen front ∧
    ∀ inner rest, back = inner ++ '>' :: rest →
      QuotesOpen (front ++ '<' :: inner)

/-- Neither quotes nor an angle bracket are open behind a text. -/
structure NothingOpen (text : List Char) : Prop where
  /-- What follows is outside quotes. -/
  quotesClosed : ¬ QuotesOpen text
  /-- What follows is outside angle brackets. -/
  bracketClosed : ¬ BracketOpen text

theorem quotesOpen_concat_iff
    (text : List Char)
    (c : Char) :
    QuotesOpen (text ++ [c]) ↔ if c = '"' then ¬ QuotesOpen text
      else QuotesOpen text := by
  rw [QuotesOpen, QuotesOpen, List.count_append]
  split_ifs with quote
  · rw [quote, List.count_singleton_self, Nat.odd_add_one]
  · rw [List.count_singleton, if_neg (by simpa using quote), Nat.add_zero]

/-- A bracket is opened outside quotes, and stays open until one is closed
outside quotes. -/
theorem bracketOpen_concat_iff
    (text : List Char)
    (c : Char) :
    BracketOpen (text ++ [c]) ↔
      c = '<' ∧ ¬ QuotesOpen text ∨ BracketOpen text ∧
        (c = '>' → QuotesOpen text) := by
  constructor
  · rintro ⟨front, back, split, unquoted, unclosed⟩
    rcases List.eq_nil_or_concat' back with rfl | ⟨inner, last, rfl⟩
    · obtain ⟨rfl, isOpening⟩ := List.append_inj' split rfl
      exact .inl ⟨List.singleton_inj.mp isOpening, unquoted⟩
    · rw [← List.cons_append, ← List.append_assoc] at split
      obtain ⟨rfl, isLast⟩ := List.append_inj' split rfl
      obtain rfl := List.singleton_inj.mp isLast
      refine .inr ⟨⟨front, inner, rfl, unquoted, fun between rest parted => ?_⟩,
        ?_⟩
      · exact unclosed between (rest ++ [c]) (by
          rw [parted, List.append_assoc, List.cons_append])
      · rintro rfl
        exact unclosed inner [] rfl
  · rintro (⟨rfl, unquoted⟩ | ⟨⟨front, back, rfl, unquoted, unclosed⟩, quoted⟩)
    · exact ⟨text, [], rfl, unquoted, fun inner rest absurd =>
        by simp at absurd⟩
    · refine ⟨front, back ++ [c], by rw [List.append_assoc, List.cons_append],
        unquoted, ?_⟩
      intro inner rest parted
      rcases List.eq_nil_or_concat' rest with rfl | ⟨between, last, rfl⟩
      · obtain ⟨rfl, isLast⟩ := List.append_inj' parted rfl
        exact quoted (List.singleton_inj.mp isLast)
      · rw [← List.cons_append, ← List.append_assoc] at parted
        exact unclosed inner between (List.append_inj' parted rfl).1

namespace Mode

/-- What is open behind a text. -/
def through (mode : Mode) (text : List Char) : Mode :=
  text.foldl after mode

@[simp] theorem through_nil
    (mode : Mode) :
    mode.through [] = mode := rfl

@[simp] theorem through_cons
    (mode : Mode)
    (c : Char)
    (rest : List Char) :
    mode.through (c :: rest) = (mode.after c).through rest := rfl

theorem through_append
    (mode : Mode)
    (left right : List Char) :
    mode.through (left ++ right) = (mode.through left).through right :=
  List.foldl_append

/-- The mode behind a text says whether quotes and whether a bracket are open
there. -/
theorem through_outside_iff
    (text : List Char) :
    ((outside.through text).quoted = true ↔ QuotesOpen text) ∧
      ((outside.through text).angled = true ↔ BracketOpen text) := by
  -- What is open depends on all that was read, so the step is a character at
  -- the back.
  induction text using List.reverseRecOn with
  | nil => simp [outside, QuotesOpen, BracketOpen]
  | append_singleton text c inductionHypothesis =>
      obtain ⟨quotes, bracket⟩ := inductionHypothesis
      rw [quotesOpen_concat_iff, bracketOpen_concat_iff, ← quotes, ← bracket,
        through_append, through_cons, through_nil, after]
      generalize outside.through text = mode
      split_ifs <;> simp_all

theorem eq_outside_iff
    {mode : Mode} :
    mode = outside ↔ ¬ mode.quoted = true ∧ ¬ mode.angled = true := by
  obtain ⟨_ | _, _ | _⟩ := mode <;> simp [outside]

theorem through_eq_outside_iff
    {text : List Char} :
    outside.through text = outside ↔ NothingOpen text := by
  obtain ⟨quotes, bracket⟩ := through_outside_iff text
  rw [eq_outside_iff, quotes, bracket]
  exact ⟨fun ⟨quotesClosed, bracketClosed⟩ => ⟨quotesClosed, bracketClosed⟩,
    fun closed => ⟨closed.quotesClosed, closed.bracketClosed⟩⟩

end Mode

/-! ## Ends of parts -/

/-- Some joined parts end behind a text, and others follow. -/
def EndsBehind (parts : List (List Char)) (front : List Char) : Prop :=
  ∃ left right, left ≠ [] ∧ right ≠ [] ∧ parts = left ++ right ∧
    joinWith [','] left = front

section Ends

variable {part front : List Char} {parts others : List (List Char)}

theorem joinWith_first
    (nonempty : parts ≠ [])
    (part : List Char) :
    joinWith [','] (part :: parts) = part ++ ',' :: joinWith [','] parts :=
  Text.joinWith_append (List.cons_ne_nil part []) nonempty ','

theorem not_endsBehind_singleton :
    ¬ EndsBehind [part] front := by
  rintro ⟨left, right, leftNonempty, rightNonempty, split, -⟩
  rcases List.append_eq_singleton_iff.mp split.symm with ⟨empty, -⟩ | ⟨-, empty⟩
  · exact leftNonempty empty
  · exact rightNonempty empty

/-- The first part ends behind itself, unless it is the only one, and the others
end later. -/
theorem endsBehind_cons_iff
    (nonempty : parts ≠ []) :
    EndsBehind (part :: parts) front ↔
      front = part ∨ ∃ later, EndsBehind parts later ∧
        front = part ++ ',' :: later := by
  constructor
  · rintro ⟨left, right, leftNonempty, rightNonempty, split, rfl⟩
    obtain ⟨first, rest, rfl⟩ := List.exists_cons_of_ne_nil leftNonempty
    obtain ⟨rfl, rfl⟩ := List.cons.inj split
    by_cases alone : rest = []
    · rw [alone]
      exact .inl rfl
    · exact .inr ⟨joinWith [','] rest,
        ⟨rest, right, alone, rightNonempty, rfl, rfl⟩,
        joinWith_first alone part⟩
  · rintro (rfl | ⟨later,
        ⟨left, right, leftNonempty, rightNonempty, rfl, rfl⟩, rfl⟩)
    · exact ⟨[front], parts, List.cons_ne_nil _ _, nonempty, rfl, rfl⟩
    · exact ⟨part :: left, right, List.cons_ne_nil _ _, rightNonempty, rfl,
        joinWith_first leftNonempty part⟩

theorem endsBehind_append_comma_iff
    (nonempty : parts ≠ []) :
    EndsBehind (part :: parts) (part ++ ',' :: front) ↔
      EndsBehind parts front := by
  rw [endsBehind_cons_iff nonempty]
  constructor
  · rintro (same | ⟨later, ends, same⟩)
    · simp at same
    · obtain ⟨-, rfl⟩ := List.cons.inj (List.append_cancel_left same)
      exact ends
  · intro ends
    exact .inr ⟨front, ends, rfl⟩

theorem EndsBehind.isPrefix
    (ends : EndsBehind (part :: parts) front) :
    part <+: front := by
  by_cases nonempty : parts = []
  · rw [nonempty] at ends
    exact absurd ends not_endsBehind_singleton
  · rcases (endsBehind_cons_iff nonempty).mp ends with rfl | ⟨later, -, rfl⟩
    · exact List.prefix_rfl
    · exact List.prefix_append part _

/-- What stands in front of the first part moves the ends behind it. -/
theorem EndsBehind.tail
    {c : Char}
    (ends : EndsBehind ((c :: part) :: parts) front) :
    ∃ later, front = c :: later ∧ EndsBehind (part :: parts) later := by
  obtain ⟨left, right, leftNonempty, rightNonempty, split, rfl⟩ := ends
  obtain ⟨first, rest, rfl⟩ := List.exists_cons_of_ne_nil leftNonempty
  obtain ⟨rfl, rfl⟩ := List.cons.inj split
  refine ⟨joinWith [','] (part :: rest), ?_, part :: rest, right,
    List.cons_ne_nil _ _, rightNonempty, rfl, rfl⟩
  rw [Text.joinWith_cons, Text.joinWith_cons, List.cons_append]

theorem endsBehind_first
    (nonempty : parts ≠ [])
    (part : List Char) :
    EndsBehind (part :: parts) part :=
  (endsBehind_cons_iff nonempty).mpr (.inl rfl)

theorem exists_endsBehind_iff
    (part : List Char) :
    (∃ front, EndsBehind (part :: parts) front) ↔ parts ≠ [] := by
  refine ⟨?_, fun nonempty => ⟨part, endsBehind_first nonempty part⟩⟩
  rintro ⟨front, ends⟩ rfl
  exact not_endsBehind_singleton ends

/-- Of some parts the first one ends first. -/
theorem first_eq_of_endsBehind_iff
    {other : List Char}
    (nonempty : parts ≠ [])
    (othersNonempty : others ≠ [])
    (same : ∀ front, EndsBehind (part :: parts) front ↔
      EndsBehind (other :: others) front) :
    part = other := by
  have front : part <+: other :=
    ((same other).mpr (endsBehind_first othersNonempty other)).isPrefix
  have otherFront : other <+: part :=
    ((same part).mp (endsBehind_first nonempty part)).isPrefix
  exact front.eq_of_length
    (Nat.le_antisymm front.length_le otherFront.length_le)

/-- Parts that end in the same places of the same text are the same. -/
theorem eq_of_endsBehind_iff
    (nonempty : parts ≠ [])
    (othersNonempty : others ≠ [])
    (joined : joinWith [','] parts = joinWith [','] others)
    (same : ∀ front, EndsBehind parts front ↔ EndsBehind others front) :
    parts = others := by
  induction parts generalizing others with
  | nil => exact absurd rfl nonempty
  | cons part rest inductionHypothesis =>
      obtain ⟨other, otherRest, rfl⟩ :=
        List.exists_cons_of_ne_nil othersNonempty
      have more : rest ≠ [] ↔ otherRest ≠ [] := by
        rw [← exists_endsBehind_iff part, ← exists_endsBehind_iff other]
        exact exists_congr same
      by_cases alone : rest = []
      · obtain rfl : otherRest = [] :=
          not_not.mp (more.not.mp (not_not.mpr alone))
        rw [alone] at joined ⊢
        exact congrArg (fun first => [first]) joined
      · have otherMore := more.mp alone
        obtain rfl := first_eq_of_endsBehind_iff alone otherMore same
        rw [joinWith_first alone, joinWith_first otherMore] at joined
        have joinedRest := (List.cons.inj (List.append_cancel_left joined)).2
        have sameRest : ∀ later, EndsBehind rest later ↔
            EndsBehind otherRest later := by
          intro later
          rw [← endsBehind_append_comma_iff alone,
            ← endsBehind_append_comma_iff otherMore]
          exact same (part ++ ',' :: later)
        rw [inductionHypothesis alone otherMore joinedRest sameRest]

end Ends

/-! ## Parts of a list -/

/--
A text is put together from parts with commas between them, and these are the
commas in front of which nothing is open.
-/
structure Parts (text : List Char) (parts : List (List Char)) : Prop where
  /-- There is a part. -/
  nonempty : parts ≠ []
  /-- Nothing but the commas between the parts is lost. -/
  joined : joinWith [','] parts = text
  /-- A part ends in front of a comma exactly if nothing is open there. -/
  ends_iff : ∀ front back, text = front ++ ',' :: back →
    (EndsBehind parts front ↔ NothingOpen front)

/-- The commas in front of which nothing is open determine the parts. -/
theorem Parts.unique
    {text : List Char}
    {parts others : List (List Char)}
    (isParted : Parts text parts)
    (otherwise : Parts text others) :
    parts = others := by
  refine eq_of_endsBehind_iff isParted.nonempty otherwise.nonempty
    (isParted.joined.trans otherwise.joined.symm) fun front => ?_
  by_cases marked : ∃ back, text = front ++ ',' :: back
  · obtain ⟨back, split⟩ := marked
    rw [isParted.ends_iff front back split, otherwise.ends_iff front back split]
  -- Without a comma behind it a text cannot be where a part ends.
  · have neither : ∀ {pieces}, Parts text pieces →
        ¬ EndsBehind pieces front := by
      rintro _ pieced ⟨left, right, leftNonempty, rightNonempty, rfl, rfl⟩
      refine marked ⟨joinWith [','] right, ?_⟩
      rw [← pieced.joined, Text.joinWith_append leftNonempty rightNonempty]
    exact iff_of_false (neither isParted) (neither otherwise)

namespace Mode

variable {mode : Mode} {text : List Char}

/-- A list is cut at one character, or the character belongs to the first part
behind it. -/
theorem segments_cons_cases
    (mode : Mode)
    (c : Char)
    (rest : List Char) :
    mode.Cuts c ∧
        mode.segments (c :: rest) = [] :: (mode.after c).segments rest ∨
      ∃ first others, (mode.after c).segments rest = first :: others ∧
        mode.segments (c :: rest) = (c :: first) :: others := by
  by_cases cut : mode.Cuts c
  · obtain ⟨rfl, rfl⟩ := cut
    exact .inl ⟨⟨rfl, rfl⟩, rfl⟩
  · obtain ⟨first, others, isCons⟩ :=
      List.exists_cons_of_ne_nil (segments_ne_nil (mode.after c) rest)
    refine .inr ⟨first, others, isCons, ?_⟩
    rw [segments_cons cut, isCons, List.modifyHead_cons]

/-- Nothing but the commas between the segments is lost. -/
theorem joinWith_segments
    (mode : Mode)
    (text : List Char) :
    joinWith [','] (mode.segments text) = text := by
  induction text generalizing mode with
  | nil => rfl
  | cons c rest inductionHypothesis =>
      rcases segments_cons_cases mode c rest with
        ⟨⟨rfl, -⟩, cut⟩ | ⟨first, others, isCons, uncut⟩
      · rw [cut, joinWith_first (segments_ne_nil _ _), inductionHypothesis,
          List.nil_append]
      · have joined := inductionHypothesis (mode.after c)
        rw [isCons, Text.joinWith_cons] at joined
        rw [uncut, Text.joinWith_cons, List.cons_append, joined]

/-- A text that leaves nothing open is cut by itself in front of a comma. -/
theorem segments_append_of_through
    (closed : mode.through text = outside)
    (rest : List Char) :
    mode.segments (text ++ ',' :: rest) = mode.segments text ++
      outside.segments rest := by
  induction text generalizing mode with
  | nil =>
      obtain rfl : mode = outside := closed
      rw [List.nil_append, segments_comma, segments_nil, List.singleton_append]
  | cons c later inductionHypothesis =>
      have parted := inductionHypothesis closed
      rw [List.cons_append]
      by_cases cut : mode.Cuts c
      · obtain ⟨rfl, rfl⟩ := cut
        rw [segments_comma, segments_comma, List.cons_append]
        exact congrArg ([] :: ·) parted
      · obtain ⟨first, others, isCons⟩ :=
          List.exists_cons_of_ne_nil (segments_ne_nil (mode.after c) later)
        rw [segments_cons cut, segments_cons cut, parted, isCons]
        rfl

/-- Nothing is open where a segment ends. -/
theorem through_of_endsBehind
    {front : List Char}
    (ends : EndsBehind (mode.segments text) front) :
    mode.through front = outside := by
  induction text generalizing mode front with
  | nil => exact absurd ends not_endsBehind_singleton
  | cons c rest inductionHypothesis =>
      rcases segments_cons_cases mode c rest with
        ⟨⟨rfl, rfl⟩, cut⟩ | ⟨first, others, isCons, uncut⟩
      · rw [cut, endsBehind_cons_iff (segments_ne_nil _ _)] at ends
        rcases ends with rfl | ⟨later, endsLater, rfl⟩
        · rfl
        · rw [List.nil_append, through_cons]
          exact inductionHypothesis endsLater
      · rw [uncut] at ends
        obtain ⟨later, rfl, endsLater⟩ := ends.tail
        rw [← isCons] at endsLater
        rw [through_cons]
        exact inductionHypothesis endsLater

end Mode

/-- The segments of a list are its parts. -/
theorem parts_segments
    (text : List Char) :
    Parts text (Mode.outside.segments text) where
  nonempty := Mode.segments_ne_nil _ text
  joined := Mode.joinWith_segments _ text
  ends_iff := by
    rintro front back rfl
    rw [← Mode.through_eq_outside_iff]
    refine ⟨Mode.through_of_endsBehind, fun closed => ?_⟩
    exact ⟨_, _, Mode.segments_ne_nil _ front, Mode.segments_ne_nil _ back,
      Mode.segments_append_of_through closed back,
        Mode.joinWith_segments _ front⟩

/-! ## Reading a list in pieces -/

/-- What is in front of a comma is read by itself if nothing is open there. -/
theorem listOfChars_append_of_through
    {text : List Char}
    (closed : Mode.outside.through text = .outside)
    (rest : List Char) :
    listOfChars (text ++ ',' :: rest) =
      listOfChars text ++ listOfChars rest := by
  have parted : segments false false (text ++ ',' :: rest) =
      segments false false text ++ segments false false rest :=
    Mode.segments_append_of_through closed rest
  rw [listOfChars, listOfChars, listOfChars, parted, List.map_append,
    List.filter_append]

/--
The addresses of a list are those of its parts, without the parts in which no
address is left, and the parts are determined by the commas outside quotes and
angle brackets.  If the text in front of a comma ends outside both, the
addresses of the text are followed by those of the rest, whatever this is.
-/
theorem list_parted_at_outer_commas
    (text : String) :
    (Mode.outside.through text.toList = .outside →
      ∀ rest : String, parseList (text ++ "," ++ rest) =
        parseList text ++ parseList rest) ∧
    ∃ parts, Parts text.toList parts ∧
      (∀ others, Parts text.toList others → others = parts) ∧
      parseList text = (parts.map ofChars).filter fun address =>
        address.email ≠ "" := by
  constructor
  · intro closed rest
    have chars : (text ++ "," ++ rest).toList = text.toList ++ ',' ::
        rest.toList := by simp
    rw [parseList, parseList, parseList, chars,
      listOfChars_append_of_through closed]
  · exact ⟨Mode.outside.segments text.toList, parts_segments text.toList,
      fun others otherwise =>
        otherwise.unique (parts_segments text.toList), rfl⟩

/-- Brackets and commas in quotes and in brackets do not count, and the rest may
be broken. -/
theorem list_parted_behind_bracket :
    Mode.outside.through "\"Doe, <J\" <a,b@c>".toList = .outside ∧
      parseList ("\"Doe, <J\" <a,b@c>" ++ "," ++ "d@e <,") =
        parseList "\"Doe, <J\" <a,b@c>" ++ parseList "d@e <," := by
  have closed : Mode.outside.through "\"Doe, <J\" <a,b@c>".toList =
      .outside := by rfl
  exact ⟨closed,
    (list_parted_at_outer_commas "\"Doe, <J\" <a,b@c>").1 closed "d@e <,"⟩

/-- Inside an angle bracket the law of the two pieces fails. -/
example : parseList ("<a" ++ "," ++ "b>") ≠
    parseList "<a" ++ parseList "b>" := by
  decide

end Address
end MailSearch
