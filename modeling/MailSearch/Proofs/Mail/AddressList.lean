import MailSearch.Mail.Address
import MailSearch.Proofs.Text.LineEnd
import MailSearch.Proofs.Text.Words

/-!
# Lists of addresses

Where a list is cut depends on the quotes and angle brackets that are open, and
these form the mode in which a text is read.  A text that brings the mode back
to the outside, with no comma outside on the way, is one segment.  An address in
quoted form is such a text, whatever commas and brackets are in it, so a list of
addresses in quoted form is read back.
-/

namespace MailSearch
namespace Address

open Text (Blanks Framed)

/-! ## Modes -/

/-- What is open in front of a character: quotes, angle brackets. -/
structure Mode where
  /-- Quotes are open. -/
  quoted : Bool
  /-- An angle bracket is open. -/
  angled : Bool

namespace Mode

/-- Nothing is open. -/
def outside : Mode :=
  ⟨false, false⟩

/-- What is open behind a character. -/
def after (mode : Mode) (c : Char) : Mode :=
  if c = '"' then { mode with quoted := !mode.quoted }
  else if mode.quoted then mode
  else if c = '<' then { mode with angled := true }
  else if c = '>' then { mode with angled := false }
  else mode

/-- A list is cut at a character. -/
def Cuts (mode : Mode) (c : Char) : Prop :=
  c = ',' ∧ mode = outside

/-- The segments of a text in front of which something is open. -/
def segments (mode : Mode) (text : List Char) : List (List Char) :=
  Address.segments mode.quoted mode.angled text

@[simp] theorem segments_nil
    (mode : Mode) :
    mode.segments [] = [[]] := rfl

theorem segments_ne_nil
    (mode : Mode)
    (text : List Char) :
    mode.segments text ≠ [] := by
  have pushed : ∀ c pieces, pushFront c pieces ≠ [] := by
    intro c pieces
    cases pieces <;> exact List.cons_ne_nil _ _
  cases text with
  | nil => exact List.cons_ne_nil _ _
  | cons c rest =>
      unfold segments Address.segments
      split
      · exact List.cons_ne_nil _ _
      · split_ifs <;> exact pushed c _

theorem pushFront_eq_modifyHead
    {pieces : List (List Char)}
    (nonempty : pieces ≠ [])
    (c : Char) :
    pushFront c pieces = pieces.modifyHead (c :: ·) := by
  cases pieces with
  | nil => exact absurd rfl nonempty
  | cons first rest => rfl

theorem segments_comma
    (text : List Char) :
    outside.segments (',' :: text) = [] :: outside.segments text := rfl

/-- A character at which a list is not cut belongs to the segment behind it. -/
theorem segments_cons
    {mode : Mode}
    {c : Char}
    (uncut : ¬ mode.Cuts c)
    (text : List Char) :
    mode.segments (c :: text) =
      ((mode.after c).segments text).modifyHead (c :: ·) := by
  rw [← pushFront_eq_modifyHead (segments_ne_nil _ _)]
  obtain ⟨quoted, angled⟩ := mode
  have notCut : ¬ (c = ',' ∧ (!quoted) = true ∧ (!angled) = true) := by
    rintro ⟨comma, unquoted, unangled⟩
    refine uncut ⟨comma, ?_⟩
    rw [Bool.not_eq_true'] at unquoted unangled
    rw [unquoted, unangled]
    rfl
  simp only [segments, Address.segments, if_neg notCut, after]
  cases quoted <;> split_ifs <;> simp_all

end Mode

/-! ## Texts without a cut -/

/-- A text is read from one mode to another one, and is not cut on the way. -/
inductive Passes : Mode -> List Char -> Mode -> Prop where
  /-- Nothing is read. -/
  | nil (mode : Mode) : Passes mode [] mode
  /-- A character is read, and then the rest. -/
  | cons {mode last : Mode} {c : Char} {rest : List Char}
      (uncut : ¬ mode.Cuts c)
      (passes : Passes (mode.after c) rest last) : Passes mode (c :: rest) last

namespace Passes

variable {mode next last : Mode} {left right text : List Char}

theorem append
    (passes : Passes mode left next)
    (passesOn : Passes next right last) :
    Passes mode (left ++ right) last := by
  induction passes with
  | nil => exact passesOn
  | cons uncut _ inductionHypothesis =>
      exact .cons uncut (inductionHypothesis passesOn)

/-- Characters that open and close nothing, and do not cut, may stand in any
number. -/
theorem of_quiet
    (quiet : ∀ c ∈ text, ¬ mode.Cuts c ∧ mode.after c = mode) :
    Passes mode text mode := by
  induction text with
  | nil => exact .nil mode
  | cons c rest inductionHypothesis =>
      obtain ⟨⟨uncut, same⟩, quietRest⟩ := List.forall_mem_cons.mp quiet
      refine .cons uncut ?_
      rw [same]
      exact inductionHypothesis quietRest

/-- A text without a cut belongs to the first segment of what stands behind
it. -/
theorem segments_append
    (passes : Passes mode text last)
    (rest : List Char) :
    mode.segments (text ++ rest) =
      (last.segments rest).modifyHead (text ++ ·) := by
  induction passes with
  | nil =>
      obtain ⟨first, others, isCons⟩ :=
        List.exists_cons_of_ne_nil (Mode.segments_ne_nil _ rest)
      rw [List.nil_append, isCons]
      rfl
  | cons uncut _ inductionHypothesis =>
      rw [List.cons_append, Mode.segments_cons uncut, inductionHypothesis,
        List.modifyHead_modifyHead]
      rfl

/-- A text that leaves nothing open is a segment in front of a comma. -/
theorem segments_append_comma
    (passes : Passes mode text .outside)
    (rest : List Char) :
    mode.segments (text ++ ',' :: rest) =
      text :: Mode.outside.segments rest := by
  rw [passes.segments_append, Mode.segments_comma, List.modifyHead_cons,
    List.append_nil]

theorem segments_eq
    (passes : Passes mode text last) :
    mode.segments text = [text] := by
  have alone := passes.segments_append []
  rw [List.append_nil, Mode.segments_nil, List.modifyHead_cons,
    List.append_nil] at alone
  exact alone

end Passes

/-- Blanks open and close nothing. -/
theorem passes_of_blanks
    {text : List Char}
    (blanks : Blanks text) :
    Passes .outside text .outside := by
  refine .of_quiet fun c isChar => ?_
  have differs : ∀ mark, Text.isBlank mark = false → c ≠ mark := by
    rintro mark notBlank rfl
    rw [blanks _ isChar] at notBlank
    cases notBlank
  refine ⟨fun cut => differs ',' rfl cut.1, ?_⟩
  simp only [Mode.after, if_neg (differs '"' rfl), if_neg (differs '<' rfl),
    if_neg (differs '>' rfl), ite_self]

/-! ## The quoted form -/

/-- The address with its name in quotes, which may be empty, and the rest in
angle brackets. -/
def quotedForm (address : Address) : String :=
  "\"" ++ address.name ++ "\" <" ++ address.email ++ ">"

theorem toList_quotedForm
    (address : Address) :
    address.quotedForm.toList =
      ['"'] ++ address.name.toList ++ ['"', ' ', '<'] ++ address.email.toList ++
        ['>'] := by
  simp [quotedForm]

theorem framed_quotedForm
    (address : Address) :
    Framed address.quotedForm.toList := by
  have frame : ∀ {mark}, Text.isBlank mark = false → Framed [mark] :=
    fun notBlank =>
    .of_solid (List.cons_ne_nil _ _) (List.forall_mem_singleton.mpr notBlank)
  have assembled : address.quotedForm.toList =
      ['"'] ++ (address.name.toList ++ ['"', ' ', '<'] ++
        address.email.toList) ++ ['>'] := by
    rw [toList_quotedForm]
    simp only [List.append_assoc]
  rw [assembled]
  exact (frame rfl).append _ (frame rfl)

/-- An address can be told from its quoted form. -/
structure Quotable (address : Address) : Prop where
  /-- There are no quotes in the name. -/
  name_unquoted : '"' ∉ address.name.toList
  /-- The name is empty, or no blanks are around it. -/
  name_framed : address.name ≠ "" → Framed address.name.toList
  /-- The bare address is not empty, and no blanks are around it. -/
  email_framed : Framed address.email.toList
  /-- There are no quotes in the bare address. -/
  email_unquoted : '"' ∉ address.email.toList
  /-- No angle bracket is opened in the bare address. -/
  email_unopened : '<' ∉ address.email.toList
  /-- No angle bracket is closed in the bare address. -/
  email_unclosed : '>' ∉ address.email.toList

namespace Quotable

variable {address : Address} (quotable : Quotable address)

include quotable

/-- The quoted form is not cut, and leaves nothing open. -/
theorem passes_quotedForm :
    Passes .outside address.quotedForm.toList .outside := by
  have name : Passes ⟨true, false⟩ address.name.toList ⟨true, false⟩ := by
    refine .of_quiet fun c isChar => ⟨fun cut => absurd cut.2 nofun, ?_⟩
    have unquoted : c ≠ '"' :=
      fun quote => quotable.name_unquoted (quote ▸ isChar)
    rw [Mode.after, if_neg unquoted, if_pos rfl]
  have email : Passes ⟨false, true⟩ address.email.toList ⟨false, true⟩ := by
    refine .of_quiet fun c isChar => ⟨fun cut => absurd cut.2 nofun, ?_⟩
    have unquoted : c ≠ '"' :=
      fun quote => quotable.email_unquoted (quote ▸ isChar)
    have unclosed : c ≠ '>' :=
      fun closing => quotable.email_unclosed (closing ▸ isChar)
    rw [Mode.after, if_neg unquoted, if_neg Bool.false_ne_true,
      if_neg unclosed, ite_self]
  have uncut : ∀ {mode : Mode} {c : Char}, c ≠ ',' → ¬ mode.Cuts c :=
    fun other cut => other cut.1
  have opens : Passes .outside ['"'] ⟨true, false⟩ :=
    .cons (uncut (by decide)) (.nil _)
  have turns : Passes ⟨true, false⟩ ['"', ' ', '<'] ⟨false, true⟩ :=
    .cons (uncut (by decide))
      (.cons (uncut (by decide)) (.cons (uncut (by decide)) (.nil _)))
  have closes : Passes ⟨false, true⟩ ['>'] .outside :=
    .cons (uncut (by decide)) (.nil _)
  rw [toList_quotedForm]
  exact (((opens.append name).append turns).append email).append closes

/-- The name is what the quotes around it are dropped from. -/
theorem unquote_name :
    unquote (['"'] ++ address.name.toList ++ ['"', ' ']) =
      address.name.toList := by
  have trimmed : Text.trim (['"'] ++ address.name.toList ++ ['"', ' ']) =
      '"' :: (address.name.toList ++ ['"']) := by
    have framed : Framed ['"'] := .of_solid (by decide) (by decide)
    have blank : ∀ c ∈ [' '], Text.isBlank c = true := by decide
    have assembled : ['"'] ++ address.name.toList ++ ['"', ' '] =
        ['"'] ++ address.name.toList ++ ['"'] ++ [' '] := by simp
    rw [assembled, Text.trim_append_of_blank_back blank,
      (framed.append _ framed).trim_eq]
    rfl
  have nameTrimmed : Text.trim address.name.toList = address.name.toList := by
    by_cases empty : address.name = ""
    · rw [empty]
      rfl
    · exact (quotable.name_framed empty).trim_eq
  rw [unquote, trimmed]
  simp only [List.getLast?_concat, if_true, List.dropLast_concat, nameTrimmed]

/-- The address is read from its quoted form, whatever blanks are around it. -/
theorem ofChars_quotedForm
    {front back : List Char}
    (frontBlanks : Blanks front)
    (backBlanks : Blanks back) :
    ofChars (front ++ address.quotedForm.toList ++ back) = address := by
  have trimmed : Text.trim (front ++ address.quotedForm.toList ++ back) =
      address.quotedForm.toList := by
    rw [Text.trim_append_of_blank_back backBlanks,
      Text.trim_append_of_blank_front frontBlanks,
      (framed_quotedForm address).trim_eq]
  have bracketed : bracketed? address.quotedForm.toList =
      some (['"'] ++ address.name.toList ++ ['"', ' '],
        address.email.toList) := by
    have assembled : address.quotedForm.toList =
        (['"'] ++ address.name.toList ++ ['"', ' ']) ++ '<' ::
          (address.email.toList ++ ['>']) := by
      rw [toList_quotedForm]
      simp
    have unopened : '<' ∉ address.email.toList ++ ['>'] := by
      simpa using quotable.email_unopened
    rw [bracketed?, assembled, Text.cutLast_append_cons unopened]
    simp only [Text.cutLast_append_cons List.not_mem_nil, Option.map_some]
  rw [ofChars, trimmed, bracketed]
  simp only [quotable.unquote_name, quotable.email_framed.trim_eq,
    String.ofList_toList]

theorem email_ne_empty :
    address.email ≠ "" := by
  intro empty
  obtain ⟨c, isFirst, -⟩ := quotable.email_framed.first
  rw [empty] at isFirst
  cases isFirst

end Quotable

/-! ## Lists -/

/--
A text lists addresses in quoted form, with commas between them and any blanks
around each of them.  A comma may stand behind the last one.
-/
inductive Lists : List Address -> List Char -> Prop where
  /-- There is no address. -/
  | none {blanks : List Char} (isBlank : Blanks blanks) : Lists [] blanks
  /-- There is one address. -/
  | one (address : Address) {front back : List Char}
      (frontBlanks : Blanks front)
      (backBlanks : Blanks back) :
      Lists [address] (front ++ address.quotedForm.toList ++ back)
  /-- An address stands in front of a list. -/
  | cons (address : Address) {front back : List Char} {addresses : List Address}
      {text : List Char} (frontBlanks : Blanks front) (backBlanks : Blanks back)
      (lists : Lists addresses text) :
      Lists (address :: addresses) (front ++ address.quotedForm.toList ++
        back ++ ',' :: text)

/-- A piece that is not cut is read by itself. -/
theorem listOfChars_append_comma
    {piece : List Char}
    (passes : Passes .outside piece .outside)
    (rest : List Char) :
    listOfChars (piece ++ ',' :: rest) = listOfChars piece ++
      listOfChars rest := by
  have parted : segments false false (piece ++ ',' :: rest) =
      [piece] ++ segments false false rest :=
    passes.segments_append_comma rest
  have alone : segments false false piece = [piece] := passes.segments_eq
  rw [listOfChars, listOfChars, listOfChars, parted, alone, List.map_append,
    List.filter_append]

theorem listOfChars_of_blanks
    {text : List Char}
    (blanks : Blanks text) :
    listOfChars text = [] := by
  have alone : segments false false text = [text] :=
    (passes_of_blanks blanks).segments_eq
  have trimmed : Text.trim text = [] := by
    have nothing := Text.trim_append_of_blank_back blanks []
    rwa [List.nil_append] at nothing
  rw [listOfChars, alone, List.map_singleton, ofChars, trimmed]
  rfl

namespace Quotable

variable {address : Address} {front back : List Char}
  (quotable : Quotable address) (frontBlanks : Blanks front)
  (backBlanks : Blanks back)

include quotable frontBlanks backBlanks

theorem passes_padded :
    Passes .outside (front ++ address.quotedForm.toList ++ back) .outside :=
  ((passes_of_blanks frontBlanks).append quotable.passes_quotedForm).append
    (passes_of_blanks backBlanks)

theorem listOfChars_padded :
    listOfChars (front ++ address.quotedForm.toList ++ back) = [address] := by
  have alone :
      segments false false (front ++ address.quotedForm.toList ++ back) =
      [front ++ address.quotedForm.toList ++ back] :=
    (quotable.passes_padded frontBlanks backBlanks).segments_eq
  rw [listOfChars, alone, List.map_singleton,
    quotable.ofChars_quotedForm frontBlanks backBlanks,
    List.filter_cons_of_pos (by simpa using quotable.email_ne_empty),
      List.filter_nil]

end Quotable

/--
A text that lists addresses in quoted form is read as these addresses, each of
them once and in order.
-/
theorem quoted_addresses_read_back
    {addresses : List Address}
    {text : String}
    (quotable : ∀ address ∈ addresses, Quotable address)
    (lists : Lists addresses text.toList) :
    parseList text = addresses := by
  rw [parseList]
  generalize text.toList = chars at lists
  induction lists with
  | none blanks => exact listOfChars_of_blanks blanks
  | one address frontBlanks backBlanks =>
      obtain ⟨quotable, -⟩ := List.forall_mem_cons.mp quotable
      exact quotable.listOfChars_padded frontBlanks backBlanks
  | cons address frontBlanks backBlanks _ inductionHypothesis =>
      obtain ⟨quotable, others⟩ := List.forall_mem_cons.mp quotable
      rw [listOfChars_append_comma
          (quotable.passes_padded frontBlanks backBlanks),
        quotable.listOfChars_padded frontBlanks backBlanks,
          inductionHypothesis others]
      rfl

/-- Commas and brackets in a name and commas in a bare address do not part a
list. -/
theorem addresses_with_commas_read_back :
    parseList "\"Doe, <J>\" <a,b@c> ,\t\"\" <d@e>" = [⟨"Doe, <J>", "a,b@c"⟩,
      ⟨"", "d@e"⟩] := by
  have framed : ∀ text : String, Text.Solid text.toList → Framed text.toList :=
    fun _ solid => .of_solid_text solid
  apply quoted_addresses_read_back
  · refine List.forall_mem_cons.mpr ⟨?_, List.forall_mem_singleton.mpr ?_⟩
    · exact ⟨by decide, fun _ => ⟨⟨'D', by decide⟩, ⟨'>', by decide⟩⟩,
        framed _ ⟨by decide, by decide⟩, by decide, by decide, by decide⟩
    · exact ⟨by decide, fun named =>
          absurd rfl named, framed _ ⟨by decide, by decide⟩,
        by decide, by decide, by decide⟩
  · have second :
        Lists [⟨"", "d@e"⟩] (['\t'] ++ (quotedForm ⟨"", "d@e"⟩).toList ++ []) :=
      .one ⟨"", "d@e"⟩ (by decide) (by decide)
    have both : Lists [⟨"Doe, <J>", "a,b@c"⟩, ⟨"", "d@e"⟩]
        ([] ++ (quotedForm ⟨"Doe, <J>", "a,b@c"⟩).toList ++ [' '] ++
          ',' :: (['\t'] ++ (quotedForm ⟨"", "d@e"⟩).toList ++ [])) :=
      .cons ⟨"Doe, <J>", "a,b@c"⟩ (by decide) (by decide) second
    exact both

end Address
end MailSearch
