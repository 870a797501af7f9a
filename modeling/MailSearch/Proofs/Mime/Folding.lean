import MailSearch.Proofs.Mime.HeaderBlock

/-!
# Folded fields

A field may be written over several lines: wherever a space stands between two
words of its value, or between the colon and the first word, a line end and the
indent of another line may stand in its place.  A field is read with its words
in one line, whatever ends and indents its lines have, except that a fold behind
the colon leaves a space in front of the value.
-/

namespace MailSearch
namespace Mime

open Text (Framed LineEnd isBlank joinWith trim)
open Text.Utf8 (encode)

/-! ## Fields and their folds -/

/-- A name: printable ASCII without colon and space. -/
structure FieldName where
  /-- The characters of the name. -/
  chars : List Char
  nonempty : chars ≠ []
  printable : ∀ c ∈ chars, 0x21 ≤ c.toNat ∧ c.toNat ≤ 0x7E ∧ c ≠ ':'

/-- A word: no blank in it, and nothing that opens an encoded word. -/
structure PlainWord where
  /-- The characters of the word. -/
  chars : List Char
  nonempty : chars ≠ []
  solid : ∀ c ∈ chars, isBlank c = false
  plain : ¬ wordOpening <:+: chars

/-- A character that indents a line. -/
inductive Indent where
  /-- A space. -/
  | space
  /-- A tabulator. -/
  | tab
  deriving DecidableEq, Repr

/-- The character itself. -/
def Indent.char : Indent -> Char
  | .space => ' '
  | .tab => '\t'

/-- What separates a word from the one before it, or from the colon. -/
inductive Gap where
  /-- A space. -/
  | space
  /-- A line end and the indent of the next line. -/
  | fold (ending : LineEnd) (first : Indent) (others : List Indent)
  deriving DecidableEq, Repr

/-- The characters between the words. -/
def Gap.chars : Gap -> List Char
  | .space => [' ']
  | .fold ending first others =>
      ending.chars ++ (first :: others).map Indent.char

/-- A field as it is written. -/
structure FoldedField where
  /-- What stands in front of the colon. -/
  name : FieldName
  /-- What stands behind the colon. -/
  opening : Gap
  /-- The first word of the value. -/
  first : PlainWord
  /-- The other words, each behind its gap. -/
  others : List (Gap × PlainWord)
  /-- What ends the last line. -/
  ending : LineEnd

namespace FoldedField

/-- Words behind their gaps. -/
def writtenWords (parts : List (Gap × PlainWord)) : List Char :=
  parts.flatMap fun (gap, word) => gap.chars ++ word.chars

/-- The lines of the field. -/
def written (field : FoldedField) : List Char :=
  field.name.chars ++ ':' :: (field.opening.chars ++ field.first.chars ++
    writtenWords field.others ++ field.ending.chars)

/-- The words of the value in one line. -/
def value (field : FoldedField) : List Char :=
  joinWith [' '] (field.first.chars :: field.others.map fun (_, word) =>
    word.chars)

/-- What a fold behind the colon leaves in front of the value. -/
def margin (field : FoldedField) : List Char :=
  match field.opening with
  | .space => []
  | .fold .. => [' ']

theorem margin_eq_nil_iff
    {field : FoldedField} :
    field.margin = [] ↔ field.opening = .space := by
  rw [margin]
  cases field.opening <;> simp

end FoldedField

/-! ## Names and words -/

theorem PlainWord.framed
    (word : PlainWord) :
    Framed word.chars :=
  .of_solid word.nonempty word.solid

theorem PlainWord.unbroken
    (word : PlainWord) :
    '\n' ∉ word.chars := by
  intro broken
  have notBlank := word.solid '\n' broken
  exact absurd notBlank (by decide)

namespace FieldName

variable (name : FieldName)

theorem framed : Framed name.chars :=
  .of_solid name.nonempty fun c isChar =>
    Text.isBlank_of_printable ⟨(name.printable c isChar).1,
      (name.printable c isChar).2.1⟩

theorem feed_not_mem : '\n' ∉ name.chars := by
  intro broken
  have printable := (name.printable '\n' broken).1
  exact absurd printable (by decide)

theorem colon_not_mem : ':' ∉ name.chars :=
  fun broken => (name.printable ':' broken).2.2 rfl

end FieldName

theorem Indent.isBlank_char
    (indent : Indent) :
    isBlank indent.char = true := by
  cases indent <;> decide

theorem isBlank_of_mem_indents
    {indents : List Indent} :
    ∀ c ∈ indents.map Indent.char, isBlank c = true := by
  intro c isChar
  obtain ⟨indent, -, rfl⟩ := List.mem_map.mp isChar
  exact indent.isBlank_char

/-! ## Lines that are not complete -/

namespace HeaderBlock

/--
The front of a line of which the rest is not known.  It holds no line feed, and
a text behind it makes one field of what is kept and this text, in front of
older ones.
-/
structure Opens
    (fields : List RawField)
    (front name kept : List Char)
    (older : List RawField) : Prop where
  unbroken : '\n' ∉ front
  adds :
    ∀ text, Framed text →
      addLine fields (front ++ text) = (name, kept ++ text) :: older

theorem isContinuation_name_append
    (name : FieldName)
    (rest : List Char) :
    isContinuation (name.chars ++ rest) = false := by
  obtain ⟨first, others, split⟩ := List.exists_cons_of_ne_nil name.nonempty
  have printable := (name.printable first (by simp [split])).1
  rw [split, List.cons_append]
  unfold isContinuation
  split
  · rename_i same
    cases same
    exact absurd printable (by decide)
  · rename_i same
    cases same
    exact absurd printable (by decide)
  · rfl

/-- A name and a colon begin a field. -/
theorem addLine_of_name
    (name : FieldName)
    (rest : List Char)
    (fields : List RawField) :
    addLine fields (name.chars ++ ':' :: rest) = (name.chars, trim rest) ::
      fields := by
  have named : ¬ name.chars.isEmpty = true := by
    rw [List.isEmpty_iff]
    exact name.nonempty
  apply addLine_of_begun
  rw [begun?, if_neg (Bool.eq_false_iff.mp (isContinuation_name_append name _)),
    Text.cutFirst_append_cons name.colon_not_mem, Option.bind_some]
  dsimp only
  rw [name.framed.trim_eq, if_neg named]

/-- A name, a colon and a space open a field. -/
theorem opens_of_name
    (name : FieldName)
    (fields : List RawField) :
    Opens fields (name.chars ++ [':', ' ']) name.chars [] fields where
  unbroken := by simpa using name.feed_not_mem
  adds := by
    intro text framed
    have blank : ∀ c ∈ [' '], isBlank c = true :=
      List.forall_mem_singleton.mpr rfl
    rw [List.append_assoc, List.cons_append, addLine_of_name, List.nil_append,
      Text.trim_append_of_blank_front blank, framed.trim_eq]

/-- The indent of a line opens the next part of the last field. -/
theorem opens_of_indent
    (first : Indent)
    (others : List Indent)
    (name value : List Char)
    (older : List RawField) :
    Opens ((name, value) :: older) ((first :: others).map Indent.char) name
        (value ++ [' '])
      older where
  unbroken := by
    intro broken
    obtain ⟨indent, -, same⟩ := List.mem_map.mp broken
    cases indent <;> cases same
  adds := by
    intro text framed
    have continues :
        isContinuation ((first :: others).map Indent.char ++ text) = true := by
      cases first <;> rfl
    rw [addLine_of_continuation continues, extendFirst,
      Text.trim_append_of_blank_front isBlank_of_mem_indents, framed.trim_eq,
        List.append_cons]

/-- What words behind their gaps add to a value. -/
def addedWords (parts : List (Gap × PlainWord)) : List Char :=
  parts.flatMap fun (_, word) => ' ' :: word.chars

section Words

variable {fields older : List RawField} {front name kept text : List Char}

/-- An open line that ends behind a text. -/
theorem Opens.fieldsBehind_text
    (opens : Opens fields front name kept older)
    (framed : Framed text)
    (unbroken : '\n' ∉ text)
    (ending : LineEnd)
    (back : List Char) :
    fieldsBehind fields (front ++ text ++ (ending.chars ++ back)) =
      fieldsBehind ((name, kept ++ text) :: older) back := by
  have unbrokenLine : '\n' ∉ front ++ text := by
    rw [List.mem_append, not_or]
    exact ⟨opens.unbroken, unbroken⟩
  rw [← List.append_assoc, fieldsBehind_line unbrokenLine,
    opens.adds text framed]

/-- An open line is read on with a text and words behind it, over all their
folds. -/
theorem Opens.fieldsBehind_words
    (opens : Opens fields front name kept older)
    (framed : Framed text)
    (unbroken : '\n' ∉ text)
    (parts : List (Gap × PlainWord))
    (ending : LineEnd)
    (back : List Char) :
    fieldsBehind fields
        (front ++ text ++
          (FoldedField.writtenWords parts ++ (ending.chars ++ back))) =
      fieldsBehind ((name, kept ++ text ++ addedWords parts) :: older)
        back := by
  induction parts generalizing fields front kept text with
  | nil =>
      rw [FoldedField.writtenWords, List.flatMap_nil, List.nil_append,
        opens.fieldsBehind_text framed unbroken, addedWords, List.flatMap_nil,
          List.append_nil]
  | cons part rest inductionHypothesis =>
      obtain ⟨gap, word⟩ := part
      have written : FoldedField.writtenWords ((gap, word) :: rest) =
          gap.chars ++ (word.chars ++ FoldedField.writtenWords rest) := by
        simp [FoldedField.writtenWords]
      have added : addedWords ((gap, word) :: rest) =
          ' ' :: (word.chars ++ addedWords rest) :=
        rfl
      rw [written, added]
      cases gap with
      | space =>
          -- The word goes on in the line that is open.
          have unbrokenText : '\n' ∉ text ++ [' '] ++ word.chars := by
            simp [unbroken, word.unbroken]
          have longer :=
            inductionHypothesis opens (framed.append [' '] word.framed)
              unbrokenText
          simpa [Gap.chars] using longer
      | fold foldEnd first others =>
          -- The line ends, and its indent opens the next one.
          have next := opens_of_indent first others name (kept ++ text) older
          have longer := inductionHypothesis next word.framed word.unbroken
          have ended := opens.fieldsBehind_text framed unbroken foldEnd
            ((first :: others).map Indent.char ++ word.chars ++
              (FoldedField.writtenWords rest ++ (ending.chars ++ back)))
          rw [longer] at ended
          simpa [Gap.chars] using ended

end Words

theorem value_eq
    (field : FoldedField) :
    field.value = field.first.chars ++ addedWords field.others := by
  rw [FoldedField.value, Text.joinWith_cons, List.flatMap_map, addedWords]

/-- A field is read with its words in one line, behind what a fold behind the
colon leaves. -/
theorem fieldsBehind_written
    (field : FoldedField)
    (fields : List RawField)
    (back : List Char) :
    fieldsBehind fields (field.written ++ back) =
      fieldsBehind ((field.name.chars, field.margin ++ field.value) :: fields)
        back := by
  rw [value_eq]
  obtain ⟨name, opening, first, others, ending⟩ := field
  cases opening with
  | space =>
      have read := (opens_of_name name fields).fieldsBehind_words first.framed
          first.unbroken
        others ending back
      simpa [FoldedField.written, FoldedField.margin, Gap.chars] using read
  | fold foldEnd indent indents =>
      have unbroken : '\n' ∉ name.chars ++ [':'] := by
        simpa using name.feed_not_mem
      have begun : addLine fields (name.chars ++ [':']) =
          (name.chars, []) :: fields :=
        addLine_of_name name [] fields
      have read :=
        (opens_of_indent indent indents name.chars [] fields).fieldsBehind_words
        first.framed first.unbroken others ending back
      rw [← begun, ← fieldsBehind_line unbroken foldEnd] at read
      simpa [FoldedField.written, FoldedField.margin, Gap.chars] using read

/-- Fields one behind the other are read in order. -/
theorem fieldsBehind_flatMap_written
    (block : List FoldedField)
    (fields : List RawField) :
    fieldsBehind fields (block.flatMap FoldedField.written) =
      (block.map fun field =>
          (field.name.chars, field.margin ++ field.value)).reverse ++
        fields := by
  induction block generalizing fields with
  | nil => rfl
  | cons field rest inductionHypothesis =>
      rw [List.flatMap_cons, fieldsBehind_written, inductionHypothesis,
        List.map_cons, List.reverse_cons, List.append_assoc,
        List.singleton_append]

/-! ## Values without encoded words -/

theorem space_not_mem_wordOpening : ' ' ∉ wordOpening := by
  decide

/-- An encoded word does not begin in one word and end in another. -/
theorem not_infix_value
    (field : FoldedField) :
    ¬ wordOpening <:+: field.value := by
  intro opened
  obtain ⟨item, isWord, within⟩ :=
    (Text.infix_joinWith_iff (List.cons_ne_nil _ _)
      space_not_mem_wordOpening).mp opened
  rcases List.mem_cons.mp isWord with rfl | other
  · exact field.first.plain within
  · obtain ⟨⟨gap, word⟩, -, rfl⟩ := List.mem_map.mp other
    exact word.plain within

theorem decodeWords_value
    (field : FoldedField) :
    decodeWords (field.margin ++ field.value) =
      field.margin ++ field.value := by
  have absent : ¬ wordOpening <:+: field.margin ++ field.value := by
    cases opening : field.opening with
    | space =>
        rw [FoldedField.margin, opening]
        exact not_infix_value field
    | fold ending first others =>
        rw [FoldedField.margin, opening]
        intro opened
        rcases (Text.infix_append_cons_iff space_not_mem_wordOpening []
            field.value).mp opened
          with front | within
        · exact absurd front (by decide)
        · exact not_infix_value field within
  rw [decodeWords, if_neg]
  rwa [Text.occursIn_iff]

/-! ## Blocks of folded fields -/

theorem head?_flatMap_written_ne_mark
    (block : List FoldedField) :
    (block.flatMap FoldedField.written).head? ≠ some mark := by
  cases block with
  | nil => exact nofun
  | cons field rest =>
      obtain ⟨first, others, split⟩ :=
        List.exists_cons_of_ne_nil field.name.nonempty
      have printable := (field.name.printable first (by simp [split])).2.1
      rw [List.flatMap_cons, FoldedField.written, split]
      rintro ⟨⟩
      exact absurd printable (by decide)

/--
Every field of a block is read with its words in one line, whatever folds, line
ends and indents it is written with; only a fold directly behind the colon
shows, as a space in front of the value.
-/
theorem fields_of_folded_block
    (block : List FoldedField) :
    ofBytes (encode (block.flatMap FoldedField.written)) =
      (block.map fun field =>
        (String.ofList field.name.chars,
          String.ofList (field.margin ++ field.value))) ∧
    (ofBytes (encode (block.flatMap FoldedField.written)) =
      (block.map fun field =>
        (String.ofList field.name.chars, String.ofList field.value)) ↔
      ∀ field ∈ block, field.opening = .space) := by
  have read : ofBytes (encode (block.flatMap FoldedField.written)) =
      block.map fun field =>
        (String.ofList field.name.chars,
          String.ofList (field.margin ++ field.value)) := by
    rw [ofBytes_eq_map, rawFields, textOf_encode, unmarked,
      if_neg (head?_flatMap_written_ne_mark block), unfolded_eq,
        fieldsBehind_flatMap_written,
      List.append_nil, List.reverse_reverse, List.map_map]
    exact List.map_congr_left fun field _ =>
      congrArg (fun value =>
          (String.ofList field.name.chars, String.ofList value))
        (decodeWords_value field)
  refine ⟨read, ?_⟩
  rw [read, List.map_inj_left]
  refine forall₂_congr fun field _ => ?_
  rw [Prod.mk.injEq, String.ofList_inj, String.ofList_inj,
    List.append_left_eq_self, FoldedField.margin_eq_nil_iff]
  exact and_iff_right rfl

/-- A field of one word, which stands on its second line. -/
def foldedSubject : FoldedField where
  name := ⟨"Subject".toList, by decide,
    List.forall_iff_forall_mem.mp (by decide)⟩
  opening := .fold .feed .space []
  first
    := ⟨"folded".toList, by decide, List.forall_iff_forall_mem.mp (by decide),
      by decide⟩
  others := []
  ending := .feed

/-- A fold directly behind the colon is not transparent. -/
theorem fold_behind_colon_leaves_space :
    ¬ ∀ block : List FoldedField,
      ofBytes (encode (block.flatMap FoldedField.written)) =
        block.map fun field =>
          (String.ofList field.name.chars, String.ofList field.value) := by
  intro transparent
  have read : ofBytes (encode ([foldedSubject].flatMap FoldedField.written)) =
      [("Subject", " folded")] := by
    decide +kernel
  have meant : [foldedSubject].map
      (fun field =>
        (String.ofList field.name.chars, String.ofList field.value)) =
      [("Subject", "folded")] := by
    decide +kernel
  have same := transparent [foldedSubject]
  rw [read, meant] at same
  exact absurd same (by decide)

end HeaderBlock
end Mime
end MailSearch
