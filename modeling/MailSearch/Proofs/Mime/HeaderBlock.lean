import Mathlib.Data.List.Basic
import MailSearch.Mime.HeaderBlock
import MailSearch.Proofs.Text.LineEnd
import MailSearch.Proofs.Text.Lines
import MailSearch.Proofs.Text.Utf8

/-!
# Lines of header blocks

The fields of a block are read line by line from the pieces between its line
feeds.  A line begins a field, continues the last one, or says nothing; so what
some lines add to the fields before them is known from these lines alone.
-/

namespace MailSearch
namespace Mime
namespace HeaderBlock

open Text (isBlank trim pieces cutFirst)

/-! ## Kinds of lines -/

/-- The field that a line begins, if it begins one. -/
def begun? (line : List Char) : Option RawField :=
  if isContinuation line then none
  else
    (cutFirst ':' line).bind fun (name, value) =>
      if (trim name).isEmpty then none else some (trim name, trim value)

section Kinds

variable {line : List Char}

theorem addLine_of_continuation
    (continues : isContinuation line = true)
    (fields : List RawField) :
    addLine fields line = extendFirst line fields := by
  rw [addLine, if_pos continues]

theorem addLine_of_begun
    {field : RawField}
    (begins : begun? line = some field)
    (fields : List RawField) :
    addLine fields line = field :: fields := by
  unfold begun? at begins
  unfold addLine
  split at begins
  · cases begins
  · rename_i ordinary
    rw [if_neg ordinary]
    obtain ⟨⟨name, value⟩, cut, begins⟩ := Option.bind_eq_some_iff.mp begins
    rw [cut]
    dsimp only at begins ⊢
    split at begins
    · cases begins
    · rename_i named
      cases begins
      rw [if_neg named]

/-- A line that neither begins a field nor continues one says nothing. -/
theorem addLine_of_junk
    (ordinary : isContinuation line = false)
    (begins : begun? line = none)
    (fields : List RawField) :
    addLine fields line = fields := by
  unfold begun? at begins
  unfold addLine
  rw [if_neg (Bool.eq_false_iff.mp ordinary)] at begins ⊢
  cases cut : cutFirst ':' line with
  | none => rfl
  | some parts =>
      obtain ⟨name, value⟩ := parts
      rw [cut, Option.bind_some] at begins
      dsimp only at begins ⊢
      split at begins
      · rename_i unnamed
        rw [if_pos unnamed]
      · cases begins

end Kinds

/-! ## Ends of lines -/

theorem isContinuation_append_return
    (line : List Char) :
    isContinuation (line ++ ['\r']) = isContinuation line := by
  cases line with
  | nil => rfl
  | cons c rest =>
      rw [List.cons_append]
      unfold isContinuation
      split <;> simp_all

/-- A carriage return at the end of a line is blank, and its line is read as
without it. -/
theorem addLine_append_return
    (fields : List RawField)
    (line : List Char) :
    addLine fields (line ++ ['\r']) = addLine fields line := by
  have blank : ∀ c ∈ ['\r'], isBlank c = true :=
    List.forall_mem_singleton.mpr rfl
  have trimmed := Text.trim_append_of_blank_back blank
  unfold addLine
  rw [isContinuation_append_return, Text.cutFirst_append_of_not_mem (by decide)]
  split
  · cases fields with
    | nil => rfl
    | cons field others => rw [extendFirst, extendFirst, trimmed]
  · cases cutFirst ':' line with
    | none => rfl
    | some parts =>
        obtain ⟨name, value⟩ := parts
        simp only [Option.map_some, trimmed]

theorem addLine_dropReturn
    (fields : List RawField)
    (line : List Char) :
    addLine fields (Text.dropReturn line) = addLine fields line := by
  unfold Text.dropReturn
  split
  · rename_i returned
    rw [← addLine_append_return, List.dropLast_append_getLast? _ returned]
  · rfl

/-- The lines of a text say what the pieces between its line feeds say. -/
theorem foldl_addLine_lines
    (fields : List RawField)
    (text : List Char) :
    (Text.lines text).foldl addLine fields =
      (pieces '\n' text).foldl addLine fields := by
  obtain ⟨others, last, cut⟩ :=
    (List.eq_nil_or_concat' (pieces '\n' text)).resolve_left
      (Text.pieces_ne_nil '\n' text)
  have lastLine : ∀ fields : List RawField,
      ((some last).filter fun line => !line.isEmpty).toList.foldl
          addLine fields =
        addLine fields last := by
    intro fields
    cases last <;> rfl
  unfold Text.lines
  dsimp only
  rw [cut, List.dropLast_concat, List.getLast?_concat, List.foldl_append,
    List.foldl_append, List.foldl_map, lastLine]
  simp only [addLine_dropReturn, List.foldl_cons, List.foldl_nil]

/-- The fields of a text that goes on behind some fields, the last one first. -/
def fieldsBehind (fields : List RawField) (text : List Char) : List RawField :=
  (pieces '\n' text).foldl addLine fields

theorem unfolded_eq
    (text : List Char) :
    unfolded text = (fieldsBehind [] text).reverse := by
  rw [unfolded, foldl_addLine_lines, fieldsBehind]

/-- Behind a line feed a text is read with the fields before it. -/
theorem fieldsBehind_append_feed
    (fields : List RawField)
    (front back : List Char) :
    fieldsBehind fields (front ++ '\n' :: back) =
      fieldsBehind (fieldsBehind fields front) back := by
  rw [fieldsBehind, Text.pieces_append_cons, List.foldl_append, fieldsBehind,
    fieldsBehind]

theorem fieldsBehind_of_unbroken
    {line : List Char}
    (unbroken : '\n' ∉ line)
    (fields : List RawField) :
    fieldsBehind fields line = addLine fields line := by
  rw [fieldsBehind, Text.pieces_of_not_mem unbroken, List.foldl_cons,
    List.foldl_nil]

@[simp] theorem fieldsBehind_nil
    (fields : List RawField) :
    fieldsBehind fields [] = fields :=
  rfl

/-- A line is read as without its end. -/
theorem fieldsBehind_line
    {line : List Char}
    (unbroken : '\n' ∉ line)
    (ending : Text.LineEnd)
    (fields : List RawField)
    (back : List Char) :
    fieldsBehind fields (line ++ ending.chars ++ back) =
      fieldsBehind (addLine fields line) back := by
  cases ending with
  | feed =>
      rw [Text.LineEnd.chars, List.append_assoc, List.singleton_append,
        fieldsBehind_append_feed, fieldsBehind_of_unbroken unbroken]
  | returnFeed =>
      have unbrokenReturn : '\n' ∉ line ++ ['\r'] := by simpa using unbroken
      have regroup : line ++ ['\r', '\n'] ++ back = (line ++ ['\r']) ++ '\n' ::
          back := by simp
      rw [Text.LineEnd.chars, regroup, fieldsBehind_append_feed,
        fieldsBehind_of_unbroken unbrokenReturn, addLine_append_return]

/-- Line ends behind a text add nothing to its fields. -/
theorem fieldsBehind_append_lineEnds
    {tail : List Char}
    (ends : ∀ c ∈ tail, c = '\r' ∨ c = '\n')
    (fields : List RawField)
    (text : List Char) :
    fieldsBehind fields (text ++ tail) = fieldsBehind fields text := by
  induction tail generalizing text with
  | nil => rw [List.append_nil]
  | cons c rest inductionHypothesis =>
      obtain ⟨first, others⟩ := List.forall_mem_cons.mp ends
      rw [List.append_cons, inductionHypothesis others]
      rcases first with rfl | rfl
      · obtain ⟨front, last, cut, cutLonger⟩ :=
          Text.pieces_append_of_not_mem (show '\n' ∉ ['\r'] by decide) text
        simp only [fieldsBehind, cut, cutLonger, List.foldl_append,
          List.foldl_cons, List.foldl_nil, addLine_append_return]
      · rw [fieldsBehind_append_feed, fieldsBehind_nil]

/-! ## What lines add to the fields before them -/

/-- The lines that continue a field of which they are not told. -/
def strays (lines : List (List Char)) : List (List Char) :=
  (lines.takeWhile fun line => (begun? line).isNone).filter isContinuation

/-- The fields, the last one first, with lines that continue the last one. -/
def extendedBy (lines : List (List Char)) : List RawField -> List RawField
  | [] => []
  | (name, value) :: rest =>
      (name, value ++ lines.flatMap fun line => ' ' :: trim line) :: rest

@[simp] theorem extendedBy_nil_lines
    (fields : List RawField) :
    extendedBy [] fields = fields := by
  cases fields with
  | nil => rfl
  | cons field rest => simp [extendedBy]

theorem extendedBy_cons
    (line : List Char)
    (lines : List (List Char))
    (fields : List RawField) :
    extendedBy (line :: lines) fields =
      extendedBy lines (extendFirst line fields) := by
  cases fields with
  | nil => rfl
  | cons field rest => simp [extendedBy, extendFirst]

/-- Behind a field that was begun, lines do not reach the fields before it. -/
theorem foldl_addLine_append
    {recent : List RawField}
    (nonempty : recent ≠ [])
    (older : List RawField)
    (lines : List (List Char)) :
    lines.foldl addLine (recent ++ older) = lines.foldl addLine recent ++
      older := by
  induction lines generalizing recent with
  | nil => rfl
  | cons line rest inductionHypothesis =>
      have step :
          addLine (recent ++ older) line = addLine recent line ++ older ∧
          addLine recent line ≠ [] := by
        cases begins : begun? line with
        | some field =>
            rw [addLine_of_begun begins, addLine_of_begun begins]
            exact ⟨rfl, List.cons_ne_nil _ _⟩
        | none =>
            cases continues : isContinuation line with
            | false =>
                rw [addLine_of_junk continues begins,
                  addLine_of_junk continues begins]
                exact ⟨rfl, nonempty⟩
            | true =>
                rw [addLine_of_continuation continues,
                  addLine_of_continuation continues]
                cases recent with
                | nil => exact absurd rfl nonempty
                | cons field others => exact ⟨rfl, List.cons_ne_nil _ _⟩
      rw [List.foldl_cons, List.foldl_cons, step.1, inductionHypothesis step.2]

/-- Lines add their own fields, and their strays to the last field before
them. -/
theorem foldl_addLine_eq
    (lines : List (List Char))
    (fields : List RawField) :
    lines.foldl addLine fields = lines.foldl addLine [] ++
      extendedBy (strays lines) fields := by
  -- Until a line begins a field, only the fields before the lines can change.
  induction lines generalizing fields with
  | nil => simp [strays]
  | cons line rest inductionHypothesis =>
      rw [List.foldl_cons, List.foldl_cons]
      cases begins : begun? line with
      | some field =>
          have noStrays : strays (line :: rest) = [] := by simp [strays, begins]
          rw [addLine_of_begun begins, addLine_of_begun begins, noStrays,
            extendedBy_nil_lines]
          exact foldl_addLine_append (List.cons_ne_nil field []) fields rest
      | none =>
          cases continues : isContinuation line with
          | true =>
              have stray : strays (line :: rest) = line :: strays rest := by
                simp [strays, begins, continues]
              rw [addLine_of_continuation continues,
                addLine_of_continuation continues, stray, extendedBy_cons,
                inductionHypothesis (extendFirst line fields)]
              rfl
          | false =>
              have noStray : strays (line :: rest) = strays rest := by
                simp [strays, begins, continues]
              rw [addLine_of_junk continues begins,
                addLine_of_junk continues begins, noStray,
                inductionHypothesis fields]

/-! ## The text of a block -/

/-- The mark that may stand at the front of a text. -/
def mark : Char := '\uFEFF'

theorem encode_mark : Text.Utf8.encode [mark] = Text.Charset.utf8Mark := by
  decide

/-- The mark stands at the front of the bytes of a text if it is its first
character. -/
theorem utf8Mark_isPrefixOf_encode_iff
    {text : List Char} :
    Text.Charset.utf8Mark.isPrefixOf (Text.Utf8.encode text) = true ↔
      text.head? = some mark := by
  rw [List.isPrefixOf_iff_prefix]
  constructor
  · rintro ⟨rest, split⟩
    have units := Text.Utf8.units_encode text
    rw [← split, ← encode_mark, Text.Utf8.encode, List.flatMap_singleton,
      Text.Utf8.units_utf8EncodeChar_append] at units
    cases text with
    | nil => cases units
    | cons c later =>
        rw [List.map_cons] at units
        obtain ⟨same, -⟩ := List.cons.inj units
        rw [List.head?_cons, same]
  · intro marked
    obtain ⟨rest, rfl⟩ := List.head?_eq_some_iff.mp marked
    exact ⟨Text.Utf8.encode rest,
      by rw [← encode_mark]; simp [Text.Utf8.encode]⟩

/-- A text without the mark that may stand at its front. -/
def unmarked (text : List Char) : List Char :=
  if text.head? = some mark then text.tail else text

/-- A block in UTF-8 is read as it was written. -/
theorem textOf_encode
    (text : List Char) :
    textOf (Text.Utf8.encode text) = unmarked text := by
  have dropped : dropMark (Text.Utf8.encode text) =
      Text.Utf8.encode (unmarked text) := by
    unfold dropMark Text.Charset.dropUtf8Mark? unmarked
    by_cases marked : text.head? = some mark
    · obtain ⟨rest, rfl⟩ := List.head?_eq_some_iff.mp marked
      rw [if_pos (utf8Mark_isPrefixOf_encode_iff.mpr marked), if_pos marked,
        Option.getD_some, List.tail_cons, ← encode_mark]
      simp [Text.Utf8.encode]
    · rw [if_neg (mt utf8Mark_isPrefixOf_encode_iff.mp marked), if_neg marked,
        Option.getD_none]
  rw [textOf, dropped, Text.Utf8.decode?_encode, Option.getD_some]

/-- The fields of a block before their encoded words are decoded. -/
def rawFields (bytes : List UInt8) : List RawField :=
  unfolded (textOf bytes)

theorem ofBytes_eq_map
    (bytes : List UInt8) :
    ofBytes bytes = (rawFields bytes).map fun (name, value) =>
      (String.ofList name, String.ofList (decodeWords value)) :=
  rfl

/-! ## Line ends behind a block -/

section LineEnds

open Text.Charset (byteOrder? decodeMarked? dropUtf8Mark? readByte utf8Mark)
open Text.Utf8 (encode)

/-- A byte that ends a line. -/
def IsLineEnd (byte : UInt8) : Prop :=
  byte = 0x0A ∨ byte = 0x0D

instance : DecidablePred IsLineEnd :=
  fun byte => inferInstanceAs (Decidable (byte = 0x0A ∨ byte = 0x0D))

section Marks

variable {first : UInt8} {rest : List UInt8}

theorem dropUtf8Mark?_append
    (ends : IsLineEnd first)
    (bytes : List UInt8) :
    dropUtf8Mark? (bytes ++ first :: rest) =
      (dropUtf8Mark? bytes).map (· ++ first :: rest) := by
  have noMark : first ∉ utf8Mark := by
    rcases ends with rfl | rfl <;> decide
  have sameFront : utf8Mark.isPrefixOf (bytes ++ first :: rest) =
      utf8Mark.isPrefixOf bytes := by
    rw [Bool.eq_iff_iff, List.isPrefixOf_iff_prefix, List.isPrefixOf_iff_prefix]
    exact Text.prefix_append_cons_iff noMark bytes rest
  unfold dropUtf8Mark?
  rw [sameFront]
  split
  · rename_i marked
    obtain ⟨behind, rfl⟩ := List.isPrefixOf_iff_prefix.mp marked
    rw [List.append_assoc, List.drop_left, List.drop_left, Option.map_some]
  · rfl

theorem dropMark_append
    (ends : IsLineEnd first)
    (bytes : List UInt8) :
    dropMark (bytes ++ first :: rest) = dropMark bytes ++ first :: rest := by
  unfold dropMark
  rw [dropUtf8Mark?_append ends]
  cases dropUtf8Mark? bytes <;> rfl

theorem byteOrder?_eq_none_iff
    {bytes : List UInt8} :
    byteOrder? bytes = none ↔ ¬ [0xFE, 0xFF] <+: bytes ∧
      ¬ [0xFF, 0xFE] <+: bytes := by
  unfold byteOrder?
  split
  · simp
  · simp
  · rename_i big little
    refine ⟨fun _ => ⟨?_, ?_⟩, fun _ => rfl⟩
    · rintro ⟨behind, rfl⟩
      exact big behind rfl
    · rintro ⟨behind, rfl⟩
      exact little behind rfl

/-- A line end behind some bytes is no part of a mark. -/
theorem byteOrder?_append_eq_none_iff
    (ends : IsLineEnd first)
    {bytes : List UInt8} :
    byteOrder? (bytes ++ first :: rest) = none ↔ byteOrder? bytes = none := by
  have noMark : first ∉ [0xFE, 0xFF] ∧ first ∉ [0xFF, 0xFE] := by
    rcases ends with rfl | rfl <;> decide
  rw [byteOrder?_eq_none_iff, byteOrder?_eq_none_iff,
    Text.prefix_append_cons_iff noMark.1, Text.prefix_append_cons_iff noMark.2]

theorem exists_bytes_eq_cons
    (ending : Text.LineEnd) :
    ∃ first rest, ending.bytes = first :: rest ∧ IsLineEnd first := by
  cases ending with
  | feed => exact ⟨0x0A, [], rfl, .inl rfl⟩
  | returnFeed => exact ⟨0x0D, [0x0A], rfl, .inr rfl⟩

theorem byteOrder?_dropMark_append_eq_none_iff
    (ending : Text.LineEnd)
    {bytes : List UInt8} :
    byteOrder? (dropMark (bytes ++ ending.bytes)) = none ↔
      byteOrder? (dropMark bytes) = none := by
  obtain ⟨first, rest, split, endsLine⟩ := exists_bytes_eq_cons ending
  rw [split, dropMark_append endsLine, byteOrder?_append_eq_none_iff endsLine]

end Marks

section Tails

variable {tail : List Char}

theorem isAscii_of_lineEnd
    {c : Char}
    (ends : c = '\r' ∨ c = '\n') :
    Text.Utf8.IsAscii c := by
  unfold Text.Utf8.IsAscii
  rcases ends with rfl | rfl <;> decide

theorem map_readByte_encode
    (ends : ∀ c ∈ tail, c = '\r' ∨ c = '\n')
    (upper : List Nat) :
    (encode tail).map (readByte upper) = tail := by
  induction tail with
  | nil => rfl
  | cons c rest inductionHypothesis =>
      obtain ⟨first, others⟩ := List.forall_mem_cons.mp ends
      rw [Text.Utf8.encode_cons_of_isAscii (isAscii_of_lineEnd first),
        List.map_cons, inductionHypothesis others]
      rcases first with rfl | rfl <;> rfl

theorem decode_marked_of_byteOrder?_eq_none
    {bytes : List UInt8}
    (plain : byteOrder? bytes = none)
    (charset : Text.Charset) :
    charset.marked.decode bytes =
      ((dropUtf8Mark? bytes).map Text.Utf8.decodeLossy).getD
        (charset.decode bytes) := by
  rw [Text.Charset.decode, decodeMarked?, plain, Option.map_none,
    Option.or_none]

/-- Line ends behind a block are read by themselves, unless its mark is one of
UTF-16. -/
theorem textOf_append
    (ends : ∀ c ∈ tail, c = '\r' ∨ c = '\n')
    {bytes : List UInt8}
    (plain : byteOrder? (dropMark bytes) = none) :
    textOf (bytes ++ encode tail) = textOf bytes ++ tail := by
  cases tail with
  | nil =>
      rw [Text.Utf8.encode, List.flatMap_nil, List.append_nil, List.append_nil]
  | cons c rest =>
      have first := (List.forall_mem_cons.mp ends).1
      have ascii : ∀ d, (c :: rest).head? = some d → Text.Utf8.IsAscii d := by
        rintro d ⟨⟩
        exact isAscii_of_lineEnd first
      have endsLine : IsLineEnd (UInt8.ofNat c.toNat) := by
        rcases first with rfl | rfl
        · exact .inr rfl
        · exact .inl rfl
      have encoded : encode (c :: rest) = UInt8.ofNat c.toNat :: encode rest :=
        Text.Utf8.encode_cons_of_isAscii (isAscii_of_lineEnd first) rest
      have dropped : dropMark (bytes ++ encode (c :: rest)) =
          dropMark bytes ++ encode (c :: rest) := by
        rw [encoded, dropMark_append endsLine]
      have plainLonger : byteOrder? (dropMark bytes ++ encode (c :: rest)) =
          none := by
        rw [encoded, byteOrder?_append_eq_none_iff endsLine]
        exact plain
      have droppedAgain : dropUtf8Mark? (dropMark bytes ++ encode (c :: rest)) =
          (dropUtf8Mark? (dropMark bytes)).map (· ++ encode (c :: rest)) := by
        rw [encoded, dropUtf8Mark?_append endsLine]
      rw [textOf, textOf, dropped, Text.Utf8.decode?_append_encode ascii,
        decode_marked_of_byteOrder?_eq_none plain,
          decode_marked_of_byteOrder?_eq_none plainLonger,
        droppedAgain]
      -- The block is UTF-8, or has a second mark of UTF-8, or is read byte by
      -- byte.
      cases Text.Utf8.decode? (dropMark bytes) with
      | some text => rfl
      | none =>
          cases dropUtf8Mark? (dropMark bytes) with
          | some behind =>
              exact Text.Utf8.decodeLossy_append_encode ascii behind
          | none =>
              simp only [Option.map_none, Option.getD_none, Text.Charset.decode,
                List.map_append, map_readByte_encode ends]

/-- Line ends behind a block add nothing to its fields. -/
theorem ofBytes_append
    (ends : ∀ c ∈ tail, c = '\r' ∨ c = '\n')
    {bytes : List UInt8}
    (plain : byteOrder? (dropMark bytes) = none) :
    ofBytes (bytes ++ encode tail) = ofBytes bytes := by
  have unchanged : rawFields (bytes ++ encode tail) = rawFields bytes := by
    rw [rawFields, textOf_append ends plain, unfolded_eq,
      fieldsBehind_append_lineEnds ends, ← unfolded_eq, rawFields]
  rw [ofBytes_eq_map, unchanged, ofBytes_eq_map]

end Tails

end LineEnds

end HeaderBlock
end Mime
end MailSearch
