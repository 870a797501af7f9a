import MailSearch.Mime.Document
import MailSearch.Proofs.Mime.HeaderBlock

/-!
# Where a header ends

A message is the lines of its header, a blank line, and a body.  The end of the
header is looked for byte by byte, as two line feeds or two pairs of carriage
return and line feed one behind the other.  So it is found for every body,
unless the last line of the header ends with a line feed and the blank line is a
pair: then the body is read on as a header, up to a blank line in it.
-/

namespace MailSearch
namespace Mime

open Text (LineEnd)

/-- The bytes of a header line: at least one, and no line end among them. -/
structure HeaderLine where
  /-- The bytes in front of the line end. -/
  bytes : List UInt8
  nonempty : bytes ≠ []
  unbroken : ∀ byte ∈ bytes, ¬ HeaderBlock.IsLineEnd byte

/-- A header: one or more lines, each with an end of its own. -/
structure Header where
  /-- The lines in front of the last one. -/
  front : List (HeaderLine × LineEnd)
  /-- The last line. -/
  last : HeaderLine
  /-- What ends the last line. -/
  ending : LineEnd

namespace Header

/-- The bytes of the lines without the end of the last one. -/
def inner (header : Header) : List UInt8 :=
  (header.front.flatMap fun (line, ending) => line.bytes ++ ending.bytes) ++
    header.last.bytes

/-- The bytes of the lines. -/
def bytes (header : Header) : List UInt8 :=
  header.inner ++ header.ending.bytes

end Header

namespace HeaderBlock

/-! ## The search for the end -/

/-- The bytes in front of the first blank line; all of them when there is
none. -/
def beforeEnd (bytes : List UInt8) : List UInt8 :=
  bytes.take ((end? bytes).getD bytes.length)

theorem ofMessage_eq
    (message : List UInt8) :
    ofMessage message = ofBytes (beforeEnd message) :=
  rfl

theorem beforeEnd_cons
    (byte : UInt8)
    (rest : List UInt8) :
    beforeEnd (byte :: rest) = if isEnd (byte :: rest) then []
      else byte :: beforeEnd rest := by
  rw [beforeEnd, end?]
  split
  · rfl
  · rw [beforeEnd]
    cases end? rest <;> rfl

theorem isEnd_eq
    (bytes : List UInt8) :
    isEnd bytes = ([0x0A, 0x0A].isPrefixOf bytes ||
      [0x0D, 0x0A, 0x0D, 0x0A].isPrefixOf bytes) :=
  rfl

theorem isEnd_cons_of_not_lineEnd
    {byte : UInt8}
    (inside : ¬ IsLineEnd byte)
    (rest : List UInt8) :
    isEnd (byte :: rest) = false := by
  obtain ⟨noFeed, noReturn⟩ := not_or.mp inside
  simp [isEnd_eq, List.isPrefixOf, Ne.symm noFeed, Ne.symm noReturn]

/-- No header ends within a line. -/
theorem beforeEnd_append_of_unbroken
    {line : List UInt8}
    (unbroken : ∀ byte ∈ line, ¬ IsLineEnd byte)
    (rest : List UInt8) :
    beforeEnd (line ++ rest) = line ++ beforeEnd rest := by
  induction line with
  | nil => rfl
  | cons byte others inductionHypothesis =>
      obtain ⟨inside, unbrokenOthers⟩ := List.forall_mem_cons.mp unbroken
      rw [List.cons_append, beforeEnd_cons, isEnd_cons_of_not_lineEnd inside,
        inductionHypothesis unbrokenOthers]
      rfl

/-- No header ends at a line end with a line behind it. -/
theorem beforeEnd_append_of_lineEnd
    (ending : LineEnd)
    {rest : List UInt8}
    (inside : ∀ byte, rest.head? = some byte → ¬ IsLineEnd byte) :
    beforeEnd (ending.bytes ++ rest) = ending.bytes ++ beforeEnd rest := by
  have noEnd : isEnd (0x0A :: rest) = false ∧
      isEnd (0x0D :: 0x0A :: rest) = false := by
    cases rest with
    | nil => decide
    | cons byte others =>
        obtain ⟨noFeed, noReturn⟩ := not_or.mp (inside byte rfl)
        simp [isEnd_eq, List.isPrefixOf, Ne.symm noFeed, Ne.symm noReturn]
  have feed : beforeEnd (0x0A :: rest) = 0x0A :: beforeEnd rest := by
    rw [beforeEnd_cons, noEnd.1]
    rfl
  cases ending with
  | feed => exact feed
  | returnFeed =>
      rw [LineEnd.bytes_returnFeed, List.cons_append, List.singleton_append,
        beforeEnd_cons, noEnd.2, feed]
      rfl

end HeaderBlock

namespace Header

open HeaderBlock
open Text.Charset (byteOrder?)

/-- The first byte of a line stands in it, whatever follows. -/
theorem not_isLineEnd_of_head?_eq
    (line : HeaderLine)
    (rest : List UInt8) :
    ∀ byte, (line.bytes ++ rest).head? = some byte → ¬ IsLineEnd byte := by
  intro byte isFirst
  obtain ⟨first, others, split⟩ := List.exists_cons_of_ne_nil line.nonempty
  rw [split] at isFirst
  cases isFirst
  apply line.unbroken
  rw [split]
  exact List.mem_cons_self

theorem inner_cons
    (line : HeaderLine)
    (lineEnd ending : LineEnd)
    (others : List (HeaderLine × LineEnd))
    (last : HeaderLine) :
    inner ⟨(line, lineEnd) :: others, last, ending⟩ =
      line.bytes ++ (lineEnd.bytes ++ inner ⟨others, last, ending⟩) := by
  simp [inner]

/-- No header ends in front of its last line end. -/
theorem beforeEnd_inner_append
    (header : Header)
    (rest : List UInt8) :
    beforeEnd (header.inner ++ rest) = header.inner ++ beforeEnd rest := by
  obtain ⟨front, last, ending⟩ := header
  induction front with
  | nil => exact beforeEnd_append_of_unbroken last.unbroken rest
  | cons first others inductionHypothesis =>
      obtain ⟨line, lineEnd⟩ := first
      have begins : ∀ byte,
          (inner ⟨others, last, ending⟩ ++ rest).head? = some byte →
          ¬ IsLineEnd byte := by
        cases others with
        | nil => exact not_isLineEnd_of_head?_eq last rest
        | cons next later =>
            rw [inner_cons, List.append_assoc]
            exact not_isLineEnd_of_head?_eq next.1 _
      rw [inner_cons, List.append_assoc, List.append_assoc,
        beforeEnd_append_of_unbroken line.unbroken,
          beforeEnd_append_of_lineEnd lineEnd begins,
        inductionHypothesis, List.append_assoc, List.append_assoc]

/-! ## The blank line -/

section Blank

variable {ending blank : LineEnd} {body : List UInt8}

/-- A body that begins with a line end. -/
def BeginsBlank (body : List UInt8) : Prop :=
  ∃ first : LineEnd, first.bytes <+: body

theorem not_beginsBlank_iff :
    ¬ BeginsBlank body ↔ ¬ [0x0A] <+: body ∧ ¬ [0x0D, 0x0A] <+: body := by
  constructor
  · intro text
    exact ⟨fun feed => text ⟨.feed, feed⟩, fun pair => text ⟨.returnFeed, pair⟩⟩
  · rintro ⟨noFeed, noPair⟩ ⟨first, isFirst⟩
    cases first with
    | feed => exact noFeed isFirst
    | returnFeed => exact noPair isFirst

/-- A blank line is found, unless it is a pair behind a single line feed. -/
theorem exists_beforeEnd_eq_encode
    (closed : ending = .returnFeed ∨ blank = .feed ∨ BeginsBlank body) :
    ∃ tail : List Char, (∀ c ∈ tail, c = '\r' ∨ c = '\n') ∧
      beforeEnd (ending.bytes ++ (blank.bytes ++ body)) =
        Text.Utf8.encode tail := by
  cases ending with
  | returnFeed =>
      cases blank with
      | feed =>
          refine ⟨['\r'], by simp, ?_⟩
          show beforeEnd (0x0D :: 0x0A :: 0x0A :: body) = [0x0D]
          simp [beforeEnd_cons, isEnd_eq, List.isPrefixOf]
      | returnFeed =>
          refine ⟨[], by simp, ?_⟩
          show beforeEnd (0x0D :: 0x0A :: 0x0D :: 0x0A :: body) = []
          simp [beforeEnd_cons, isEnd_eq, List.isPrefixOf]
  | feed =>
      cases blank with
      | feed =>
          refine ⟨[], by simp, ?_⟩
          show beforeEnd (0x0A :: 0x0A :: body) = []
          simp [beforeEnd_cons, isEnd_eq, List.isPrefixOf]
      | returnFeed =>
          -- The blank line is missed, but the body begins with another one.
          obtain ⟨first, rest, rfl⟩ : BeginsBlank body := by simpa using closed
          cases first with
          | feed =>
              refine ⟨['\n', '\r'], by simp, ?_⟩
              show beforeEnd (0x0A :: 0x0D :: 0x0A :: 0x0A :: rest) =
                  [0x0A, 0x0D]
              simp [beforeEnd_cons, isEnd_eq, List.isPrefixOf]
          | returnFeed =>
              refine ⟨['\n'], by simp, ?_⟩
              show beforeEnd (0x0A :: 0x0D :: 0x0A :: 0x0D :: 0x0A :: rest) =
                  [0x0A]
              simp [beforeEnd_cons, isEnd_eq, List.isPrefixOf]

/-- Behind a single line feed a pair is read on, with the body. -/
theorem beforeEnd_mixed
    (text : ¬ BeginsBlank body) :
    beforeEnd (LineEnd.feed.bytes ++ (LineEnd.returnFeed.bytes ++ body)) =
      LineEnd.feed.bytes ++ (LineEnd.returnFeed.bytes ++ beforeEnd body) := by
  obtain ⟨noFeed, noPair⟩ := not_beginsBlank_iff.mp text
  rw [← List.isPrefixOf_iff_prefix, Bool.not_eq_true] at noFeed noPair
  simp [beforeEnd_cons, isEnd_eq, List.isPrefixOf, noFeed, noPair]

end Blank

/-! ## The fields of a message -/

section Fields

variable {header : Header} {blank : LineEnd} {body : List UInt8}

theorem beforeEnd_message :
    beforeEnd (header.bytes ++ blank.bytes ++ body) =
      header.inner ++
        beforeEnd (header.ending.bytes ++ (blank.bytes ++ body)) := by
  rw [bytes, List.append_assoc, List.append_assoc, beforeEnd_inner_append]

/-- If the blank line is found, the fields are those of the lines and some line
ends. -/
theorem exists_ofMessage_eq
    (closed : header.ending = .returnFeed ∨ blank = .feed ∨ BeginsBlank body) :
    ∃ tail : List Char, (∀ c ∈ tail, c = '\r' ∨ c = '\n') ∧
      ofMessage (header.bytes ++ blank.bytes ++ body) =
        ofBytes (header.inner ++ Text.Utf8.encode tail) := by
  obtain ⟨tail, ends, found⟩ := exists_beforeEnd_eq_encode closed
  exact ⟨tail, ends, by rw [ofMessage_eq, beforeEnd_message, found]⟩

/-- Line ends behind its lines say nothing, so a message has the fields of its
header then. -/
theorem ofMessage_of_closed
    (closed : header.ending = .returnFeed ∨ blank = .feed ∨ BeginsBlank body)
    (plain : byteOrder? (dropMark header.bytes) = none) :
    ofMessage (header.bytes ++ blank.bytes ++ body) = ofBytes header.bytes := by
  obtain ⟨tail, ends, read⟩ := exists_ofMessage_eq closed
  have plainInner : byteOrder? (dropMark header.inner) = none :=
    (byteOrder?_dropMark_append_eq_none_iff header.ending).mp plain
  rw [read, ofBytes_append ends plainInner, bytes, LineEnd.bytes,
    ofBytes_append LineEnd.eq_of_mem_chars plainInner]

/-- Otherwise it has the fields of all in front of the first blank line in its
body. -/
theorem ofMessage_of_mixed
    (ending : header.ending = .feed)
    (text : ¬ BeginsBlank body) :
    ofMessage (header.bytes ++ LineEnd.returnFeed.bytes ++ body) =
      ofBytes (header.bytes ++ LineEnd.returnFeed.bytes ++ beforeEnd body) := by
  rw [ofMessage_eq, beforeEnd_message, ending, beforeEnd_mixed text,
    bytes, ending]
  simp only [List.append_assoc]

/-- The mark of a message is that of its header. -/
theorem dropMark_message :
    dropMark (header.bytes ++ blank.bytes ++ body) =
      dropMark header.bytes ++ blank.bytes ++ body := by
  obtain ⟨first, rest, split, endsLine⟩ := exists_bytes_eq_cons blank
  rw [split, List.append_assoc, List.cons_append, dropMark_append endsLine,
    List.append_assoc, List.cons_append]

theorem headers_of_ofBytes?
    (unmarked : dropMark header.bytes = header.bytes)
    {document : Document}
    (read : Document.ofBytes? (header.bytes ++ blank.bytes ++ body) =
      some (some document)) :
    document.headers = ofMessage (header.bytes ++ blank.bytes ++ body) := by
  obtain ⟨division, -, isDocument⟩ := Option.map_eq_some_iff.mp read
  obtain ⟨attachmentText, -, isDocument⟩ :=
    Option.bind_eq_some_iff.mp isDocument
  cases isDocument
  show ofMessage (dropMark _) = _
  rw [dropMark_message, unmarked]

end Fields

/--
The body of a message adds no field to those of its header, whatever it holds,
unless the last line of the header ends with a line feed, the blank line is a
carriage return and a line feed, and the body begins with text.  Such a body is
read on as a header, up to the first blank line in it.  Only behind a mark of
UTF-16 it matters which line ends are read with the lines of the header.
-/
theorem fields_apart_from_body
    (header : Header)
    (blank : LineEnd)
    (body : List UInt8) :
    (header.ending = .returnFeed ∨ blank = .feed ∨ BeginsBlank body →
      (∃ tail : List Char, (∀ c ∈ tail, c = '\r' ∨ c = '\n') ∧
        ofMessage (header.bytes ++ blank.bytes ++ body) =
          ofBytes (header.inner ++ Text.Utf8.encode tail)) ∧
      (byteOrder? (dropMark header.bytes) = none →
        ofMessage (header.bytes ++ blank.bytes ++ body) =
          ofBytes header.bytes)) ∧
    (header.ending = .feed ∧ blank = .returnFeed ∧ ¬ BeginsBlank body →
      ofMessage (header.bytes ++ blank.bytes ++ body) =
        ofBytes (header.bytes ++ blank.bytes ++ beforeEnd body)) ∧
    (dropMark header.bytes = header.bytes →
      ∀ document,
        Document.ofBytes? (header.bytes ++ blank.bytes ++ body) =
            some (some document) →
          document.headers =
            ofMessage (header.bytes ++ blank.bytes ++ body)) := by
  refine ⟨fun closed =>
      ⟨exists_ofMessage_eq closed, ofMessage_of_closed closed⟩, ?_,
    fun unmarked document => headers_of_ofBytes? unmarked⟩
  rintro ⟨ending, rfl, text⟩
  exact ofMessage_of_mixed ending text

/-- A header of one line, with a line feed behind it. -/
def subjectLine : Header :=
  ⟨[], ⟨Text.Utf8.bytes "Subject: x", by decide,
    List.forall_iff_forall_mem.mp (by decide)⟩, .feed⟩

/-- A body that looks like a field is no part of the header behind a blank line
of one byte. -/
theorem field_in_body_of_subjectLine :
    byteOrder? (dropMark subjectLine.bytes) = none ∧
    ofMessage (subjectLine.bytes ++ LineEnd.feed.bytes ++
        Text.Utf8.bytes "From: forged\n") =
      ofBytes subjectLine.bytes ∧
    ofMessage (subjectLine.bytes ++ LineEnd.returnFeed.bytes ++
        Text.Utf8.bytes "From: forged\n\nTo: b") =
      ofBytes (subjectLine.bytes ++ LineEnd.returnFeed.bytes ++
        beforeEnd (Text.Utf8.bytes "From: forged\n\nTo: b")) := by
  have plain : byteOrder? (dropMark subjectLine.bytes) = none := by decide
  have text : ¬ BeginsBlank (Text.Utf8.bytes "From: forged\n\nTo: b") :=
    not_beginsBlank_iff.mpr ⟨by decide, by decide⟩
  exact ⟨plain,
    ((fields_apart_from_body subjectLine .feed _).1 (.inr (.inl rfl))).2 plain,
    (fields_apart_from_body subjectLine .returnFeed _).2.1 ⟨rfl, rfl, text⟩⟩

/-- Behind a blank line of two bytes the same body begins with a field of the
message. -/
theorem field_in_body_behind_mixed_ends :
    ¬ ∀ (header : Header) (blank : LineEnd) (body : List UInt8),
      ofMessage (header.bytes ++ blank.bytes ++ body) =
        ofBytes header.bytes := by
  intro apart
  have same := apart subjectLine .returnFeed (Text.Utf8.bytes "From: forged\n")
  have whole : ofMessage (subjectLine.bytes ++ LineEnd.returnFeed.bytes ++
      Text.Utf8.bytes "From: forged\n") = [("Subject", "x"),
        ("From", "forged")] := by
    decide +kernel
  have alone : ofBytes subjectLine.bytes = [("Subject", "x")] := by
    decide +kernel
  rw [whole, alone] at same
  exact absurd same (by decide)

/-- A header line with a mark of UTF-16 is read with its line end as half a
character. -/
example :
    let header : Header :=
      ⟨[], ⟨[0xFF, 0xFE, 0x41, 0, 0x3A, 0, 0x62, 0], by decide,
        List.forall_iff_forall_mem.mp (by decide)⟩, .feed⟩
    ofMessage (header.bytes ++ LineEnd.feed.bytes) = [("A", "b")] ∧
      ofBytes header.bytes = [("A", "b\uFFFD")] := by
  decide +kernel

end Header
end Mime
end MailSearch
