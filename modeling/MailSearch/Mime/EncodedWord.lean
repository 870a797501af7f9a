import MailSearch.Mime.Transfer
import MailSearch.Text.Charset

/-!
# Encoded words

Header fields are ASCII; other characters stand in encoded words, which name
their character set and hold its bytes in base 64 or in a variant of
quoted-printable.  Blanks between two encoded words do not count, and a text and
an encoded word beside it are separated by one blank.
-/

namespace MailSearch
namespace Mime
namespace EncodedWord

/--
Split the payload of an encoded word from what follows its end `?=`.  A payload
may go on in the next line when that starts with blanks, which do not count;
`folded` says that such blanks may stand here.
-/
def readPayload (folded : Bool) : List UInt8 -> Option (List UInt8 × List UInt8)
  | [] => none
  | byte :: rest =>
      if [ascii '?', ascii '='].isPrefixOf (byte :: rest) then
        some ([], rest.drop 1)
      else if byte = ascii '\n' then
        if rest.head?.any isFold then readPayload true rest else none
      else if folded && isFold byte then readPayload true rest
      else (readPayload false rest).map fun (payload, rest) =>
        (byte :: payload, rest)

theorem length_readPayload_lt {folded : Bool} {text payload rest : List UInt8}
    (read : readPayload folded text = some (payload, rest)) :
      rest.length < text.length := by
  induction text generalizing folded payload rest with
  | nil => simp [readPayload] at read
  | cons byte tail ih =>
      have step {inner : Bool} {found : List UInt8}
          (equal : readPayload inner tail = some (found, rest)) :
          rest.length < (byte :: tail).length := by
        have := ih equal
        simp only [List.length_cons]
        omega
      unfold readPayload at read
      split at read
      · simp only [Option.some.injEq, Prod.mk.injEq] at read
        rw [← read.2, List.length_drop, List.length_cons]
        omega
      · split at read
        · split at read
          · exact step read
          · simp at read
        · split at read
          · exact step read
          · obtain ⟨⟨inner, tail'⟩, found, pair⟩ :=
              Option.map_eq_some_iff.1 read
            simp only [Prod.mk.injEq] at pair
            exact step (found.trans (by rw [pair.2]))

/--
The bytes of a payload in the variant of quoted-printable, where `_` is a blank.
Neither a blank written so nor a question mark ends what an equals sign began.
-/
def decodeQ (state : QuotedState) : List UInt8 -> Option (List UInt8)
  | [] => some []
  | byte :: rest =>
      if byte = ascii '=' then if state = .plain then
        decodeQ .equals rest else none
      else if byte = ascii '?' then (decodeQ state rest).map (byte :: ·)
      else if byte = ascii '_' then (decodeQ state rest).map (ascii ' ' :: ·)
      else if byte = ascii '\r' then decodeQ state rest
      else
        match state with
        | .plain => (decodeQ .plain rest).map (byte :: ·)
        | .equals =>
            (hexValue? byte).bind fun high => decodeQ (.digit high) rest
        | .digit high =>
            (hexValue? byte).bind fun low =>
              (decodeQ .plain rest).map ((high * 16 + low).toUInt8 :: ·)

/-- Whether a byte has no meaning in a payload in the base 64 form. -/
def passesB (byte : UInt8) : Bool :=
  isLineSpace byte || byte == ascii '?'

/-- The bytes of a payload in the base 64 form. -/
def decodeB (payload : List UInt8) : Option (List UInt8) :=
  (Text.Base64.readFrom? passesB .empty payload).map Text.Base64.Reading.bytes

/-- The bytes of a payload, by the letter that names its form. -/
def decodePayload (method : UInt8) (payload : List UInt8) :
    Option (List UInt8) :=
  if method = ascii 'q' ∨ method = ascii 'Q' then decodeQ .plain payload
  else if method = ascii 'b' ∨ method = ascii 'B' then decodeB payload
  else none

/-- The character set that a label names in front of an asterisk and a
language. -/
def charsetName : List UInt8 -> List UInt8
  | [] => []
  | first :: rest => first :: rest.takeWhile (· != ascii '*')

/-- Read an encoded word behind its opening `=?`; a name of a single byte makes
none. -/
def read? (text : List UInt8) : Option (List Char × List UInt8) :=
  let label := text.takeWhile fun byte =>
    byte != ascii '?' && byte != ascii '\n'
  match text.drop label.length with
  | first :: method :: second :: inside =>
      if first ≠ ascii '?' ∨ second ≠ ascii '?' ∨
        (charsetName label).length < 2 then none
      else
        match readPayload false inside with
        | none => none
        | some (payload, rest) =>
            (decodePayload method payload).map fun bytes =>
              ((Text.Charset.ofLabel (charsetName label)).decode bytes, rest)
  | _ => none

theorem length_read_lt {text rest : List UInt8} {decoded : List Char}
    (read : read? text = some (decoded, rest)) : rest.length < text.length := by
  unfold read? at read
  simp only at read
  split at read
  · rename_i first method second inside dropped
    have bound := congrArg List.length dropped
    simp only [List.length_drop, List.length_cons] at bound
    split at read
    · simp at read
    · split at read
      · simp at read
      · rename_i payload others payloadRead
        have := length_readPayload_lt payloadRead
        obtain ⟨_, _, equal⟩ := Option.map_eq_some_iff.1 read
        simp only [Prod.mk.injEq] at equal
        rw [← equal.2]
        omega
  · simp at read

/-- The decoded start of a field value. -/
structure Line where
  /-- The characters in reverse. -/
  reversed : List Char
  /-- Whether anything was decoded yet. -/
  begun : Bool
  /-- Whether the last item was an encoded word; true at the start. -/
  afterWord : Bool
  /-- The ordinary text that is being read, in reverse, without blanks at its
  end. -/
  pending : List UInt8
  /-- The blanks behind that text, in reverse. -/
  gap : List UInt8

namespace Line

/-- The line before its first character. -/
def empty : Line :=
  ⟨[], false, true, [], []⟩

/-- Finish the ordinary text that is being read. -/
def flush (line : Line) : Line :=
  if line.pending.isEmpty then { line with gap := [] }
  else
    let separator := if line.begun then [' '] else []
    let text := Text.Utf8.decodeLossy line.pending.reverse
    ⟨text.reverse ++ separator ++ line.reversed, true, false, [], []⟩

/-- Append an encoded word. -/
def pushWord (line : Line) (word : List Char) : Line :=
  let line := line.flush
  let separator := if line.afterWord then [] else [' ']
  ⟨word.reverse ++ separator ++ line.reversed, true, true, [], []⟩

/-- Append one byte of ordinary text; blanks count only between others. -/
def pushByte (line : Line) (byte : UInt8) : Line :=
  if isFold byte ∨ byte = ascii '\r' then
    if line.pending.isEmpty then line else { line with gap := byte :: line.gap }
  else { line with pending := byte :: (line.gap ++ line.pending), gap := [] }

/-- The decoded value; `none` when nothing was decoded. -/
def text? (line : Line) : Option (List Char) :=
  let line := line.flush
  if line.begun then some line.reversed.reverse else none

end Line

/-- What follows the opening `=?` of an encoded word, if it stands here. -/
def dropOpening? : List UInt8 -> Option (List UInt8)
  | first :: second :: rest =>
      if first = ascii '=' ∧ second = ascii '?' then some rest else none
  | _ => none

theorem length_dropOpening_lt {text rest : List UInt8}
    (dropped : dropOpening? text = some rest) :
    rest.length < text.length := by
  unfold dropOpening? at dropped
  split at dropped
  · split at dropped
    · simp only [Option.some.injEq] at dropped
      rw [← dropped]
      simp only [List.length_cons]
      omega
    · simp at dropped
  · simp at dropped

/-- Read an encoded word with its opening, if one stands here. -/
def readAt? (text : List UInt8) : Option (List Char × List UInt8) :=
  (dropOpening? text).bind read?

theorem length_readAt_lt {text rest : List UInt8} {decoded : List Char}
    (read : readAt? text = some (decoded, rest)) :
      rest.length < text.length := by
  obtain ⟨inside, dropped, word⟩ := Option.bind_eq_some_iff.1 read
  have := length_dropOpening_lt dropped
  have := length_read_lt word
  omega

/-- Decode the value of a field behind `line`, through its last line. -/
def decodeFrom (line : Line) (text : List UInt8) : Line :=
  match text with
  | [] => line
  | byte :: rest =>
      if byte = ascii '\n' then
        if rest.head?.any isFold then decodeFrom line.flush rest else line
      else
        match _word : readAt? (byte :: rest) with
        | some (word, after) => decodeFrom (line.pushWord word) after
        | none => decodeFrom (line.pushByte byte) rest
termination_by text.length
decreasing_by
  · simp
  · exact length_readAt_lt _word
  · simp

/-- Decode the value of an unstructured field; `none` when it holds nothing but
blanks. -/
def decodeValue? (value : List UInt8) : Option (List Char) :=
  (decodeFrom .empty value).text?

end EncodedWord
end Mime
end MailSearch
