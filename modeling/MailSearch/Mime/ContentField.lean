import MailSearch.Mime.EncodedWord
import MailSearch.Text.Occurrence

/-!
# Content fields

The fields that say what a part is and how to show it: a type, perhaps a
subtype, and parameters.  A parameter value is a run of characters or a quoted
text.  Encoded words are decoded in both, although they do not belong there, and
a long or foreign value may be cut into numbered pieces of percent-encoded text.
Comments in brackets do not count.
-/

namespace MailSearch
namespace Mime

/-- A type with parameters; types and parameter names are in lower case. -/
structure ContentField where
  /-- The type. -/
  mainType : List Char
  /-- The subtype. -/
  subType : Option (List Char)
  /-- The parameters in order. -/
  parameters : List (List Char × List Char)

namespace ContentField

/-- The value of the first parameter with a name in lower case. -/
def parameter? (field : ContentField) (name : String) : Option (List Char) :=
  field.parameters.lookup name.toList

/-- Whether the field has a type. -/
def hasType (field : ContentField) (name : String) : Bool :=
  field.mainType == name.toList

/-- Whether the field has a subtype. -/
def hasSubType (field : ContentField) (name : String) : Bool :=
  field.subType == some name.toList

/-- The type and the subtype with a slash between them, or the type alone. -/
def mediaType (field : ContentField) : List Char :=
  match field.subType with
  | some subType => field.mainType ++ '/' :: subType
  | none => field.mainType

/-! ## Percent-encoded values -/

/-- Decode percent signs with two hexadecimal digits; other bytes stand for
themselves. -/
def decodePercent? : List UInt8 -> Option (List UInt8)
  | [] => some []
  | byte :: rest =>
      if byte ≠ ascii '%' then (decodePercent? rest).map (byte :: ·)
      else
        match rest with
        | [] => some []
        | [digit] => (hexValue? digit).map fun _ => []
        | first :: second :: rest =>
            match hexValue? first, hexValue? second with
            | some high, some low =>
                (decodePercent? rest).map ((high * 16 + low).toUInt8 :: ·)
            | _, _ => none

/-- Decode a percent-encoded value; one that is not well formed stays as it
is. -/
def decodeExtended (charset : List UInt8) (value : List Char) : List Char :=
  match decodePercent? (Text.Utf8.encode value) with
  | some bytes => (Text.Charset.ofLabel charset).decode bytes
  | none => value

/-! ## The scanner -/

/-- What is being read. -/
inductive Place where
  | mainType
  | subType
  | name
  | value
  | quoted
  deriving DecidableEq

/-- A piece of a value that was cut into pieces. -/
structure Piece where
  /-- The name of the parameter. -/
  name : List Char
  /-- The number of the piece; the piece with number 0 stands among the
  parameters. -/
  number : Nat
  /-- The text of the piece. -/
  text : List Char

/-- A content field read up to some byte. -/
structure Scanner where
  /-- What is being read. -/
  place : Place
  /-- The number of open comments. -/
  depth : Nat
  /-- Whether the last byte was a backslash that protects the next one. -/
  escaped : Bool
  /-- The word that is being read, in reverse. -/
  word : List UInt8
  /-- What was passed over since the last byte of the word, in reverse. -/
  gap : List UInt8
  /-- Whether an encoded word may begin here. -/
  atStart : Bool
  /-- The type. -/
  mainType : Option (List Char)
  /-- The subtype. -/
  subType : Option (List Char)
  /-- The parameters so far, last first. -/
  parameters : List (List Char × List Char)
  /-- The numbered pieces so far, last first. -/
  pieces : List Piece
  /-- The name of the parameter whose value is due. -/
  name : Option (List Char)
  /-- The finished beginnings of the value, last first. -/
  begun : List (List Char)
  /-- Whether the name ended with an asterisk. -/
  extended : Bool
  /-- Whether the value is percent-encoded. -/
  percent : Bool
  /-- The number of the piece. -/
  number : Nat
  /-- The character set of the value. -/
  charset : Option (List UInt8)

namespace Scanner

/-- The scanner before the first byte. -/
def initial : Scanner :=
  ⟨.mainType, 0, false, [], [], true, none, none, [], [], none, [], false,
    false, 0, none⟩

/-- Give the word up. -/
def clear (scanner : Scanner) : Scanner :=
  { scanner with word := [], gap := [], atStart := true }

/-- Add a byte to the word. -/
def push (scanner : Scanner) (byte : UInt8) : Scanner :=
  if scanner.word.isEmpty then { scanner with word := [byte], gap := [] }
  else { scanner with word := byte :: (scanner.gap ++ scanner.word), gap := [] }

/-- Pass over a byte; it counts when the word goes on behind it. -/
def skip (scanner : Scanner) (byte : UInt8) : Scanner :=
  if scanner.word.isEmpty then scanner
    else { scanner with gap := byte :: scanner.gap }

/-- Add an ordinary byte to the word. -/
def pushOrdinary (scanner : Scanner) (byte : UInt8) : Scanner :=
  { scanner.push byte with escaped := false, atStart := false }

/-- The text of a word in reverse. -/
def textOf (word : List UInt8) : List Char :=
  Text.Utf8.decodeLossy word.reverse

/-- Finish a type, a subtype or a name, unless nothing of it was read. -/
def endWord (scanner : Scanner) : Scanner :=
  if scanner.word.isEmpty then scanner
  else
    let word := (textOf scanner.word).map Char.toLower
    match scanner.place with
    | .mainType => { scanner with mainType := some word }.clear
    | .subType => { scanner with subType := some word }.clear
    | .name => { scanner with name := some word }.clear
    | .value => scanner
    | .quoted => scanner

/-- Finish the part of a value in front of an encoded word. -/
def endPart (scanner : Scanner) : Scanner :=
  if scanner.word.isEmpty then scanner
  else if scanner.place = .quoted then
    { scanner with begun := textOf scanner.word :: scanner.begun }.clear
  else { scanner with
    begun := [' '] :: textOf scanner.word :: scanner.begun }.clear

/-- Finish the part of a value in front of a backslash. -/
def endEscape (scanner : Scanner) : Scanner :=
  if scanner.word.isEmpty ∨ scanner.place ≠ .quoted then scanner.endPart
  else { scanner with
    begun := textOf (scanner.gap ++ scanner.word) :: scanner.begun }.clear

/-- Whether a byte ends a line. -/
def isLineEnd (byte : UInt8) : Bool :=
  byte == ascii '\r' || byte == ascii '\n'

/-- Finish a value; one without bytes does not count. -/
def endValue (scanner : Scanner) : Scanner :=
  match scanner.name with
  | none => scanner.clear
  | some name =>
      if scanner.word.isEmpty ∧ scanner.begun = [] then scanner.clear
      else
        let word :=
          if scanner.word.contains (ascii '\n') then scanner.word.filter
            fun byte => !isLineEnd byte
          else scanner.word
        let text := (textOf word :: scanner.begun).reverse.flatten
        let cleared := { scanner with name := none, begun := [] }.clear
        if scanner.extended then
          let text :=
            if scanner.percent then
              decodeExtended (scanner.charset.getD []) text else text
          let cleared :=
            { cleared with
              extended := false, percent := false, charset :=
              none, number := 0 }
          if scanner.number = 0 then
            { cleared with parameters := (name, text) :: cleared.parameters }
          else { cleared with
            pieces := ⟨name, scanner.number, text⟩ :: cleared.pieces }
        else { cleared with parameters := (name, text) :: cleared.parameters }

/--
The number of a piece: decimal digits, perhaps behind a plus sign.  Anything
else, and a number of more than 32 bits, counts as 0.
-/
def pieceNumber (word : List Char) : Nat :=
  let digits := if word.head? = some '+' then word.drop 1 else word
  let number :=
    digits.foldl (fun value c => value * 10 + (c.toNat - '0'.toNat)) 0
  if digits.all Char.isDigit && number < 0x100000000 then number else 0

/-- Read the word as the number of a piece. -/
def endNumber (scanner : Scanner) : Scanner :=
  { scanner with number := pieceNumber (textOf scanner.word) }.clear

/-- An asterisk behind a name, or behind the number of a piece. -/
def star (scanner : Scanner) : Scanner :=
  if scanner.extended then
    if scanner.percent ∨ scanner.word.isEmpty then scanner
    else { scanner.endNumber with percent := true }
  else { scanner.endWord with extended := !scanner.word.isEmpty }

/-- An equals sign behind a name; what stands between a last asterisk and it
does not count. -/
def beginValue (scanner : Scanner) : Scanner :=
  if scanner.extended then
    if scanner.percent then { scanner with place := .value }.clear
    else if scanner.word.isEmpty then
      { scanner with place := .value, percent := true }
    else { scanner.endNumber with place := .value }
  else if scanner.word.isEmpty then scanner
  else { scanner.endWord with place := .value }

/-- The name of the parameter that keeps the language of another one. -/
def languageName (name : List Char) : List Char :=
  name ++ "-language".toList

/-- An apostrophe in a percent-encoded value ends the character set, and then
the language. -/
def apostrophe (scanner : Scanner) : Scanner :=
  if scanner.word.isEmpty then scanner
  else
    match scanner.charset with
    | none => { scanner with charset := some scanner.word.reverse }.clear
    | some _ =>
        let word := textOf scanner.word
        let name := languageName (scanner.name.getD [])
        if scanner.parameters.any fun parameter => parameter.1 == name then
          { scanner with begun := word :: ['\''] :: scanner.begun }.clear
        else { scanner with
          parameters := (name, word) :: scanner.parameters }.clear

/-- Finish what is being read. -/
def endItem (scanner : Scanner) : Scanner :=
  match scanner.place with
  | .mainType => scanner.endWord
  | .subType => scanner.endWord
  | .name => scanner.endWord
  | .value => scanner.endValue
  | .quoted => scanner.endValue

/-- One byte inside a comment; only parentheses count. -/
def stepComment (scanner : Scanner) (byte : UInt8) : Scanner :=
  if byte = ascii '(' then { scanner with depth := scanner.depth + 1 }
  else if byte = ascii ')' then
    { scanner with depth := scanner.depth - 1 }.clear
  else scanner

/-- One byte of a quoted value. -/
def stepQuoted (scanner : Scanner) (byte : UInt8) : Scanner :=
  if isFold byte then { scanner.push byte with atStart := true }
  else if isLineEnd byte then scanner.skip byte
  else if byte = ascii '"' ∧ !scanner.escaped then
    { scanner.endValue with place := .name }
  else if byte = ascii '\\' ∧ !scanner.escaped then
    { scanner.endEscape with escaped := true }
  else if byte = ascii '\'' ∧ scanner.percent ∧ !scanner.escaped then
    scanner.apostrophe
  else scanner.pushOrdinary byte

/-- One byte of a value without quotes. -/
def stepValue (scanner : Scanner) (byte : UInt8) : Scanner :=
  if byte = ascii '"' then
    { scanner.skip byte with atStart := true, place := .quoted }
  else if byte = ascii ';' ∧ !scanner.escaped then
    { scanner.endValue with place := .name }
  else if byte = ascii '\\' ∧ !scanner.escaped then
    { scanner.endEscape with escaped := true }
  else if byte = ascii '\'' ∧ scanner.percent ∧ !scanner.escaped then
    scanner.apostrophe
  else if byte = ascii '(' ∧ !scanner.escaped then
    { scanner.endValue with depth := 1 }
  else if byte = ascii ';' ∨ byte = ascii '(' then
    { scanner with escaped := false }
  else scanner.pushOrdinary byte

/-- One byte of a type, a subtype or a name. -/
def stepWord (scanner : Scanner) (byte : UInt8) : Scanner :=
  if byte = ascii '/' ∧ scanner.place = .mainType then
    { scanner.endWord with place := .subType }
  else if byte = ascii ';' then { scanner.endWord with place := .name }
  else if byte = ascii '(' then { scanner.endWord with depth := 1 }
  else if byte = ascii '*' ∧ scanner.place = .name then scanner.star
  else if byte = ascii '=' ∧ scanner.place = .name then scanner.beginValue
  else if byte = ascii '"' ∨ byte = ascii '\\' then scanner.skip byte
  else scanner.pushOrdinary byte

/-- One byte. -/
def step (scanner : Scanner) (byte : UInt8) : Scanner :=
  if 0 < scanner.depth then scanner.stepComment byte
  else if scanner.place = .quoted then scanner.stepQuoted byte
  else if isFold byte then { scanner.skip byte with atStart := true }
  else if byte = ascii '\r' then scanner.skip byte
  else if byte = ascii '\n' then { scanner.endItem with place := .name }
  else if scanner.place = .value then scanner.stepValue byte
  else scanner.stepWord byte

/-- Whether an encoded word may begin here. -/
def takesWord (scanner : Scanner) : Bool :=
  scanner.depth == 0 && scanner.atStart &&
    (scanner.place == .value || scanner.place == .quoted)

/-- Read a text through its end. -/
def run (scanner : Scanner) (text : List UInt8) : Scanner :=
  match text with
  | [] => if scanner.depth = 0 then scanner.endItem else scanner
  | byte :: rest =>
      match _word : if scanner.takesWord then EncodedWord.readAt? (byte :: rest)
        else none with
      | some (word, after) =>
          let before := scanner.endPart
          run { before with begun := word :: before.begun } after
      | none => run (scanner.step byte) rest
termination_by text.length
decreasing_by
  · split at _word
    · exact EncodedWord.length_readAt_lt _word
    · simp at _word
  · simp

end Scanner

/-! ## Numbered pieces -/

/-- The order of pieces: by name, then by number, then by text. -/
def Piece.atMost (left right : Piece) : Bool :=
  left.name < right.name ||
    (left.name == right.name &&
      (left.number < right.number ||
        (left.number == right.number && !decide (right.text < left.text))))

/-- Append a piece to the first parameter with its name, or to the list. -/
def append (piece : Piece) :
    List (List Char × List Char) -> List (List Char × List Char)
  | [] => [(piece.name, piece.text)]
  | (name, text) :: rest =>
      if name = piece.name then (name, text ++ piece.text) :: rest
      else (name, text) :: append piece rest

/-- Read a content field; `none` if it has no type. -/
def ofBytes? (text : List UInt8) : Option ContentField :=
  let scanned := Scanner.initial.run text
  scanned.mainType.map fun mainType =>
    ⟨mainType, scanned.subType,
      (scanned.pieces.reverse.mergeSort Piece.atMost).foldl
        (fun parameters piece => append piece parameters)
        scanned.parameters.reverse⟩

end ContentField
end Mime
end MailSearch
