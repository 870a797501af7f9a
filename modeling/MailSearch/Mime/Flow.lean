import MailSearch.Mime.Flow.NameWeight
import MailSearch.Text.Hex

/-!
# HTML and running text

A part of a body that exists in one form only is shown in the other one too:
HTML as its words with line breaks behind paragraphs, plain text as HTML with
line breaks.
-/

namespace MailSearch
namespace Mime
namespace Flow

/-! ## From HTML to text -/

/-- The number that digits of a base spell, perhaps behind a plus sign; it has
32 bits at most. -/
def spelled? (base : Nat) (digits : List Char) : Option Nat := do
  let digits := if digits.head? = some '+' then digits.drop 1 else digits
  if digits.isEmpty then none
  let values ← digits.mapM fun c => (Text.hexDigit? c).filter (· < base)
  let number := values.foldl (fun number value => number * base + value) 0
  if number < 0x100000000 then some number else none

/-- The code point that an entity stands for. -/
def codeOf? : List Char -> Option Nat
  | '#' :: 'x' :: digits => spelled? 16 digits
  | '#' :: 'X' :: digits => spelled? 16 digits
  | '#' :: digits => spelled? 10 digits
  | name => namedCode? name

/--
The text of a run of characters without blanks; a whole entity is one character,
and a number that is none of a character stands for the replacement character.
-/
def decodeRun (run : List Char) : List Char :=
  match run, run.getLast? with
  | '&' :: rest, some ';' =>
      match codeOf? rest.dropLast with
      | none => run
      | some 0 => run
      | some code => [if code.isValidChar then Char.ofNat code else '\uFFFD']
  | run, _ => run

/-- A tag read up to some character. -/
structure Tag where
  /-- The number of words; blanks separate them. -/
  words : Nat
  /-- Whether the last word may go on. -/
  inWord : Bool
  /-- The first word in reverse. -/
  name : List Char
  /-- The slashes behind the first word; they belong to it when it goes on. -/
  slashes : List Char
  /-- Whether a slash stood before the first word. -/
  closing : Bool

namespace Tag

/-- A tag before its first character. -/
def empty : Tag :=
  ⟨0, false, [], [], false⟩

/-- Whether a character is a blank of HTML. -/
def isSpace (c : Char) : Bool :=
  c == ' ' || c == '\t' || c == '\n' || c == '\r'

/-- One character inside a tag, apart from its end. -/
def step (tag : Tag) (c : Char) : Tag :=
  if c = '/' then
    if tag.words = 0 then { tag with closing := true }
      else { tag with slashes := c :: tag.slashes }
  else if isSpace c then { tag with inWord := false }
  else if !tag.inWord then
    { tag with
      words := tag.words + 1
      inWord := true
      name := if tag.words = 0 then [c] else tag.name
      slashes := [] }
  else if tag.words = 1 then
    { tag with name := c :: (tag.slashes ++ tag.name), slashes := [] }
  else tag

/-- The name of a tag without attributes, in lower case. -/
def plainName? (tag : Tag) : Option String :=
  if tag.words = 1 then
    some (String.ofList (tag.name.reverse.map Char.toLower)) else none

end Tag

/-- The text in front of some character of HTML. -/
structure Reader where
  /-- The text in reverse. -/
  reversed : List Char
  /-- The run of characters that is being read, in reverse. -/
  run : List Char
  /-- Whether a blank is due. -/
  blank : Bool
  /-- Whether no word was finished since the last line break. -/
  lineStart : Bool
  /-- The tag that is being read. -/
  tag : Option Tag
  /-- Whether this is inside the head of the document. -/
  inHead : Bool

namespace Reader

/-- The reader before the first character. -/
def initial : Reader :=
  ⟨[], [], false, true, none, false⟩

/-- Write the run, perhaps behind a blank. -/
def write (reader : Reader) (separated : Bool) : Reader :=
  let separator := if separated then [' '] else []
  { reader with
    reversed :=
      (decodeRun reader.run.reverse).reverse ++ separator ++ reader.reversed
    run := []
    blank := false }

/-- Whether a run is being read that counts. -/
def hasRun (reader : Reader) : Bool :=
  !reader.inHead && !reader.run.isEmpty

/-- Finish a word; a blank before it counts only behind another word of its
line. -/
def endWord (reader : Reader) : Reader :=
  if reader.hasRun then
    { reader.write (reader.blank && !reader.lineStart) with lineStart := false }
  else { reader with run := [] }

/-- Begin a tag; a word directly before it keeps its blank also at the start of
a line. -/
def beginTag (reader : Reader) : Reader :=
  let written :=
    if reader.tag.isNone && reader.hasRun then reader.write reader.blank
    else { reader with run := [] }
  { written with tag := some .empty }

/-- Break the line. -/
def breakLine (reader : Reader) : Reader :=
  { reader with
    reversed := '\n' :: reader.reversed, blank := false, lineStart := true }

/-- The end of a tag: a line break, a paragraph's end and the head count,
without attributes. -/
def endTag (reader : Reader) (tag : Tag) : Reader :=
  let closed := { reader with tag := none, run := [] }
  match tag.plainName? with
  | none => closed
  | some name =>
      if name = "br" ∨ (name = "p" ∧ tag.closing) then closed.breakLine
      else if name = "head" then { closed with inHead := !tag.closing }
      else closed

/-- One character outside tags, apart from their beginning. -/
def stepText (reader : Reader) (c : Char) : Reader :=
  if Tag.isSpace c then
    { reader.endWord with blank := reader.blank || !reader.inHead }
  else if c = '&' && reader.hasRun then { reader.endWord with run := [c] }
  else if c = ';' && reader.hasRun then
    { reader with run := c :: reader.run }.endWord
  else { reader with run := c :: reader.run }

/-- One character outside comments. -/
def step (reader : Reader) (c : Char) : Reader :=
  if c = '<' then reader.beginTag
  else
    match reader.tag with
    | some tag =>
        if c = '>' then reader.endTag tag
          else { reader with tag := some (tag.step c) }
    | none => reader.stepText c

/-- Whether a comment may begin here: behind the opening of a tag, blanks and
slashes. -/
def takesComment (reader : Reader) : Bool :=
  reader.tag.any fun tag => tag.words == 0

/-- The text, where the HTML ends. -/
def text (reader : Reader) : List Char :=
  if reader.tag.isSome || reader.run.isEmpty then reader.reversed.reverse
  else (reader.write (reader.blank && !reader.lineStart)).reversed.reverse

end Reader

/-- What follows a comment that ends with exactly two dashes; nothing if it has
no end. -/
def afterComment (dashes : Nat) : List Char -> List Char
  | [] => []
  | c :: rest =>
      if c = '-' then afterComment (dashes + 1) rest
      else if c = '>' ∧ dashes = 2 then rest
      else afterComment 0 rest

theorem length_afterComment_le (dashes : Nat) (text : List Char) :
    (afterComment dashes text).length ≤ text.length := by
  induction text generalizing dashes with
  | nil => simp [afterComment]
  | cons c rest ih =>
      simp only [afterComment, List.length_cons]
      split
      · exact Nat.le_succ_of_le (ih _)
      · split
        · omega
        · exact Nat.le_succ_of_le (ih _)

/-- Whether a comment begins here. -/
def beginsComment (reader : Reader) (html : List Char) : Bool :=
  reader.takesComment && ['!', '-', '-'].isPrefixOf html

/-- Read HTML through its end. -/
def read (reader : Reader) (html : List Char) : Reader :=
  match html with
  | [] => reader
  | c :: rest =>
      if beginsComment reader (c :: rest) then
        match _after : afterComment 0 rest with
        | [] => reader
        | next :: others => read { reader with tag := none } (next :: others)
      else read (reader.step c) rest
termination_by html.length
decreasing_by
  · have := length_afterComment_le 0 rest
    rw [_after] at this
    simp only [List.length_cons] at *
    omega
  · simp

/-- The text of HTML. -/
def ofHtml (html : List Char) : List Char :=
  (read .initial html).text

/-! ## From text to HTML -/

/-- One character of text as HTML. -/
def escape (c : Char) : List Char :=
  if c = '\n' then "<br/>".toList
  else if c = '\r' then []
  else if c = '<' then "&lt;".toList
  else [c]

/-- Text as HTML. -/
def toHtml (text : List Char) : List Char :=
  "<html><body>".toList ++ text.flatMap escape ++ "</body></html>".toList

end Flow
end Mime
end MailSearch
