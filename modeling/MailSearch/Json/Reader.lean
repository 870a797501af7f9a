import MailSearch.Json.Token

/-!
# Reading JSON

A text is one value between blanks.  The reader walks once over the tokens and
keeps the values that are still open, innermost first.  What is well formed and
cannot be represented is unreadable; a text that must be read as a whole may
hold no such value, while a loose reading keeps it in its place, where it does
no harm as long as nobody asks for it.
-/

namespace MailSearch
namespace Json

/-- A value whose closing bracket has not been read yet. -/
inductive Unclosed where
  /-- An array with the items so far, last first. -/
  | array (items : List Json)
  /--
  An object with the members so far, last first, and the key whose value is due;
  there are no members once a key is unreadable.
  -/
  | object (members : Option (List (String × Json))) (key : Option String)

/-- What may come next. -/
inductive Expect where
  /-- A value. -/
  | value
  /-- A value, or the end of the array that was just opened. -/
  | valueOrClose
  /-- A key, or the end of the object that was just opened. -/
  | keyOrClose
  /-- A key. -/
  | key
  /-- The colon behind a key. -/
  | colon (key : Option String)
  /-- A comma or a closing bracket behind a finished value. -/
  | next (value : Json)

/-- The state of the reader between two tokens. -/
structure Reading where
  /-- The open values, innermost first. -/
  stack : List Unclosed
  /-- What may come next. -/
  expect : Expect

/-- The greatest number of arrays and objects inside each other. -/
def maxNesting : Nat := 127

/-- The members with one more, unless they or its key are unreadable. -/
def addMember (members : Option (List (String × Json))) (key : Option String)
    (value : Json) :
    Option (List (String × Json)) := do
  return (← key, value) :: (← members)

/-- The object with some members, last first. -/
def ofMembers : Option (List (String × Json)) -> Json
  | some members => .obj members.reverse
  | none => unreadable

/-- Finish the innermost open value; one that nests too deep is unreadable. -/
def Reading.close (outer : List Unclosed) (value : Json) : Reading :=
  ⟨outer, .next (if maxNesting ≤ outer.length then unreadable else value)⟩

/-- The start of a value. -/
def Reading.start (state : Reading) : Token -> Option Reading
  | .scalar value => some ⟨state.stack, .next value⟩
  | .text value => some ⟨state.stack, .next ((value.map .str).getD unreadable)⟩
  | .openArray => some ⟨.array [] :: state.stack, .valueOrClose⟩
  | .openObject => some ⟨.object (some []) none :: state.stack, .keyOrClose⟩
  | _ => none

/-- One token. -/
def Reading.step (state : Reading) (token : Token) : Option Reading :=
  match state.expect, token with
  | .value, token => state.start token
  | .valueOrClose, .closeArray =>
      match state.stack with
      | .array [] :: stack => some (.close stack (.arr []))
      | _ => none
  | .valueOrClose, token => state.start token
  | .keyOrClose, .closeObject =>
      match state.stack with
      | .object (some []) _ :: stack => some (.close stack (.obj []))
      | _ => none
  | .keyOrClose, .text key => some { state with expect := .colon key }
  | .key, .text key => some { state with expect := .colon key }
  | .colon key, .colon =>
      match state.stack with
      | .object members _ :: stack =>
          some ⟨.object members key :: stack, .value⟩
      | _ => none
  | .next value, .comma =>
      match state.stack with
      | .array items :: stack => some ⟨.array (value :: items) :: stack, .value⟩
      | .object members key :: stack =>
          some ⟨.object (addMember members key value) none :: stack, .key⟩
      | [] => none
  | .next value, .closeArray =>
      match state.stack with
      | .array items :: stack =>
          some (.close stack (.arr (value :: items).reverse))
      | _ => none
  | .next value, .closeObject =>
      match state.stack with
      | .object members key :: stack =>
          some (.close stack (ofMembers (addMember members key value)))
      | _ => none
  | _, _ => none

/-- Read a text that may hold unreadable values; `none` if it is not well
formed. -/
def readLoosely? (text : List Char) : Option Json := do
  let found ← tokens text
  let last ← found.foldlM Reading.step ⟨[], .value⟩
  match last.stack, last.expect with
  | [], .next value => some value
  | _, _ => none

/-- Read a text; `none` if it is not well formed or holds an unreadable
value. -/
def read? (text : List Char) : Option Json :=
  (readLoosely? text).filter isReadable

/-- Read a text into a value in document order. -/
def ofText? (text : String) : Option Json :=
  read? text.toList

end Json
end MailSearch
