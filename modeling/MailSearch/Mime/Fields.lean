import MailSearch.Mime.EncodedWord
import MailSearch.Text.Blank
import MailSearch.Text.LetterCase
import MailSearch.Text.Occurrence

/-!
# Fields of a part

The fields in front of a body, read from bytes: a name, a colon and a value that
goes on in every following line that starts with a blank.  A blank line ends the
fields, and a line without a colon is passed over.
-/

namespace MailSearch
namespace Mime

/-- A field with its name in lower case. -/
structure Field where
  /-- The name in lower case. -/
  name : String
  /-- The bytes of the value, with the line ends inside it. -/
  value : List UInt8

namespace Field

/-- What stands where a field may begin. -/
inductive Start where
  /-- Nothing but blanks. -/
  | nothing
  /-- A name at the very end, without colon. -/
  | lastName (name : List UInt8)
  /-- A blank line, and what follows it. -/
  | blankLine (rest : List UInt8)
  /-- A name, and what follows its colon. -/
  | name (name rest : List UInt8)

/-- Look for a name; `reversed` is what was read of one, with blanks behind
it. -/
def readStart (reversed : List UInt8) : List UInt8 -> Start
  | [] =>
      let name := reversed.dropWhile isSpace
      if name.isEmpty then .nothing else .lastName name.reverse
  | byte :: rest =>
      if byte = ascii ':' && !reversed.isEmpty then
        .name (reversed.dropWhile isSpace).reverse rest
      else if byte = ascii '\n' then
        if reversed.isEmpty then .blankLine rest else readStart [] rest
      else if isSpace byte && reversed.isEmpty then readStart [] rest
      else readStart (byte :: reversed) rest

/-- Read a value through its last line; there is no rest when the last line has
no end. -/
def readValue : List UInt8 -> List UInt8 × Option (List UInt8)
  | [] => ([], none)
  | byte :: rest =>
      if byte = ascii '\n' then
        match rest with
        | [] => ([], some [])
        | next :: tail =>
            if isFold next then
              let (value, after) := readValue (next :: tail)
              (byte :: value, after)
            else ([], some (next :: tail))
      else
        let (value, after) := readValue rest
        (byte :: value, after)

theorem length_readStart {reversed text : List UInt8} :
    (∀ rest, readStart reversed text = .blankLine rest -> rest.length <
        text.length) ∧
      ∀ name rest, readStart reversed text = .name name rest -> rest.length <
        text.length := by
  induction text generalizing reversed with
  | nil =>
      simp only [readStart]
      split <;> simp
  | cons byte tail ih =>
      have step (inner : List UInt8) := @ih inner
      simp only [readStart]
      split
      · refine ⟨by simp, ?_⟩
        intro name rest equal
        injection equal with _ equal
        simp [equal]
      · split
        · split
          · refine ⟨?_, by simp⟩
            intro rest equal
            injection equal with equal
            simp [equal]
          · exact ⟨fun rest equal =>
                by have := (step []).1 rest equal; simp; omega,
              fun name rest equal =>
                by have := (step []).2 name rest equal; simp; omega⟩
        · split
          · exact ⟨fun rest equal =>
                by have := (step []).1 rest equal; simp; omega,
              fun name rest equal =>
                by have := (step []).2 name rest equal; simp; omega⟩
          · exact ⟨fun rest equal =>
                by have := (step _).1 rest equal; simp; omega,
              fun name rest equal =>
                by have := (step _).2 name rest equal; simp; omega⟩

theorem length_readValue_le (text : List UInt8) :
    ∀ rest, (readValue text).2 = some rest -> rest.length ≤ text.length := by
  induction text with
  | nil => simp [readValue]
  | cons byte tail ih =>
      intro rest
      unfold readValue
      split
      · split
        · intro equal
          injection equal with equal
          simp [← equal]
        · rename_i next others
          split
          · intro equal
            have := ih rest equal
            simp only [List.length_cons] at *
            omega
          · intro equal
            injection equal with equal
            simp [← equal]
      · intro equal
        have := ih rest equal
        simp only [List.length_cons]
        omega

/-- A field of bytes. -/
def ofBytes (name value : List UInt8) : Field :=
  ⟨Text.asciiLowercase (String.ofList (Text.Utf8.decodeLossy name)), value⟩

/-- Read the fields, and what follows the blank line behind them, if there is
one. -/
def readAll (text : List UInt8) : List Field × Option (List UInt8) :=
  match _start : readStart [] text with
  | .nothing => ([], none)
  | .lastName name => ([ofBytes name []], none)
  | .blankLine rest => ([], some rest)
  | .name name rest =>
      match _value : readValue rest with
      | (value, none) => ([ofBytes name value], none)
      | (value, some rest) =>
          let (fields, body) := readAll rest
          (ofBytes name value :: fields, body)
termination_by text.length
decreasing_by
  have := length_readStart.2 _ _ _start
  have := length_readValue_le _ _ (congrArg Prod.snd _value)
  omega

theorem length_readAll {text body : List UInt8} {fields : List Field}
    (read : readAll text = (fields, some body)) :
      body.length < text.length := by
  fun_induction readAll text generalizing fields with
  | case1 => simp at read
  | case2 => simp at read
  | case3 text rest start =>
      simp only [Prod.mk.injEq, Option.some.injEq] at read
      have := length_readStart.1 _ start
      rw [← read.2]
      exact this
  | case4 => simp at read
  | case5 text name rest start value rest' valueRead fields' body' inner ih =>
      simp only [Prod.mk.injEq] at read
      have := ih (by rw [inner, read.2])
      have := length_readStart.2 _ _ start
      have := length_readValue_le _ _ (congrArg Prod.snd valueRead)
      omega

/-- The value of the last field with a name in lower case. -/
def last? (name : String) (fields : List Field) : Option (List UInt8) :=
  (fields.reverse.find? fun field => field.name == name).map Field.value

end Field
end Mime
end MailSearch
