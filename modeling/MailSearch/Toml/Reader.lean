import MailSearch.Toml.Nesting
import MailSearch.Toml.Quoted
import MailSearch.Toml.Scalar

/-!
# Reading TOML

A text is read line by line into pairs of a key and a value and into the headers
of tables; the pairs between two headers make up a section.  Then the sections
are put together to one table.
-/

namespace MailSearch
namespace Toml

/-! ## Blanks and comments -/

/-- Drop the blanks at the front. -/
def skipBlanks (text : List Char) : List Char :=
  text.dropWhile fun c => c = ' ' || c = '\t'

/-- Drop a comment at the front, up to the end of its line. -/
def skipComment : List Char -> List Char
  | '#' :: rest => rest.dropWhile isPlain
  | text => text

/-- What follows a line break at the front. -/
def afterLineBreak? : List Char -> Option (List Char)
  | '\n' :: rest => some rest
  | '\r' :: '\n' :: rest => some rest
  | _ => none

/-- What follows the end of a line, where only blanks and a comment may
stand. -/
def afterLine? (text : List Char) : Option (List Char) :=
  match skipComment (skipBlanks text) with
  | [] => some []
  | rest => afterLineBreak? rest

/-- Drop blanks, line breaks and comments that end with a line break, in some
steps. -/
def skipGap : Nat -> List Char -> List Char
  | 0, text => text
  | steps + 1, text =>
      let text := skipBlanks text
      match afterLineBreak? (skipComment text) with
      | some rest => skipGap steps rest
      | none => text

/-- Drop all blanks, line breaks and comments at the front. -/
def skipLines (text : List Char) : List Char :=
  skipGap (text.length + 1) text

/-! ## Keys -/

/-- Whether a character may stand in a name without quotes. -/
def isBare (c : Char) : Bool :=
  c.isAlphanum || c = '_' || c = '-'

/-- Read one name. -/
def readName (text : List Char) : Option (String × List Char) :=
  match text with
  | '"' :: rest =>
      (readBasic rest).map fun (name, rest) => (String.ofList name, rest)
  | '\'' :: rest =>
      (readLiteral rest).map fun (name, rest) => (String.ofList name, rest)
  | _ =>
      match text.takeWhile isBare with
      | [] => none
      | name => some (String.ofList name, text.dropWhile isBare)

/-- A key: the names that lead to a table, and a name in it. -/
structure Key where
  /-- The names that lead to the table. -/
  path : List String
  /-- The name. -/
  name : String

/-- The greatest number of names in a key, and of arrays and tables in braces
inside each other. -/
def bound : Nat := 79

/-- Read a key of at most a number of names between points; blanks do not
count. -/
def readKey : Nat -> List Char -> Option (Key × List Char)
  | 0, _ => none
  | names + 1, text => do
      let (name, rest) ← readName (skipBlanks text)
      match skipBlanks rest with
      | '.' :: rest => do
          let (key, rest) ← readKey names rest
          return (⟨name :: key.path, key.name⟩, rest)
      | rest => return (⟨[], name⟩, rest)

/-! ## Values -/

/-- Read the items of an array up to its closing bracket, at most a number of
them. -/
def readItems (read : List Char -> Option (Toml × List Char)) :
    Nat -> List Char -> Option (List Toml × List Char)
  | 0, _ => none
  | items + 1, text =>
      match skipLines text with
      | ']' :: rest => some ([], rest)
      | text => do
          let (item, rest) ← read text
          match skipLines rest with
          | ',' :: rest => do
              let (others, rest) ← readItems read items rest
              return (item :: others, rest)
          | ']' :: rest => return ([item], rest)
          | _ => none

/-- Read a key, an equals sign and a value. -/
def readPair (read : List Char -> Option (Toml × List Char))
    (text : List Char) :
    Option ((Key × Toml) × List Char) := do
  let (key, rest) ← readKey bound text
  match rest with
  | '=' :: rest => do
      let (value, rest) ← read (skipBlanks rest)
      return ((key, value), rest)
  | _ => none

/-- Read the pairs of a table in braces up to its closing brace, at most a
number of them. -/
def readPairs (read : List Char -> Option (Toml × List Char)) :
    Nat -> List Char -> Option (List (Key × Toml) × List Char)
  | 0, _ => none
  | pairs + 1, text => do
      let (pair, rest) ← readPair read text
      match skipBlanks rest with
      | ',' :: rest => do
          let (others, rest) ← readPairs read pairs rest
          return (pair :: others, rest)
      | '}' :: rest => return ([pair], rest)
      | _ => none

/-- Put pairs into a table. -/
def putAll (pairs : List (Key × Toml)) (entries : Entries) : Option Entries :=
  pairs.foldlM
    (fun entries pair => entries.put pair.1.path pair.1.name pair.2) entries

/-- Read a value in which arrays and tables may nest to a number of levels. -/
def readValue : Nat -> List Char -> Option (Toml × List Char)
  | levels, text =>
      match text with
      | [] => none
      | '[' :: rest =>
          match levels with
          | 0 => none
          | levels + 1 =>
              (readItems (readValue levels) (rest.length + 1) rest).map
                  fun (items, rest) =>
                (.array items, rest)
      | '{' :: rest =>
          match levels with
          | 0 => none
          | levels + 1 =>
              match skipBlanks rest with
              | '}' :: rest => some (.table [], rest)
              | _ => do
                  let (pairs, rest) ← readPairs (readValue levels)
                      (rest.length + 1) rest
                  let entries ← putAll pairs []
                  return (.table (entriesToToml entries), rest)
      | c :: _ =>
          if c = '"' ∨ c = '\'' then
            (readQuoted text).map fun (value, rest) =>
              (.string (String.ofList value), rest)
          else readScalar text

/-! ## Lines -/

/-- A line that is not empty. -/
inductive Line where
  /-- A key and its value. -/
  | pair (key : Key) (value : Toml)
  /-- The header of a table. -/
  | table (key : Key)
  /-- The header of one of several tables. -/
  | tables (key : Key)

/-- Read the header of a table behind its opening bracket. -/
def readHeader (text : List Char) : Option (Line × List Char) :=
  match text with
  | '[' :: rest => do
      match ← readKey bound rest with
      | (key, ']' :: ']' :: rest) => return (.tables key, rest)
      | _ => none
  | _ => do
      match ← readKey bound text with
      | (key, ']' :: rest) => return (.table key, rest)
      | _ => none

/-- Read a line without blanks in front of it. -/
def readLine (text : List Char) : Option (Line × List Char) :=
  match text with
  | '[' :: rest => readHeader rest
  | _ =>
      (readPair (readValue bound) text).map fun ((key, value), rest) =>
        (.pair key value, rest)

/-- Read the lines of a text, at most a number of them. -/
def readLines : Nat -> List Char -> Option (List Line)
  | 0, _ => none
  | lines + 1, text =>
      let text := skipBlanks text
      match text with
      | [] => some []
      | _ =>
          match afterLine? text with
          | some rest => readLines lines rest
          | none => do
              let (line, rest) ← readLine text
              let others ← readLines lines (← afterLine? rest)
              return line :: others

/-! ## Sections -/

/-- The pairs up to the first header, and the lines from there on. -/
def firstPairs : List Line -> List (Key × Toml) × List Line
  | .pair key value :: rest =>
      ((key, value) :: (firstPairs rest).1, (firstPairs rest).2)
  | lines => ([], lines)

/-- Put a section with the header of a table into the table of all. -/
def putTable (root : Entries) (key : Key) (pairs : List (Key × Toml)) :
    Option Entries :=
  Entries.change false (fun _ entries => do
    let start ←
      match entries.lookup key.name with
      | none => some []
      | some (.table .implied inner) => some inner
      | some _ => none
    return entries.set key.name (.table .header (← putAll pairs start)))
      key.path .header root

/-- Put a section with the header of one of several tables into the table of
all. -/
def putTables (root : Entries) (key : Key) (pairs : List (Key × Toml)) :
    Option Entries :=
  Entries.change false (fun _ entries => do
    let earlier ←
      match entries.lookup key.name with
      | none => some []
      | some (.tables earlier) => some earlier
      | some _ => none
    return entries.set key.name
      (.tables (.table .header (← putAll pairs []) :: earlier)))
    key.path .header root

/-- Put the section that each header opens into the table of all. -/
def putSections (root : Entries) : List Line -> Option Entries
  | [] => some root
  | .pair _ _ :: rest => putSections root rest
  | .table key :: rest =>
      do putSections (← putTable root key (firstPairs rest).1) rest
  | .tables key :: rest =>
      do putSections (← putTables root key (firstPairs rest).1) rest

/-- Drop a byte order mark at the front. -/
def dropMark : List Char -> List Char
  | '\uFEFF' :: rest => rest
  | text => text

/-- Read a text; `none` if it is no valid one. -/
def read? (text : List Char) : Option Toml := do
  let lines ← readLines (text.length + 1) (dropMark text)
  let root ← putAll (firstPairs lines).1 []
  return .table (entriesToToml (← putSections root lines))

end Toml
end MailSearch
