import MailSearch.Toml.Quoted
import MailSearch.Toml.Value

/-!
# Writing TOML

A section is a header and a line for each of its entries.  Lists of two or more
items are written with every item on a line of its own.
-/

namespace MailSearch
namespace Toml

/-- Put a comma and a blank between texts. -/
def commas : List (List Char) -> List Char
  | [] => []
  | [text] => text
  | text :: rest => text ++ ',' :: ' ' :: commas rest

/-- A list of written items. -/
def printItems : List (List Char) -> List Char
  | [] => ['[', ']']
  | [item] => '[' :: item ++ [']']
  | items =>
      '[' :: items.flatMap
        (fun item => '\n' :: ' ' :: ' ' :: ' ' :: ' ' :: item ++ [',']) ++
      ['\n', ']']

mutual

/-- A value as it is written behind an equals sign. -/
def print : Toml -> List Char
  | .string value => quote value.toList
  | .integer value => (toString value).toList
  | .boolean true => ['t', 'r', 'u', 'e']
  | .boolean false => ['f', 'a', 'l', 's', 'e']
  | .real text => text
  | .date text => text
  | .array items => printItems (printEach items)
  | .table [] => ['{', '}']
  | .table entries => '{' :: ' ' :: commas (printEntries entries) ++ [' ', '}']

/-- Values as they are written. -/
def printEach : List Toml -> List (List Char)
  | [] => []
  | item :: rest => print item :: printEach rest

/-- Entries as they are written in braces. -/
def printEntries : List (String × Toml) -> List (List Char)
  | [] => []
  | (name, value) :: rest =>
      (name.toList ++ ' ' :: '=' :: ' ' :: print value) :: printEntries rest

end

/-- The line of an entry whose name needs no quotes. -/
def printEntry (entry : String × Toml) : List Char :=
  entry.1.toList ++ ' ' :: '=' :: ' ' :: print entry.2 ++ ['\n']

/-- A section with a name that needs no quotes. -/
def printSection (name : String) (entries : List (String × Toml)) : List Char :=
  '[' :: name.toList ++ ']' :: '\n' :: entries.flatMap printEntry

end Toml
end MailSearch
