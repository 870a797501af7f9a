import MailSearch.Decimal.Shortest
import MailSearch.Json.Value
import MailSearch.Text.Hex

/-!
# Printing JSON

Two layouts of a value: compact on one line, and indented by two blanks a level
with every item and member on a line of its own.  Members stand in the order in
which the value holds them.
-/

namespace MailSearch
namespace Json

/-- How one character is written between quotes. -/
def escapeChar (c : Char) : List Char :=
  match c with
  | '"' => ['\\', '"']
  | '\\' => ['\\', '\\']
  | '\x08' => ['\\', 'b']
  | '\x0c' => ['\\', 'f']
  | '\n' => ['\\', 'n']
  | '\r' => ['\\', 'r']
  | '\t' => ['\\', 't']
  | c =>
      if c.toNat < 0x20 then
        ['\\', 'u', '0', '0', Text.hexChar (c.toNat / 16),
          Text.hexChar (c.toNat % 16)]
      else [c]

/-- A text between quotes. -/
def quote (text : String) : List Char :=
  '"' :: text.toList.flatMap escapeChar ++ ['"']

/-- How a number is written. -/
def printReal (value : Float) : List Char :=
  (Decimal.text value).toList

mutual

/-- The value on one line without blanks. -/
def compact : Json -> List Char
  | .null => ['n', 'u', 'l', 'l']
  | .bool true => ['t', 'r', 'u', 'e']
  | .bool false => ['f', 'a', 'l', 's', 'e']
  | .int value => (toString value).toList
  | .real value => printReal value
  | .str value => quote value
  | .arr items => '[' :: compactItems true items ++ [']']
  | .obj members => '{' :: compactMembers true members ++ ['}']

/-- Items with a comma in front of all but the first. -/
def compactItems (first : Bool) : List Json -> List Char
  | [] => []
  | item :: rest =>
      (if first then [] else [',']) ++ compact item ++ compactItems false rest

/-- Members with a comma in front of all but the first. -/
def compactMembers (first : Bool) : List (String × Json) -> List Char
  | [] => []
  | (key, value) :: rest =>
      (if first then [] else [',']) ++ quote key ++ ':' :: compact value ++
        compactMembers false rest

end

/-- A line break and the indentation of a level. -/
def newLine (level : Nat) : List Char :=
  '\n' :: List.replicate (2 * level) ' '

mutual

/-- The value in the indented layout, inside `level` brackets. -/
def indented (level : Nat) : Json -> List Char
  | .arr [] => ['[', ']']
  | .obj [] => ['{', '}']
  | .arr items =>
      '[' :: indentedItems level true items ++ newLine level ++ [']']
  | .obj members =>
      '{' :: indentedMembers level true members ++ newLine level ++ ['}']
  | .null => compact .null
  | .bool value => compact (.bool value)
  | .int value => compact (.int value)
  | .real value => compact (.real value)
  | .str value => compact (.str value)

/-- Items on lines of their own, with a comma behind all but the last. -/
def indentedItems (level : Nat) (first : Bool) : List Json -> List Char
  | [] => []
  | item :: rest =>
      (if first then [] else [',']) ++ newLine (level + 1) ++
        indented (level + 1) item ++
        indentedItems level false rest

/-- Members on lines of their own, with a comma behind all but the last. -/
def indentedMembers (level : Nat) (first : Bool) :
    List (String × Json) -> List Char
  | [] => []
  | (key, value) :: rest =>
      (if first then [] else [',']) ++ newLine (level + 1) ++ quote key ++
        [':', ' '] ++
        indented (level + 1) value ++ indentedMembers level false rest

end

/-- The compact text of a value. -/
def toText (value : Json) : String :=
  String.ofList (compact value)

end Json
end MailSearch
