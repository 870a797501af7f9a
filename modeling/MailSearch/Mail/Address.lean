import MailSearch.Text.Blank
import MailSearch.Text.Occurrence

/-!
# Addresses

A mailbox address with its display name, and lists of them.  A list is cut at
the commas that stand outside quotes and angle brackets; each piece is read by
its last pair of angle brackets, and kept as it is when it has none.
-/

namespace MailSearch

/-- An address with a display name. -/
structure Address where
  /-- The display name, empty when there is none. -/
  name : String
  /-- The bare address, or the whole text when no address is marked in it. -/
  email : String
  deriving DecidableEq, Repr

namespace Address

/-- Drop the blanks around a text and one pair of double quotes around the
rest. -/
def unquote (text : List Char) : List Char :=
  match Text.trim text with
  | '"' :: rest =>
      if rest.getLast? = some '"' then Text.trim rest.dropLast else '"' :: rest
  | other => other

/-- The text between the last `<` and the last `>` behind it, with what precedes
it. -/
def bracketed? (text : List Char) : Option (List Char × List Char) :=
  match Text.cutLast '<' text with
  | none => none
  | some (before, after) =>
      (Text.cutLast '>' after).map fun (inside, _) => (before, inside)

/-- Read one address. -/
def ofChars (raw : List Char) : Address :=
  let text := Text.trim raw
  match bracketed? text with
  | some (before, inside) =>
      ⟨String.ofList (unquote before), String.ofList (Text.trim inside)⟩
  | none => ⟨"", String.ofList text⟩

/-- Read one address from a text. -/
def parse (raw : String) : Address :=
  ofChars raw.toList

/-- Put a character in front of the first segment. -/
def pushFront (c : Char) : List (List Char) -> List (List Char)
  | [] => [[c]]
  | first :: rest => (c :: first) :: rest

/--
Cut a list at its commas, apart from those inside quotes or angle brackets.
Brackets do not count inside quotes.
-/
def segments (quoted angled : Bool) : List Char -> List (List Char)
  | [] => [[]]
  | c :: rest =>
      if c = ',' ∧ !quoted ∧ !angled then [] :: segments quoted angled rest
      else if c = '"' then pushFront c (segments (!quoted) angled rest)
      else if c = '<' ∧ !quoted then pushFront c (segments quoted true rest)
      else if c = '>' ∧ !quoted then pushFront c (segments quoted false rest)
      else pushFront c (segments quoted angled rest)

/-- The addresses of a list; a segment without an address counts for nothing. -/
def listOfChars (raw : List Char) : List Address :=
  ((segments false false raw).map ofChars).filter fun address =>
    address.email ≠ ""

/-- The addresses of a list in a text. -/
def parseList (raw : String) : List Address :=
  listOfChars raw.toList

/-- The address in one line, with its display name if it has one. -/
def display (address : Address) : String :=
  if address.name = "" then address.email
  else address.name ++ " <" ++ address.email ++ ">"

/-- The texts by which an address may be called: in full, the bare address, the
name. -/
def forms (address : Address) : List String :=
  [address.display, address.email] ++ (if address.name = "" then
    [] else [address.name])

end Address
end MailSearch
