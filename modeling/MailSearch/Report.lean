import MailSearch.Decimal.Rounding
import MailSearch.Query.Rule
import MailSearch.Store.Account

/-!
# Reports

Answers as they are shown to a person: a table of messages with columns of fixed
width, and a list of the mailboxes that rules send messages to.
-/

namespace MailSearch
namespace Report

/-- Fill a text up with blanks behind it. -/
def padEnd (width : Nat) (text : List Char) : List Char :=
  text ++ List.replicate (width - text.length) ' '

/-- Fill a text up with blanks in front of it. -/
def padStart (width : Nat) (text : List Char) : List Char :=
  List.replicate (width - text.length) ' ' ++ text

/-! ## Sizes -/

/-- The units of sizes, each 1024 of the one before. -/
def units : List String :=
  ["B", "KiB", "MiB", "GiB", "TiB", "PiB", "EiB"]

/--
A number of bytes in the greatest unit that does not exceed it, with two decimal
places unless it is a whole number of units.
-/
def sizeText (size : Nat) : List Char :=
  let value := Decimal.toSignificand size
  let scale := Nat.log2 value / 10
  let unit := Nat.pow 1024 scale
  let name := ((units[scale]?).getD "").toList
  if value % unit * 0x10000000000000 ≤ unit then
    (toString (value / unit)).toList ++ ' ' :: name
  else
    let hundredths := Decimal.roundDiv (value * 100) unit
    (toString (hundredths / 100)).toList ++ '.' ::
        Calendar.padded 2 (hundredths % 100) ++
      ' ' :: name

/-! ## Tables -/

/-- One line of a table. -/
structure Row where
  number : List Char
  id : List Char
  date : List Char
  sender : List Char
  subject : List Char
  size : List Char

namespace Row

/-- The headings of the columns. -/
def headings : Row where
  number := "#".toList
  id := "Id".toList
  date := "Date".toList
  sender := "From".toList
  subject := "Subject".toList
  size := "Size".toList

/-- The row of a message with a number; long texts are cut off. -/
def ofMessage (number : Nat) (message : Message) : Row :=
  let sentAt := message.sentAt
  let sender :=
    match (message.addresses "from").head? with
    | none => ""
    | some address => if address.name = "" then address.email else address.name
  { number := (toString number).toList
    id := message.id.toList.take 11
    date := sentAt.dateText ++ ' ' :: sentAt.clockText
    sender := sender.toList.take 24
    subject := message.subject.toList.take 39
    size := sizeText message.size }

/-- The line of a row. -/
def line (row : Row) : List Char :=
  [' ', ' '] ++ padEnd 4 row.number ++ ' ' :: padEnd 12 row.id ++ ' ' ::
      padEnd 17 row.date ++
    ' ' :: padEnd 25 row.sender ++ ' ' :: padEnd 40 row.subject ++ ' ' ::
      padStart 8 row.size ++
    ['\n']

end Row

/-- The rows of the messages on a page that an account still has, numbered from
the position on. -/
def rows (account : Store.Account) (number : Nat) : List String -> List Row
  | [] => []
  | id :: rest =>
      match account.message? id with
      | some message =>
          Row.ofMessage number message :: rows account (number + 1) rest
      | none => rows account (number + 1) rest

/-- How many messages an answer lists, of how many, in which order. -/
def summary (answer : Query.Answer) : List Char :=
  ("  " ++ toString answer.messageIds.length ++ " of " ++
    toString answer.total ++
    " result(s), sorted by " ++ String.intercalate ", " answer.sort.toTexts ++
      "\n").toList

/-- An answer as a table. -/
def table (account : Store.Account) (answer : Query.Answer) : List Char :=
  let head := '\n' :: summary answer ++ ['\n']
  if answer.messageIds.isEmpty then head
  else
    head ++ Row.headings.line ++ ' ' :: ' ' :: List.replicate 111 '-' ++ '\n' ::
      (rows account (answer.position + 1) answer.messageIds).flatMap
        Row.line ++ ['\n']

/-! ## Rules -/

/-- The mailboxes that rules send each message of an account to. -/
def routes (account : Store.Account) (rules : List Query.Rule) :
    List (String × List String) :=
  account.messages.entries.map fun entry =>
    (entry.1, Query.Rule.targets rules entry.2)

/-- The line of a message that is sent to some mailboxes. -/
def routeLine (route : String × List String) : List Char :=
  [' ', ' '] ++ padEnd 24 route.1.toList ++
    (" -> " ++ String.intercalate ", " route.2).toList ++
    ['\n']

/-- The messages that some rule sends somewhere, with the mailboxes. -/
def routing (rules : Nat) (routes : List (String × List String)) : List Char :=
  let counts := "  " ++ toString rules ++ " rule(s), " ++
    toString routes.length ++ " message(s)\n"
  '\n' :: counts.toList ++ '\n' ::
    (routes.filter fun route => !route.2.isEmpty).flatMap routeLine ++ ['\n']

/-- The mailboxes of every message as a value. -/
def routesJson (routes : List (String × List String)) : Json :=
  .obj (routes.map fun route => (route.1, Json.strings route.2))

end Report
end MailSearch
