import MailSearch.Json.Decode
import MailSearch.Mail.Message

/-!
# Rules

A rule looks at one header field of a message and names the mailboxes that the
message belongs into.  A list of rules sends a message to the mailboxes of all
the rules that match, in the order of the rules and each mailbox once.
-/

namespace MailSearch
namespace Query

/-- What a rule looks at. -/
inductive RuleField where
  | sender
  | recipient
  | copy
  | subject
  /-- The recipients of both kinds. -/
  | anyRecipient
  deriving DecidableEq, Repr

namespace RuleField

/-- The name of a field in rules. -/
def name : RuleField -> String
  | .sender => "from"
  | .recipient => "to"
  | .copy => "cc"
  | .subject => "subject"
  | .anyRecipient => "recipient"

/-- The fields by their names. -/
def words : List (String × RuleField) :=
  [RuleField.sender, .recipient, .copy, .subject, .anyRecipient].map
      fun field =>
    (field.name, field)

/-- The header fields that are looked at. -/
def headerNames : RuleField -> List String
  | .sender => ["from"]
  | .recipient => ["to"]
  | .copy => ["cc"]
  | .subject => ["subject"]
  | .anyRecipient => ["to", "cc"]

/-- Whether the header fields hold addresses. -/
def hasAddresses : RuleField -> Bool
  | .subject => false
  | _ => true

end RuleField

/-- How a rule compares. -/
inductive Comparator where
  | contains
  | notContains
  | equals
  | notEquals
  deriving DecidableEq, Repr

namespace Comparator

/-- The name of a comparator in rules. -/
def name : Comparator -> String
  | .contains => "contains"
  | .notContains => "not-contains"
  | .equals => "exactly-equals"
  | .notEquals => "not-exactly-equals"

/-- The comparators by their names. -/
def words : List (String × Comparator) :=
  [Comparator.contains, .notContains, .equals, .notEquals].map fun comparator =>
    (comparator.name, comparator)

/-- Whether a comparator accepts some values in lower case; the negated ones ask
for no match. -/
def accepts (comparator : Comparator) (wanted : List Char)
    (values : List (List Char)) : Bool :=
  match comparator with
  | .contains => values.any (Text.occursIn wanted)
  | .notContains => !values.any (Text.occursIn wanted)
  | .equals => values.any (· == wanted)
  | .notEquals => !values.any (· == wanted)

end Comparator

/-- What a message must be like for a rule to match. -/
structure RuleCondition where
  /-- What is looked at. -/
  field : RuleField
  /-- How it is compared. -/
  comparator : Comparator
  /-- What it is compared with. -/
  value : String
  deriving DecidableEq, Repr

namespace RuleCondition

/-- The forms in which one header value is compared: those of its addresses, and
itself. -/
def forms (field : RuleField) (raw : String) : List (List Char) :=
  let addresses := if field.hasAddresses then Address.parseList raw else []
  (addresses.flatMap Address.forms).map (fun form => Text.lower form.toList) ++
    [Text.lower (Text.trim raw.toList)]

/-- The values of a message that are compared, in lower case. -/
def values (field : RuleField) (message : Message) : List (List Char) :=
  (field.headerNames.flatMap message.headerValues).flatMap (forms field)

/-- Whether a message satisfies the condition. -/
def holds (condition : RuleCondition) (message : Message) : Bool :=
  condition.comparator.accepts (Text.lower condition.value.toList)
    (values condition.field message)

end RuleCondition

/-- A rule that sends messages to mailboxes. -/
structure Rule where
  /-- The identifier. -/
  id : String
  /-- The name, empty when there is none. -/
  name : String
  /-- What a message must be like. -/
  condition : RuleCondition
  /-- The mailboxes that it is sent to. -/
  appendIn : List String
  deriving DecidableEq, Repr

namespace Rule

/-- Whether a message satisfies the condition of a rule. -/
def isMatch (rule : Rule) (message : Message) : Bool :=
  rule.condition.holds message

/-- Add a mailbox at the end, unless it is there. -/
def addTarget (targets : List String) (mailbox : String) : List String :=
  if targets.contains mailbox then targets else targets ++ [mailbox]

/-- The mailboxes that some rules send a message to. -/
def targets (rules : List Rule) (message : Message) : List String :=
  ((rules.filter fun rule => rule.isMatch message).flatMap Rule.appendIn).foldl
    addTarget []

/-! ## Decoding -/

namespace Condition

/-- The members of a condition as far as they were read. -/
structure Members where
  field : Option RuleField
  comparator : Option Comparator
  value : Option String

/-- The layout of a condition. -/
def layout : Json.Layout where
  name := "RuleCondition"
  fields := [("field", false), ("comparator", false), ("value", false)]
  counted := true

/-- Read one member; unknown ones do not count. -/
def read (members : Members) (name : String) (value : Json) :
    Json.Decoded Members :=
  match name with
  | "field" =>
      (Json.once name members.field (Json.word RuleField.words) value).map
      fun given => { members with field := given }
  | "comparator" =>
      (Json.once name members.comparator (Json.word Comparator.words) value).map
      fun given => { members with comparator := given }
  | "value" => (Json.once name members.value Json.string value).map
      fun given => { members with value := given }
  | _ => .ok members

/-- Decode a condition. -/
def decode (value : Json) : Json.Decoded RuleCondition := do
  let members ← Json.record layout read ⟨none, none, none⟩ value
  return ⟨← Json.required "field" members.field,
    ← Json.required "comparator" members.comparator,
    ← Json.required "value" members.value⟩

end Condition

namespace Action

/-- The layout of an action. -/
def layout : Json.Layout where
  name := "RuleAction"
  fields := [("appendIn", false)]
  counted := true

/-- Read one member; unknown ones do not count. -/
def read (found : Option (List String)) (name : String) (value : Json) :
    Json.Decoded (Option (List String)) :=
  match name with
  | "appendIn" => Json.once name found (Json.list Json.string) value
  | _ => .ok found

/-- Decode an action. -/
def decode (value : Json) : Json.Decoded (List String) := do
  Json.required "appendIn" (← Json.record layout read none value)

end Action

/-- The members of a rule as far as they were read. -/
structure Members where
  id : Option String
  name : Option String
  condition : Option RuleCondition
  action : Option (List String)

/-- The layout of a rule. -/
def layout : Json.Layout where
  name := "Rule"
  fields :=
    [("id", false), ("name", true), ("condition", false), ("action", false)]
  counted := true

/-- Read one member; unknown ones do not count. -/
def read (members : Members) (name : String) (value : Json) :
    Json.Decoded Members :=
  match name with
  | "id" => (Json.once name members.id Json.string value).map
      fun given => { members with id := given }
  | "name" => (Json.once name members.name Json.string value).map
      fun given => { members with name := given }
  | "condition" => (Json.once name members.condition Condition.decode value).map
      fun given => { members with condition := given }
  | "action" => (Json.once name members.action Action.decode value).map
      fun given => { members with action := given }
  | _ => .ok members

/-- Decode a rule whose keys are ascending. -/
def decode (value : Json) : Json.Decoded Rule := do
  let members ← Json.record layout read ⟨none, none, none, none⟩ value
  let id ← Json.required "id" members.id
  let condition ← Json.required "condition" members.condition
  let action ← Json.required "action" members.action
  return ⟨id, members.name.getD "", condition, action⟩

/-- Decode a list of rules. -/
def listOfJson (value : Json) : Json.Decoded (List Rule) :=
  Json.list decode value.sortKeys

/-- A rule as it is written. -/
def toJson (rule : Rule) : Json :=
  .obj [("id", .str rule.id), ("name", .str rule.name),
    ("condition", .obj [("field", .str rule.condition.field.name),
      ("comparator", .str rule.condition.comparator.name),
        ("value", .str rule.condition.value)]),
    ("action", .obj [("appendIn", Json.strings rule.appendIn)])]

end Rule
end Query
end MailSearch
