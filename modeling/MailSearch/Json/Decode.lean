import MailSearch.Decimal.Shortest
import MailSearch.Json.Value
import MailSearch.Text.Quoted

/-!
# Decoding JSON into records

Each decoder takes a value or says what is wrong with it.  A record is decoded
member by member in the order in which the value holds them, so of several
faults the first one is reported; what is missing is noticed at the end.
-/

namespace MailSearch
namespace Json

/-- Why a value does not decode. -/
inductive DecodeError where
  /-- The value has the wrong type. -/
  | invalidType (found : Json) (expected : String)
  /-- The value has the right type and is out of range. -/
  | invalidValue (found : Json) (expected : String)
  /-- A list stands for a record and is too short. -/
  | invalidLength (length : Nat) (expected : String)
  /-- A required member is absent. -/
  | missingField (name : String)
  /-- A member is not known. -/
  | unknownField (name : String) (known : List String)
  /-- A member occurs twice. -/
  | duplicateField (name : String)
  /-- A word is none of the known ones. -/
  | unknownVariant (name : String) (known : List String)
  /-- None of the possible shapes fits. -/
  | noVariant (expected : String)
  /-- Something follows the last item of a list that stands for a record. -/
  | trailingItems
  /-- The value is well shaped and refused for a reason of its own. -/
  | refused (reason : String)

/-- How a message names a value. -/
def describe : Json -> String
  | .null => "null"
  | .bool true => "boolean `true`"
  | .bool false => "boolean `false`"
  | .int value => "integer `" ++ toString value ++ "`"
  | .real value => "floating point `" ++ Decimal.text value ++ "`"
  | .str value => "string " ++ Text.quoted value
  | .arr _ => "sequence"
  | .obj _ => "map"

/-- A name between backticks. -/
def ticked (name : String) : String :=
  "`" ++ name ++ "`"

namespace DecodeError

/-- The wording of an error. -/
def message : DecodeError -> String
  | .invalidType found expected =>
      "invalid type: " ++ found.describe ++ ", expected " ++ expected
  | .invalidValue found expected =>
      "invalid value: " ++ found.describe ++ ", expected " ++ expected
  | .invalidLength length expected =>
      "invalid length " ++ toString length ++ ", expected " ++ expected
  | .missingField name => "missing field " ++ ticked name
  | .unknownField name known =>
      "unknown field " ++ ticked name ++ ", expected one of " ++
        String.intercalate ", " (known.map ticked)
  | .duplicateField name => "duplicate field " ++ ticked name
  | .unknownVariant name known =>
      "unknown variant " ++ ticked name ++ ", expected one of " ++
        String.intercalate ", " (known.map ticked)
  | .noVariant expected =>
      "data did not match any variant of untagged enum " ++ expected
  | .trailingItems => "trailing characters"
  | .refused reason => reason

end DecodeError

/-- The result of decoding. -/
abbrev Decoded (α : Type) := Except DecodeError α

/-- Decode a text. -/
def string : Json -> Decoded String
  | .str value => .ok value
  | other => .error (.invalidType other "a string")

/-- Decode a truth value. -/
def boolean : Json -> Decoded Bool
  | .bool value => .ok value
  | other => .error (.invalidType other "a boolean")

/-- Decode an unsigned 64-bit number. -/
def unsigned : Json -> Decoded Nat
  | .int value =>
      if value < 0 then .error (.invalidValue (.int value) "u64")
        else .ok value.toNat
  | other => .error (.invalidType other "u64")

/-- Decode every item of a list, in order. -/
def list {α : Type} (item : Json -> Decoded α) : Json -> Decoded (List α)
  | .arr items => items.mapM item
  | other => .error (.invalidType other "a sequence")

/-- Decode a value that may be `null`. -/
def nullable {α : Type} (decode : Json -> Decoded α) :
    Json -> Decoded (Option α)
  | .null => .ok none
  | other => (decode other).map some

/-- Decode one of some words. -/
def word {α : Type} (words : List (String × α)) : Json -> Decoded α
  | .str name =>
      match words.lookup name with
      | some value => .ok value
      | none => .error (.unknownVariant name (words.map Prod.fst))
  | .obj [(name, payload)] =>
      match words.lookup name, payload with
      | none, _ => .error (.unknownVariant name (words.map Prod.fst))
      | some value, .null => .ok value
      | some _, other => .error (.invalidType other "unit")
  | .obj _ => .error (.invalidValue (.obj []) "map with a single key")
  | other => .error (.invalidType other "string or map")

/-- Take the value of a member that was not read before. -/
def once {α : Type} (name : String) (before : Option α)
    (decode : Json -> Decoded α)
    (value : Json) : Decoded (Option α) :=
  match before with
  | some _ => .error (.duplicateField name)
  | none => (decode value).map some

/-- The value of a member that must be there. -/
def required {α : Type} (name : String) : Option α -> Decoded α
  | some value => .ok value
  | none => .error (.missingField name)

/-- The layout of a record. -/
structure Layout where
  /-- The name of the record in messages. -/
  name : String
  /-- The members in order, each with whether it may be absent. -/
  fields : List (String × Bool)
  /-- Whether a list that stands for the record and is too long is refused for
  its length. -/
  counted : Bool

namespace Layout

/-- The names of the members, in order. -/
def names (layout : Layout) : List String :=
  layout.fields.map Prod.fst

/-- How messages about the type of a record name it. -/
def expected (layout : Layout) : String :=
  "struct " ++ layout.name

/-- How messages about the length of a list that stands for a record name it. -/
def expectedLength (layout : Layout) : String :=
  layout.expected ++ " with " ++ toString layout.fields.length ++
    (if layout.fields.length = 1 then " element" else " elements")

end Layout

/--
Decode the items of a list as the members of a record, in the order of the
layout, from the member at `index` on.
-/
def foldItems {α : Type} (layout : Layout)
    (step : α -> String -> Json -> Decoded α)
    (total index : Nat) : List (String × Bool) -> List Json -> α -> Decoded α
  | [], [], state => .ok state
  | [], _ :: _, _ =>
      .error (if layout.counted then
          .invalidLength total "fewer elements in array"
        else .trailingItems)
  | (name, _) :: fields, item :: items, state => do
      foldItems layout step total (index + 1) fields items
        (← step state name item)
  | (_, optional) :: fields, [], state =>
      if optional then foldItems layout step total (index + 1) fields [] state
      else .error (.invalidLength index layout.expectedLength)

/--
Decode the members of a record one after the other.  A list stands for a record
when it holds the members in the order of the layout.
-/
def record {α : Type} (layout : Layout)
    (step : α -> String -> Json -> Decoded α)
    (initial : α) : Json -> Decoded α
  | .obj members =>
      members.foldlM (fun state (name, value) => step state name value) initial
  | .arr items =>
      foldItems layout step items.length 0 layout.fields items initial
  | other => .error (.invalidType other layout.expected)

end Json
end MailSearch
