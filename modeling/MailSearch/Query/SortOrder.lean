import MailSearch.Query.Candidate

/-!
# Sort orders

A sort order is a list of keys, the most significant first.  Candidates are
listed so that the first key on which two of them differ puts them in its
direction; those that agree on every key keep the order in which they came.
-/

namespace MailSearch
namespace Query

/-- What candidates can be sorted by. -/
inductive SortField where
  | id
  | date
  | subject
  | sender
  | recipient
  | size
  deriving DecidableEq, Repr

namespace SortField

/-- All fields. -/
def all : List SortField :=
  [.id, .date, .subject, .sender, .recipient, .size]

/-- The name of a field in requests. -/
def name : SortField -> String
  | .id => "id"
  | .date => "date"
  | .subject => "subject"
  | .sender => "from"
  | .recipient => "to"
  | .size => "size"

/-- The field with a name. -/
def ofName? (text : String) : Option SortField :=
  all.find? fun field => field.name == text

theorem ofName?_name (field : SortField) : ofName? field.name = some field := by
  cases field <;> rfl

/--
The order of two candidates by a field.  Texts are compared by their code
points, and an absent header field is the empty text.
-/
def compare (field : SortField) (left right : Candidate) : Ordering :=
  match field with
  | .id => Ord.compare left.id right.id
  | .date => left.message.sentAt.compare right.message.sentAt
  | .subject => Ord.compare left.message.subject right.message.subject
  | .sender =>
      Ord.compare ((left.message.header? "from").getD "")
        ((right.message.header? "from").getD "")
  | .recipient =>
      Ord.compare ((left.message.header? "to").getD "")
        ((right.message.header? "to").getD "")
  | .size => Ord.compare left.message.size right.message.size

end SortField

/-- The direction in which a key runs. -/
inductive Direction where
  | ascending
  | descending
  deriving DecidableEq, Repr

namespace Direction

/-- The name of a direction. -/
def name : Direction -> String
  | .ascending => "asc"
  | .descending => "desc"

/-- Turn an order in a direction. -/
def apply : Direction -> Ordering -> Ordering
  | .ascending, ordering => ordering
  | .descending, ordering => ordering.swap

end Direction

/-- One key of a sort order. -/
structure SortKey where
  /-- What the key looks at. -/
  field : SortField
  /-- The direction in which it runs. -/
  direction : Direction
  deriving DecidableEq, Repr

namespace SortKey

/-- The order of two candidates by a key. -/
def compare (key : SortKey) (left right : Candidate) : Ordering :=
  key.direction.apply (key.field.compare left right)

/--
Read a key: a field, and a direction if one is given.  A field alone runs
downwards.
-/
def parse (text : String) : Except Invalid SortKey :=
  match (Text.words text.toList).map String.ofList with
  | [] => .error (.sortKey text)
  | field :: rest =>
      match SortField.ofName? field, rest with
      | none, _ => .error (.sortKey text)
      | some field, [] => .ok ⟨field, .descending⟩
      | some field, direction :: more =>
          if direction = "desc" ∨ direction = "asc" then
            if more.isEmpty then
              .ok ⟨field, if direction = "desc" then .descending
                else .ascending⟩
            else .error (.sortKey text)
          else .error (.sortDirection text)

/-- The text of a key, with its direction. -/
def toText (key : SortKey) : String :=
  key.field.name ++ " " ++ key.direction.name

end SortKey

/-- The keys of a sort order, the most significant first; there is at least
one. -/
structure SortOrder where
  /-- The keys. -/
  keys : List SortKey
  /-- There is a key. -/
  nonempty : keys ≠ []
  deriving DecidableEq

namespace SortOrder

/-- The newest first. -/
def newestFirst : SortOrder :=
  ⟨[⟨.date, .descending⟩], by simp⟩

/-- Read the keys of a sort order. -/
def parse (texts : List String) : Except Invalid SortOrder := do
  let keys ← texts.mapM SortKey.parse
  if nonempty : keys ≠ [] then return ⟨keys, nonempty⟩ else throw .emptySort

/-- The texts of the keys. -/
def toTexts (order : SortOrder) : List String :=
  order.keys.map SortKey.toText

/-- The order of two candidates by some keys: that of the first key on which
they differ. -/
def compareBy : List SortKey -> Candidate -> Candidate -> Ordering
  | [], _, _ => .eq
  | key :: rest, left, right =>
      match key.compare left right with
      | .eq => compareBy rest left right
      | ordering => ordering

/-- The order of two candidates. -/
def compare (order : SortOrder) (left right : Candidate) : Ordering :=
  compareBy order.keys left right

/-- Whether a candidate may stand before another one. -/
def precedes (order : SortOrder) (left right : Candidate) : Bool :=
  order.compare left right != .gt

/-- The candidates in order. -/
def apply (order : SortOrder) (candidates : List Candidate) : List Candidate :=
  candidates.mergeSort order.precedes

end SortOrder
end Query
end MailSearch
