/-!
# JSON values

A value keeps the members of its objects in document order, repeated keys
included.  `sortKeys` gives the form that most readers look at: ascending keys,
of which a repeated one keeps its last value.
-/

namespace MailSearch

/-- A JSON value.  Whole numbers in the 64-bit range are exact, all others are
floating point. -/
inductive Json where
  | null
  | bool (value : Bool)
  | int (value : Int)
  | real (value : Float)
  | str (value : String)
  | arr (items : List Json)
  | obj (members : List (String × Json))
  deriving Inhabited

namespace Json

/-- Put a member at its place among ascending keys; a present key gets the new
value. -/
def insertMember (key : String) (value : Json) :
    List (String × Json) -> List (String × Json)
  | [] => [(key, value)]
  | (other, present) :: rest =>
      if key < other then (key, value) :: (other, present) :: rest
      else if key = other then (key, value) :: rest
      else (other, present) :: insertMember key value rest

/--
Stands for a value that is well formed, but that nothing can represent: a number
beyond floating point, a text with half of a surrogate pair, or a list or an
object that nests too deep.
-/
def unreadable : Json :=
  .real (0 / 0)

mutual

/-- Whether a value and all that it holds can be represented. -/
def isReadable : Json -> Bool
  | .real value => value.isFinite
  | .arr items => areReadable items
  | .obj members => membersReadable members
  | .null => true
  | .bool _ => true
  | .int _ => true
  | .str _ => true

/-- Whether every item can be represented. -/
def areReadable : List Json -> Bool
  | [] => true
  | item :: rest => isReadable item && areReadable rest

/-- Whether the value of every member can be represented. -/
def membersReadable : List (String × Json) -> Bool
  | [] => true
  | (_, value) :: rest => isReadable value && membersReadable rest

end

mutual

/-- The value with the keys of every object ascending and unrepeated. -/
def sortKeys : Json -> Json
  | .arr items => .arr (sortItems items)
  | .obj members => .obj (sortMembers [] members)
  | .null => .null
  | .bool value => .bool value
  | .int value => .int value
  | .real value => .real value
  | .str value => .str value

/-- Every item with sorted keys. -/
def sortItems : List Json -> List Json
  | [] => []
  | item :: rest => sortKeys item :: sortItems rest

/-- The members, each with sorted keys, put among the ascending members
`done`. -/
def sortMembers (done : List (String × Json)) :
    List (String × Json) -> List (String × Json)
  | [] => done
  | (key, value) :: rest =>
      sortMembers (insertMember key (sortKeys value) done) rest

end

/-- The value of the first member with a key. -/
def member? (key : String) : List (String × Json) -> Option Json
  | [] => none
  | (other, value) :: rest =>
      if other = key then some value else member? key rest

/-- The member of an object under a key. -/
def get? (key : String) : Json -> Option Json
  | .obj members => member? key members
  | _ => none

/-- Whether the value is `null`. -/
def isNull : Json -> Bool
  | .null => true
  | _ => false

/-- A list of texts. -/
def strings (texts : List String) : Json :=
  .arr (texts.map .str)

/-- A whole number. -/
def nat (value : Nat) : Json :=
  .int value

/-- A value that may be absent, absent as `null`. -/
def optional {α : Type} (encode : α -> Json) : Option α -> Json
  | none => .null
  | some value => encode value

end Json
end MailSearch
