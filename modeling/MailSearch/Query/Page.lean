import MailSearch.Query.Error

/-!
# Pages

A page is the part of a result that a request asks for: at most `limit` items
from a position on.  Both numbers must be below 2^53, up to which every client
can tell neighbours apart.
-/

namespace MailSearch
namespace Query
namespace Page

/-- The greatest position and the greatest limit. -/
def greatest : Nat := 0x1FFFFFFFFFFFFF

/-- Decode a number of a page; `null` stands for an absent one. -/
def bound (name : String) : Option Json -> Except Invalid (Option Nat)
  | none => .ok none
  | some .null => .ok none
  | some (.int value) =>
      if 0 ≤ value ∧ value ≤ greatest then .ok (some value.toNat)
        else .error (.bound name)
  | some _ => .error (.bound name)

/-- Decode a position; absent means the start. -/
def position (value : Option Json) : Except Invalid Nat :=
  (bound "position" value).map fun given => given.getD 0

/-- Decode a limit, with the one that applies if it is absent. -/
def limit (value : Option Json) (default : Nat) : Except Invalid Nat :=
  (bound "limit" value).map fun given => given.getD default

/-- The items from a position on, as many as the limit allows. -/
def slice {α : Type} (position limit : Nat) (items : List α) : List α :=
  (items.drop position).take limit

end Page
end Query
end MailSearch
