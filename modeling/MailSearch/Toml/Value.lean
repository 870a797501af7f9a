/-!
# TOML values

A configuration text denotes a table of values.  Floating-point numbers and
dates are told apart from other values and kept as they are written.
-/

namespace MailSearch

/-- A value of a configuration text. -/
inductive Toml where
  | string (value : String)
  | integer (value : Int)
  | boolean (value : Bool)
  | real (text : List Char)
  | date (text : List Char)
  | array (items : List Toml)
  | table (entries : List (String × Toml))
  deriving Inhabited

namespace Toml

/-- The least and the greatest integer are those of 64 bits with a sign. -/
def isInteger (value : Int) : Bool :=
  -0x8000000000000000 ≤ value && value < 0x8000000000000000

end Toml
end MailSearch
