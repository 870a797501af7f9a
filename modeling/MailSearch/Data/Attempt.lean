/-!
# Computations that do not come to their end

A computation may fail, and then it says why.  In the middle of some
computations the program breaks down, which nobody is told.
-/

namespace MailSearch

/-- The result of a computation, or `none` if the program breaks down on the way
to it. -/
abbrev Attempt (α : Type) :=
  Option α

/-- Why a computation that may fail ends without a result. -/
inductive Stop (ε : Type) where
  /-- It fails. -/
  | failed (error : ε)
  /-- The program breaks down. -/
  | brokenDown

end MailSearch
