/-!
# Rounding

Quotients of natural numbers rounded to the nearest whole number, where a half
goes to the even neighbour.
-/

namespace MailSearch
namespace Decimal

/-- The whole number nearest to a quotient; a half goes to the even
neighbour. -/
def roundDiv (numerator denominator : Nat) : Nat :=
  let below := numerator / denominator
  let left := 2 * (numerator % denominator)
  if left < denominator then below
  else if denominator < left then below + 1
  else if below % 2 = 0 then below
  else below + 1

/-- The nearest number with a significand of 53 bits, which is the one in
floating point. -/
def toSignificand (value : Nat) : Nat :=
  let unit := Nat.pow 2 (Nat.log2 value - 52)
  roundDiv value unit * unit

end Decimal
end MailSearch
