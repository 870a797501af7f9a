/-!
# Shortest decimals

A floating-point number stands for every real that rounds to it.  Its shortest
decimal is the one with the fewest digits among those reals, and among equally
short ones the nearest.  All arithmetic is exact and on natural numbers.
-/

namespace MailSearch
namespace Decimal

/-- A positive number `mantissa * 2 ^ exponent` together with the reals that
round to it. -/
structure Dyadic where
  /-- The significand. -/
  mantissa : Nat
  /-- The power of two. -/
  exponent : Int
  /-- Whether the next smaller number is only half as far away as the next
  greater one. -/
  narrow : Bool

/-- A positive number `digits * 10 ^ exponent`. -/
structure Scaled where
  /-- The significant digits. -/
  digits : Nat
  /-- The power of ten. -/
  exponent : Int

/-- The number of decimal digits of a positive number. -/
def width (value : Nat) : Nat :=
  (Nat.toDigits 10 value).length

/-- The same number without zeros at the end of its digits. -/
def Scaled.normalize (digits : Nat) (exponent : Int) : Scaled :=
  if digits ≠ 0 ∧ digits % 10 = 0 then normalize (digits / 10) (exponent + 1)
  else ⟨digits, exponent⟩
termination_by digits
decreasing_by omega

namespace Dyadic

/-- The least integer power of ten above the number. -/
def decade (number : Dyadic) : Int :=
  let scaled :=
    number.mantissa * Nat.pow 2 number.exponent.toNat * Nat.pow 10 400 /
    Nat.pow 2 (-number.exponent).toNat
  (width scaled : Int) - 400

/--
The multiple of `10 ^ grid` nearest to the number, if it is one of the reals
that round to the number.  Half of a binary unit on either side rounds to the
number, and the ends of that interval do when the significand is even.
-/
def onGrid? (number : Dyadic) (grid : Int) : Option Scaled :=
  let shift := number.exponent - 2
  let scale := Nat.pow 2 shift.toNat * Nat.pow 10 (-grid).toNat
  let unit := Nat.pow 2 (-shift).toNat * Nat.pow 10 grid.toNat
  let value := 4 * number.mantissa * scale
  let low := (4 * number.mantissa - (if number.narrow then 1 else 2)) * scale
  let high := (4 * number.mantissa + 2) * scale
  let inside (count : Nat) : Bool :=
    if number.mantissa % 2 == 0 then low ≤ count * unit && count * unit ≤ high
    else low < count * unit && count * unit < high
  let below := value / unit
  match inside below, inside (below + 1) with
  | true, false => some ⟨below, grid⟩
  | false, true => some ⟨below + 1, grid⟩
  | true, true =>
      if 2 * (value - below * unit) ≤ unit then some ⟨below, grid⟩
      else some ⟨below + 1, grid⟩
  | false, false => none

/-- The shortest decimal of the number; seventeen digits always suffice. -/
def shortest (number : Dyadic) : Scaled :=
  let grids := (List.range 17).map fun (count : Nat) =>
    number.decade - ((count : Int) + 1)
  let found :=
    (grids.findSome? number.onGrid?).getD ⟨number.mantissa, number.exponent⟩
  .normalize found.digits found.exponent

end Dyadic

/-- The magnitude of a finite floating-point number, `none` for zero. -/
def dyadic? (value : Float) : Option Dyadic :=
  -- One bit of sign, 11 bits of exponent and 52 bits of fraction.
  let bits : Nat := value.toBits.toNat % 0x8000000000000000
  let fraction : Nat := bits % 0x10000000000000
  let exponent : Nat := bits / 0x10000000000000
  if bits = 0 then none
  else if exponent = 0 then some ⟨fraction, -1074, false⟩
  else some ⟨0x10000000000000 + fraction, (exponent : Int) - 1075,
    fraction == 0 && exponent > 1⟩

/-- The positional notation of a scaled number, with at least one digit on both
sides of the point. -/
def positional (number : Scaled) : String :=
  let digits := String.ofList (Nat.toDigits 10 number.digits)
  let zeros (count : Nat) : String := String.ofList (List.replicate count '0')
  if 0 ≤ number.exponent then digits ++ zeros number.exponent.toNat ++ ".0"
  else
    let places := (-number.exponent).toNat
    let padded := zeros (places + 1 - digits.length) ++ digits
    let whole := padded.length - places
    String.ofList (padded.toList.take whole) ++ "." ++
      String.ofList (padded.toList.drop whole)

/-- The power of ten of the first digit. -/
def Scaled.magnitude (number : Scaled) : Int :=
  number.exponent + width number.digits - 1

/-- The notation with one digit before the point and a power of ten, which has a
sign. -/
def scientific (number : Scaled) : String :=
  let mark := if 0 ≤ number.magnitude then "e+" else "e-"
  let power := mark ++ toString number.magnitude.natAbs
  match Nat.toDigits 10 number.digits with
  | [] => power
  | [digit] => String.ofList [digit] ++ power
  | digit :: rest => String.ofList (digit :: '.' :: rest) ++ power

/-- Whether a number is written without a power of ten: from 0.00001 up to, but
without, 10^16. -/
def Scaled.isPositional (number : Scaled) : Bool :=
  -5 ≤ number.magnitude && number.magnitude ≤ 15

/-- The shortest notation of a finite floating-point number. -/
def text (value : Float) : String :=
  let sign := if value.toBits ≥ 0x8000000000000000 then "-" else ""
  match dyadic? value with
  | none => sign ++ "0.0"
  | some number =>
      let shortest := number.shortest
      sign ++ (if shortest.isPositional then positional shortest
        else scientific shortest)

end Decimal
end MailSearch
