/-!
# Numbers too large for a binary fraction

A decimal number is held as a significand below 2^64 and a power of ten.  Its
binary approximation multiplies both after rounding each to 53 significant
bits; it overflows when that product reaches the point from which rounding
gives 2^1024.
-/

namespace Overseer.Json

/-- The nearest multiple of `2 ^ shift`, an even multiple where two are as near. -/
def roundToMultiple (shift value : Nat) : Nat :=
  let unit := Nat.pow 2 shift
  let quotient := value / unit
  let double := 2 * (value % unit)
  if double < unit then quotient * unit
  else if unit < double then (quotient + 1) * unit
  else if quotient % 2 = 0 then quotient * unit
  else (quotient + 1) * unit

def roundTo53Bits (value : Nat) : Nat :=
  roundToMultiple (value.log2 - 52) value

/-- The largest power of ten that has a binary approximation. -/
def largestPower : Nat := 308

/-- The least product that rounds to infinity. -/
def infinityThreshold : Nat := Nat.pow 2 1024 - Nat.pow 2 970

/-- Whether `significand * 10 ^ exponent` has no finite approximation. -/
def overflows (significand : Nat) (exponent : Int) : Bool :=
  significand ≠ 0 && 0 ≤ exponent &&
    (largestPower < exponent.toNat ||
      infinityThreshold ≤
        roundTo53Bits significand * roundTo53Bits (Nat.pow 10 exponent.toNat))

end Overseer.Json
