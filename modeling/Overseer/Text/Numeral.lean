/-!
# Unsigned numerals

A numeral is an optional plus sign followed by one or more ASCII digits, any
number of them leading zeros.  It is read only if its value is below a bound
that the reader of the numeral chooses.
-/

namespace Overseer.Numeral

/-- The value of a string of digits, the most significant first. -/
def value (digits : List Char) : Nat :=
  digits.foldl (fun sum digit => 10 * sum + (digit.toNat - '0'.toNat)) 0

/-- The value of a string of digits, or `ceiling` if that is smaller.  The
sum never grows past the ceiling, however many digits there are. -/
def valueUpTo (ceiling : Nat) (digits : List Char) : Nat :=
  digits.foldl
    (fun sum digit => min ceiling (10 * sum + (digit.toNat - '0'.toNat))) 0

/-- Stopping at the ceiling at every digit is stopping at the end. -/
theorem valueUpTo_eq_min (ceiling : Nat) (digits : List Char) :
    valueUpTo ceiling digits = min ceiling (value digits) := by
  have general : ∀ (sum : Nat),
      digits.foldl
        (fun sum digit => min ceiling (10 * sum + (digit.toNat - '0'.toNat)))
        (min ceiling sum) =
      min ceiling (digits.foldl
        (fun sum digit => 10 * sum + (digit.toNat - '0'.toNat)) sum) := by
    induction digits with
    | nil => intro sum; rfl
    | cons digit digits step =>
        intro sum
        simp only [List.foldl_cons]
        rw [← step]
        congr 1
        omega
  have started := general 0
  rwa [Nat.min_zero] at started

/-- The characters themselves, if they are digits and at least one. -/
def unsigned? (chars : List Char) : Option (List Char) :=
  if chars ≠ [] ∧ chars.all Char.isDigit then some chars else none

def digits? : List Char → Option (List Char)
  | '+' :: digits => unsigned? digits
  | digits => unsigned? digits

def read? (bound : Nat) (chars : List Char) : Option Nat :=
  (digits? chars).bind fun digits =>
    let number := valueUpTo bound digits
    if number < bound then some number else none

end Overseer.Numeral
