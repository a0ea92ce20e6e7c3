import Overseer.Json.Magnitude
import Overseer.Json.Reading
import Overseer.Json.Value

/-!
# Reading numbers

A number has a whole part without leading zeros, maybe a fraction and maybe a
power of ten.  A number that is too large for a binary fraction is `malformed`.
A power of ten is kept up to 2^31 - 1, far past all that have an approximation.
-/

namespace Overseer.Json

def isJsonDigit (byte : UInt8) : Bool :=
  0x30 ≤ byte && byte ≤ 0x39

def digitOf (byte : UInt8) : Nat :=
  byte.toNat - 0x30

/-- The objection to a missing digit: the text ends, or goes on otherwise. -/
def missingDigit : List UInt8 → Rejection
  | [] => .truncated
  | _ => .malformed

/-- Digits at the head, at least one, and the rest. -/
def readDigits (source : List UInt8) :
    Except Rejection (List UInt8 × List UInt8) :=
  match source.takeWhile isJsonDigit with
  | [] => .error (missingDigit source)
  | digits => .ok (digits, source.dropWhile isJsonDigit)

/-- The digits before the point: a single zero, or digits that start with none. -/
def readWhole (source : List UInt8) :
    Except Rejection (List UInt8 × List UInt8) :=
  match readDigits source with
  | .error rejection => .error rejection
  | .ok (digits, rest) =>
      if digits.head? = some 0x30 ∧ 1 < digits.length then .error .malformed
      else .ok (digits, rest)

/-- The digits after a point, if there is a point. -/
def readFraction (source : List UInt8) :
    Except Rejection (List UInt8 × List UInt8) :=
  match source with
  | 0x2e :: rest => readDigits rest
  | _ => .ok ([], source)

/-- The largest power of ten that is kept. -/
def greatestPower : Nat := Nat.pow 2 31 - 1

/-- The power that digits write, or the greatest if theirs is greater. -/
def powerOf (digits : List UInt8) : Nat :=
  digits.foldl
    (fun sum digit => min greatestPower (10 * sum + digitOf digit)) 0

/-- Whether a minus sign comes first, and the bytes after a sign. -/
def splitSign : List UInt8 → Bool × List UInt8
  | 0x2d :: rest => (true, rest)
  | 0x2b :: rest => (false, rest)
  | source => (false, source)

theorem length_splitSign_le (source : List UInt8) :
    (splitSign source).2.length ≤ source.length := by
  unfold splitSign
  split <;> simp

/-- The power of ten that an exponent part writes, zero if there is none. -/
def readExponent (source : List UInt8) :
    Except Rejection (Int × List UInt8) :=
  match source with
  | [] => .ok (0, [])
  | mark :: rest =>
      if mark = 0x65 ∨ mark = 0x45 then
        match readDigits (splitSign rest).2 with
        | .error rejection => .error rejection
        | .ok (digits, afterDigits) =>
            let magnitude : Int := powerOf digits
            .ok (if (splitSign rest).1 then -magnitude else magnitude,
              afterDigits)
      else .ok (0, source)

/-- Digits are kept as long as the significand stays below 2^64; the others are
left over. -/
def keepDigits (significand : Nat) : List UInt8 → Nat × List UInt8
  | [] => (significand, [])
  | digit :: rest =>
      if 10 * significand + digitOf digit < UInt64.size then
        keepDigits (10 * significand + digitOf digit) rest
      else (significand, digit :: rest)

/-- The number that the digits before and after the point and a power of ten
write.  A digit left over before the point counts as a power of ten. -/
def Number.ofParts (negative : Bool) (whole fraction : List UInt8)
    (power : Int) : Number :=
  let beforePoint := keepDigits 0 whole
  let afterPoint := keepDigits beforePoint.1 fraction
  let kept := fraction.length - afterPoint.2.length
  { negative := negative
    significand := afterPoint.1
    exponent := (beforePoint.2.length : Int) - (kept : Int) + power }

/-- The number at the head of `source`, whose sign has been read. -/
def readUnsigned (negative : Bool) (source : List UInt8) :
    Except Rejection (Number × List UInt8) :=
  match readWhole source with
  | .error rejection => .error rejection
  | .ok (whole, afterWhole) =>
      match readFraction afterWhole with
      | .error rejection => .error rejection
      | .ok (fraction, afterFraction) =>
          match readExponent afterFraction with
          | .error rejection => .error rejection
          | .ok (power, rest) =>
              let number := Number.ofParts negative whole fraction power
              if overflows number.significand number.exponent then
                .error .malformed
              else .ok (number, rest)

/-- A number, with or without a minus sign. -/
def readNumber (source : List UInt8) :
    Except Rejection (Number × List UInt8) :=
  match source with
  | 0x2d :: rest => readUnsigned true rest
  | _ => readUnsigned false source

theorem length_of_readDigits {source digits rest : List UInt8}
    (found : readDigits source = .ok (digits, rest)) :
    rest.length < source.length := by
  unfold readDigits at found
  split at found
  · contradiction
  · rename_i some_digits
    cases found
    have whole := congrArg List.length
      (List.takeWhile_append_dropWhile (p := isJsonDigit) (l := source))
    have positive := List.length_pos_iff.mpr some_digits
    rw [List.length_append] at whole
    omega

theorem length_of_readUnsigned {negative : Bool} {source rest : List UInt8}
    {number : Number}
    (found : readUnsigned negative source = .ok (number, rest)) :
    rest.length < source.length := by
  unfold readUnsigned at found
  split at found
  · contradiction
  rename_i whole afterWhole wholeFound
  have wholeShorter : afterWhole.length < source.length := by
    unfold readWhole at wholeFound
    split at wholeFound
    · contradiction
    rename_i digits
    split at wholeFound
    · contradiction
    cases wholeFound
    exact length_of_readDigits digits
  split at found
  · contradiction
  rename_i fraction afterFraction fractionFound
  have fractionShorter : afterFraction.length ≤ afterWhole.length := by
    unfold readFraction at fractionFound
    split at fractionFound
    · have := length_of_readDigits fractionFound
      simp
      omega
    · cases fractionFound
      exact Nat.le_refl _
  split at found
  · contradiction
  rename_i power afterPower powerFound
  have powerShorter : afterPower.length ≤ afterFraction.length := by
    unfold readExponent at powerFound
    split at powerFound
    · cases powerFound
      exact Nat.le_refl _
    split at powerFound
    · rename_i mark tail marked
      split at powerFound
      · contradiction
      rename_i digits afterDigits digitsFound
      cases powerFound
      have := length_of_readDigits digitsFound
      have := length_splitSign_le tail
      simp
      omega
    · cases powerFound
      exact Nat.le_refl _
  dsimp only at found
  split at found
  · contradiction
  cases found
  omega

theorem length_of_readNumber {source rest : List UInt8} {number : Number}
    (found : readNumber source = .ok (number, rest)) :
    rest.length < source.length := by
  unfold readNumber at found
  split at found
  · have := length_of_readUnsigned found
    simp
    omega
  · exact length_of_readUnsigned found

end Overseer.Json
