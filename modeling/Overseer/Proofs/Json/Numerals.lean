import Overseer.Proofs.Json.Grammar

/-!
# Numbers are read by their grammar

A digit reader takes as many digits as there are, so what it leaves starts with none.
Each part of a number is read exactly when it is written by the rules of the grammar,
where reading back needs that the next byte does not go on with the number.
-/

namespace Overseer.Json

/-- The bytes that may stand behind a number: they do not go on with it. -/
structure EndsNumber (rest : List UInt8) : Prop where
  no_digit : ∀ byte ∈ rest.head?, isJsonDigit byte = false
  no_point : rest.head? ≠ some 0x2e
  no_mark : rest.head? ≠ some 0x65 ∧ rest.head? ≠ some 0x45

variable {source bytes digits rest : List UInt8}

theorem takeWhile_append_of_all {test : UInt8 → Bool}
    (all : ∀ byte ∈ digits, test byte = true)
    (stops : ∀ byte ∈ rest.head?, test byte = false) :
    (digits ++ rest).takeWhile test = digits ∧ (digits ++ rest).dropWhile test = rest := by
  rw [List.takeWhile_append_of_pos all, List.dropWhile_append_of_pos all]
  cases rest with
  | nil => simp
  | cons head tail =>
      have fails := stops head rfl
      simp [fails]

theorem readDigits_eq_ok_iff :
    readDigits source = .ok (digits, rest) ↔
      source = digits ++ rest ∧ Digits digits ∧
        ∀ byte ∈ rest.head?, isJsonDigit byte = false := by
  constructor
  · intro reads
    unfold readDigits at reads
    split at reads
    · cases reads
    · rename_i some_digit
      cases reads
      refine ⟨(List.takeWhile_append_dropWhile).symm, ⟨some_digit, ?_⟩, ?_⟩
      · intro byte member
        exact List.all_eq_true.mp List.all_takeWhile byte member
      · intro byte first
        have fails := List.head?_dropWhile_not isJsonDigit source
        rw [Option.mem_def.mp first] at fails
        simpa using fails
  · rintro ⟨rfl, digits_only, stops⟩
    have parts := takeWhile_append_of_all digits_only.all stops
    unfold readDigits
    split
    · rename_i nothing
      rw [parts.1] at nothing
      exact absurd nothing digits_only.some_digit
    · rw [parts.1, parts.2]

/-! ## The parts of a number -/

theorem readWhole_eq_ok_iff :
    readWhole source = .ok (digits, rest) ↔
      source = digits ++ rest ∧ WholeText digits ∧
        ∀ byte ∈ rest.head?, isJsonDigit byte = false := by
  have single (padded : digits.head? = some 0x30) :
      digits = [0x30] ↔ ¬ 1 < digits.length := by
    cases digits with
    | nil => cases padded
    | cons first others =>
        cases padded
        cases others <;> simp
  constructor
  · intro reads
    unfold readWhole at reads
    split at reads
    · cases reads
    · rename_i read
      split at reads
      · cases reads
      · rename_i unpadded
        cases reads
        obtain ⟨whole, digits_only, stops⟩ := readDigits_eq_ok_iff.mp read
        refine ⟨whole, ⟨digits_only, ?_⟩, stops⟩
        intro padded
        exact (single padded).mpr fun longer => unpadded ⟨padded, longer⟩
  · rintro ⟨whole, wholes, stops⟩
    unfold readWhole
    rw [readDigits_eq_ok_iff.mpr ⟨whole, wholes.digits, stops⟩]
    dsimp only
    rw [if_neg]
    rintro ⟨padded, longer⟩
    exact (single padded).mp (wholes.unpadded padded) longer

theorem fractionText_of_readFraction (reads : readFraction source = .ok (digits, rest)) :
    ∃ bytes, source = bytes ++ rest ∧ FractionText bytes digits := by
  unfold readFraction at reads
  split at reads
  · obtain ⟨rfl, digits_only, -⟩ := readDigits_eq_ok_iff.mp reads
    exact ⟨_, rfl, .point digits_only⟩
  · cases reads
    exact ⟨[], rfl, .absent⟩

theorem readFraction_of_fractionText (writes : FractionText bytes digits)
    (no_digit : ∀ byte ∈ rest.head?, isJsonDigit byte = false)
    (no_point : rest.head? ≠ some 0x2e) :
    readFraction (bytes ++ rest) = .ok (digits, rest) := by
  cases writes with
  | absent =>
      unfold readFraction
      split
      · rename_i same
        rw [List.nil_append] at same
        rw [same] at no_point
        exact absurd rfl no_point
      · rfl
  | point digits_only => exact readDigits_eq_ok_iff.mpr ⟨rfl, digits_only, no_digit⟩

theorem signText_splitSign (source : List UInt8) :
    ∃ sign, source = sign ++ (splitSign source).2 ∧ SignText sign (splitSign source).1 := by
  unfold splitSign
  split
  · exact ⟨_, rfl, .minus⟩
  · exact ⟨_, rfl, .plus⟩
  · exact ⟨[], rfl, .absent⟩

theorem splitSign_of_signText {sign : List UInt8} {negative : Bool}
    (writes : SignText sign negative) (digits_only : Digits digits) :
    splitSign (sign ++ (digits ++ rest)) = (negative, digits ++ rest) := by
  cases writes with
  | plus => rfl
  | minus => rfl
  | absent =>
      obtain ⟨first, others, rfl⟩ := List.exists_cons_of_ne_nil digits_only.some_digit
      have digit := digits_only.all first List.mem_cons_self
      unfold splitSign
      split
      · rename_i same
        cases same
        cases digit
      · rename_i same
        cases same
        cases digit
      · rfl

theorem exponentText_of_readExponent {power : Int}
    (reads : readExponent source = .ok (power, rest)) :
    ∃ bytes, source = bytes ++ rest ∧ ExponentText bytes power := by
  unfold readExponent at reads
  split at reads
  · cases reads
    exact ⟨[], rfl, .absent⟩
  · rename_i mark tail
    split at reads
    · rename_i marks
      split at reads
      · cases reads
      · rename_i digits afterDigits read
        cases reads
        obtain ⟨sign, whole, signs⟩ := signText_splitSign tail
        obtain ⟨behind, digits_only, -⟩ := readDigits_eq_ok_iff.mp read
        refine ⟨mark :: (sign ++ digits), ?_, .power marks signs digits_only⟩
        rw [List.cons_append, List.append_assoc, ← behind, ← whole]
    · cases reads
      exact ⟨[], rfl, .absent⟩

theorem readExponent_of_exponentText {power : Int} (writes : ExponentText bytes power)
    (ends : EndsNumber rest) : readExponent (bytes ++ rest) = .ok (power, rest) := by
  cases writes with
  | absent =>
      unfold readExponent
      rw [List.nil_append]
      split
      · rfl
      · rename_i mark tail
        rw [if_neg]
        rintro (rfl | rfl)
        · exact ends.no_mark.1 rfl
        · exact ends.no_mark.2 rfl
  | power marks signs digits_only =>
      rw [List.cons_append, List.append_assoc]
      unfold readExponent
      dsimp only
      rw [if_pos marks, splitSign_of_signText signs digits_only,
        readDigits_eq_ok_iff.mpr ⟨rfl, digits_only, ends.no_digit⟩]

/-! ## Whole numbers with their sign -/

/-- What follows the digits before the point starts with no digit. -/
theorem no_digit_behind_whole {fraction exponent fractional : List UInt8} {power : Int}
    (fractions : FractionText fraction fractional) (exponents : ExponentText exponent power)
    (ends : EndsNumber rest) :
    ∀ byte ∈ (fraction ++ (exponent ++ rest)).head?, isJsonDigit byte = false := by
  cases fractions with
  | point => rintro _ ⟨⟩; rfl
  | absent =>
      cases exponents with
      | absent => exact ends.no_digit
      | power marks => rintro _ ⟨⟩; rcases marks with rfl | rfl <;> rfl

theorem no_digit_behind_fraction {exponent : List UInt8} {power : Int}
    (exponents : ExponentText exponent power) (ends : EndsNumber rest) :
    ∀ byte ∈ (exponent ++ rest).head?, isJsonDigit byte = false :=
  no_digit_behind_whole .absent exponents ends

theorem no_point_behind_fraction {exponent : List UInt8} {power : Int}
    (exponents : ExponentText exponent power) (ends : EndsNumber rest) :
    (exponent ++ rest).head? ≠ some 0x2e := by
  cases exponents with
  | absent => exact ends.no_point
  | power marks => rcases marks with rfl | rfl <;> simp

theorem magnitudeText_of_readUnsigned {negative : Bool} {number : Number}
    (reads : readUnsigned negative source = .ok (number, rest)) :
    ∃ bytes, source = bytes ++ rest ∧ MagnitudeText negative bytes number := by
  unfold readUnsigned at reads
  split at reads
  · cases reads
  rename_i whole afterWhole wholeRead
  split at reads
  · cases reads
  rename_i fraction afterFraction fractionRead
  split at reads
  · cases reads
  rename_i power afterPower powerRead
  dsimp only at reads
  split at reads
  · cases reads
  rename_i finite
  cases reads
  obtain ⟨rfl, wholes, -⟩ := readWhole_eq_ok_iff.mp wholeRead
  obtain ⟨fractional, rfl, fractions⟩ := fractionText_of_readFraction fractionRead
  obtain ⟨exponent, rfl, exponents⟩ := exponentText_of_readExponent powerRead
  refine ⟨whole ++ (fractional ++ exponent), by simp only [List.append_assoc], ?_⟩
  exact .parts wholes fractions exponents (Bool.eq_false_iff.mpr finite)

theorem readUnsigned_of_magnitudeText {negative : Bool} {number : Number}
    (writes : MagnitudeText negative bytes number) (ends : EndsNumber rest) :
    readUnsigned negative (bytes ++ rest) = .ok (number, rest) := by
  cases writes with
  | parts wholes fractions exponents finite =>
      rw [List.append_assoc, List.append_assoc]
      unfold readUnsigned
      rw [readWhole_eq_ok_iff.mpr
        ⟨rfl, wholes, no_digit_behind_whole fractions exponents ends⟩]
      dsimp only
      rw [readFraction_of_fractionText fractions (no_digit_behind_fraction exponents ends)
        (no_point_behind_fraction exponents ends)]
      dsimp only
      rw [readExponent_of_exponentText exponents ends]
      dsimp only
      rw [finite, if_neg Bool.false_ne_true]

theorem numberText_of_readNumber {number : Number}
    (reads : readNumber source = .ok (number, rest)) :
    ∃ bytes, source = bytes ++ rest ∧ NumberText bytes number := by
  unfold readNumber at reads
  split at reads
  · obtain ⟨bytes, rfl, magnitude⟩ := magnitudeText_of_readUnsigned reads
    exact ⟨_, rfl, .negative magnitude⟩
  · obtain ⟨bytes, rfl, magnitude⟩ := magnitudeText_of_readUnsigned reads
    exact ⟨bytes, rfl, .positive magnitude⟩

theorem MagnitudeText.head_digit {negative : Bool} {number : Number}
    (writes : MagnitudeText negative bytes number) :
    ∃ first others, bytes = first :: others ∧ isJsonDigit first = true := by
  cases writes with
  | parts wholes =>
      obtain ⟨first, others, rfl⟩ := List.exists_cons_of_ne_nil wholes.digits.some_digit
      exact ⟨first, _, rfl, wholes.digits.all first List.mem_cons_self⟩

theorem readNumber_of_numberText {number : Number} (writes : NumberText bytes number)
    (ends : EndsNumber rest) : readNumber (bytes ++ rest) = .ok (number, rest) := by
  cases writes with
  | negative magnitude => exact readUnsigned_of_magnitudeText magnitude ends
  | positive magnitude =>
      obtain ⟨first, others, rfl, digit⟩ := magnitude.head_digit
      unfold readNumber
      split
      · rename_i same
        cases same
        cases digit
      · exact readUnsigned_of_magnitudeText magnitude ends

/-- A number starts with a digit or with a minus sign. -/
theorem NumberText.head {number : Number} (writes : NumberText bytes number) :
    ∃ first others, bytes = first :: others ∧ (first = 0x2d ∨ isJsonDigit first = true) := by
  cases writes with
  | negative magnitude => exact ⟨0x2d, _, rfl, .inl rfl⟩
  | positive magnitude =>
      obtain ⟨first, others, same, digit⟩ := magnitude.head_digit
      exact ⟨first, others, same, .inr digit⟩

end Overseer.Json
