import Mathlib.Data.List.Induction
import Overseer.Text.Blank
import Overseer.Text.Numeral

/-!
# Numerals are read by their grammar

A number is written by its decimal digits, with any number of zeros and maybe a plus sign
before them.  The reader of numerals answers exactly the numbers that are written so and
are below its bound; a reader that trims its text first allows for blanks around them.
-/

namespace Overseer

def AreBlank (chars : List Char) : Prop :=
  ∀ char ∈ chars, isBlank char = true

/-! ## Trimming -/

theorem dropWhile_isBlank_append {before rest : List Char} (blank : AreBlank before)
    (stops : ∀ char ∈ rest.head?, isBlank char = false) :
    (before ++ rest).dropWhile isBlank = rest := by
  rw [List.dropWhile_append_of_pos blank]
  cases rest with
  | nil => rfl
  | cons first rest => exact List.dropWhile_cons_of_neg (by simp [stops first rfl])

/-- What is trimmed away are blanks on both sides. -/
theorem exists_blanks_around (chars : List Char) :
    ∃ before after, chars = before ++ (trimBlanks chars ++ after) ∧
      AreBlank before ∧ AreBlank after := by
  let rest := chars.dropWhile isBlank
  refine ⟨chars.takeWhile isBlank, (rest.reverse.takeWhile isBlank).reverse, ?_, ?_, ?_⟩
  · have around : trimBlanks chars ++ (rest.reverse.takeWhile isBlank).reverse = rest := by
      unfold trimBlanks
      rw [← List.reverse_append, List.takeWhile_append_dropWhile, List.reverse_reverse]
    rw [around, List.takeWhile_append_dropWhile]
  · exact fun char => List.all_eq_true.mp List.all_takeWhile char
  · intro char member
    exact List.all_eq_true.mp List.all_takeWhile char (List.mem_reverse.mp member)

/-- Blanks are trimmed away up to characters that are none. -/
theorem trimBlanks_of_padded {before chars after : List Char} (leads : AreBlank before)
    (trails : AreBlank after) (first : ∀ char ∈ chars.head?, isBlank char = false)
    (last : ∀ char ∈ chars.getLast?, isBlank char = false) (some_char : chars ≠ []) :
    trimBlanks (before ++ (chars ++ after)) = chars := by
  have begins : ∀ char ∈ (chars ++ after).head?, isBlank char = false := by
    obtain ⟨head, tail, rfl⟩ := List.exists_cons_of_ne_nil some_char
    exact first
  have ends : ∀ char ∈ chars.reverse.head?, isBlank char = false := by
    rw [List.head?_reverse]
    exact last
  have reversed : AreBlank after.reverse :=
    fun char member => trails char (List.mem_reverse.mp member)
  unfold trimBlanks
  rw [dropWhile_isBlank_append leads begins, List.reverse_append,
    dropWhile_isBlank_append reversed ends, List.reverse_reverse]

theorem trimBlanks_eq_nil_iff {chars : List Char} : trimBlanks chars = [] ↔ AreBlank chars := by
  constructor
  · intro nothing
    obtain ⟨before, after, whole, leads, trails⟩ := exists_blanks_around chars
    rw [nothing, List.nil_append] at whole
    intro char member
    rw [whole] at member
    rcases List.mem_append.mp member with inBefore | inAfter
    · exact leads char inBefore
    · exact trails char inAfter
  · intro blank
    have dropped : (chars ++ []).dropWhile isBlank = [] :=
      dropWhile_isBlank_append blank (by simp)
    rw [List.append_nil] at dropped
    unfold trimBlanks
    rw [dropped]
    rfl

theorem range_of_isDigit {char : Char} (digit : char.isDigit = true) :
    48 ≤ char.toNat ∧ char.toNat ≤ 57 := by
  simpa [Char.isDigit, UInt32.le_iff_toNat_le] using digit

theorem isBlank_of_isDigit {char : Char} (digit : char.isDigit = true) :
    isBlank char = false := by
  have range := range_of_isDigit digit
  rw [Bool.eq_false_iff]
  intro blank
  obtain ⟨bounds, member, inside⟩ := List.any_eq_true.mp blank
  simp only [Bool.and_eq_true, decide_eq_true_eq] at inside
  simp only [blankRanges, List.mem_cons, List.not_mem_nil, or_false] at member
  rcases member with rfl | rfl | rfl | rfl | rfl | rfl | rfl | rfl | rfl | rfl <;>
    omega

namespace Numeral

/-! ## The grammar -/

/-- The digits of a number, after any number of zeros. -/
def digitsOf (number zeros : Nat) : List Char :=
  List.replicate zeros '0' ++ Nat.toDigits 10 number

/-- How a number is written. -/
inductive Writes (number : Nat) : List Char → Prop where
  | unsigned (zeros : Nat) : Writes number (digitsOf number zeros)
  | signed (zeros : Nat) : Writes number ('+' :: digitsOf number zeros)

/-- How a number is written with blanks around it. -/
inductive WritesPadded (number : Nat) : List Char → Prop where
  | between {before chars after : List Char} (leads : AreBlank before)
      (writes : Writes number chars) (trails : AreBlank after) :
      WritesPadded number (before ++ (chars ++ after))

variable {number bound zeros : Nat} {chars digits : List Char}

/-! ## Digits -/

theorem value_eq_ofDigitChars (digits : List Char) :
    value digits = Nat.ofDigitChars 10 digits 0 :=
  rfl

theorem value_digitsOf (number zeros : Nat) : value (digitsOf number zeros) = number := by
  rw [value_eq_ofDigitChars, digitsOf, Nat.ofDigitChars_append,
    Nat.ofDigitChars_replicate_zero, Nat.mul_zero,
    Nat.ofDigitChars_toDigits (by decide) (by decide)]

theorem isDigit_of_mem_digitsOf {char : Char} (member : char ∈ digitsOf number zeros) :
    char.isDigit = true := by
  rcases List.mem_append.mp member with zero | digit
  · rw [List.eq_of_mem_replicate zero]
    rfl
  · exact Nat.isDigit_of_mem_toDigits (by decide) (by decide) digit

theorem digitsOf_ne_nil (number zeros : Nat) : digitsOf number zeros ≠ [] :=
  List.append_ne_nil_of_right_ne_nil _ Nat.toDigits_ne_nil

theorem digitsOf_append_digit {digit : Nat} (small : digit < 10) (number zeros : Nat) :
    ∃ padding, digitsOf number zeros ++ [digit.digitChar] =
      digitsOf (10 * number + digit) padding := by
  rw [← Nat.toDigits_of_lt_base small]
  by_cases positive : 0 < number
  · refine ⟨zeros, ?_⟩
    unfold digitsOf
    rw [List.append_assoc, Nat.toDigits_append_toDigits (by decide) positive small]
  · refine ⟨zeros + 1, ?_⟩
    have zero : number = 0 := by omega
    unfold digitsOf
    rw [zero, Nat.toDigits_zero, Nat.mul_zero, Nat.zero_add, List.replicate_succ']

theorem exists_digitChar {char : Char} (digit : char.isDigit = true) :
    ∃ value < 10, char = Nat.digitChar value := by
  have range := range_of_isDigit digit
  refine ⟨char.toNat - 48, by omega, Char.toNat_inj.mp ?_⟩
  rw [Nat.toNat_digitChar_of_lt_ten (by omega)]
  omega

theorem exists_zeros (some_digit : digits ≠ [])
    (all : ∀ char ∈ digits, char.isDigit = true) :
    ∃ number zeros, digits = digitsOf number zeros := by
  induction digits using List.reverseRecOn with
  | nil => exact absurd rfl some_digit
  | append_singleton front last induction =>
      obtain ⟨digit, small, rfl⟩ := exists_digitChar (all last (by simp))
      by_cases single : front = []
      · refine ⟨digit, 0, ?_⟩
        rw [single, digitsOf, Nat.toDigits_of_lt_base small]
        rfl
      · obtain ⟨number, zeros, rfl⟩ :=
          induction single fun char member => all char (by simp [member])
        obtain ⟨padding, same⟩ := digitsOf_append_digit small number zeros
        exact ⟨_, padding, same⟩

theorem unsigned?_eq_some_iff :
    unsigned? chars = some digits ↔
      chars = digits ∧ ∃ number zeros, digits = digitsOf number zeros := by
  unfold unsigned?
  constructor
  · intro reads
    split at reads
    · rename_i are_digits
      cases reads
      exact ⟨rfl, exists_zeros are_digits.1 (List.all_eq_true.mp are_digits.2)⟩
    · cases reads
  · rintro ⟨rfl, number, zeros, rfl⟩
    exact if_pos ⟨digitsOf_ne_nil number zeros,
      List.all_eq_true.mpr fun char => isDigit_of_mem_digitsOf⟩

theorem digitsOf_no_sign {rest : List Char} (number zeros : Nat) :
    digitsOf number zeros ≠ '+' :: rest := by
  intro same
  have member : '+' ∈ digitsOf number zeros := by simp [same]
  have digit : '+'.isDigit = true := isDigit_of_mem_digitsOf member
  cases digit

theorem digits?_eq_some_iff :
    digits? chars = some digits ↔
      ∃ number zeros, digits = digitsOf number zeros ∧
        (chars = digits ∨ chars = '+' :: digits) := by
  unfold digits?
  split
  · rename_i rest
    rw [unsigned?_eq_some_iff]
    constructor
    · rintro ⟨rfl, number, zeros, same⟩
      exact ⟨number, zeros, same, .inr rfl⟩
    · rintro ⟨number, zeros, same, unsigned | signed⟩
      · exact absurd (same.symm.trans unsigned.symm) (digitsOf_no_sign number zeros)
      · exact ⟨(List.cons.inj signed).2, number, zeros, same⟩
  · rename_i no_sign
    rw [unsigned?_eq_some_iff]
    constructor
    · rintro ⟨rfl, number, zeros, same⟩
      exact ⟨number, zeros, same, .inl rfl⟩
    · rintro ⟨number, zeros, same, unsigned | signed⟩
      · exact ⟨unsigned, number, zeros, same⟩
      · exact absurd signed (no_sign digits)

/-! ## Whole numerals -/

/-- A numeral is read exactly if it writes a number below the bound. -/
theorem read?_eq_some_iff :
    read? bound chars = some number ↔ Writes number chars ∧ number < bound := by
  unfold read?
  rw [Option.bind_eq_some_iff]
  simp only [valueUpTo_eq_min]
  constructor
  · rintro ⟨digits, reads, small⟩
    obtain ⟨written, zeros, rfl, spelled⟩ := digits?_eq_some_iff.mp reads
    rw [value_digitsOf] at small
    split at small
    · rename_i below
      have same : written = number := by
        rw [← Option.some.inj small]
        omega
      subst same
      refine ⟨?_, by omega⟩
      rcases spelled with rfl | rfl
      · exact .unsigned zeros
      · exact .signed zeros
    · cases small
  · rintro ⟨writes, below⟩
    have least : min bound number = number := by omega
    cases writes with
    | unsigned zeros =>
        refine ⟨_, digits?_eq_some_iff.mpr ⟨number, zeros, rfl, .inl rfl⟩, ?_⟩
        rw [value_digitsOf, least, if_pos below]
    | signed zeros =>
        refine ⟨_, digits?_eq_some_iff.mpr ⟨number, zeros, rfl, .inr rfl⟩, ?_⟩
        rw [value_digitsOf, least, if_pos below]

theorem Writes.isBlank_eq_false (writes : Writes number chars) {char : Char}
    (member : char ∈ chars) : isBlank char = false := by
  cases writes with
  | unsigned zeros => exact isBlank_of_isDigit (isDigit_of_mem_digitsOf member)
  | signed zeros =>
      rcases List.mem_cons.mp member with rfl | digit
      · rfl
      · exact isBlank_of_isDigit (isDigit_of_mem_digitsOf digit)

theorem Writes.ne_nil (writes : Writes number chars) : chars ≠ [] := by
  cases writes with
  | unsigned zeros => exact digitsOf_ne_nil number zeros
  | signed zeros => exact List.cons_ne_nil _ _

theorem writes_trimBlanks_iff :
    Writes number (trimBlanks chars) ↔ WritesPadded number chars := by
  constructor
  · intro writes
    obtain ⟨before, after, whole, leads, trails⟩ := exists_blanks_around chars
    rw [whole]
    exact .between leads writes trails
  · intro padded
    cases padded with
    | between leads writes trails =>
        rw [trimBlanks_of_padded leads trails
          (fun char member => writes.isBlank_eq_false (List.mem_of_mem_head? member))
          (fun char member => writes.isBlank_eq_false (List.mem_of_mem_getLast? member))
          writes.ne_nil]
        exact writes

theorem WritesPadded.not_blank (padded : WritesPadded number chars) : ¬AreBlank chars := by
  intro blank
  exact (writes_trimBlanks_iff.mpr padded).ne_nil (trimBlanks_eq_nil_iff.mpr blank)

/-- A text that is trimmed first is read exactly if it writes a number below the bound, with
blanks around it. -/
theorem read?_trimBlanks_eq_some_iff :
    read? bound (trimBlanks chars) = some number ↔
      WritesPadded number chars ∧ number < bound := by
  rw [read?_eq_some_iff, writes_trimBlanks_iff]

end Numeral

end Overseer
