import Overseer.Json.Reader

/-!
# Control characters in JSON

A control character that is no blank stands in no JSON text, least of all 0x00: a
reading step never passes over it, so it is still in the rest.  The lemmas follow the
steps from the words and digits up to whole texts; `not_mem_of_read` is the result.
-/

namespace Overseer.Json

/-- A control character that is no blank. -/
structure IsControl (byte : UInt8) : Prop where
  low : byte < 0x20
  unblank : isJsonBlank byte = false

/-- A step that never passes over a byte. -/
def Reading.Avoids {α : Type} (byte : UInt8) (step : Reading α) : Prop :=
  ∀ {source : List UInt8} {found : Found α source},
    step source = .ok found → byte ∈ source → byte ∈ found.rest

theorem isControl_zero : IsControl 0 :=
  ⟨by decide, by decide⟩

variable {byte : UInt8}

theorem IsControl.ne (control : IsControl byte) {letter : UInt8}
    (printable : 0x20 ≤ letter) : byte ≠ letter := by
  have low := UInt8.lt_iff_toNat_lt.mp control.low
  have high := UInt8.le_iff_toNat_le.mp printable
  intro same
  rw [same] at low
  omega

/-- Behind a character that it is not, the control character is still to come. -/
theorem IsControl.mem_tail (control : IsControl byte) {letter : UInt8}
    (printable : 0x20 ≤ letter) {rest : List UInt8} (member : byte ∈ letter :: rest) :
    byte ∈ rest :=
  (List.mem_cons.mp member).resolve_left (control.ne printable)

theorem mem_dropWhile {test : UInt8 → Bool} (fails : test byte = false)
    {source : List UInt8} (member : byte ∈ source) : byte ∈ source.dropWhile test := by
  induction source with
  | nil => cases member
  | cons head tail induction =>
      rw [List.dropWhile_cons]
      split
      · rename_i passes
        apply induction
        rcases List.mem_cons.mp member with rfl | later
        · rw [passes] at fails
          cases fails
        · exact later
      · exact member

theorem IsControl.mem_skipBlanks (control : IsControl byte) {source : List UInt8}
    (member : byte ∈ source) : byte ∈ skipBlanks source :=
  mem_dropWhile control.unblank member

theorem IsControl.mem_of_skipBlanks (control : IsControl byte) {letter : UInt8}
    {source rest : List UInt8} (blanks : skipBlanks source = letter :: rest)
    (printable : 0x20 ≤ letter) (member : byte ∈ source) : byte ∈ rest := by
  have left := control.mem_skipBlanks member
  rw [blanks] at left
  exact control.mem_tail printable left

/-! ## Words and numbers -/

theorem IsControl.mem_of_expectWord (control : IsControl byte) {whole : List UInt8}
    {α : Type} {value : α} {word source : List UInt8}
    {shorter : source.length < whole.length} {found : Found α whole}
    (printable : word.all (0x20 ≤ ·) = true)
    (expected : expectWord value word source shorter = .ok found)
    (member : byte ∈ source) : byte ∈ found.rest := by
  induction word generalizing source with
  | nil =>
      cases expected
      exact member
  | cons letter word induction =>
      cases source with
      | nil => cases expected
      | cons head source =>
          unfold expectWord at expected
          split at expected
          · rename_i same
            rw [List.all_cons, Bool.and_eq_true, decide_eq_true_eq] at printable
            apply induction printable.2 expected
            apply control.mem_tail _ member
            rw [same]
            exact printable.1
          · cases expected

theorem IsControl.not_digit (control : IsControl byte) : isJsonDigit byte = false := by
  have low := UInt8.lt_iff_toNat_lt.mp control.low
  simp only [isJsonDigit, Bool.and_eq_false_iff, decide_eq_false_iff_not,
    UInt8.le_iff_toNat_le]
  left
  change ¬ 0x30 ≤ byte.toNat
  change byte.toNat < 0x20 at low
  omega

theorem IsControl.mem_of_readDigits (control : IsControl byte)
    {source digits rest : List UInt8} (found : readDigits source = .ok (digits, rest))
    (member : byte ∈ source) : byte ∈ rest := by
  unfold readDigits at found
  split at found
  · cases found
  · cases found
    exact mem_dropWhile control.not_digit member

theorem IsControl.mem_of_readWhole (control : IsControl byte)
    {source digits rest : List UInt8} (found : readWhole source = .ok (digits, rest))
    (member : byte ∈ source) : byte ∈ rest := by
  unfold readWhole at found
  split at found
  · cases found
  · rename_i read
    split at found
    · cases found
    · cases found
      exact control.mem_of_readDigits read member

theorem IsControl.mem_of_readFraction (control : IsControl byte)
    {source digits rest : List UInt8} (found : readFraction source = .ok (digits, rest))
    (member : byte ∈ source) : byte ∈ rest := by
  unfold readFraction at found
  split at found
  · exact control.mem_of_readDigits found (control.mem_tail (by decide) member)
  · cases found
    exact member

theorem IsControl.mem_splitSign (control : IsControl byte) {source : List UInt8}
    (member : byte ∈ source) : byte ∈ (splitSign source).2 := by
  unfold splitSign
  split
  · exact control.mem_tail (by decide) member
  · exact control.mem_tail (by decide) member
  · exact member

theorem IsControl.mem_of_readExponent (control : IsControl byte)
    {source rest : List UInt8} {power : Int} (found : readExponent source = .ok (power, rest))
    (member : byte ∈ source) : byte ∈ rest := by
  unfold readExponent at found
  split at found
  · cases member
  · rename_i mark tail
    split at found
    · rename_i marks
      split at found
      · cases found
      · rename_i read
        cases found
        apply control.mem_of_readDigits read
        apply control.mem_splitSign
        apply control.mem_tail _ member
        rcases marks with same | same <;> rw [same] <;> decide
    · cases found
      exact member

theorem IsControl.mem_of_readUnsigned (control : IsControl byte) {negative : Bool}
    {source rest : List UInt8} {number : Number}
    (found : readUnsigned negative source = .ok (number, rest))
    (member : byte ∈ source) : byte ∈ rest := by
  unfold readUnsigned at found
  split at found
  · cases found
  rename_i whole
  split at found
  · cases found
  rename_i fraction
  split at found
  · cases found
  rename_i exponent
  dsimp only at found
  split at found
  · cases found
  cases found
  exact control.mem_of_readExponent exponent
    (control.mem_of_readFraction fraction (control.mem_of_readWhole whole member))

theorem IsControl.mem_of_readNumber (control : IsControl byte)
    {source rest : List UInt8} {number : Number}
    (found : readNumber source = .ok (number, rest)) (member : byte ∈ source) :
    byte ∈ rest := by
  unfold readNumber at found
  split at found
  · exact control.mem_of_readUnsigned found (control.mem_tail (by decide) member)
  · exact control.mem_of_readUnsigned found member

/-! ## Strings -/

theorem IsControl.ne_of_hexDigit? (control : IsControl byte) {letter : UInt8}
    {digit : Nat} (read : hexDigit? letter = some digit) : byte ≠ letter := by
  apply control.ne
  unfold hexDigit? at read
  simp only [Bool.and_eq_true, decide_eq_true_eq] at read
  split at read
  · rename_i within
    exact UInt8.le_trans (by decide) within.1
  · split at read
    · rename_i within
      exact UInt8.le_trans (by decide) within.1
    · split at read
      · rename_i within
        exact UInt8.le_trans (by decide) within.1
      · cases read

theorem IsControl.avoids_readHexUnit (control : IsControl byte) :
    Reading.Avoids byte readHexUnit := by
  intro source found read member
  unfold readHexUnit at read
  split at read
  · rename_i a b c d rest
    split at read
    · rename_i first second third fourth
      cases read
      simp only [List.mem_cons, control.ne_of_hexDigit? first,
        control.ne_of_hexDigit? second, control.ne_of_hexDigit? third,
        control.ne_of_hexDigit? fourth, false_or] at member
      exact member
    · cases read
  · cases read

theorem IsControl.avoids_readTrailing (control : IsControl byte) (leading : Nat) :
    Reading.Avoids byte (readTrailing leading) := by
  intro source found read member
  unfold readTrailing at read
  split at read
  · cases read
  · cases read
  · rename_i slash letter rest
    split at read
    · rename_i escape
      split at read
      · cases read
      · rename_i unit hex
        rw [escape.1, escape.2] at member
        have left := control.avoids_readHexUnit hex
          (control.mem_tail (by decide) (control.mem_tail (by decide) member))
        split at read
        · injection read with same
          rw [← same]
          exact left
        · cases read
    · cases read

theorem IsControl.avoids_readUnicodeEscape (control : IsControl byte) :
    Reading.Avoids byte readUnicodeEscape := by
  intro source found read member
  unfold readUnicodeEscape at read
  split at read
  · cases read
  · rename_i unit hex
    have left := control.avoids_readHexUnit hex member
    split at read
    · cases read
    · split at read
      · split at read
        · cases read
        · rename_i char trailing
          have gone := control.avoids_readTrailing _ trailing left
          cases read
          exact gone
      · cases read
        exact left

theorem le_of_shortEscape? {letter : UInt8} {char : Char}
    (short : shortEscape? letter = some char) : 0x20 ≤ letter := by
  unfold shortEscape? at short
  repeat
    split at short
    · rename_i same
      rw [same]
      decide
  cases short

theorem IsControl.avoids_readEscape (control : IsControl byte) :
    Reading.Avoids byte readEscape := by
  intro source found read member
  unfold readEscape at read
  split at read
  · cases read
  · rename_i letter rest
    split at read
    · rename_i unicode
      rw [unicode] at member
      split at read
      · cases read
      · rename_i char escape
        have gone := control.avoids_readUnicodeEscape escape
          (control.mem_tail (by decide) member)
        cases read
        exact gone
    · split at read
      · rename_i char short
        have gone := control.mem_tail (le_of_shortEscape? short) member
        cases read
        exact gone
      · cases read

/-- A string takes no control character as it stands: it has to be escaped. -/
theorem IsControl.mem_of_readStringTail (control : IsControl byte)
    {whole read source : List UInt8} {tail : source.length ≤ whole.length}
    {found : Found String whole} (reads : readStringTail read source tail = .ok found)
    (member : byte ∈ source) : byte ∈ found.rest := by
  fun_induction readStringTail read source tail with
  | case1 => cases member
  | case2 _ rest =>
      have left := control.mem_tail (by decide) member
      split at reads
      · cases reads
        exact left
      · cases reads
  | case3 =>
      have left := control.mem_tail (by decide) member
      split at reads
      · cases reads
        exact left
      · cases reads
  | case4 => cases reads
  | case5 _ rest char escape _ _ _ _ induction =>
      apply induction reads
      exact control.avoids_readEscape escape (control.mem_tail (by decide) member)
  | case6 => cases reads
  | case7 _ letter rest _ _ _ printable _ induction =>
      exact induction reads (control.mem_tail (UInt8.not_lt.mp printable) member)

theorem IsControl.avoids_readString (control : IsControl byte) :
    Reading.Avoids byte readString :=
  fun reads member => control.mem_of_readStringTail reads member

/-! ## Arrays, objects and values -/

theorem IsControl.mem_of_readMore (control : IsControl byte) {α : Type}
    {whole source : List UInt8} {closing : UInt8} (closes : 0x20 ≤ closing)
    {item : Reading α} (avoids : item.Avoids byte) {found : List α}
    {tail : source.length ≤ whole.length} {items : Found (List α) whole}
    (reads : readMore closing item found source tail = .ok items)
    (member : byte ∈ source) : byte ∈ items.rest := by
  fun_induction readMore closing item found source tail with
  | case1 => cases reads
  | case2 _ source tail rest blanks =>
      cases reads
      exact control.mem_of_skipBlanks blanks closes member
  | case3 => cases reads
  | case4 _ source tail rest next read _ blanks _ _ induction =>
      apply induction reads
      exact avoids read (control.mem_of_skipBlanks blanks (by decide) member)
  | case5 => cases reads

theorem IsControl.avoids_readItems (control : IsControl byte) {α : Type}
    {closing : UInt8} (closes : 0x20 ≤ closing) {item : Reading α}
    (avoids : item.Avoids byte) : (readItems closing item).Avoids byte := by
  intro source found reads member
  unfold readItems at reads
  split at reads
  · cases reads
  · rename_i letter rest blanks
    dsimp only at reads
    split at reads
    · rename_i same
      cases reads
      exact control.mem_of_skipBlanks blanks (by rw [same]; exact closes) member
    · split at reads
      · cases reads
      · rename_i next read
        apply control.mem_of_readMore closes avoids reads
        apply avoids read
        rw [← blanks]
        exact control.mem_skipBlanks member

theorem IsControl.avoids_readMember (control : IsControl byte) {value : Reading Value}
    (avoids : value.Avoids byte) : (readMember value).Avoids byte := by
  intro source found reads member
  unfold readMember at reads
  split at reads
  · cases reads
  · rename_i letter rest blanks
    dsimp only at reads
    split at reads
    · rename_i quote
      have opened := control.mem_of_skipBlanks blanks (by rw [quote]; decide) member
      split at reads
      · cases reads
      · rename_i name string
        have named := control.avoids_readString string opened
        split at reads
        · cases reads
        · rename_i colon afterColon gap
          split at reads
          · rename_i same
            split at reads
            · cases reads
            · rename_i read
              cases reads
              apply avoids read
              exact control.mem_of_skipBlanks gap (by rw [same]; decide) named
          · cases reads
    · cases reads

theorem IsControl.avoids_readValueWith (control : IsControl byte)
    {inner : Option (Reading Value)} (avoids : ∀ item ∈ inner, item.Avoids byte) :
    (readValueWith inner).Avoids byte := by
  intro source found reads member
  unfold readValueWith at reads
  split at reads
  · cases reads
  rename_i letter rest blanks
  have left := control.mem_skipBlanks member
  rw [blanks] at left
  dsimp only at reads
  split at reads
  · rename_i same
    rw [same] at left
    exact control.mem_of_expectWord (by decide) reads (control.mem_tail (by decide) left)
  split at reads
  · rename_i same
    rw [same] at left
    exact control.mem_of_expectWord (by decide) reads (control.mem_tail (by decide) left)
  split at reads
  · rename_i same
    rw [same] at left
    exact control.mem_of_expectWord (by decide) reads (control.mem_tail (by decide) left)
  split at reads
  · rename_i same
    rw [same] at left
    split at reads
    · cases reads
    · rename_i text string
      cases reads
      exact control.avoids_readString string (control.mem_tail (by decide) left)
  split at reads
  · rename_i same
    rw [same] at left
    split at reads
    · cases reads
    · rename_i item
      split at reads
      · cases reads
      · rename_i items read
        cases reads
        exact control.avoids_readItems (by decide) (avoids item rfl) read
          (control.mem_tail (by decide) left)
  split at reads
  · rename_i same
    rw [same] at left
    split at reads
    · cases reads
    · rename_i item
      split at reads
      · cases reads
      · rename_i members read
        cases reads
        exact control.avoids_readItems (by decide)
          (control.avoids_readMember (avoids item rfl)) read
          (control.mem_tail (by decide) left)
  split at reads
  · split at reads
    · cases reads
    · rename_i number
      cases reads
      exact control.mem_of_readNumber number left
  · cases reads

theorem IsControl.avoids_readValue (control : IsControl byte) (depth : Nat) :
    (readValue depth).Avoids byte := by
  induction depth with
  | zero => exact control.avoids_readValueWith (by simp)
  | succ depth induction =>
      apply control.avoids_readValueWith
      intro item same
      cases same
      exact induction

/-- No JSON text holds a control character that is no blank. -/
theorem not_mem_of_read (control : IsControl byte) {source : List UInt8} {value : Value}
    (reads : read source = .ok value) : byte ∉ source := by
  intro member
  unfold read at reads
  split at reads
  · cases reads
  · rename_i found first
    have left := control.mem_skipBlanks (control.avoids_readValue _ first member)
    split at reads
    · rename_i nothing
      rw [nothing] at left
      cases left
    · cases reads

end Overseer.Json
