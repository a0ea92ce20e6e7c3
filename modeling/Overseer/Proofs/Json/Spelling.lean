import Overseer.Proofs.Json.Grammar

/-!
# Strings are read by their grammar

The reader of a string works byte by byte and checks UTF-8 at the closing quote; the
grammar works character by character.  Between the two stand the pieces of a string: a
byte that is taken as it is, or an escape.  A character's encoding is told from what
follows, so the pieces of a well-formed text can be gathered into its characters.
-/

namespace Overseer.Json

/-! ## The encoding of a character -/

theorem encode_eq_flatMap (text : String) :
    Utf8.encode text = text.toList.flatMap String.utf8EncodeChar := by
  show text.toByteArray.data.toList = _
  rw [← String.utf8Encode_toList, List.utf8Encode, List.data_toByteArray]

theorem encode_toString (char : Char) :
    Utf8.encode char.toString = String.utf8EncodeChar char := by
  simp [encode_eq_flatMap]

/-- No encoding of a character is the beginning of another one. -/
theorem utf8EncodeChar_append_inj {first second : Char} {behind others : List UInt8}
    (same : String.utf8EncodeChar first ++ behind = String.utf8EncodeChar second ++ others) :
    first = second ∧ behind = others := by
  have chars : first = second := by
    have decoded := congrArg (fun bytes : List UInt8 => bytes.toByteArray.utf8DecodeChar? 0) same
    simpa only [List.toByteArray_append, ByteArray.utf8DecodeChar?_utf8EncodeChar_append,
      Option.some.injEq] using decoded
  subst chars
  exact ⟨rfl, List.append_cancel_left same⟩

def Continues (byte : UInt8) : Prop :=
  ¬ byte.IsUTF8FirstByte

theorem utf8EncodeChar_eq_cons (char : Char) :
    ∃ first others, String.utf8EncodeChar char = first :: others ∧
      ¬ Continues first ∧ ∀ byte ∈ others, Continues byte := by
  obtain ⟨first, others, whole⟩ :=
    List.exists_cons_of_ne_nil (String.utf8EncodeChar_ne_nil (c := char))
  have places (place : Nat) (within : place < (first :: others).length) :
      (first :: others)[place].IsUTF8FirstByte ↔ place = 0 := by
    have known := @UInt8.isUTF8FirstByte_getElem_utf8EncodeChar char place
      (by rw [whole]; exact within)
    simpa only [whole] using known
  refine ⟨first, others, whole, fun continues => continues ((places 0 (by simp)).mpr rfl), ?_⟩
  intro byte member leads
  obtain ⟨place, within, rfl⟩ := List.mem_iff_getElem.mp member
  have zero := (places (place + 1) (by simpa using within)).mp leads
  omega

/-- The encoding of a character is the character itself, or it is not ASCII. -/
theorem utf8EncodeChar_cases (char : Char) :
    (char.toNat < 0x80 ∧ String.utf8EncodeChar char = [char.val.toUInt8]) ∨
      (0x80 ≤ char.toNat ∧ ∀ byte ∈ String.utf8EncodeChar char, 0x80 ≤ byte.toNat) := by
  have high (bits mark : UInt8) (marks : 0x80 ≤ mark.toNat) : 0x80 ≤ (bits ||| mark).toNat := by
    rw [UInt8.toNat_or]
    exact Nat.le_trans marks Nat.right_le_or
  have bound : 127 < char.val → 0x80 ≤ char.toNat := fun less => UInt32.lt_iff_toNat_lt.mp less
  rcases char.utf8Size_eq with one | two | three | four
  · left
    have least := UInt32.le_iff_toNat_le.mp (Char.utf8Size_eq_one_iff.mp one)
    exact ⟨Nat.lt_succ_of_le least, String.utf8EncodeChar_eq_singleton one⟩
  · right
    refine ⟨bound (Char.utf8Size_eq_two_iff.mp two).1, ?_⟩
    rw [String.utf8EncodeChar_eq_cons_cons two]
    simp only [List.forall_mem_cons, List.not_mem_nil, false_implies, implies_true, and_true]
    exact ⟨high _ _ (by decide), high _ _ (by decide)⟩
  · right
    refine ⟨bound (UInt32.lt_trans (by decide) (Char.utf8Size_eq_three_iff.mp three).1), ?_⟩
    rw [String.utf8EncodeChar_eq_cons_cons_cons three]
    simp only [List.forall_mem_cons, List.not_mem_nil, false_implies, implies_true, and_true]
    exact ⟨high _ _ (by decide), high _ _ (by decide), high _ _ (by decide)⟩
  · right
    refine ⟨bound (UInt32.lt_trans (by decide) (Char.utf8Size_eq_four_iff.mp four)), ?_⟩
    rw [String.utf8EncodeChar_eq_cons_cons_cons_cons four]
    simp only [List.forall_mem_cons, List.not_mem_nil, false_implies, implies_true, and_true]
    exact ⟨high _ _ (by decide), high _ _ (by decide), high _ _ (by decide),
      high _ _ (by decide)⟩

/-! ## Bytes that stand for themselves -/

/-- A byte that the reader takes as it is. -/
structure IsRaw (byte : UInt8) : Prop where
  printable : ¬ byte < 0x20
  no_quote : byte ≠ 0x22
  no_slash : byte ≠ 0x5c

theorem isRaw_of_high {byte : UInt8} (high : 0x80 ≤ byte.toNat) : IsRaw byte where
  printable := fun low => by
    have less := UInt8.lt_iff_toNat_lt.mp low
    change byte.toNat < 0x20 at less
    omega
  no_quote := by rintro rfl; simp at high
  no_slash := by rintro rfl; simp at high

/-- A character may stand in a string as it is when the bytes of its encoding may. -/
theorem isPlain_iff_isRaw (char : Char) :
    isPlain char ↔ ∀ byte ∈ String.utf8EncodeChar char, IsRaw byte := by
  rcases utf8EncodeChar_cases char with ⟨low, single⟩ | ⟨high, bytes⟩
  · have value : char.val.toUInt8.toNat = char.toNat := by
      rw [UInt32.toNat_toUInt8, Nat.mod_eq_of_lt (by change char.toNat < 256; omega)]
      rfl
    have byte_eq (other : Char) (small : other.toNat < 0x80) :
        char.val.toUInt8 = other.val.toUInt8 ↔ char = other := by
      have otherValue : other.val.toUInt8.toNat = other.toNat := by
        rw [UInt32.toNat_toUInt8, Nat.mod_eq_of_lt (by change other.toNat < 256; omega)]
        rfl
      constructor
      · intro same
        rw [← Char.toNat_inj, ← value, ← otherValue, same]
      · rintro rfl
        rfl
    have printable : 0x20 ≤ char.toNat ↔ ¬ char.val.toUInt8 < 0x20 := by
      rw [UInt8.lt_iff_toNat_lt, value]
      exact Nat.not_lt.symm
    rw [single]
    constructor
    · rintro ⟨least, no_quote, no_slash⟩ byte member
      cases List.mem_singleton.mp member
      exact ⟨printable.mp least, fun same => no_quote ((byte_eq '"' (by decide)).mp same),
        fun same => no_slash ((byte_eq '\\' (by decide)).mp same)⟩
    · intro raws
      have raw := raws _ List.mem_cons_self
      exact ⟨printable.mpr raw.printable,
        fun same => raw.no_quote ((byte_eq '"' (by decide)).mpr same),
        fun same => raw.no_slash ((byte_eq '\\' (by decide)).mpr same)⟩
  · constructor
    · intro _ byte member
      exact isRaw_of_high (bytes byte member)
    · intro _
      exact ⟨by omega, by rintro rfl; revert high; decide, by rintro rfl; revert high; decide⟩

/-! ## The pieces of a string -/

/-- What stands between quotes, with the bytes it means. -/
inductive PiecesText : Texts (List UInt8) where
  | nil : PiecesText [] []
  | raw {byte : UInt8} {bytes meaning : List UInt8} (stands : IsRaw byte)
      (others : PiecesText bytes meaning) : PiecesText (byte :: bytes) (byte :: meaning)
  | escape {escaped bytes meaning : List UInt8} {char : Char} (writes : EscapeText escaped char)
      (others : PiecesText bytes meaning) :
      PiecesText (0x5c :: (escaped ++ bytes)) (String.utf8EncodeChar char ++ meaning)

variable {bytes meaning : List UInt8}

theorem PiecesText.append_raw {raws : List UInt8} (stand : ∀ byte ∈ raws, IsRaw byte)
    (others : PiecesText bytes meaning) : PiecesText (raws ++ bytes) (raws ++ meaning) := by
  induction raws with
  | nil => exact others
  | cons first rest induction =>
      exact .raw (stand first List.mem_cons_self)
        (induction fun byte member => stand byte (List.mem_cons_of_mem _ member))

/-- Bytes that continue a character are not the beginning of an escape's meaning. -/
theorem PiecesText.split_continuation {continuation : List UInt8}
    (continues : ∀ byte ∈ continuation, Continues byte)
    (pieces : PiecesText bytes (continuation ++ meaning)) :
    ∃ rest, bytes = continuation ++ rest ∧ (∀ byte ∈ continuation, IsRaw byte) ∧
      PiecesText rest meaning := by
  induction continuation generalizing bytes with
  | nil => exact ⟨bytes, rfl, by simp, pieces⟩
  | cons first others induction =>
      generalize whole : (first :: others) ++ meaning = all at pieces
      cases pieces with
      | nil => cases whole
      | raw stands tail =>
          injection whole with same behind
          subst same behind
          obtain ⟨rest, rfl, raws, left⟩ :=
            induction (fun byte member => continues byte (List.mem_cons_of_mem _ member)) tail
          refine ⟨rest, rfl, ?_, left⟩
          intro byte member
          rcases List.mem_cons.mp member with rfl | later
          · exact stands
          · exact raws byte later
      | @escape _ _ _ char _ _ =>
          obtain ⟨lead, _, encoding, leads, -⟩ := utf8EncodeChar_eq_cons char
          rw [encoding] at whole
          injection whole with same
          subst same
          exact absurd (continues first List.mem_cons_self) leads

theorem charsText_iff_piecesText {chars : List Char} :
    CharsText bytes chars ↔ PiecesText bytes (chars.flatMap String.utf8EncodeChar) := by
  constructor
  · intro writes
    induction writes with
    | nil => exact .nil
    | cons head _ induction =>
        rw [List.flatMap_cons]
        cases head with
        | plain stands => exact induction.append_raw ((isPlain_iff_isRaw _).mp stands)
        | escaped escape => exact .escape escape induction
  · intro pieces
    induction chars generalizing bytes with
    | nil =>
        generalize nothing : [].flatMap String.utf8EncodeChar = meaning at pieces
        cases pieces with
        | nil => exact .nil
        | raw => cases nothing
        | escape =>
            have empty := (List.append_eq_nil_iff.mp nothing.symm).1
            exact absurd empty String.utf8EncodeChar_ne_nil
    | cons char chars induction =>
        rw [List.flatMap_cons] at pieces
        generalize whole : String.utf8EncodeChar char ++ chars.flatMap String.utf8EncodeChar =
          meaning at pieces
        cases pieces with
        | nil =>
            have empty := (List.append_eq_nil_iff.mp whole).1
            exact absurd empty String.utf8EncodeChar_ne_nil
        | escape escape others =>
            obtain ⟨rfl, rfl⟩ := utf8EncodeChar_append_inj whole
            exact .cons (.escaped escape) (induction others)
        | raw stands others =>
            obtain ⟨lead, continuation, encoding, -, continues⟩ := utf8EncodeChar_eq_cons char
            rw [encoding] at whole
            cases whole
            obtain ⟨rest, rfl, raws, left⟩ := others.split_continuation continues
            have plain : isPlain char := by
              rw [isPlain_iff_isRaw, encoding]
              intro byte member
              rcases List.mem_cons.mp member with rfl | later
              · exact stands
              · exact raws byte later
            have gathered := CharsText.cons (.plain plain) (induction left)
            rwa [encoding] at gathered

/-! ## Escapes -/

/-- What a step finds at the head of a source, whatever the proof that it ends. -/
def Reading.Takes {α : Type} (step : Reading α) (source : List UInt8) (value : α)
    (rest : List UInt8) : Prop :=
  ∃ shorter, step source = .ok ⟨value, rest, shorter⟩

variable {source rest : List UInt8} {char : Char}

theorem takes_readHexUnit_iff {unit : Nat} :
    readHexUnit.Takes source unit rest ↔
      ∃ bytes, source = bytes ++ rest ∧ UnitText bytes unit := by
  constructor
  · rintro ⟨shorter, reads⟩
    unfold readHexUnit at reads
    split at reads
    · split at reads
      · rename_i first second third fourth
        cases reads
        exact ⟨_, rfl, .digits first second third fourth⟩
      · cases reads
    · cases reads
  · rintro ⟨bytes, rfl, writes⟩
    cases writes with
    | digits first second third fourth =>
        refine ⟨by simp only [List.cons_append, List.nil_append, List.length_cons]; omega, ?_⟩
        simp only [List.cons_append, List.nil_append, readHexUnit, first, second, third, fourth]

theorem takes_readTrailing_iff (leading : Nat) :
    Reading.Takes (readTrailing leading) source char rest ↔
      ∃ bytes unit, source = 0x5c :: 0x75 :: (bytes ++ rest) ∧ UnitText bytes unit ∧
        isTrailing unit = true ∧ char = pairedChar leading unit := by
  constructor
  · rintro ⟨shorter, reads⟩
    unfold readTrailing at reads
    split at reads
    · cases reads
    · cases reads
    · split at reads
      · rename_i escape
        split at reads
        · cases reads
        · rename_i unit hex
          obtain ⟨bytes, whole, writes⟩ := takes_readHexUnit_iff.mp ⟨unit.shorter, hex⟩
          split at reads
          · rename_i trails
            simp only [Except.ok.injEq, Found.mk.injEq] at reads
            rw [escape.1, escape.2, whole, reads.2]
            exact ⟨bytes, unit.value, rfl, writes, trails, reads.1.symm⟩
          · cases reads
      · cases reads
  · rintro ⟨bytes, unit, rfl, writes, trails, value⟩
    obtain ⟨shorter, hex⟩ := takes_readHexUnit_iff.mpr ⟨bytes, rfl, writes⟩
    refine ⟨Nat.lt_succ_of_lt (Nat.lt_succ_of_lt shorter), ?_⟩
    simp only [readTrailing, hex, trails, and_self, if_true, value, pairedChar]

theorem isTrailing_of_isLeading {unit : Nat} (leads : isLeading unit = true) :
    isTrailing unit = false := by
  simp only [isLeading, Bool.and_eq_true, decide_eq_true_eq] at leads
  simp only [isTrailing, Bool.and_eq_false_iff, decide_eq_false_iff_not]
  omega

theorem takes_readUnicodeEscape_iff :
    readUnicodeEscape.Takes source char rest ↔
      ∃ bytes, source = bytes ++ rest ∧ EscapeText (0x75 :: bytes) char := by
  constructor
  · rintro ⟨shorter, reads⟩
    unfold readUnicodeEscape at reads
    split at reads
    · cases reads
    rename_i unit hex
    obtain ⟨bytes, whole, units⟩ := takes_readHexUnit_iff.mp ⟨unit.shorter, hex⟩
    split at reads
    · cases reads
    rename_i trails
    split at reads
    · rename_i leads
      split at reads
      · cases reads
      · rename_i tail trailing
        cases reads
        obtain ⟨behind, other, rest_eq, others, trailing_unit, value⟩ :=
          (takes_readTrailing_iff _).mp ⟨tail.shorter, trailing⟩
        refine ⟨bytes ++ 0x5c :: 0x75 :: behind, ?_, ?_⟩
        · rw [List.append_assoc]
          exact whole.trans (congrArg (bytes ++ ·) rest_eq)
        · show EscapeText _ tail.value
          rw [value]
          exact .pair units others leads trailing_unit
    · rename_i leads
      cases reads
      exact ⟨bytes, whole,
        .unit units (Bool.eq_false_iff.mpr leads) (Bool.eq_false_iff.mpr trails)⟩
  · rintro ⟨bytes, rfl, writes⟩
    cases writes with
    | short stands => cases stands
    | unit units leads trails =>
        obtain ⟨shorter, hex⟩ := takes_readHexUnit_iff.mpr ⟨bytes, rfl, units⟩
        refine ⟨shorter, ?_⟩
        simp only [readUnicodeEscape, hex, leads, trails]
        rfl
    | @pair first behind leading trailing units others leads trails =>
        rw [List.append_assoc, List.cons_append, List.cons_append]
        obtain ⟨shorter, hex⟩ := takes_readHexUnit_iff.mpr
          ⟨first, rfl, units⟩
        obtain ⟨behindShorter, other⟩ := (takes_readTrailing_iff leading).mpr
          ⟨behind, trailing, rfl, others, trails, rfl⟩
        refine ⟨Nat.lt_trans behindShorter shorter, ?_⟩
        simp only [readUnicodeEscape, hex, leads, isTrailing_of_isLeading leads, other,
          Bool.false_eq_true, if_false, if_true, Found.within]

theorem takes_readEscape_iff :
    readEscape.Takes source char rest ↔
      ∃ bytes, source = bytes ++ rest ∧ EscapeText bytes char := by
  constructor
  · rintro ⟨shorter, reads⟩
    unfold readEscape at reads
    split at reads
    · cases reads
    split at reads
    · rename_i unicode
      split at reads
      · cases reads
      · rename_i found escape
        cases reads
        obtain ⟨bytes, whole, writes⟩ :=
          takes_readUnicodeEscape_iff.mp ⟨found.shorter, escape⟩
        exact ⟨0x75 :: bytes, by rw [unicode]; exact congrArg (0x75 :: ·) whole, writes⟩
    · split at reads
      · rename_i short
        cases reads
        exact ⟨[_], rfl, .short short⟩
      · cases reads
  · have unicode {bytes : List UInt8} (writes : EscapeText (0x75 :: bytes) char) :
        readEscape.Takes (0x75 :: bytes ++ rest) char rest := by
      obtain ⟨shorter, escape⟩ := takes_readUnicodeEscape_iff.mpr ⟨bytes, rfl, writes⟩
      refine ⟨Nat.lt_succ_of_lt shorter, ?_⟩
      simp only [List.cons_append, readEscape, if_true, escape]
      rfl
    rintro ⟨bytes, rfl, writes⟩
    cases writes with
    | short stands =>
        refine ⟨by simp, ?_⟩
        simp only [List.cons_append, List.nil_append, readEscape, stands]
        rw [if_neg (by rintro rfl; cases stands)]
    | unit units leads trails => exact unicode (.unit units leads trails)
    | pair first second leads trails => exact unicode (.pair first second leads trails)

/-! ## Strings -/

variable {text : String}

theorem pieces_of_readStringTail {whole read : List UInt8}
    {tail : source.length ≤ whole.length} {found : Found String whole}
    (reads : readStringTail read source tail = .ok found) :
    ∃ bytes meaning, source = bytes ++ 0x22 :: found.rest ∧ PiecesText bytes meaning ∧
      Utf8.decode? (read.reverse ++ meaning) = some found.value := by
  have closed {read rest : List UInt8} {text : String}
      (decoded : Utf8.decode? read.reverse = some text) :
      ∃ bytes meaning, 0x22 :: rest = bytes ++ 0x22 :: rest ∧ PiecesText bytes meaning ∧
        Utf8.decode? (read.reverse ++ meaning) = some text :=
    ⟨[], [], rfl, .nil, by rw [List.append_nil]; exact decoded⟩
  fun_induction readStringTail read source tail with
  | case1 => cases reads
  | case2 =>
      split at reads
      · rename_i decoded
        cases reads
        exact closed decoded
      · cases reads
  | case3 =>
      split at reads
      · rename_i decoded
        cases reads
        exact closed decoded
      · cases reads
  | case4 => cases reads
  | case5 _ rest char escape _ _ _ _ induction =>
      obtain ⟨bytes, meaning, behind, pieces, decoded⟩ := induction reads
      obtain ⟨escaped, source_eq, writes⟩ := takes_readEscape_iff.mp ⟨char.shorter, escape⟩
      refine ⟨_, _, ?_, .escape writes pieces, ?_⟩
      · rw [List.cons_append, List.append_assoc, ← behind, ← source_eq]
      · rw [encode_toString, List.reverse_append, List.reverse_reverse, List.append_assoc]
          at decoded
        exact decoded
  | case6 => cases reads
  | case7 _ letter rest _ no_quote no_slash printable _ induction =>
      obtain ⟨bytes, meaning, behind, pieces, decoded⟩ := induction reads
      have raw : IsRaw letter := ⟨by assumption, by assumption, by assumption⟩
      refine ⟨letter :: bytes, letter :: meaning, by rw [behind]; rfl, .raw raw pieces, ?_⟩
      rw [List.reverse_cons, List.append_assoc] at decoded
      exact decoded

theorem readStringTail_of_pieces (pieces : PiecesText bytes meaning) :
    ∀ {whole source : List UInt8} (read : List UInt8) (tail : source.length ≤ whole.length),
      source = bytes ++ 0x22 :: rest → Utf8.decode? (read.reverse ++ meaning) = some text →
        ∃ shorter, readStringTail read source tail = .ok ⟨text, rest, shorter⟩ := by
  induction pieces with
  | nil =>
      intro whole source read tail source_eq decoded
      rw [List.nil_append] at source_eq
      subst source_eq
      rw [List.append_nil] at decoded
      refine ⟨tail, ?_⟩
      unfold readStringTail
      rw [if_pos rfl]
      split
      · rename_i again
        rw [decoded] at again
        cases again
        rfl
      · rename_i again
        rw [decoded] at again
        cases again
  | @raw byte bytes meaning stands others induction =>
      intro whole source read tail source_eq decoded
      rw [List.cons_append] at source_eq
      subst source_eq
      obtain ⟨shorter, reads⟩ := induction (byte :: read) (Nat.le_of_succ_le tail) rfl
        (by rw [List.reverse_cons, List.append_assoc]; exact decoded)
      refine ⟨shorter, ?_⟩
      unfold readStringTail
      rw [if_neg stands.no_quote, if_neg stands.no_slash, if_neg stands.printable]
      exact reads
  | @escape escaped bytes meaning char writes others induction =>
      intro whole source read tail source_eq decoded
      rw [List.cons_append, List.append_assoc] at source_eq
      subst source_eq
      obtain ⟨escapeShorter, escape⟩ := takes_readEscape_iff.mpr ⟨escaped, rfl, writes⟩
      obtain ⟨shorter, reads⟩ := induction ((Utf8.encode char.toString).reverse ++ read)
        (Nat.le_trans (Nat.le_of_lt escapeShorter) (Nat.le_of_succ_le tail)) rfl
        (by rw [List.reverse_append, List.reverse_reverse, encode_toString, List.append_assoc]
            exact decoded)
      refine ⟨shorter, ?_⟩
      unfold readStringTail
      rw [if_neg (by decide), if_pos rfl]
      simp only [escape]
      exact reads

/-- The reader of strings begins behind the opening quote. -/
theorem takes_readString_iff :
    readString.Takes source text rest ↔
      ∃ bytes, 0x22 :: source = bytes ++ rest ∧ StringText bytes text := by
  constructor
  · rintro ⟨shorter, reads⟩
    obtain ⟨bytes, meaning, whole, pieces, decoded⟩ := pieces_of_readStringTail reads
    refine ⟨0x22 :: (bytes ++ [0x22]), by simpa using whole, .quoted ?_⟩
    rw [charsText_iff_piecesText, ← encode_eq_flatMap, ← Utf8.decode?_eq_some_iff.mp decoded]
    exact pieces
  · rintro ⟨_, whole, ⟨chars⟩⟩
    rw [charsText_iff_piecesText, ← encode_eq_flatMap] at chars
    exact readStringTail_of_pieces chars [] (Nat.le_refl _) (by simpa using whole)
      (Utf8.decode?_encode text)

end Overseer.Json
