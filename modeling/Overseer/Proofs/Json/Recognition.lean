import Overseer.Proofs.Json.Numerals
import Overseer.Proofs.Json.Spelling

/-!
# The reader recognises the grammar

`read` finds a value exactly in the texts of that value.  Each step takes as much as it
can, so what stands behind a value decides where a number ends: `Ends` is what may come
there.  A step that takes the texts of an item with blanks before it is a `Reads`; the
steps for lists, members and values pass that on from the inside to the outside, and
`readValue` has it by induction on the depth.
-/

namespace Overseer.Json

/-! ## Blanks and words -/

variable {before bytes behind rest source : List UInt8}

theorem areBlanks_nil : AreBlanks [] := by
  intro byte member
  cases member

theorem AreBlanks.append (first : AreBlanks before) (second : AreBlanks behind) :
    AreBlanks (before ++ behind) := by
  intro byte member
  rcases List.mem_append.mp member with left | right
  · exact first byte left
  · exact second byte right

theorem exists_blanks (source : List UInt8) :
    ∃ before, source = before ++ skipBlanks source ∧ AreBlanks before :=
  ⟨source.takeWhile isJsonBlank, List.takeWhile_append_dropWhile.symm,
    fun byte member => List.all_eq_true.mp List.all_takeWhile byte member⟩

theorem skipBlanks_append (byte : UInt8) (rest : List UInt8) (blanks : AreBlanks before)
    (unblank : isJsonBlank byte = false) :
    skipBlanks (before ++ byte :: rest) = byte :: rest := by
  unfold skipBlanks
  rw [List.dropWhile_append_of_pos blanks, List.dropWhile_cons_of_neg (by rw [unblank]; simp)]

theorem skipBlanks_eq_nil_iff : skipBlanks source = [] ↔ AreBlanks source := by
  constructor
  · intro nothing
    obtain ⟨before, source_eq, blanks⟩ := exists_blanks source
    rw [nothing, List.append_nil] at source_eq
    rw [source_eq]
    exact blanks
  · intro blanks
    have skipped : skipBlanks (source ++ []) = [] := List.dropWhile_append_of_pos blanks
    rw [List.append_nil] at skipped
    exact skipped

theorem expectWord_eq_ok_iff {α : Type} {whole : List UInt8} {value : α}
    {word source : List UInt8} {shorter : source.length < whole.length}
    {found : Found α whole} :
    expectWord value word source shorter = .ok found ↔
      source = word ++ found.rest ∧ found.value = value := by
  induction word generalizing source with
  | nil =>
      constructor
      · intro reads
        cases reads
        exact ⟨rfl, rfl⟩
      · rintro ⟨whole_eq, same⟩
        cases found
        rw [List.nil_append] at whole_eq
        subst whole_eq same
        rfl
  | cons letter word induction =>
      cases source with
      | nil => simp [expectWord]
      | cons head source =>
          unfold expectWord
          split
          · rename_i same
            rw [induction, same]
            simp
          · rename_i differs
            simp [differs]

/-! ## What may stand behind a value -/

/-- A byte that may come behind a value. -/
def IsEnd (byte : UInt8) : Prop :=
  isJsonBlank byte = true ∨ byte = 0x2c ∨ byte = 0x5d ∨ byte = 0x7d

/-- Bytes that may come behind a value. -/
def Ends (rest : List UInt8) : Prop :=
  ∀ byte ∈ rest.head?, IsEnd byte

/-- A bracket that closes an array or an object. -/
def Closes (byte : UInt8) : Prop :=
  byte = 0x5d ∨ byte = 0x7d

theorem Ends.of_cons {byte : UInt8} (ends : IsEnd byte) : Ends (byte :: rest) := by
  rintro _ ⟨⟩
  exact ends

theorem Ends.blanks (blanks : AreBlanks before) (ends : Ends rest) : Ends (before ++ rest) := by
  cases before with
  | nil => exact ends
  | cons byte others => exact .of_cons (.inl (blanks byte List.mem_cons_self))

theorem Closes.isEnd {byte : UInt8} (closes : Closes byte) : IsEnd byte :=
  .inr (.inr closes)

theorem Closes.unblank {byte : UInt8} (closes : Closes byte) : isJsonBlank byte = false := by
  rcases closes with rfl | rfl <;> rfl

theorem Closes.no_comma {byte : UInt8} (closes : Closes byte) : 0x2c ≠ byte := by
  rcases closes with rfl | rfl <;> decide

theorem Ends.endsNumber (ends : Ends rest) : EndsNumber rest := by
  cases rest with
  | nil => exact ⟨by simp, by simp, by simp⟩
  | cons byte others =>
      have allowed : byte = 0x20 ∨ byte = 0x09 ∨ byte = 0x0a ∨ byte = 0x0d ∨ byte = 0x2c ∨
          byte = 0x5d ∨ byte = 0x7d := by
        have ends := ends byte rfl
        simp only [IsEnd, isJsonBlank, Bool.or_eq_true, decide_eq_true_eq, or_assoc] at ends
        exact ends
      rcases allowed with rfl | rfl | rfl | rfl | rfl | rfl | rfl <;>
        exact ⟨by simp; decide, by simp, by simp⟩

/-! ## Reading steps -/

/-- A byte that an item starts with: it is told from blanks and from a closing bracket. -/
structure Opens (byte : UInt8) : Prop where
  unblank : isJsonBlank byte = false
  open_still : ¬ Closes byte

/-- The step finds exactly the texts of an item, with blanks before them. -/
structure Reads {α : Type} (step : Reading α) (text : Texts α) : Prop where
  sound {source rest : List UInt8} {value : α} : step.Takes source value rest →
    ∃ before bytes, source = before ++ (bytes ++ rest) ∧ AreBlanks before ∧ text bytes value
  complete {before bytes rest : List UInt8} {value : α} : AreBlanks before →
    text bytes value → Ends rest → step.Takes (before ++ (bytes ++ rest)) value rest
  opens {bytes : List UInt8} {value : α} : text bytes value →
    ∃ first others, bytes = first :: others ∧ Opens first

section Lists

variable {α : Type} {item : Reading α} {text : Texts α} {closing : UInt8}

/-- What is left of a list after an item, as the reader meets it. -/
inductive MoreText (text : Texts α) : Texts (List α) where
  | done {gap : List UInt8} (blanks : AreBlanks gap) : MoreText text gap []
  | comma {gap lead bytes others : List UInt8} {value : α} {values : List α}
      (blanks : AreBlanks gap) (leads : AreBlanks lead) (writes : text bytes value)
      (more : MoreText text others values) :
      MoreText text (gap ++ 0x2c :: (lead ++ (bytes ++ others))) (value :: values)

theorem separated_iff {values : List α} :
    Separated text bytes values ↔
      ∃ lead first others value more, bytes = lead ++ (first ++ others) ∧ AreBlanks lead ∧
        text first value ∧ MoreText text others more ∧ values = value :: more := by
  constructor
  · intro separated
    induction separated with
    | last writes =>
        obtain ⟨leads, writes, trails⟩ := writes
        exact ⟨_, _, _, _, _, rfl, leads, writes, .done trails, rfl⟩
    | more writes _ induction =>
        obtain ⟨leads, writes, trails⟩ := writes
        obtain ⟨lead, first, others, value, values, rfl, blanks, text, more, rfl⟩ := induction
        refine ⟨_, _, _, _, _, ?_, leads, writes, .comma trails blanks text more, rfl⟩
        simp only [List.append_assoc]
  · rintro ⟨lead, first, others, value, more, rfl, leads, writes, tail, rfl⟩
    induction tail generalizing lead first value with
    | done blanks => exact .last (.between leads writes blanks)
    | comma blanks following text _ induction =>
        have left := Separated.more (.between leads writes blanks)
          (induction _ _ _ following text)
        simpa only [List.append_assoc] using left

theorem MoreText.ends {values : List α} (more : MoreText text bytes values)
    (closes : Closes closing) (rest : List UInt8) : Ends (bytes ++ closing :: rest) := by
  cases more with
  | done blanks => exact .blanks blanks (.of_cons closes.isEnd)
  | comma blanks =>
      rw [List.append_assoc]
      exact .blanks blanks (.of_cons (.inr (.inl rfl)))

theorem moreText_of_readMore (reads : Reads item text) {whole : List UInt8} {found : List α}
    {tail : source.length ≤ whole.length} {values : Found (List α) whole}
    (finds : readMore closing item found source tail = .ok values) :
    ∃ bytes more, source = bytes ++ closing :: values.rest ∧ MoreText text bytes more ∧
      values.value = found.reverse ++ more := by
  fun_induction readMore closing item found source tail with
  | case1 => cases finds
  | case2 found source tail rest blanks =>
      cases finds
      obtain ⟨gap, source_eq, gaps⟩ := exists_blanks source
      refine ⟨gap, [], ?_, .done gaps, (List.append_nil _).symm⟩
      rw [← blanks]
      exact source_eq
  | case3 => cases finds
  | case4 found source tail rest next read _ blanks _ _ induction =>
      obtain ⟨gap, source_eq, gaps⟩ := exists_blanks source
      obtain ⟨lead, bytes, rest_eq, leads, writes⟩ := reads.sound ⟨next.shorter, read⟩
      obtain ⟨others, more, next_eq, texts, values_eq⟩ := induction finds
      refine ⟨_, _, ?_, .comma gaps leads writes texts, ?_⟩
      · rw [source_eq, blanks, rest_eq, next_eq]
        simp only [List.append_assoc, List.cons_append]
      · rw [values_eq]
        simp
  | case5 => cases finds

theorem readMore_of_moreText (reads : Reads item text) (closes : Closes closing)
    {more : List α} (texts : MoreText text bytes more) :
    ∀ (whole : List UInt8) {source : List UInt8} (found : List α)
      (tail : source.length ≤ whole.length), source = bytes ++ closing :: rest →
        ∃ shorter, readMore closing item found source tail =
          .ok ⟨found.reverse ++ more, rest, shorter⟩ := by
  induction texts with
  | done blanks =>
      intro whole source found tail source_eq
      have skipped := skipBlanks_append closing rest blanks closes.unblank
      rw [← source_eq] at skipped
      refine ⟨Nat.lt_of_lt_of_le (length_lt_of_skipBlanks_eq skipped) tail, ?_⟩
      unfold readMore
      split
      · rename_i nothing
        rw [skipped] at nothing
        cases nothing
      · rename_i again
        rw [skipped] at again
        cases again
        simp
  | @comma gap lead bytes others value values blanks leads writes more induction =>
      intro whole source found tail source_eq
      have skipped := skipBlanks_append 0x2c (lead ++ (bytes ++ (others ++ closing :: rest)))
        blanks rfl
      have source_eq :
          source = gap ++ 0x2c :: (lead ++ (bytes ++ (others ++ closing :: rest))) := by
        simpa only [List.append_assoc, List.cons_append] using source_eq
      rw [← source_eq] at skipped
      obtain ⟨itemShorter, read⟩ := reads.complete leads writes (more.ends closes rest)
      have bound := length_lt_of_skipBlanks_eq skipped
      obtain ⟨shorter, others_read⟩ := induction whole (value :: found)
        (Nat.le_of_lt (Nat.lt_trans itemShorter (Nat.lt_of_lt_of_le bound tail))) rfl
      refine ⟨shorter, ?_⟩
      unfold readMore
      split
      · rename_i nothing
        rw [skipped] at nothing
        cases nothing
      · rename_i again
        rw [skipped] at again
        cases again
        dsimp only
        rw [if_neg closes.no_comma, if_pos rfl]
        simp only [read]
        rw [others_read]
        simp

theorem takes_readItems_iff (reads : Reads item text) (closes : Closes closing)
    {values : List α} :
    Reading.Takes (readItems closing item) source values rest ↔
      ∃ bytes, source = bytes ++ closing :: rest ∧ Listed text bytes values := by
  constructor
  · rintro ⟨shorter, finds⟩
    obtain ⟨gap, source_eq, gaps⟩ := exists_blanks source
    unfold readItems at finds
    split at finds
    · cases finds
    rename_i byte behind blanks
    rw [blanks] at source_eq
    dsimp only at finds
    split at finds
    · rename_i same
      cases finds
      exact ⟨gap, by rw [source_eq, same], .nothing gaps⟩
    · split at finds
      · cases finds
      rename_i next read
      obtain ⟨lead, first, first_eq, leads, writes⟩ := reads.sound ⟨next.shorter, read⟩
      obtain ⟨others, more, next_eq, texts, values_eq⟩ := moreText_of_readMore reads finds
      refine ⟨(gap ++ lead) ++ (first ++ others), ?_, .items (separated_iff.mpr
        ⟨_, _, _, _, _, rfl, gaps.append leads, writes, texts, values_eq⟩)⟩
      rw [source_eq, first_eq, next_eq]
      simp only [List.append_assoc]
  · rintro ⟨bytes, source_eq, listed⟩
    cases listed with
    | nothing blanks =>
        have skipped := skipBlanks_append closing rest blanks closes.unblank
        rw [← source_eq] at skipped
        refine ⟨length_lt_of_skipBlanks_eq skipped, ?_⟩
        unfold readItems
        split
        · rename_i nothing
          rw [skipped] at nothing
          cases nothing
        · rename_i again
          rw [skipped] at again
          cases again
          simp
    | items separated =>
        obtain ⟨lead, first, others, value, more, rfl, leads, writes, texts, rfl⟩ :=
          separated_iff.mp separated
        obtain ⟨head, tail, rfl, opens⟩ := reads.opens writes
        obtain ⟨itemShorter, read⟩ := reads.complete areBlanks_nil writes
          (texts.ends closes rest)
        have source_eq : source = lead ++ head :: (tail ++ (others ++ closing :: rest)) := by
          simpa only [List.append_assoc, List.cons_append] using source_eq
        have skipped := skipBlanks_append head (tail ++ (others ++ closing :: rest)) leads
          opens.unblank
        rw [← source_eq] at skipped
        have bound := length_lt_of_skipBlanks_eq skipped
        obtain ⟨shorter, others_read⟩ := readMore_of_moreText reads closes texts source [value]
          (Nat.le_trans (Nat.le_of_lt_succ itemShorter) (Nat.le_of_lt bound)) rfl
        refine ⟨shorter, ?_⟩
        unfold readItems
        split
        · rename_i nothing
          rw [skipped] at nothing
          cases nothing
        · rename_i again
          rw [skipped] at again
          cases again
          dsimp only
          rw [if_neg (by rintro rfl; exact opens.open_still closes)]
          simp only [List.nil_append, List.cons_append] at read
          simp only [read]
          exact others_read

end Lists

/-! ## Members and values -/

theorem opens_of_isJsonDigit {byte : UInt8} (digit : isJsonDigit byte = true) : Opens byte where
  unblank := by
    refine Bool.eq_false_iff.mpr fun blank => ?_
    simp only [isJsonBlank, Bool.or_eq_true, decide_eq_true_eq, or_assoc] at blank
    rcases blank with rfl | rfl | rfl | rfl <;> cases digit
  open_still := by
    rintro (rfl | rfl) <;> cases digit

theorem opens_quote : Opens 0x22 :=
  ⟨rfl, by rintro (same | same) <;> cases same⟩

theorem StringText.head {text : String} (writes : StringText bytes text) :
    ∃ others, bytes = 0x22 :: others := by
  cases writes with
  | quoted => exact ⟨_, rfl⟩

theorem reads_readMember {value : Reading Value} {text : Texts Value}
    (reads : Reads value text) : Reads (readMember value) (MemberText text) where
  sound := by
    rintro source rest ⟨name, held⟩ ⟨shorter, finds⟩
    obtain ⟨before, source_eq, leads⟩ := exists_blanks source
    unfold readMember at finds
    split at finds
    · cases finds
    rename_i byte behind blanks
    rw [blanks] at source_eq
    dsimp only at finds
    split at finds
    · rename_i quote
      split at finds
      · cases finds
      rename_i nameFound nameRead
      obtain ⟨nameBytes, behind_eq, names⟩ :=
        takes_readString_iff.mp ⟨nameFound.shorter, nameRead⟩
      obtain ⟨gap, gap_eq, gaps⟩ := exists_blanks nameFound.rest
      split at finds
      · cases finds
      rename_i colon afterColon colonBlanks
      rw [colonBlanks] at gap_eq
      split at finds
      · rename_i same
        split at finds
        · cases finds
        rename_i found read
        cases finds
        obtain ⟨lead, bytes, after_eq, blanks, writes⟩ := reads.sound ⟨found.shorter, read⟩
        refine ⟨before, _, ?_, leads, .named names gaps blanks writes⟩
        show source = before ++ (_ ++ found.rest)
        generalize found.rest = left at after_eq
        rw [source_eq, quote, behind_eq, gap_eq, same, after_eq]
        simp only [List.append_assoc, List.cons_append]
      · cases finds
    · cases finds
  complete := by
    rintro before bytes rest member leads writes ends
    cases writes with
    | @named name gap behind bytes _ held names gaps blanks writes =>
        obtain ⟨others, rfl⟩ := names.head
        have source_eq : before ++ (0x22 :: others ++ (gap ++ 0x3a :: (behind ++ bytes)) ++ rest) =
            before ++ 0x22 :: (others ++ (gap ++ 0x3a :: (behind ++ (bytes ++ rest)))) := by
          simp only [List.append_assoc, List.cons_append]
        rw [source_eq]
        have skipped := skipBlanks_append 0x22
          (others ++ (gap ++ 0x3a :: (behind ++ (bytes ++ rest)))) leads rfl
        have colonSkipped := skipBlanks_append 0x3a (behind ++ (bytes ++ rest)) gaps rfl
        have nameTakes : readString.Takes (others ++ (gap ++ 0x3a :: (behind ++ (bytes ++ rest))))
            _ (gap ++ 0x3a :: (behind ++ (bytes ++ rest))) :=
          takes_readString_iff.mpr ⟨0x22 :: others, rfl, names⟩
        obtain ⟨nameShorter, nameRead⟩ := nameTakes
        obtain ⟨valueShorter, valueRead⟩ := reads.complete blanks writes ends
        have first := length_lt_of_skipBlanks_eq skipped
        have second := length_lt_of_skipBlanks_eq colonSkipped
        refine ⟨by omega, ?_⟩
        unfold readMember
        split
        · rename_i nothing
          rw [skipped] at nothing
          cases nothing
        rename_i again
        rw [skipped] at again
        cases again
        dsimp only
        rw [if_pos rfl]
        simp only [nameRead]
        split
        · rename_i nothing
          rw [colonSkipped] at nothing
          cases nothing
        rename_i again
        rw [colonSkipped] at again
        cases again
        rw [if_pos rfl]
        simp only [valueRead]
        rfl
  opens := by
    rintro bytes member ⟨names⟩
    obtain ⟨others, rfl⟩ := names.head
    exact ⟨0x22, _, rfl, opens_quote⟩

/-- The step for what arrays and objects hold, if there is one, finds its texts. -/
abbrev ReadsInner : Option (Reading Value) → Option (Texts Value) → Prop :=
  Option.Rel Reads

theorem ValueWith.opens {inner : Option (Texts Value)} {value : Value}
    (writes : ValueWith inner bytes value) :
    ∃ first others, bytes = first :: others ∧ Opens first := by
  cases writes with
  | null => exact ⟨_, _, rfl, rfl, by rintro (same | same) <;> cases same⟩
  | yes => exact ⟨_, _, rfl, rfl, by rintro (same | same) <;> cases same⟩
  | no => exact ⟨_, _, rfl, rfl, by rintro (same | same) <;> cases same⟩
  | array => exact ⟨_, _, rfl, rfl, by rintro (same | same) <;> cases same⟩
  | object => exact ⟨_, _, rfl, rfl, by rintro (same | same) <;> cases same⟩
  | string writes =>
      obtain ⟨others, rfl⟩ := writes.head
      exact ⟨0x22, others, rfl, opens_quote⟩
  | number writes =>
      obtain ⟨first, others, rfl, rfl | digit⟩ := writes.head
      · exact ⟨_, _, rfl, rfl, by rintro (same | same) <;> cases same⟩
      · exact ⟨first, others, rfl, opens_of_isJsonDigit digit⟩

theorem sound_readValueWith {inner : Option (Reading Value)} {texts : Option (Texts Value)}
    (reads : ReadsInner inner texts) {value : Value}
    (takes : Reading.Takes (readValueWith inner) source value rest) :
    ∃ before bytes, source = before ++ (bytes ++ rest) ∧ AreBlanks before ∧
      ValueWith texts bytes value := by
  obtain ⟨shorter, finds⟩ := takes
  obtain ⟨before, source_eq, leads⟩ := exists_blanks source
  unfold readValueWith at finds
  split at finds
  · cases finds
  rename_i byte behind blanks
  rw [blanks] at source_eq
  have placed {bytes : List UInt8} (text : ValueWith texts bytes value)
      (behind_eq : byte :: behind = bytes ++ rest) :
      ∃ before bytes, source = before ++ (bytes ++ rest) ∧ AreBlanks before ∧
        ValueWith texts bytes value :=
    ⟨before, bytes, by rw [source_eq, behind_eq], leads, text⟩
  dsimp only at finds
  split at finds
  · rename_i same
    obtain ⟨behind_eq, rfl⟩ := expectWord_eq_ok_iff.mp finds
    exact placed .null (by rw [same, behind_eq]; rfl)
  split at finds
  · rename_i same
    obtain ⟨behind_eq, rfl⟩ := expectWord_eq_ok_iff.mp finds
    exact placed .yes (by rw [same, behind_eq]; rfl)
  split at finds
  · rename_i same
    obtain ⟨behind_eq, rfl⟩ := expectWord_eq_ok_iff.mp finds
    exact placed .no (by rw [same, behind_eq]; rfl)
  split at finds
  · rename_i same
    split at finds
    · cases finds
    rename_i text read
    cases finds
    obtain ⟨bytes, behind_eq, writes⟩ := takes_readString_iff.mp ⟨text.shorter, read⟩
    exact placed (.string writes) (by rw [same]; exact behind_eq)
  split at finds
  · rename_i same
    cases reads with
    | none => cases finds
    | some reads =>
        dsimp only at finds
        split at finds
        · cases finds
        rename_i items read
        cases finds
        obtain ⟨bytes, behind_eq, listed⟩ :=
          (takes_readItems_iff reads (.inl rfl)).mp ⟨items.shorter, read⟩
        refine placed (.array rfl listed) ?_
        rw [same]
        exact congrArg (0x5b :: ·) (behind_eq.trans (List.append_assoc bytes [0x5d] _).symm)
  split at finds
  · rename_i same
    cases reads with
    | none => cases finds
    | some reads =>
        dsimp only at finds
        split at finds
        · cases finds
        rename_i members read
        cases finds
        obtain ⟨bytes, behind_eq, listed⟩ :=
          (takes_readItems_iff (reads_readMember reads) (.inr rfl)).mp ⟨members.shorter, read⟩
        refine placed (.object rfl listed) ?_
        rw [same]
        exact congrArg (0x7b :: ·) (behind_eq.trans (List.append_assoc bytes [0x7d] _).symm)
  split at finds
  · split at finds
    · cases finds
    rename_i number afterNumber read
    cases finds
    obtain ⟨bytes, behind_eq, writes⟩ := numberText_of_readNumber read
    exact placed (.number writes) behind_eq
  · cases finds

theorem complete_readValueWith {inner : Option (Reading Value)} {texts : Option (Texts Value)}
    (reads : ReadsInner inner texts) {value : Value} (leads : AreBlanks before)
    (writes : ValueWith texts bytes value) (ends : Ends rest) :
    Reading.Takes (readValueWith inner) (before ++ (bytes ++ rest)) value rest := by
  obtain ⟨first, others, bytes_eq, opens⟩ := writes.opens
  have skipped := skipBlanks_append first (others ++ rest) leads opens.unblank
  have bound := length_lt_of_skipBlanks_eq skipped
  have whole : before ++ first :: (others ++ rest) = before ++ (bytes ++ rest) := by
    rw [bytes_eq, List.cons_append]
  rw [whole] at skipped bound
  generalize before ++ (bytes ++ rest) = source at skipped bound
  have shorter : rest.length < source.length := by
    rw [List.length_append] at bound
    omega
  refine ⟨shorter, ?_⟩
  unfold readValueWith
  split
  · rename_i nothing
    rw [skipped] at nothing
    cases nothing
  rename_i again
  rw [skipped] at again
  cases again
  dsimp only
  cases writes with
  | null =>
      cases bytes_eq
      rw [if_pos rfl]
      exact expectWord_eq_ok_iff.mpr ⟨rfl, rfl⟩
  | yes =>
      cases bytes_eq
      rw [if_neg (by decide), if_pos rfl]
      exact expectWord_eq_ok_iff.mpr ⟨rfl, rfl⟩
  | no =>
      cases bytes_eq
      rw [if_neg (by decide), if_neg (by decide), if_pos rfl]
      exact expectWord_eq_ok_iff.mpr ⟨rfl, rfl⟩
  | string writes =>
      obtain ⟨tail, rfl⟩ := writes.head
      cases bytes_eq
      rw [if_neg (by decide), if_neg (by decide), if_neg (by decide), if_pos rfl]
      have takes : readString.Takes (others ++ rest) _ rest :=
        takes_readString_iff.mpr ⟨0x22 :: others, rfl, writes⟩
      obtain ⟨_, read⟩ := takes
      simp only [read]
      rfl
  | array inner_eq listed =>
      subst inner_eq
      cases reads with
      | some reads =>
          cases bytes_eq
          rw [if_neg (by decide), if_neg (by decide), if_neg (by decide), if_neg (by decide),
            if_pos rfl]
          obtain ⟨_, read⟩ := (takes_readItems_iff reads (.inl rfl)).mpr
            ⟨_, List.append_assoc _ [0x5d] rest, listed⟩
          simp only [read]
          rfl
  | object inner_eq listed =>
      subst inner_eq
      cases reads with
      | some reads =>
          cases bytes_eq
          rw [if_neg (by decide), if_neg (by decide), if_neg (by decide), if_neg (by decide),
            if_neg (by decide), if_pos rfl]
          obtain ⟨_, read⟩ := (takes_readItems_iff (reads_readMember reads) (.inr rfl)).mpr
            ⟨_, List.append_assoc _ [0x7d] rest, listed⟩
          simp only [read]
          rfl
  | number writes =>
      have read := readNumber_of_numberText writes ends.endsNumber
      have marks := writes.head
      subst bytes_eq
      obtain ⟨_, _, ⟨⟩, marks⟩ := marks
      rw [List.cons_append] at read
      have differs {byte : UInt8} (no_minus : byte ≠ 0x2d) (no_digit : isJsonDigit byte = false) :
          first ≠ byte := by
        rintro rfl
        rcases marks with same | digit
        · exact no_minus same
        · rw [no_digit] at digit
          cases digit
      rw [if_neg (differs (by decide) rfl), if_neg (differs (by decide) rfl),
        if_neg (differs (by decide) rfl), if_neg (differs (by decide) rfl),
        if_neg (differs (by decide) rfl), if_neg (differs (by decide) rfl), if_pos marks]
      split
      · rename_i rejects
        rw [read] at rejects
        cases rejects
      · rename_i again
        rw [read] at again
        cases again
        rfl

theorem reads_readValueWith {inner : Option (Reading Value)} {texts : Option (Texts Value)}
    (reads : ReadsInner inner texts) : Reads (readValueWith inner) (ValueWith texts) where
  sound := sound_readValueWith reads
  complete := complete_readValueWith reads
  opens := ValueWith.opens

theorem reads_readValue (depth : Nat) : Reads (readValue depth) (ValueText depth) := by
  induction depth with
  | zero => exact reads_readValueWith .none
  | succ depth induction => exact reads_readValueWith (.some induction)

/-- The reader finds a value in the texts of this value and in no others. -/
theorem read_eq_ok_iff {value : Value} : read source = .ok value ↔ Text source value := by
  constructor
  · intro reads
    unfold read at reads
    split at reads
    · cases reads
    rename_i found first
    split at reads
    · rename_i nothing
      cases reads
      obtain ⟨before, bytes, source_eq, leads, writes⟩ :=
        (reads_readValue depthLimit).sound ⟨found.shorter, first⟩
      generalize found.value = value at writes
      rw [source_eq]
      exact .between leads writes (skipBlanks_eq_nil_iff.mp nothing)
    · cases reads
  · rintro ⟨leads, writes, trails⟩
    rename_i before bytes behind
    have ends : Ends behind := by
      have nothing : Ends [] := by rintro _ ⟨⟩
      simpa using Ends.blanks trails nothing
    obtain ⟨shorter, first⟩ := (reads_readValue depthLimit).complete leads writes ends
    unfold read
    simp only [first, skipBlanks_eq_nil_iff.mpr trails]

theorem Text.unique {first second : Value} (one : Text source first)
    (other : Text source second) : first = second := by
  have reads := read_eq_ok_iff.mpr one
  rw [read_eq_ok_iff.mpr other] at reads
  cases reads
  rfl

end Overseer.Json
