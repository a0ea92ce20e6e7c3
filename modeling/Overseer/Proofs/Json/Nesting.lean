import Overseer.Proofs.Json.Recognition

/-!
# Nesting in JSON texts

A scan of a text counts the brackets that are open and notes whether it is within a
string; it knows nothing else of JSON.  A value closes the brackets and the quotes that
it opens, and it never closes any other.

So the document of a text is found from its end: in `areBlanks_of_text_append` a text
ends in what is an object by itself, and nothing but blanks can stand before it.
-/

namespace Overseer.Json

/-- Where the scan of a text has come to. -/
inductive Place where
  | outside
  | quoted
  /-- Behind a backslash in a string. -/
  | escaped
  deriving DecidableEq

/-- A place in a text, and how many brackets are open there. -/
structure Scan where
  place : Place
  depth : Int
  deriving DecidableEq

namespace Scan

def step (scan : Scan) (byte : UInt8) : Scan :=
  match scan.place with
  | .outside =>
      if byte = 0x22 then { scan with place := .quoted }
      else if byte = 0x5b ∨ byte = 0x7b then { scan with depth := scan.depth + 1 }
      else if byte = 0x5d ∨ byte = 0x7d then { scan with depth := scan.depth - 1 }
      else scan
  | .quoted =>
      if byte = 0x22 then { scan with place := .outside }
      else if byte = 0x5c then { scan with place := .escaped }
      else scan
  | .escaped => { scan with place := .quoted }

def past (scan : Scan) (bytes : List UInt8) : Scan :=
  bytes.foldl step scan

@[simp] theorem past_nil (scan : Scan) : scan.past [] = scan :=
  rfl

@[simp] theorem past_cons (scan : Scan) (byte : UInt8) (bytes : List UInt8) :
    scan.past (byte :: bytes) = (scan.step byte).past bytes :=
  rfl

theorem past_append (scan : Scan) (first second : List UInt8) :
    scan.past (first ++ second) = (scan.past first).past second :=
  List.foldl_append

/-- The places do not depend on the depth. -/
theorem place_past (place : Place) (bytes : List UInt8) (depth other : Int) :
    (past ⟨place, depth⟩ bytes).place = (past ⟨place, other⟩ bytes).place := by
  induction bytes generalizing place depth other with
  | nil => rfl
  | cons byte bytes induction =>
      simp only [past_cons, step]
      cases place with
      | outside =>
          dsimp only
          split
          · apply induction
          · split
            · apply induction
            · split <;> apply induction
      | quoted =>
          dsimp only
          split
          · apply induction
          · split <;> apply induction
      | escaped => apply induction

end Scan

open Scan

/-- Bytes that are balanced at a place: they lead back to it, at the same depth, and never
to a lower one. -/
structure Balanced (place : Place) (bytes : List UInt8) : Prop where
  returns : ∀ depth, past ⟨place, depth⟩ bytes = ⟨place, depth⟩
  above : ∀ {before : List UInt8}, before <+: bytes →
    ∀ depth, depth ≤ (past ⟨place, depth⟩ before).depth

variable {place inner : Place} {bytes before behind rest : List UInt8}

theorem balanced_nil (place : Place) : Balanced place [] := by
  refine ⟨fun _ => rfl, ?_⟩
  intro before within depth
  rw [List.prefix_nil.mp within]
  exact Int.le_refl depth

theorem Balanced.append (first : Balanced place bytes) (second : Balanced place rest) :
    Balanced place (bytes ++ rest) := by
  constructor
  · intro depth
    rw [past_append, first.returns, second.returns]
  · intro before within depth
    rcases List.prefix_or_prefix_of_prefix within (List.prefix_append bytes rest) with
      short | ⟨part, rfl⟩
    · exact first.above short depth
    · have later := (List.prefix_append_right_inj bytes).mp within
      rw [past_append, first.returns]
      exact second.above later depth

/-- What stands between two bytes, the second of which leads back from where the first
one leads. -/
theorem Balanced.enclosed {first last : UInt8} {more : Int} (deeper : 0 ≤ more)
    (opens : ∀ depth, step ⟨place, depth⟩ first = ⟨inner, depth + more⟩)
    (closes : ∀ depth, step ⟨inner, depth + more⟩ last = ⟨place, depth⟩)
    (balanced : Balanced inner bytes) :
    Balanced place (first :: (bytes ++ [last])) := by
  have whole (depth : Int) :
      past ⟨place, depth⟩ (first :: (bytes ++ [last])) = ⟨place, depth⟩ := by
    rw [past_cons, opens, past_append, balanced.returns, past_cons, closes, past_nil]
  refine ⟨whole, ?_⟩
  intro before within depth
  cases before with
  | nil => exact Int.le_refl depth
  | cons byte before =>
      obtain ⟨rfl, later⟩ := List.cons_prefix_cons.mp within
      rw [past_cons, opens]
      rcases List.prefix_concat_iff.mp later with rfl | short
      · have back := whole depth
        rw [past_cons, opens] at back
        exact Int.le_of_eq (congrArg Scan.depth back).symm
      · have deep := balanced.above short (depth + more)
        omega

/-- A byte that the scan passes by. -/
def Passes (place : Place) (byte : UInt8) : Prop :=
  ∀ depth, step ⟨place, depth⟩ byte = ⟨place, depth⟩

theorem balanced_of_passes (passes : ∀ byte ∈ bytes, Passes place byte) :
    Balanced place bytes := by
  have along (part : List UInt8) (all : ∀ byte ∈ part, Passes place byte) (depth : Int) :
      past ⟨place, depth⟩ part = ⟨place, depth⟩ := by
    induction part with
    | nil => rfl
    | cons byte part induction =>
        rw [past_cons, all byte List.mem_cons_self]
        exact induction fun other member => all other (List.mem_cons_of_mem _ member)
  refine ⟨along bytes passes, ?_⟩
  intro before within depth
  have same := along before (fun byte member => passes byte (within.subset member)) depth
  exact Int.le_of_eq (congrArg Scan.depth same).symm

theorem Balanced.cons {byte : UInt8} (passes : Passes place byte)
    (balanced : Balanced place bytes) : Balanced place (byte :: bytes) := by
  have first : Balanced place [byte] := by
    apply balanced_of_passes
    simpa using passes
  exact first.append balanced

/-! ## Bytes outside of strings -/

/-- Neither a quote nor a bracket. -/
def IsFlat (byte : UInt8) : Prop :=
  byte ∉ [0x22, 0x5b, 0x7b, 0x5d, 0x7d]

instance : DecidablePred IsFlat :=
  fun byte => inferInstanceAs (Decidable (byte ∉ [0x22, 0x5b, 0x7b, 0x5d, 0x7d]))

theorem IsFlat.passes {byte : UInt8} (flat : IsFlat byte) : Passes .outside byte := by
  intro depth
  simp only [IsFlat, List.mem_cons, List.not_mem_nil, not_or] at flat
  simp [step, flat]

theorem balanced_of_isFlat (flat : ∀ byte ∈ bytes, IsFlat byte) : Balanced .outside bytes :=
  balanced_of_passes fun byte member => (flat byte member).passes

theorem isFlat_of_isJsonBlank {byte : UInt8} (blank : isJsonBlank byte = true) :
    IsFlat byte := by
  intro member
  simp only [List.mem_cons, List.not_mem_nil, or_false] at member
  rcases member with rfl | rfl | rfl | rfl | rfl <;> exact absurd blank (by decide)

theorem isFlat_of_isJsonDigit {byte : UInt8} (digit : isJsonDigit byte = true) :
    IsFlat byte := by
  intro member
  simp only [List.mem_cons, List.not_mem_nil, or_false] at member
  rcases member with rfl | rfl | rfl | rfl | rfl <;> exact absurd digit (by decide)

theorem AreBlanks.balanced (blanks : AreBlanks bytes) : Balanced .outside bytes :=
  balanced_of_isFlat fun byte member => isFlat_of_isJsonBlank (blanks byte member)

theorem Digits.balanced (digits : Digits bytes) : Balanced .outside bytes :=
  balanced_of_isFlat fun byte member => isFlat_of_isJsonDigit (digits.all byte member)

theorem FractionText.balanced {digits : List UInt8} (writes : FractionText bytes digits) :
    Balanced .outside bytes := by
  cases writes with
  | absent => exact balanced_nil .outside
  | point digits => exact digits.balanced.cons (IsFlat.passes (by decide))

theorem SignText.balanced {negative : Bool} (writes : SignText bytes negative) :
    Balanced .outside bytes := by
  cases writes with
  | absent => exact balanced_nil .outside
  | plus => exact (balanced_nil .outside).cons (IsFlat.passes (by decide))
  | minus => exact (balanced_nil .outside).cons (IsFlat.passes (by decide))

theorem ExponentText.balanced {power : Int} (writes : ExponentText bytes power) :
    Balanced .outside bytes := by
  cases writes with
  | absent => exact balanced_nil .outside
  | power marks signs digits =>
      apply (signs.balanced.append digits.balanced).cons
      rcases marks with rfl | rfl
      · exact IsFlat.passes (by decide)
      · exact IsFlat.passes (by decide)

theorem MagnitudeText.balanced {negative : Bool} {number : Number}
    (writes : MagnitudeText negative bytes number) : Balanced .outside bytes := by
  cases writes with
  | parts wholes fractions exponents finite =>
      exact wholes.digits.balanced.append (fractions.balanced.append exponents.balanced)

theorem NumberText.balanced {number : Number} (writes : NumberText bytes number) :
    Balanced .outside bytes := by
  cases writes with
  | positive magnitude => exact magnitude.balanced
  | negative magnitude => exact magnitude.balanced.cons (IsFlat.passes (by decide))

/-! ## Strings -/

theorem passes_quoted {byte : UInt8} (no_quote : byte ≠ 0x22) (no_slash : byte ≠ 0x5c) :
    Passes .quoted byte := by
  intro depth
  simp [step, no_quote, no_slash]

/-- Whatever stands behind a backslash, a quote too, belongs to the string. -/
theorem balanced_escape (letter : UInt8) (balanced : Balanced .quoted bytes) :
    Balanced .quoted (0x5c :: letter :: bytes) := by
  have escape : Balanced .quoted (0x5c :: ([] ++ [letter])) := by
    apply Balanced.enclosed (Int.le_refl 0) _ _ (balanced_nil .escaped)
    · intro depth
      simp [step]
    · intro depth
      simp [step]
  exact escape.append balanced

theorem passes_of_hexDigit? {byte : UInt8} {digit : Nat} (reads : hexDigit? byte = some digit) :
    Passes .quoted byte := by
  apply passes_quoted
  · rintro rfl
    cases reads
  · rintro rfl
    cases reads

theorem UnitText.balanced {unit : Nat} (writes : UnitText bytes unit) :
    Balanced .quoted bytes := by
  cases writes with
  | digits first second third fourth =>
      exact (((balanced_nil .quoted).cons (passes_of_hexDigit? fourth)).cons
        (passes_of_hexDigit? third)).cons (passes_of_hexDigit? second) |>.cons
          (passes_of_hexDigit? first)

theorem EscapeText.balanced {char : Char} (writes : EscapeText bytes char) :
    Balanced .quoted (0x5c :: bytes) := by
  cases writes with
  | short stands => exact balanced_escape _ (balanced_nil .quoted)
  | unit units leads trails => exact balanced_escape _ units.balanced
  | pair first second leads trails =>
      exact balanced_escape _ (first.balanced.append (balanced_escape _ second.balanced))

theorem CharText.balanced {char : Char} (writes : CharText bytes char) :
    Balanced .quoted bytes := by
  cases writes with
  | plain stands =>
      apply balanced_of_passes
      intro byte member
      have raw := (isPlain_iff_isRaw char).mp stands byte member
      exact passes_quoted raw.no_quote raw.no_slash
  | escaped escape => exact escape.balanced

theorem CharsText.balanced {chars : List Char} (writes : CharsText bytes chars) :
    Balanced .quoted bytes := by
  induction writes with
  | nil => exact balanced_nil .quoted
  | cons head _ induction => exact head.balanced.append induction

theorem StringText.balanced {text : String} (writes : StringText bytes text) :
    Balanced .outside bytes := by
  cases writes with
  | quoted chars =>
      apply Balanced.enclosed (Int.le_refl 0) _ _ chars.balanced
      · intro depth
        simp [step]
      · intro depth
        simp [step]

/-! ## Values -/

def AreBalanced {α : Type} (item : Texts α) : Prop :=
  ∀ (bytes : List UInt8) (value : α), item bytes value → Balanced .outside bytes

section Lists

variable {α : Type} {item : Texts α} (balanced : AreBalanced item)
include balanced

theorem AreBalanced.padded : AreBalanced (Padded item) := by
  intro bytes value writes
  cases writes with
  | between leads writes trails =>
      exact leads.balanced.append ((balanced _ _ writes).append trails.balanced)

theorem AreBalanced.separated : AreBalanced (Separated item) := by
  intro bytes values writes
  induction writes with
  | last writes => exact balanced.padded _ _ writes
  | more writes _ induction =>
      exact (balanced.padded _ _ writes).append (induction.cons (IsFlat.passes (by decide)))

theorem AreBalanced.listed : AreBalanced (Listed item) := by
  intro bytes values writes
  cases writes with
  | nothing blanks => exact blanks.balanced
  | items separated => exact balanced.separated _ _ separated

end Lists

theorem AreBalanced.member {value : Texts Value} (balanced : AreBalanced value) :
    AreBalanced (MemberText value) := by
  intro bytes entry writes
  cases writes with
  | named names before after writes =>
      apply names.balanced.append
      apply before.balanced.append
      exact (after.balanced.append (balanced _ _ writes)).cons (IsFlat.passes (by decide))

/-- What stands between brackets, with them. -/
theorem Balanced.bracketed {first last : UInt8} (balanced : Balanced .outside bytes)
    (opens : first = 0x5b ∨ first = 0x7b) (closes : last = 0x5d ∨ last = 0x7d) :
    Balanced .outside (first :: (bytes ++ [last])) := by
  have deeper : (0 : Int) ≤ 1 := by decide
  apply balanced.enclosed deeper
  · intro depth
    rcases opens with rfl | rfl <;> simp [step]
  · intro depth
    rcases closes with rfl | rfl <;> simp [step]

theorem areBalanced_valueWith {inner : Option (Texts Value)}
    (balanced : ∀ nested ∈ inner, AreBalanced nested) : AreBalanced (ValueWith inner) := by
  intro bytes value writes
  cases writes with
  | null => exact balanced_of_isFlat (by simp [IsFlat])
  | yes => exact balanced_of_isFlat (by simp [IsFlat])
  | no => exact balanced_of_isFlat (by simp [IsFlat])
  | number writes => exact writes.balanced
  | string writes => exact writes.balanced
  | array opens listed =>
      exact (AreBalanced.listed (balanced _ opens) _ _ listed).bracketed (.inl rfl) (.inl rfl)
  | object opens listed =>
      exact ((AreBalanced.member (balanced _ opens)).listed _ _ listed).bracketed (.inr rfl) (.inr rfl)

theorem areBalanced_valueText (depth : Nat) : AreBalanced (ValueText depth) := by
  induction depth with
  | zero => exact areBalanced_valueWith (by simp)
  | succ depth induction =>
      apply areBalanced_valueWith
      intro nested same
      cases same
      exact induction

/-- A whole text is balanced. -/
theorem Text.balanced {value : Value} (text : Text bytes value) : Balanced .outside bytes :=
  AreBalanced.padded (areBalanced_valueText depthLimit) _ _ text

/-! ## The end of a text -/

theorem Text.braces {members : List (String × Value)} (text : Text bytes (.object members)) :
    ∃ before inside behind, bytes = before ++ (0x7b :: (inside ++ [0x7d]) ++ behind) ∧
      AreBlanks before ∧ Balanced .outside inside ∧ AreBlanks behind := by
  generalize same : Value.object members = value at text
  cases text with
  | @between before _ behind _ leads writes trails =>
      cases writes with
      | @object nested inside _ opens listed =>
          cases opens
          exact ⟨before, inside, behind, rfl, leads,
            (AreBalanced.member (areBalanced_valueText _)).listed _ _ listed, trails⟩
      | _ => cases same

/-- The text of an object that is told from what stands before it: it begins with a brace,
it is balanced, and a scan that enters it within a string does not leave the string. -/
structure StandsAlone (bytes : List UInt8) : Prop where
  opens : bytes.head? = some 0x7b
  balanced : Balanced .outside bytes
  astray : ∀ place, place ≠ .outside → (past ⟨place, 0⟩ bytes).place ≠ .outside

/-- An opening brace behind some bytes stands before the closing brace, behind which there
are but blanks. -/
theorem prefix_of_opens {inside within : List UInt8} (opens : rest.head? = some 0x7b)
    (trails : AreBlanks behind) (split : inside ++ 0x7d :: behind = within ++ rest) :
    within <+: inside := by
  obtain ⟨more, rfl⟩ := List.head?_eq_some_iff.mp opens
  rcases List.append_eq_append_iff.mp split with ⟨skipped, rfl, left⟩ | ⟨later, rfl, _⟩
  · cases skipped with
    | nil => cases (List.cons.inj left).1
    | cons brace skipped =>
        have blank := trails 0x7b (by rw [(List.cons.inj left).2]; simp)
        exact absurd blank (by decide)
  · exact List.prefix_append within later

theorem areBlanks_of_text_append {members : List (String × Value)}
    (alone : StandsAlone rest) (text : Text (bytes ++ rest) (.object members)) :
    AreBlanks bytes := by
  have whole := text.balanced.returns 0
  rw [past_append] at whole
  obtain ⟨before, inside, behind, split, leads, balanced, trails⟩ := text.braces
  rw [List.cons_append, List.append_assoc, List.singleton_append] at split
  rcases List.append_eq_append_iff.mp split with ⟨more, here, _⟩ | ⟨within, rfl, later⟩
  · -- The text of the object begins where `rest` does, or later.
    intro byte member
    apply leads
    rw [here]
    exact List.mem_append_left more member
  · cases within with
    | nil => simpa using leads
    | cons brace within =>
        obtain ⟨rfl, left⟩ := List.cons.inj later
        -- The scan of `bytes` ends below the outermost brace, unless that was closed.
        have deep := prefix_of_opens alone.opens trails left
        have below : 1 ≤ (past ⟨.outside, 0⟩ (before ++ 0x7b :: within)).depth := by
          rw [past_append, leads.balanced.returns]
          exact balanced.above deep 1
        generalize past ⟨.outside, 0⟩ (before ++ 0x7b :: within) = scan at whole below
        obtain ⟨place, depth⟩ := scan
        by_cases outside : place = .outside
        · rw [outside, alone.balanced.returns] at whole
          have zero := congrArg Scan.depth whole
          dsimp only at zero below
          omega
        · have led := congrArg Scan.place whole
          rw [place_past place rest depth 0] at led
          exact absurd led (alone.astray place outside)

end Overseer.Json
