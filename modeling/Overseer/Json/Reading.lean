/-!
# Steps of reading JSON

A reading step looks at the head of some bytes.  It finds a value and a rest that
is shorter than its source, which is what makes the reader end, or it objects.
An objection met at the end of the text is `truncated`, any other is `malformed`.
-/

namespace Overseer.Json

/-- Why a text is no JSON text. -/
inductive Rejection where
  | truncated
  | malformed
  deriving DecidableEq, Repr

/-- What a step found at the head of `source`, and the bytes that follow it. -/
structure Found (α : Type) (source : List UInt8) where
  value : α
  rest : List UInt8
  shorter : rest.length < source.length

/-- A reading step. -/
abbrev Reading (α : Type) :=
  (source : List UInt8) → Except Rejection (Found α source)

namespace Found

/-- The same finding with another value. -/
def map {α β : Type} {source : List UInt8} (change : α → β)
    (found : Found α source) : Found β source :=
  { value := change found.value
    rest := found.rest
    shorter := found.shorter }

/-- A finding in a rest is a finding in the whole. -/
def within {α : Type} {source whole : List UInt8} (found : Found α source)
    (tail : source.length ≤ whole.length) : Found α whole :=
  { value := found.value
    rest := found.rest
    shorter := Nat.lt_of_lt_of_le found.shorter tail }

end Found

/-! ## Blanks and words -/

/-- Space, tab, line feed and carriage return. -/
def isJsonBlank (byte : UInt8) : Bool :=
  byte = 0x20 || byte = 0x09 || byte = 0x0a || byte = 0x0d

def skipBlanks (source : List UInt8) : List UInt8 :=
  source.dropWhile isJsonBlank

theorem length_skipBlanks_le (source : List UInt8) :
    (skipBlanks source).length ≤ source.length :=
  (List.dropWhile_suffix isJsonBlank).length_le

theorem length_lt_of_skipBlanks_eq {source rest : List UInt8} {byte : UInt8}
    (blanks : skipBlanks source = byte :: rest) : rest.length < source.length := by
  have bound := length_skipBlanks_le source
  rw [blanks] at bound
  exact bound

def expectWord {whole : List UInt8} {α : Type} (value : α) :
    (word source : List UInt8) → source.length < whole.length →
      Except Rejection (Found α whole)
  | [], source, shorter => .ok ⟨value, source, shorter⟩
  | _ :: _, [], _ => .error .truncated
  | letter :: word, byte :: source, shorter =>
      if byte = letter then
        expectWord value word source (by simp at shorter; omega)
      else .error .malformed

end Overseer.Json
