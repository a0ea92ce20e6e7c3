import Overseer.Json.Reading
import Overseer.Text.Utf8

/-!
# Reading strings

Escapes are resolved as they are met.  The bytes of a string are checked to be
UTF-8 only at its closing quote.
-/

namespace Overseer.Json

/-- The value of a hexadecimal digit. -/
def hexDigit? (byte : UInt8) : Option Nat :=
  if 0x30 ≤ byte && byte ≤ 0x39 then some (byte.toNat - 0x30)
  else if 0x41 ≤ byte && byte ≤ 0x46 then some (byte.toNat - 0x37)
  else if 0x61 ≤ byte && byte ≤ 0x66 then some (byte.toNat - 0x57)
  else none

/-- Four hexadecimal digits.  Fewer than four bytes are a truncated text,
whatever they are. -/
def readHexUnit : Reading Nat
  | a :: b :: c :: d :: rest =>
      match hexDigit? a, hexDigit? b, hexDigit? c, hexDigit? d with
      | some a, some b, some c, some d =>
          .ok ⟨((a * 16 + b) * 16 + c) * 16 + d, rest, by simp; omega⟩
      | _, _, _, _ => .error .malformed
  | _ => .error .truncated

/-- Whether a code unit opens a surrogate pair. -/
def isLeading (unit : Nat) : Bool :=
  0xd800 ≤ unit && unit ≤ 0xdbff

/-- Whether a code unit closes a surrogate pair. -/
def isTrailing (unit : Nat) : Bool :=
  0xdc00 ≤ unit && unit ≤ 0xdfff

/-- The second half of a surrogate pair that `leading` opened. -/
def readTrailing (leading : Nat) : Reading Char
  | [] => .error .truncated
  | [byte] => .error (if byte = 0x5c then .truncated else .malformed)
  | slash :: letter :: rest =>
      if slash = 0x5c ∧ letter = 0x75 then
        match readHexUnit rest with
        | .error rejection => .error rejection
        | .ok unit =>
            if isTrailing unit.value then
              .ok ⟨Char.ofNat
                  (0x10000 + (leading - 0xd800) * 0x400 + (unit.value - 0xdc00)),
                unit.rest, by have := unit.shorter; simp; omega⟩
            else .error .malformed
      else .error .malformed

/-- The character that a Unicode escape names, after its `u`. -/
def readUnicodeEscape : Reading Char := fun source =>
  match readHexUnit source with
  | .error rejection => .error rejection
  | .ok unit =>
      if isTrailing unit.value then .error .malformed
      else if isLeading unit.value then
        match readTrailing unit.value unit.rest with
        | .error rejection => .error rejection
        | .ok char => .ok (char.within (Nat.le_of_lt unit.shorter))
      else .ok (unit.map Char.ofNat)

/-- The character that a one-letter escape stands for. -/
def shortEscape? (letter : UInt8) : Option Char :=
  if letter = 0x22 then some '"'
  else if letter = 0x5c then some '\\'
  else if letter = 0x2f then some '/'
  else if letter = 0x62 then some '\x08'
  else if letter = 0x66 then some '\x0c'
  else if letter = 0x6e then some '\n'
  else if letter = 0x72 then some '\r'
  else if letter = 0x74 then some '\t'
  else none

/-- The character of an escape, after its backslash. -/
def readEscape : Reading Char
  | [] => .error .truncated
  | letter :: rest =>
      if letter = 0x75 then
        match readUnicodeEscape rest with
        | .error rejection => .error rejection
        | .ok char => .ok (char.within (by simp))
      else
        match shortEscape? letter with
        | some char => .ok ⟨char, rest, by simp⟩
        | none => .error .malformed

/-- The text of a string up to its closing quote, after the bytes `read`, which
are kept last first. -/
def readStringTail {whole : List UInt8} (read : List UInt8) :
    (source : List UInt8) → source.length ≤ whole.length →
      Except Rejection (Found String whole)
  | [], _ => .error .truncated
  | byte :: rest, tail =>
      if byte = 0x22 then
        match Utf8.decode? read.reverse with
        | some text => .ok ⟨text, rest, by simp at tail; omega⟩
        | none => .error .malformed
      else if byte = 0x5c then
        match readEscape rest with
        | .error rejection => .error rejection
        | .ok char =>
            have := char.shorter
            readStringTail ((Utf8.encode char.value.toString).reverse ++ read)
              char.rest (by simp at tail; omega)
      else if byte < 0x20 then .error .malformed
      else readStringTail (byte :: read) rest (by simp at tail; omega)
termination_by source => source.length

/-- A string, after its opening quote. -/
def readString : Reading String := fun source =>
  readStringTail [] source (Nat.le_refl _)

end Overseer.Json
