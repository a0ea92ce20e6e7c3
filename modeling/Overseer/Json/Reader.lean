import Overseer.Json.NumberReader
import Overseer.Json.StringReader

/-!
# Reading JSON

The reader works on the bytes of a text from left to right, and its first
objection decides.  Arrays and objects nest at most `depthLimit` deep.
-/

namespace Overseer.Json

/-! ## Arrays and objects -/

/-- Items after the first, up to the closing bracket; `found` holds the items
so far, the last one first. -/
def readMore {α : Type} {whole : List UInt8} (closing : UInt8)
    (item : Reading α) (found : List α) (source : List UInt8)
    (tail : source.length ≤ whole.length) :
    Except Rejection (Found (List α) whole) :=
  match blanks : skipBlanks source with
  | [] => .error .truncated
  | byte :: rest =>
      have shorter := length_lt_of_skipBlanks_eq blanks
      if byte = closing then
        .ok ⟨found.reverse, rest, Nat.lt_of_lt_of_le shorter tail⟩
      else if byte = 0x2c then
        match item rest with
        | .error rejection => .error rejection
        | .ok next =>
            have := next.shorter
            readMore closing item (next.value :: found) next.rest (by omega)
      else .error .malformed
termination_by source.length

/-- Items between commas up to the closing bracket, after the opening one. -/
def readItems {α : Type} (closing : UInt8) (item : Reading α) :
    Reading (List α) := fun source =>
  match blanks : skipBlanks source with
  | [] => .error .truncated
  | byte :: rest =>
      have shorter := length_lt_of_skipBlanks_eq blanks
      if byte = closing then .ok ⟨[], rest, shorter⟩
      else
        match item (byte :: rest) with
        | .error rejection => .error rejection
        | .ok next =>
            have := next.shorter
            readMore closing item [next.value] next.rest
              (Nat.le_trans (Nat.le_of_lt_succ this) (Nat.le_of_lt shorter))

def readMember (value : Reading Value) : Reading (String × Value) :=
  fun source =>
    match blanks : skipBlanks source with
    | [] => .error .truncated
    | byte :: rest =>
        have shorter := length_lt_of_skipBlanks_eq blanks
        if byte = 0x22 then
          match readString rest with
          | .error rejection => .error rejection
          | .ok name =>
              have := name.shorter
              match blanks : skipBlanks name.rest with
              | [] => .error .truncated
              | colon :: afterColon =>
                  have := length_lt_of_skipBlanks_eq blanks
                  if colon = 0x3a then
                    match value afterColon with
                    | .error rejection => .error rejection
                    | .ok found =>
                        .ok ((found.map fun value => (name.value, value)).within
                          (by omega))
                  else .error .malformed
        else .error .malformed

/-! ## Values -/

/-- A value, where `inner` reads the values of an array or object.  Without
`inner` no array or object may open. -/
def readValueWith (inner : Option (Reading Value)) : Reading Value :=
  fun source =>
    match blanks : skipBlanks source with
    | [] => .error .truncated
    | byte :: rest =>
        have shorter := length_lt_of_skipBlanks_eq blanks
        if byte = 0x6e then
          expectWord .null [0x75, 0x6c, 0x6c] rest shorter
        else if byte = 0x74 then
          expectWord (.bool true) [0x72, 0x75, 0x65] rest shorter
        else if byte = 0x66 then
          expectWord (.bool false) [0x61, 0x6c, 0x73, 0x65] rest shorter
        else if byte = 0x22 then
          match readString rest with
          | .error rejection => .error rejection
          | .ok text =>
              .ok ((text.map Value.string).within (Nat.le_of_lt shorter))
        else if byte = 0x5b then
          match inner with
          | none => .error .malformed
          | some item =>
              match readItems 0x5d item rest with
              | .error rejection => .error rejection
              | .ok items =>
                  .ok ((items.map Value.array).within (Nat.le_of_lt shorter))
        else if byte = 0x7b then
          match inner with
          | none => .error .malformed
          | some item =>
              match readItems 0x7d (readMember item) rest with
              | .error rejection => .error rejection
              | .ok members =>
                  .ok ((members.map Value.object).within (Nat.le_of_lt shorter))
        else if byte = 0x2d ∨ isJsonDigit byte then
          match found : readNumber (byte :: rest) with
          | .error rejection => .error rejection
          | .ok (number, afterNumber) =>
              have := length_of_readNumber found
              .ok ⟨.number number, afterNumber,
                Nat.le_trans this (Nat.le_of_lt_succ (Nat.succ_lt_succ shorter))⟩
        else .error .malformed

/-- How deep arrays and objects nest. -/
def depthLimit : Nat := 127

/-- A value in which arrays and objects nest at most `depth` deep. -/
def readValue : Nat → Reading Value
  | 0 => readValueWith none
  | depth + 1 => readValueWith (some (readValue depth))

/-- The value of a JSON text: one value with nothing but blanks around it. -/
def read (source : List UInt8) : Except Rejection Value :=
  match readValue depthLimit source with
  | .error rejection => .error rejection
  | .ok found =>
      match skipBlanks found.rest with
      | [] => .ok found.value
      | _ => .error .malformed

end Overseer.Json
