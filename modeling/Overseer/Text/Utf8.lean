/-!
# UTF-8

Bytes arrive as lists; text is a `String`.  `Utf8.encode` writes a text as
bytes and `Utf8.decode?` reads bytes that are well-formed UTF-8.  The two are
inverse to each other, so a byte list is readable exactly when it is the
encoding of some text.

`Utf8.decodeLossy` shows any bytes as text: each longest beginning of a
character that is not continued is shown as one replacement character.
-/

namespace Overseer.Utf8

def encode (text : String) : List UInt8 :=
  text.toUTF8.data.toList

/-- The text that the bytes encode, if they are well-formed. -/
def decode? (bytes : List UInt8) : Option String :=
  String.fromUTF8? bytes.toByteArray

theorem decode?_encode (text : String) : decode? (encode text) = some text := by
  have whole : text.toUTF8.data.toList.toByteArray = text.toByteArray := by
    apply ByteArray.ext
    rw [List.data_toByteArray, Array.toArray_toList]
    rfl
  unfold decode? encode String.fromUTF8?
  rw [whole, dif_pos text.isValidUTF8]
  rfl

theorem encode_of_decode? {bytes : List UInt8} {text : String}
    (decoded : decode? bytes = some text) : encode text = bytes := by
  unfold decode? String.fromUTF8? at decoded
  split at decoded
  · rw [Option.some.injEq] at decoded
    subst decoded
    show (bytes.toByteArray).data.toList = bytes
    rw [List.data_toByteArray]
  · contradiction

theorem decode?_eq_some_iff {bytes : List UInt8} {text : String} :
    decode? bytes = some text ↔ bytes = encode text :=
  ⟨fun decoded => (encode_of_decode? decoded).symm,
    fun written => written ▸ decode?_encode text⟩

/-- The character that stands for bytes that are none. -/
def replacement : Char := '\uFFFD'

/-- A character whose first bytes were read. -/
structure Begun where
  /-- The bits read so far. -/
  bits : Nat
  /-- How many bytes come after the next one. -/
  after : Nat
  /-- The least and the greatest next byte. -/
  least : Nat
  greatest : Nat

/-- What a first byte begins: a character, the beginning of one, or nothing. -/
def begin? (byte : Nat) : List Char × Option Begun :=
  if byte < 0x80 then ([Char.ofNat byte], none)
  else if byte < 0xc2 then ([replacement], none)
  else if byte < 0xe0 then ([], some ⟨byte - 0xc0, 0, 0x80, 0xbf⟩)
  else if byte = 0xe0 then ([], some ⟨0, 1, 0xa0, 0xbf⟩)
  else if byte = 0xed then ([], some ⟨0xd, 1, 0x80, 0x9f⟩)
  else if byte < 0xf0 then ([], some ⟨byte - 0xe0, 1, 0x80, 0xbf⟩)
  else if byte = 0xf0 then ([], some ⟨0, 2, 0x90, 0xbf⟩)
  else if byte < 0xf4 then ([], some ⟨byte - 0xf0, 2, 0x80, 0xbf⟩)
  else if byte = 0xf4 then ([], some ⟨4, 2, 0x80, 0x8f⟩)
  else ([replacement], none)

/-- What one more byte makes of a character that was begun. -/
def continue? (begun : Begun) (byte : Nat) : List Char × Option Begun :=
  if begun.least ≤ byte ∧ byte ≤ begun.greatest then
    let bits := begun.bits * 64 + (byte - 0x80)
    match begun.after with
    | 0 => ([Char.ofNat bits], none)
    | after + 1 => ([], some ⟨bits, after, 0x80, 0xbf⟩)
  else
    let (chars, next) := begin? byte
    (replacement :: chars, next)

/-- The characters of bytes that follow a character that was begun, if any. -/
def lossyChars (begun : Option Begun) : List UInt8 → List Char
  | [] => if begun.isSome then [replacement] else []
  | byte :: rest =>
      let (chars, next) :=
        match begun with
        | none => begin? byte.toNat
        | some begun => continue? begun byte.toNat
      chars ++ lossyChars next rest

def decodeLossy (bytes : List UInt8) : String :=
  String.ofList (lossyChars none bytes)

end Overseer.Utf8
