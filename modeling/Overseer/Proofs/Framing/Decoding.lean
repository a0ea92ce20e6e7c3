import Overseer.Control.FrameReader

/-!
# What a byte stream decodes to

`decode` cuts a stream at every terminator and says, piece by piece, which
bodies are discarded and what the rest of the piece asks for.  It knows nothing
of chunks, of calls or of bytes that are carried over.

`decodeFrom` goes through the stream byte by byte with the body assembled so
far.  `decodeFrom_nil` states that both agree on a whole stream; the reader of
frames is compared with `decodeFrom`, since a stream may be cut within a piece.
-/

namespace Overseer

/-- What a reader lets out: a command that a call returns, or a report. -/
inductive Outcome where
  | command (command : Command)
  | notice (notice : Notice)
  deriving DecidableEq

namespace Outcome

def command? : Outcome → Option Command
  | .command requested => some requested
  | .notice _ => none

end Outcome

namespace Decoding

/-- What the body of a frame comes to: its command, or the report that it was
dropped. -/
def verdict (body : List UInt8) : Outcome :=
  match Command.ofBody body with
  | .ok command => .command command
  | .error fault => .notice (.frameDropped fault)

/-- One report for every `limit + 1` bytes of a piece. -/
def overflows (limit : Nat) (piece : List UInt8) : List Outcome :=
  List.replicate (piece.length / (limit + 1)) (.notice (.frameOversized limit))

/-- The bytes of a piece that are left when its full bodies were discarded. -/
def remainder (limit : Nat) (piece : List UInt8) : List UInt8 :=
  piece.drop (piece.length - piece.length % (limit + 1))

/-- What the pieces of a stream come to; the last one has no terminator. -/
def decodePieces (limit : Nat) : List (List UInt8) → List Outcome
  | [] => []
  | [tail] => overflows limit tail
  | piece :: next :: rest =>
      overflows limit piece ++ verdict (remainder limit piece) ::
        decodePieces limit (next :: rest)

/-- What a whole stream comes to. -/
def decode (limit : Nat) (bytes : List UInt8) : List Outcome :=
  decodePieces limit (bytes.splitOn Command.terminator)

/-- What a stream comes to if `body` was assembled before it. -/
def decodeFrom (limit : Nat) : (body bytes : List UInt8) → List Outcome
  | _, [] => []
  | body, byte :: rest =>
      if byte = Command.terminator then verdict body :: decodeFrom limit [] rest
      else if body.length + 1 ≤ limit then decodeFrom limit (body ++ [byte]) rest
      else .notice (.frameOversized limit) :: decodeFrom limit [] rest

/-- The first command of a stream. -/
def firstCommand? (limit : Nat) (bytes : List UInt8) : Option Command :=
  (decode limit bytes).findSome? Outcome.command?

/-! ## A body that is within its limit -/

theorem overflows_of_length_le {limit : Nat} {body : List UInt8}
    (short : body.length ≤ limit) : overflows limit body = [] := by
  have none : body.length / (limit + 1) = 0 := Nat.div_eq_of_lt (by omega)
  simp [overflows, none]

theorem remainder_of_length_le {limit : Nat} {body : List UInt8}
    (short : body.length ≤ limit) : remainder limit body = body := by
  have all : body.length % (limit + 1) = body.length :=
    Nat.mod_eq_of_lt (by omega)
  simp [remainder, all]

/-! ## A body that is discarded -/

theorem overflows_append {limit : Nat} {full : List UInt8}
    (length : full.length = limit + 1) (piece : List UInt8) :
    overflows limit (full ++ piece) =
      .notice (.frameOversized limit) :: overflows limit piece := by
  have more : (limit + 1 + piece.length) / (limit + 1) =
      piece.length / (limit + 1) + 1 := by
    rw [Nat.add_div_left _ (Nat.succ_pos limit)]
  simp [overflows, length, more, List.replicate_succ]

theorem remainder_append {limit : Nat} {full : List UInt8}
    (length : full.length = limit + 1) (piece : List UInt8) :
    remainder limit (full ++ piece) = remainder limit piece := by
  have same : (limit + 1 + piece.length) % (limit + 1) =
      piece.length % (limit + 1) := Nat.add_mod_left _ _
  have bounded : piece.length % (limit + 1) ≤ piece.length := Nat.mod_le _ _
  have beyond :
      limit + 1 + piece.length - piece.length % (limit + 1) =
        full.length + (piece.length - piece.length % (limit + 1)) := by omega
  unfold remainder
  rw [List.length_append, length, same, beyond, List.drop_length_add_append]

theorem decodePieces_append {limit : Nat} {full : List UInt8}
    (length : full.length = limit + 1) {pieces : List (List UInt8)}
    (nonempty : pieces ≠ []) :
    decodePieces limit (pieces.modifyHead (full ++ ·)) =
      .notice (.frameOversized limit) :: decodePieces limit pieces := by
  cases pieces with
  | nil => exact absurd rfl nonempty
  | cons piece rest =>
      cases rest with
      | nil => simp [decodePieces, overflows_append length]
      | cons next rest =>
          simp [decodePieces, overflows_append length, remainder_append length]

/-! ## Byte by byte and piece by piece -/

private theorem modifyHead_nil_append (pieces : List (List UInt8)) :
    pieces.modifyHead ([] ++ ·) = pieces := by
  cases pieces <;> rfl

/-- The body that was assembled before a stream belongs to its first piece. -/
theorem decodeFrom_eq_decodePieces (limit : Nat) (body bytes : List UInt8)
    (short : body.length ≤ limit) :
    decodeFrom limit body bytes =
      decodePieces limit
        ((bytes.splitOn Command.terminator).modifyHead (body ++ ·)) := by
  induction bytes generalizing body with
  | nil => simp [decodeFrom, decodePieces, overflows_of_length_le short]
  | cons byte rest induction =>
      have pieces : rest.splitOn Command.terminator ≠ [] :=
        List.splitOn_ne_nil _ _
      by_cases ends : byte = Command.terminator
      · obtain ⟨next, others, split⟩ := List.exists_cons_of_ne_nil pieces
        have whole := induction [] (Nat.zero_le limit)
        rw [modifyHead_nil_append, split] at whole
        simp [decodeFrom, ends, List.splitOn_cons_eq_if_modifyHead, split,
          decodePieces, overflows_of_length_le short,
          remainder_of_length_le short, whole]
      · have extended : ((byte :: rest).splitOn Command.terminator).modifyHead
            (body ++ ·) =
            (rest.splitOn Command.terminator).modifyHead
              ((body ++ [byte]) ++ ·) := by
          simp [List.splitOn_cons_eq_if_modifyHead, ends, Function.comp_def]
        by_cases fits : body.length + 1 ≤ limit
        · rw [extended, ← induction (body ++ [byte]) (by simpa using fits)]
          simp [decodeFrom, ends, fits]
        · have full : (body ++ [byte]).length = limit + 1 := by
            simp only [List.length_append, List.length_singleton]
            omega
          have whole := induction [] (Nat.zero_le limit)
          rw [modifyHead_nil_append] at whole
          rw [extended, decodePieces_append full pieces, ← whole]
          simp [decodeFrom, ends, fits]

/-- Going through a stream byte by byte gives what its pieces come to. -/
theorem decodeFrom_nil (limit : Nat) (bytes : List UInt8) :
    decodeFrom limit [] bytes = decode limit bytes := by
  rw [decodeFrom_eq_decodePieces limit [] bytes (Nat.zero_le limit),
    modifyHead_nil_append, decode]

theorem decodeFrom_append {limit : Nat} (assembled body rest : List UInt8)
    (unbroken : Command.terminator ∉ body) (short : (assembled ++ body).length ≤ limit) :
    decodeFrom limit assembled (body ++ rest) = decodeFrom limit (assembled ++ body) rest := by
  induction body generalizing assembled with
  | nil => simp
  | cons byte body induction =>
      rw [List.mem_cons, not_or] at unbroken
      have ordinary : byte ≠ Command.terminator := Ne.symm unbroken.1
      have fits : assembled.length + 1 ≤ limit := by
        simp only [List.length_append, List.length_cons] at short
        omega
      have later := induction (assembled ++ [byte]) unbroken.2 (by simpa using short)
      simpa [decodeFrom, ordinary, fits] using later

end Decoding

end Overseer
