import Overseer.Proofs.Framing.Decoding

/-!
# Conservation of a stream by the reader of frames

Whatever a call does, the outcomes that it lets out and those that the reader
still holds in prospect are together what was in prospect before.  `outlook` is
that prospect: what the assembled body, the bytes carried over and the bytes to
come decode to.

The lemmas follow the parts of a call: `feed` on bytes, `digest` on the bytes
carried over, `receive` on a delivery, and `read` on all of it.
-/

namespace Overseer

open Decoding

namespace FrameReader

def Progress.outcomes (progress : Progress) : List Outcome :=
  progress.notices.map Outcome.notice ++ progress.command.toList.map Outcome.command

/-- What a reader makes of the bytes that it holds and of those to come. -/
def outlook (reader : FrameReader) (bytes : List UInt8) : List Outcome :=
  decodeFrom reader.bodyLimit reader.assembled.toList (reader.carried ++ bytes)

@[simp] theorem Progress.outcomes_silent (reader : FrameReader) :
    (Progress.mk reader none []).outcomes = [] := rfl

/-- A reader that carries nothing over has nothing in prospect until bytes come. -/
theorem outlook_nil {reader : FrameReader} (settled : reader.carried = []) :
    reader.outlook [] = [] := by
  simp [outlook, settled, decodeFrom]

/-- The commands that a call lets out are the one that it returns. -/
theorem Progress.commands (progress : Progress) :
    progress.outcomes.filterMap Outcome.command? = progress.command.toList := by
  have reports (notices : List Notice) :
      (notices.map Outcome.notice).filterMap Outcome.command? = [] := by
    induction notices with
    | nil => rfl
    | cons notice notices induction => exact induction
  unfold outcomes
  rw [List.filterMap_append, reports]
  cases progress.command <;> rfl

/-! ## Feeding bytes -/

theorem push_frame (reader : FrameReader) (byte : UInt8) :
    ∃ assembled, (reader.push byte).1 = { reader with assembled := assembled } := by
  unfold push
  split
  · exact ⟨_, rfl⟩
  · exact ⟨_, rfl⟩

theorem complete_frame (reader : FrameReader) (notices : List Notice)
    (behind : List UInt8) :
    (reader.complete notices behind).reader =
      { reader with assembled := #[], carried := behind } := by
  unfold complete
  cases Command.ofBody reader.assembled.toList <;> rfl

theorem feed_frame (reader : FrameReader) (notices : List Notice)
    (bytes : List UInt8) :
    ∃ assembled carried,
      (reader.feed notices bytes).reader =
        { reader with assembled := assembled, carried := carried } := by
  induction bytes generalizing reader notices with
  | nil => exact ⟨reader.assembled, reader.carried, rfl⟩
  | cons byte rest induction =>
      unfold feed
      split
      · exact ⟨#[], rest, complete_frame reader notices rest⟩
      · obtain ⟨assembled, pushed⟩ := push_frame reader byte
        obtain ⟨last, carried, fed⟩ :=
          induction (reader.push byte).1 (notices ++ (reader.push byte).2)
        exact ⟨last, carried, by rw [fed, pushed]⟩

@[simp] theorem feed_bodyLimit (reader : FrameReader) (notices : List Notice)
    (bytes : List UInt8) :
    (reader.feed notices bytes).reader.bodyLimit = reader.bodyLimit := by
  obtain ⟨_, _, fed⟩ := feed_frame reader notices bytes
  rw [fed]

@[simp] theorem feed_chunkSize (reader : FrameReader) (notices : List Notice)
    (bytes : List UInt8) :
    (reader.feed notices bytes).reader.chunkSize = reader.chunkSize := by
  obtain ⟨_, _, fed⟩ := feed_frame reader notices bytes
  rw [fed]

@[simp] theorem feed_closed (reader : FrameReader) (notices : List Notice)
    (bytes : List UInt8) :
    (reader.feed notices bytes).reader.closed = reader.closed := by
  obtain ⟨_, _, fed⟩ := feed_frame reader notices bytes
  rw [fed]

theorem complete_outcomes (reader : FrameReader) (notices : List Notice)
    (behind : List UInt8) :
    (reader.complete notices behind).outcomes =
      notices.map Outcome.notice ++ [verdict reader.assembled.toList] := by
  unfold complete verdict
  cases Command.ofBody reader.assembled.toList <;> simp [Progress.outcomes]

/-- Fed bytes come out or stay in prospect, whatever follows them. -/
theorem feed_conserves (reader : FrameReader) (notices : List Notice)
    (bytes later : List UInt8) (settled : reader.carried = []) :
    (reader.feed notices bytes).outcomes ++
        (reader.feed notices bytes).reader.outlook later =
      notices.map Outcome.notice ++
        decodeFrom reader.bodyLimit reader.assembled.toList (bytes ++ later) := by
  induction bytes generalizing reader notices with
  | nil => simp [feed, Progress.outcomes, outlook, settled]
  | cons byte rest induction =>
      by_cases ends : byte = Command.terminator
      · simp [feed, ends, complete_outcomes, complete_frame, outlook, decodeFrom]
      · by_cases fits : reader.assembled.size + 1 ≤ reader.bodyLimit
        · have fed := induction { reader with assembled := reader.assembled.push byte }
            notices settled
          simpa [feed, ends, push, fits, decodeFrom] using fed
        · have fed := induction { reader with assembled := #[] }
            (notices ++ [.frameOversized reader.bodyLimit]) settled
          simpa [feed, ends, push, fits, decodeFrom] using fed

/-- What is carried over after feeding lies behind a terminator. -/
theorem feed_carried_length (reader : FrameReader) (notices : List Notice)
    (bytes : List UInt8) (settled : reader.carried = []) (nonempty : bytes ≠ []) :
    (reader.feed notices bytes).reader.carried.length < bytes.length := by
  induction bytes generalizing reader notices with
  | nil => exact absurd rfl nonempty
  | cons byte rest induction =>
      unfold feed
      split
      · simp [complete_frame]
      · obtain ⟨assembled, pushed⟩ := push_frame reader byte
        have still : (reader.push byte).1.carried = [] := by
          rw [pushed]
          exact settled
        cases rest with
        | nil => simp [feed, still]
        | cons next rest =>
            exact Nat.lt_succ_of_lt (induction _ _ still (by simp))

/-! ## Digesting what was carried over -/

theorem digest_of_nil {reader : FrameReader} (settled : reader.carried = []) :
    reader.digest = (⟨reader, none, []⟩, !reader.closed) := by
  simp [digest, settled]

theorem digest_of_ne_nil {reader : FrameReader} (nonempty : reader.carried ≠ []) :
    reader.digest.1 = feed { reader with carried := [] } [] reader.carried := by
  unfold digest
  split
  · exact absurd ‹reader.carried = []› nonempty
  · rfl

@[simp] theorem digest_bodyLimit (reader : FrameReader) :
    reader.digest.1.reader.bodyLimit = reader.bodyLimit := by
  by_cases settled : reader.carried = []
  · rw [digest_of_nil settled]
  · rw [digest_of_ne_nil settled, feed_bodyLimit]

@[simp] theorem digest_chunkSize (reader : FrameReader) :
    reader.digest.1.reader.chunkSize = reader.chunkSize := by
  by_cases settled : reader.carried = []
  · rw [digest_of_nil settled]
  · rw [digest_of_ne_nil settled, feed_chunkSize]

@[simp] theorem digest_closed (reader : FrameReader) :
    reader.digest.1.reader.closed = reader.closed := by
  by_cases settled : reader.carried = []
  · rw [digest_of_nil settled]
  · rw [digest_of_ne_nil settled, feed_closed]

theorem digest_conserves (reader : FrameReader) (later : List UInt8) :
    reader.digest.1.outcomes ++ reader.digest.1.reader.outlook later =
      reader.outlook later := by
  by_cases settled : reader.carried = []
  · simp [digest_of_nil settled]
  · rw [digest_of_ne_nil settled,
      feed_conserves { reader with carried := [] } [] reader.carried later rfl]
    rfl

theorem digest_carried_length (reader : FrameReader) :
    reader.digest.1.reader.carried.length ≤ reader.carried.length ∧
      (reader.carried ≠ [] →
        reader.digest.1.reader.carried.length < reader.carried.length) := by
  by_cases settled : reader.carried = []
  · simp [digest_of_nil settled, settled]
  · have less := feed_carried_length { reader with carried := [] } []
      reader.carried rfl settled
    rw [digest_of_ne_nil settled]
    exact ⟨Nat.le_of_lt less, fun _ => less⟩

/-- A reader turns to its connection only when it is open, carries nothing over
and has found no command. -/
theorem of_digest_wants {reader : FrameReader} (wants : reader.digest.2 = true) :
    reader.closed = false ∧ reader.digest.1.reader.carried = [] ∧
      reader.digest.1.command = none := by
  by_cases settled : reader.carried = []
  · rw [digest_of_nil settled] at wants ⊢
    exact ⟨by simpa using wants, settled, rfl⟩
  · have closed := digest_closed reader
    rw [digest] at wants
    split at wants
    · exact absurd ‹reader.carried = []› settled
    · rw [← digest_of_ne_nil settled] at wants
      simp only [Bool.and_eq_true, Option.isNone_iff_eq_none, List.isEmpty_iff,
        Bool.not_eq_true', closed] at wants
      exact ⟨wants.2, wants.1.2, wants.1.1⟩

/-- A reader that does not turn to its connection is closed, or it has consumed
bytes that were carried over. -/
theorem of_not_digest_wants {reader : FrameReader}
    (idle : reader.digest.2 = false) :
    reader.closed = true ∨ reader.carried ≠ [] := by
  by_cases settled : reader.carried = []
  · rw [digest_of_nil settled] at idle
    exact .inl (by simpa using idle)
  · exact .inr settled

/-! ## Receiving a delivery -/

theorem receive_bytes (reader : FrameReader) (notices : List Notice)
    {bytes : List UInt8} (nonempty : bytes ≠ []) :
    reader.receive notices (.bytes bytes) = reader.feed notices bytes := by
  cases bytes with
  | nil => exact absurd rfl nonempty
  | cons byte rest => rfl

/-! ## A whole call -/

/-- What one call comes to: it is content with what it carried over, it waits
for the connection, or it takes a delivery. -/
inductive Reads {σ : Type} (inlet : Inlet σ) (reader : FrameReader)
    (connection : σ) : Call σ → Prop where
  | content (idle : reader.digest.2 = false) :
      Reads inlet reader connection ⟨reader.digest.1, connection, false⟩
  | waits (wants : reader.digest.2 = true)
      (nothing : inlet connection reader.chunkSize = none) :
      Reads inlet reader connection ⟨reader.digest.1, connection, true⟩
  | takes {delivery : Delivery} {rest : σ} (wants : reader.digest.2 = true)
      (hands : inlet connection reader.chunkSize = some (delivery, rest)) :
      Reads inlet reader connection
        ⟨reader.digest.1.reader.receive reader.digest.1.notices delivery, rest,
          false⟩

theorem read_reads {σ : Type} (inlet : Inlet σ) (reader : FrameReader)
    (connection : σ) :
    Reads inlet reader connection (reader.read inlet connection) := by
  unfold read
  by_cases wants : reader.digest.2 = true
  · simp only [wants, if_true, digest_chunkSize]
    cases hands : inlet connection reader.chunkSize with
    | none => exact .waits wants hands
    | some handed => exact .takes wants hands
  · simp only [wants]
    exact .content (by simpa using wants)

theorem read_of_closed {σ : Type} {inlet : Inlet σ} {reader : FrameReader}
    (isClosed : reader.closed = true) (settled : reader.carried = []) (connection : σ) :
    reader.read inlet connection = ⟨⟨reader, none, []⟩, connection, false⟩ := by
  simp [read, digest_of_nil settled, isClosed]

/-- A delivery of bytes comes out or stays in prospect, with what the call had
digested before. -/
theorem receive_conserves {reader : FrameReader} {bytes : List UInt8}
    (wants : reader.digest.2 = true) (nonempty : bytes ≠ []) (later : List UInt8) :
    (reader.digest.1.reader.receive reader.digest.1.notices
          (.bytes bytes)).outcomes ++
        (reader.digest.1.reader.receive reader.digest.1.notices
          (.bytes bytes)).reader.outlook later =
      reader.outlook (bytes ++ later) := by
  obtain ⟨_, settled, quiet⟩ := of_digest_wants wants
  have digested := digest_conserves reader (bytes ++ later)
  rw [receive_bytes _ _ nonempty, feed_conserves _ _ _ _ settled, ← digested]
  simp [Progress.outcomes, quiet, outlook, settled]

end FrameReader

end Overseer
