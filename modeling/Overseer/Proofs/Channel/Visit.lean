import Overseer.Control.Gate
import Overseer.Proofs.Channel.Connections
import Overseer.Proofs.Framing.Conservation

/-!
# The visit of one connection

A gate that has accepted a connection reads it until there is a command, the
connection has ended or its time is up.  `Attended` is what holds in between:
what the reader and the connection still hold has the same first command as all
the bytes that were delivered.  `read_visit` states that a step keeps this, or
leaves with exactly that command.
-/

namespace Overseer

open Decoding

namespace FrameReader

/-- The first command that a reader makes of what it holds and what comes. -/
def prospect (reader : FrameReader) (bytes : List UInt8) : Option Command :=
  (reader.outlook bytes).findSome? Outcome.command?

theorem Progress.command_of_outcomes (progress : Progress) :
    progress.outcomes.findSome? Outcome.command? = progress.command := by
  rw [← List.head?_filterMap, progress.commands]
  cases progress.command <;> rfl

/-- Where outcomes are conserved, the first command comes out or stays in
prospect. -/
theorem prospect_of_conserves {reader : FrameReader} {progress : Progress}
    {bytes later : List UInt8}
    (conserved : progress.outcomes ++ progress.reader.outlook later =
      reader.outlook bytes) :
    reader.prospect bytes = progress.command.or (progress.reader.prospect later) := by
  unfold prospect
  rw [← conserved, List.findSome?_append, progress.command_of_outcomes]

theorem prospect_fresh (bytes : List UInt8) :
    fresh.prospect bytes = firstCommand? defaultBodyLimit bytes := by
  unfold prospect firstCommand?
  rw [← decodeFrom_nil]
  rfl

theorem prospect_nil {reader : FrameReader} (settled : reader.carried = []) :
    reader.prospect [] = none := by
  rw [prospect, outlook_nil settled]
  rfl

end FrameReader

namespace Gate

/-- A reader attends to a connection over which `delivered` came: what is not
read yet has the same first command as all of it, whatever comes later. -/
structure Attended (sockets : Sockets) (connection : Nat) (reader : FrameReader)
    (delivered : List UInt8) : Prop where
  known : connection < sockets.connections.size
  kept : (sockets.connection connection).dropped = false
  bounded : reader.bodyLimit = FrameReader.defaultBodyLimit
  asks : 1 ≤ reader.chunkSize
  isOpen : reader.closed = false
  prospect : ∀ later,
    reader.prospect ((sockets.connection connection).arrived ++ later) =
      firstCommand? FrameReader.defaultBodyLimit (delivered ++ later)

theorem attended_fresh {sockets : Sockets} {connection : Nat}
    (known : connection < sockets.connections.size)
    (kept : (sockets.connection connection).dropped = false) :
    Attended sockets connection FrameReader.fresh
      (sockets.connection connection).arrived :=
  { known := known
    kept := kept
    bounded := rfl
    asks := by decide
    isOpen := rfl
    prospect := fun later => FrameReader.prospect_fresh _ }

theorem Attended.extend {before after : Sockets} {connection : Nat}
    {reader : FrameReader} {delivered : List UInt8} (bytes : List UInt8)
    (attended : Attended before connection reader delivered)
    (size : before.connections.size ≤ after.connections.size)
    (arrived : (after.connection connection).arrived =
      (before.connection connection).arrived ++ bytes)
    (dropped : (after.connection connection).dropped =
      (before.connection connection).dropped) :
    Attended after connection reader (delivered ++ bytes) := by
  refine ⟨Nat.lt_of_lt_of_le attended.known size, ?_, attended.bounded,
    attended.asks, attended.isOpen, ?_⟩
  · rw [dropped]
    exact attended.kept
  · intro later
    have extended := attended.prospect (bytes ++ later)
    rw [arrived]
    simpa using extended

theorem Attended.unchanged {before after : Sockets} {connection : Nat}
    {reader : FrameReader} {delivered : List UInt8}
    (attended : Attended before connection reader delivered)
    (size : before.connections.size ≤ after.connections.size)
    (same : after.connection connection = before.connection connection) :
    Attended after connection reader delivered := by
  have extended := attended.extend [] size (by rw [same, List.append_nil])
    (by rw [same])
  rwa [List.append_nil] at extended

/-- What a gate waits for when it leaves a connection with this command, if
any. -/
def Watch.behind : Option Command → Watch
  | none => .accepting
  | some command => .offering command

/-- What a step of the gate at a connection comes to: it goes on reading, or it
leaves with the first command of all that was delivered.  It leaves without a
command only if the connection has ended or its time is up. -/
inductive Visit (now : Instant) (sockets : Sockets) (gate : Gate)
    (connection : Nat) (deadline : Instant) (delivered : List UInt8) :
    Step → Prop where
  | stays {after : Sockets} {notices : List Notice} {reader : FrameReader}
      (apart : Sockets.Apart connection sockets after)
      (attended : Attended after connection reader delivered) :
      Visit now sockets gate connection deadline delivered
        ⟨after, gate, notices, some (.reading connection reader deadline)⟩
  | leaves {after : Sockets} {notices : List Notice}
      (apart : Sockets.Apart connection sockets after)
      (dropped : (after.connection connection).dropped = true)
      (reason :
        (firstCommand? FrameReader.defaultBodyLimit delivered).isSome ∨
          (sockets.connection connection).ended = true ∨ deadline ≤ now) :
      Visit now sockets gate connection deadline delivered
        ⟨after, gate, notices,
          some (.behind
            (firstCommand? FrameReader.defaultBodyLimit delivered))⟩

variable {now : Instant} {sockets : Sockets} {gate : Gate} {connection : Nat}
  {deadline : Instant} {delivered : List UInt8}

theorem Visit.answers {after : Sockets} (notices : List Notice)
    {command : Command} (apart : Sockets.Apart connection sockets after)
    (first : firstCommand? FrameReader.defaultBodyLimit delivered =
      some command) :
    Visit now sockets gate connection deadline delivered
      (gate.leave after connection notices (some (.offering command))) := by
  have left : Visit now sockets gate connection deadline delivered
      (gate.leave after connection notices (some (.behind
        (firstCommand? FrameReader.defaultBodyLimit delivered)))) :=
    .leaves (apart.trans (Sockets.apart_drop after connection))
      (Sockets.dropped_drop after connection) (.inl (by simp [first]))
  rw [first] at left
  exact left

theorem Visit.resigns {after : Sockets} (notices : List Notice)
    (apart : Sockets.Apart connection sockets after)
    (first : firstCommand? FrameReader.defaultBodyLimit delivered = none)
    (reason : (sockets.connection connection).ended = true ∨ deadline ≤ now) :
    Visit now sockets gate connection deadline delivered
      (gate.leave after connection notices (some .accepting)) := by
  have left : Visit now sockets gate connection deadline delivered
      (gate.leave after connection notices (some (.behind
        (firstCommand? FrameReader.defaultBodyLimit delivered)))) :=
    .leaves (apart.trans (Sockets.apart_drop after connection))
      (Sockets.dropped_drop after connection) (.inr reason)
  rw [first] at left
  exact left

/-! ## One step of a visit -/

theorem Attended.first {reader : FrameReader}
    (attended : Attended sockets connection reader delivered) :
    reader.prospect (sockets.connection connection).arrived =
      firstCommand? FrameReader.defaultBodyLimit delivered := by
  have whole := attended.prospect []
  rwa [List.append_nil, List.append_nil] at whole

/-- Where everything was read, nothing is in prospect any more. -/
theorem Attended.first_of_empty {reader : FrameReader}
    (attended : Attended sockets connection reader delivered)
    (wants : reader.digest.2 = true)
    (empty : (sockets.connection connection).arrived = []) :
    firstCommand? FrameReader.defaultBodyLimit delivered = none := by
  obtain ⟨_, settled, quiet⟩ := FrameReader.of_digest_wants wants
  rw [← attended.first, empty,
    FrameReader.prospect_of_conserves (FrameReader.digest_conserves reader []),
    quiet, FrameReader.prospect_nil settled]
  rfl

/-- A call that takes a reader and its connection further, but not to its end. -/
structure Advances (connection : Nat) (reader : FrameReader) (before : Sockets)
    (progress : FrameReader.Progress) (after : Sockets) : Prop where
  apart : Sockets.Apart connection before after
  dropped : (after.connection connection).dropped =
    (before.connection connection).dropped
  bodyLimit : progress.reader.bodyLimit = reader.bodyLimit
  chunkSize : progress.reader.chunkSize = reader.chunkSize
  closed : progress.reader.closed = reader.closed
  conserved : ∀ later,
    progress.outcomes ++ progress.reader.outlook
        ((after.connection connection).arrived ++ later) =
      reader.outlook ((before.connection connection).arrived ++ later)

theorem advances_digest (connection : Nat) (reader : FrameReader)
    (sockets : Sockets) :
    Advances connection reader sockets reader.digest.1 sockets :=
  { apart := .refl connection sockets
    dropped := rfl
    bodyLimit := FrameReader.digest_bodyLimit reader
    chunkSize := FrameReader.digest_chunkSize reader
    closed := FrameReader.digest_closed reader
    conserved := fun _ => FrameReader.digest_conserves reader _ }

theorem Attended.advances_receive {reader : FrameReader}
    (attended : Attended sockets connection reader delivered)
    (wants : reader.digest.2 = true)
    (arrived : (sockets.connection connection).arrived ≠ []) :
    Advances connection reader sockets
      (reader.digest.1.reader.receive reader.digest.1.notices
        (.bytes ((sockets.connection connection).arrived.take reader.chunkSize)))
      (sockets.setConnection connection
        { sockets.connection connection with
          arrived :=
            (sockets.connection connection).arrived.drop reader.chunkSize }) := by
  have nonempty :
      (sockets.connection connection).arrived.take reader.chunkSize ≠ [] := by
    intro nothing
    rcases List.take_eq_nil_iff.mp nothing with zero | empty
    · have asks := attended.asks
      omega
    · exact arrived empty
  have left := Sockets.connection_setConnection_self attended.known
    { sockets.connection connection with
      arrived := (sockets.connection connection).arrived.drop reader.chunkSize }
  refine ⟨Sockets.apart_setConnection sockets connection _, ?_, ?_, ?_, ?_, ?_⟩
  · rw [left]
  · simp [FrameReader.receive_bytes _ _ nonempty]
  · simp [FrameReader.receive_bytes _ _ nonempty]
  · simp [FrameReader.receive_bytes _ _ nonempty]
  · intro later
    rw [left, FrameReader.receive_conserves wants nonempty,
      ← List.append_assoc, List.take_append_drop]

theorem Attended.answers {after : Sockets} {reader : FrameReader}
    {progress : FrameReader.Progress}
    (attended : Attended sockets connection reader delivered)
    (advances : Advances connection reader sockets progress after)
    {command : Command} (found : progress.command = some command) :
    Visit now sockets gate connection deadline delivered
      (gate.leave after connection progress.notices
        (some (.offering command))) := by
  have whole := advances.conserved []
  rw [List.append_nil, List.append_nil] at whole
  have first : firstCommand? FrameReader.defaultBodyLimit delivered =
      some command := by
    rw [← attended.first, FrameReader.prospect_of_conserves whole, found]
    rfl
  exact Visit.answers progress.notices advances.apart first

theorem Attended.goesOn {after : Sockets} {reader : FrameReader}
    {progress : FrameReader.Progress}
    (attended : Attended sockets connection reader delivered)
    (advances : Advances connection reader sockets progress after)
    (quiet : progress.command = none) :
    Visit now sockets gate connection deadline delivered
      ⟨after, gate, progress.notices,
        some (.reading connection progress.reader deadline)⟩ := by
  refine .stays advances.apart ⟨?_, ?_, ?_, ?_, ?_, ?_⟩
  · rw [advances.apart.size]
    exact attended.known
  · rw [advances.dropped, attended.kept]
  · rw [advances.bodyLimit, attended.bounded]
  · rw [advances.chunkSize]
    exact attended.asks
  · rw [advances.closed, attended.isOpen]
  · intro later
    rw [← attended.prospect later,
      FrameReader.prospect_of_conserves (advances.conserved later), quiet]
    rfl

/-- A step of the gate at an attended connection goes on with it or leaves it
with its first command. -/
theorem read_visit {reader : FrameReader}
    (attended : Attended sockets connection reader delivered) :
    Visit now sockets gate connection deadline delivered
      (gate.read now sockets connection reader deadline) := by
  have digests := advances_digest connection reader sockets
  have reads := FrameReader.read_reads (Sockets.inlet connection) reader sockets
  unfold read
  dsimp only
  generalize reader.read (Sockets.inlet connection) sockets = call at reads ⊢
  cases reads with
  | content idle =>
      cases found : reader.digest.1.command with
      | some command => exact attended.answers digests found
      | none => simpa [attended.isOpen] using attended.goesOn digests found
  | waits wants nothing =>
      have hands := Sockets.inlet_hands sockets connection reader.chunkSize
      obtain ⟨_, _, quiet⟩ := FrameReader.of_digest_wants wants
      rw [nothing] at hands
      cases hands with
      | nothing empty _ =>
          by_cases late : deadline ≤ now
          · have visit : Visit now sockets gate connection deadline delivered
                (gate.expire sockets connection reader.digest.1.notices) :=
              Visit.resigns _ (.refl connection sockets)
                (attended.first_of_empty wants empty) (.inr late)
            simpa [quiet, attended.isOpen, late] using visit
          · simpa [quiet, attended.isOpen, late] using
              attended.goesOn digests quiet
  | takes wants taken =>
      have hands := Sockets.inlet_hands sockets connection reader.chunkSize
      obtain ⟨_, _, quiet⟩ := FrameReader.of_digest_wants wants
      rw [taken] at hands
      cases hands with
      | ending empty ended =>
          have resigned (notices : List Notice) :
              Visit now sockets gate connection deadline delivered
                (gate.leave sockets connection notices (some .accepting)) :=
            Visit.resigns notices (.refl connection sockets)
              (attended.first_of_empty wants empty) (.inl ended)
          unfold Connection.ending
          cases (sockets.connection connection).failure with
          | none => exact resigned _
          | some error => exact resigned _
      | bytes arrived =>
          have advances := attended.advances_receive wants arrived
          generalize reader.digest.1.reader.receive _ _ = progress at advances ⊢
          cases found : progress.command with
          | some command => exact attended.answers advances found
          | none =>
              have isOpen : progress.reader.closed = false := by
                rw [advances.closed, attended.isOpen]
              simpa [isOpen] using attended.goesOn advances found

theorem step_connectionTimeout (now : Instant) (stopFlag : Bool)
    (sockets : Sockets) (gate : Gate) (watch : Watch) :
    (gate.step now stopFlag sockets watch).gate.connectionTimeout =
      gate.connectionTimeout := by
  unfold step
  split
  · cases watch <;> rfl
  · cases watch with
    | accepting =>
        dsimp only
        cases sockets.accept? gate.listener <;> rfl
    | reading connection reader deadline =>
        dsimp only [read]
        split
        · rfl
        · split
          · rfl
          · split <;> rfl
    | offering command =>
        dsimp only [offer]
        split <;> rfl

end Gate

end Overseer
