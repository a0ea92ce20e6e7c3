import Overseer.Control.Command
import Overseer.Notice

/-!
# Reading frames from a connection

Bytes come from a connection in chunks that have nothing to do with frames.  The
reader assembles the body of a frame until its terminator; bytes behind the
terminator are carried over to the next call.  A body that grows beyond its
bound is discarded, and a frame that describes no command is dropped, each with
a notice.

`digest` is what a call does with carried bytes alone, `receive` what it does
with a delivery of the connection, and `read` is one whole call.
-/

namespace Overseer

/-- What a connection hands over when it is read. -/
inductive Delivery where
  | bytes (bytes : List UInt8)
  | ended
  | failed (error : SystemError)

/-- A connection that can be read: how a state hands over at most so many bytes,
or nothing if the read has to wait. -/
abbrev Inlet (σ : Type) := σ → Nat → Option (Delivery × σ)

/-- The reader of one connection after another. -/
structure FrameReader where
  /-- The largest body that is assembled. -/
  bodyLimit : Nat
  /-- How many bytes one read asks for. -/
  chunkSize : Nat
  /-- The bytes of the frame that is being assembled. -/
  assembled : Array UInt8
  /-- Bytes behind a terminator, for the next call. -/
  carried : List UInt8
  /-- Whether a connection ended or failed. -/
  closed : Bool

namespace FrameReader

/-- How many bytes a read asks for, unless told otherwise. -/
def defaultChunkSize : Nat := 1024

/-- The largest body that is assembled, unless told otherwise. -/
def defaultBodyLimit : Nat := 8192

/-- A reader with these limits; it asks for at least one byte. -/
def withLimits (bodyLimit chunkSize : Nat) : FrameReader :=
  { bodyLimit := bodyLimit
    chunkSize := max 1 chunkSize
    assembled := #[]
    carried := []
    closed := false }

/-- A reader with the default limits. -/
def fresh : FrameReader :=
  withLimits defaultBodyLimit defaultChunkSize

/-- The number of bytes of the frame that is being assembled. -/
def buffered (reader : FrameReader) : Nat :=
  reader.assembled.size

/-- The reader after some bytes, a command if one was completed, and what was
reported. -/
structure Progress where
  reader : FrameReader
  command : Option Command
  notices : List Notice

/-- One more byte of a body, discarding the body if it is beyond the limit. -/
def push (reader : FrameReader) (byte : UInt8) : FrameReader × List Notice :=
  if reader.assembled.size + 1 ≤ reader.bodyLimit then
    ({ reader with assembled := reader.assembled.push byte }, [])
  else
    ({ reader with assembled := #[] }, [.frameOversized reader.bodyLimit])

/-- The frame that was assembled is complete and `behind` follows it. -/
def complete (reader : FrameReader) (notices : List Notice)
    (behind : List UInt8) : Progress :=
  let next := { reader with assembled := #[], carried := behind }
  match Command.ofBody reader.assembled.toList with
  | .ok command => ⟨next, some command, notices⟩
  | .error fault => ⟨next, none, notices ++ [.frameDropped fault]⟩

/-- Bytes of a frame up to its terminator, after `notices`. -/
def feed (reader : FrameReader) (notices : List Notice) :
    List UInt8 → Progress
  | [] => ⟨reader, none, notices⟩
  | byte :: rest =>
      if byte = Command.terminator then reader.complete notices rest
      else
        let pushed := reader.push byte
        feed pushed.1 (notices ++ pushed.2) rest

/-- What a call makes of the bytes carried over, and whether it then wants to
read the connection. -/
def digest (reader : FrameReader) : Progress × Bool :=
  match reader.carried with
  | [] => (⟨reader, none, []⟩, !reader.closed)
  | carried =>
      let progress := feed { reader with carried := [] } [] carried
      (progress, progress.command.isNone && progress.reader.carried.isEmpty &&
        !progress.reader.closed)

/-- What a call makes of a delivery of the connection. -/
def receive (reader : FrameReader) (notices : List Notice) :
    Delivery → Progress
  | .bytes [] | .ended => ⟨{ reader with closed := true }, none, notices⟩
  | .bytes bytes => reader.feed notices bytes
  | .failed error =>
      ⟨{ reader with closed := true }, none, notices ++ [.receiveFailed error]⟩

/-- What a call of `read` came to. -/
structure Call (σ : Type) where
  progress : Progress
  connection : σ
  /-- The call waits for the connection; what it did so far is done. -/
  waiting : Bool

/-- One call: the bytes carried over first, then at most one chunk of the
connection. -/
def read {σ : Type} (inlet : Inlet σ) (reader : FrameReader) (connection : σ) :
    Call σ :=
  let digested := reader.digest
  if digested.2 then
    match inlet connection digested.1.reader.chunkSize with
    | none => ⟨digested.1, connection, true⟩
    | some (delivery, rest) =>
        ⟨digested.1.reader.receive digested.1.notices delivery, rest, false⟩
  else ⟨digested.1, connection, false⟩

end FrameReader

end Overseer
