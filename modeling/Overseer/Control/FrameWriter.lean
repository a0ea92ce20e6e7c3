import Overseer.Control.Command

/-!
# Writing frames to a connection

A frame is offered to the connection until all of it was taken, and then the
connection is flushed.  A connection may take any part of what it is offered; an
interrupted call is repeated, a call that takes nothing is an error.

The writer is given a bound on the number of calls, since a connection may
interrupt it without end.  When the bound is reached there is no result.
-/

namespace Overseer

/-- What a connection does with the bytes that it is offered. -/
inductive Acceptance where
  | takes (count : Nat)
  | fails (error : SystemError)

/-- A connection that can be written: what a state does with bytes that are
offered, and with a flush. -/
structure Outlet (σ : Type) where
  write : σ → List UInt8 → Acceptance × σ
  flush : σ → Option SystemError × σ

namespace FrameWriter

/-- The connection after a write, the bytes it took, and the result, if there
is one within the calls allowed. -/
structure Written (σ : Type) where
  connection : σ
  taken : List UInt8
  result : Option (Except SystemError Unit)

/-- The error of a call that takes nothing. -/
def writeZero : SystemError := .kind .writeZero

/-- Offers `bytes` until all are taken, in at most `calls` calls; `taken` holds
the bytes taken so far. -/
def writeAll {σ : Type} (outlet : Outlet σ) :
    (calls : Nat) → (connection : σ) → (taken bytes : List UInt8) → Written σ
  | _, connection, taken, [] => ⟨connection, taken, some (.ok ())⟩
  | 0, connection, taken, _ :: _ => ⟨connection, taken, none⟩
  | calls + 1, connection, taken, bytes =>
      match outlet.write connection bytes with
      | (.fails error, next) =>
          if error.isInterrupted then writeAll outlet calls next taken bytes
          else ⟨next, taken, some (.error error)⟩
      | (.takes 0, next) => ⟨next, taken, some (.error writeZero)⟩
      | (.takes count, next) =>
          writeAll outlet calls next (taken ++ bytes.take count)
            (bytes.drop count)

/-- Writes the frame of a command and flushes the connection. -/
def write {σ : Type} (outlet : Outlet σ) (calls : Nat) (command : Command)
    (connection : σ) : Written σ :=
  let written := writeAll outlet calls connection [] command.frame
  match written.result with
  | some (.ok ()) =>
      match outlet.flush written.connection with
      | (none, next) => { written with connection := next }
      | (some error, next) =>
          { written with connection := next, result := some (.error error) }
  | _ => written

end FrameWriter

end Overseer
