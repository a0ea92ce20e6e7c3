import Overseer.Control.FrameWriter

/-!
# Scripted writing

A scripted connection takes at most a chunk per call and never goes past a mark.
At the mark for failures a call fails, an interruption only once; at the mark
for zero a call takes nothing.
-/

namespace Overseer.Rehearsal

/-- A connection that takes bytes by rule, and what it went through. -/
structure WritingStage where
  chunk : Option Nat
  failure : Option (Nat × SystemError)
  zeroMark : Option Nat
  flushFailure : Option SystemError
  taken : List UInt8
  writes : Nat
  flushes : Nat

namespace WritingStage

def room (stage : WritingStage) (mark : Option Nat) (offered : Nat) : Nat :=
  match mark with
  | none => offered
  | some mark => min offered (mark - stage.taken.length)

/-- How many bytes a call takes. -/
def share (stage : WritingStage) (offered : Nat) : Nat :=
  let within := min offered (stage.chunk.getD offered)
  stage.room (stage.failure.map Prod.fst) (stage.room stage.zeroMark within)

def failureNow (stage : WritingStage) : Option SystemError :=
  stage.failure.bind fun failure =>
    if failure.1 ≤ stage.taken.length then some failure.2 else none

def write (stage : WritingStage) (bytes : List UInt8) :
    Acceptance × WritingStage :=
  let called := { stage with writes := stage.writes + 1 }
  match stage.failureNow with
  | some error =>
      (.fails error,
        if error.isInterrupted then { called with failure := none } else called)
  | none =>
      let count := stage.share bytes.length
      (.takes count, { called with taken := called.taken ++ bytes.take count })

def flush (stage : WritingStage) : Option SystemError × WritingStage :=
  (stage.flushFailure, { stage with flushes := stage.flushes + 1 })

/-- The scripted connection as an outlet. -/
def outlet : Outlet WritingStage :=
  { write := write
    flush := flush }

def play (stage : WritingStage) :
    List Command → List (Except SystemError Unit) × WritingStage
  | [] => ([], stage)
  | command :: rest =>
      let written :=
        FrameWriter.write outlet (command.frame.length + 2) command stage
      let later := written.connection.play rest
      (written.result.getD (.error FrameWriter.writeZero) :: later.1, later.2)

end WritingStage

end Overseer.Rehearsal
