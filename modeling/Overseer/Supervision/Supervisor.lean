import Overseer.Application
import Overseer.Control.Channel
import Overseer.Lifecycle.StopCall
import Overseer.Settings

/-!
# Supervisors

A supervisor runs its application in rounds.  When a round has ended, the next
one begins if a restart was asked for and no stop was; otherwise the exit code of
the last round is the outcome, except that a death that was asked for counts as
success.
-/

namespace Overseer

variable [Timers]

/-- What follows a round. -/
inductive Verdict where
  | again
  | ends (code : Option Int)
  deriving DecidableEq

/-- What follows a round that ended with this status, if any is known. -/
def Verdict.of (restartMark stopRequested : Bool) (status : Option ExitStatus) :
    Verdict :=
  if restartMark && !stopRequested then .again
  else if stopRequested && (status.isNone || status.any ExitStatus.isSignalled) then
    .ends (some 0)
  else .ends (status.map ExitStatus.code)

/-- How a run came to its end. -/
inductive RunResult where
  | returned (outcome : Except Fault (Option Int))
  /-- A deadline could not be computed. -/
  | crashed

/-- Where a run waits. -/
inductive RunStage where
  | called
  /-- For a command, or the end of the application. -/
  | listening (round : Nat) (deadline : Instant)
  /-- For the stop of an application that has ended. -/
  | settling (round : Nat) (call : StopCall)
  | closing (code : Option Int) (gate : Nat) (call : StopCall)

/-- A supervisor; rounds are meant by the position of their job. -/
structure Supervisor where
  settings : Settings
  /-- The environment that the application inherits. -/
  inherited : List (String × List UInt8)
  channel : Channel
  stopRequested : Bool
  /-- The job of the round that is supervised. -/
  current : Option Nat
  /-- How many signals it was sent. -/
  signals : Nat
  /-- The results of its runs, the oldest first. -/
  results : List RunResult

namespace Supervisor

def fresh (settings : Settings) (inherited : List (String × List UInt8)) :
    Supervisor :=
  { settings := settings
    inherited := inherited
    channel :=
      { Channel.closed settings.socketPath with
        connectTimeout := settings.connectTimeout }
    stopRequested := false
    current := none
    signals := 0
    results := [] }

/-- The environment of the application: what it inherits, and where the pidfile
and the control socket are. -/
def environment (supervisor : Supervisor) : List (String × List UInt8) :=
  Environment.overlay supervisor.inherited
    [(Variable.pidfile.name, Utf8.encode supervisor.settings.pidfilePath),
      (Variable.socket.name, Utf8.encode supervisor.settings.socketPath)]

def application (supervisor : Supervisor) : Application :=
  { program := supervisor.settings.program
    arguments := supervisor.settings.arguments
    environment := supervisor.environment
    pidfilePath := supervisor.settings.pidfilePath
    exitGrace := Application.defaultExitGrace
    killGrace := supervisor.settings.killGrace
    child := none
    status := none }

def job (supervisor : Supervisor) : Job :=
  Job.fresh "application" supervisor.settings.killGrace

/-- A moment, which a poll lasts at least. -/
def moment : Duration := { nanos := nanosPerMilli }

/-- Until when a poll that begins now waits for a command. -/
def pollDeadline (now : Instant) (supervisor : Supervisor) : Instant :=
  if supervisor.settings.pollTimeout.nanos < moment.nanos then
    now.deadline moment
  else now.deadline supervisor.settings.pollTimeout

end Supervisor

end Overseer
