import Overseer.Signal

/-!
# Processes of a host

A process is described by its conduct: how it reacts to the signals that can be
handled, what it writes to its pidfile, and what it does then.  Signals are taken
in the order in which they were sent.  SIGKILL and SIGSTOP cannot be handled; a
process that was halted by SIGSTOP takes no signal any more but SIGKILL.
-/

namespace Overseer

/-- How a process ended. -/
inductive ExitStatus where
  | exited (code : Nat)
  | signalled (signal : Nat)
  deriving DecidableEq, Repr

namespace ExitStatus

/-- The exit code; the death from a signal counts as 128 more than its number. -/
def code : ExitStatus → Int
  | .exited code => code
  | .signalled signal => 128 + signal

/-- Whether a signal ended the process. -/
def isSignalled : ExitStatus → Bool
  | .exited _ => false
  | .signalled _ => true

/-- The status of a process that exits with a code; the system keeps 8 bits. -/
def ofCode (code : Int) : ExitStatus :=
  .exited (code % 256).toNat

end ExitStatus

/-- How a process reacts to a signal that it can handle. -/
inductive Reaction where
  | dies
  | ignores
  | exits (code : Int)

/-- What a process writes to its pidfile. -/
inductive PidfileHabit where
  | ownNumber
  | nothing
  | bystanderNumber
  | text (content : String)

/-- What a process does once it is up. -/
inductive Errand where
  | runsOn
  | exits (code : Int)
  | signalsItself (signal : Nat)
  | exitsWhenTold (code : Int)

structure Conduct where
  onInterrupt : Reaction
  onTerminate : Reaction
  pidfile : PidfileHabit
  errand : Errand

structure Report where
  arguments : List String
  environment : List (String × List UInt8)

/-- Where the life of a process stands. -/
inductive Liveness where
  /-- The process was spawned and has done nothing. -/
  | starting
  | running
  /-- The process was stopped by a signal and does not go on. -/
  | halted
  | ended (status : ExitStatus)
  deriving DecidableEq

/-- A process that was spawned. -/
structure Process where
  number : ProcessNumber
  conduct : Conduct
  report : Report
  liveness : Liveness
  /-- Signals that were sent and not taken, the oldest first. -/
  pending : List Nat
  told : Bool

def greatestSignal : Nat := 64

/-- Numbers that do nothing unless they are handled: those of no signal, and of
signals that are ignored.  The signals by which a terminal halts a process are
ignored without a terminal. -/
def isHarmless (signal : Nat) : Bool :=
  [0, 17, 18, 20, 21, 22, 23, 28].contains signal || greatestSignal < signal

def haltNumber : Nat := 19

namespace Process

def status? (process : Process) : Option ExitStatus :=
  match process.liveness with
  | .ended status => some status
  | .starting | .running | .halted => none

def send (process : Process) (signal : Nat) : Process :=
  { process with pending := process.pending ++ [signal] }

def reaction (conduct : Conduct) (signal : Nat) : Reaction :=
  if signal = Signal.interrupt.number then conduct.onInterrupt
  else if signal = Signal.terminate.number then conduct.onTerminate
  else if isHarmless signal then .ignores
  else .dies

/-- What becomes of a running process that takes a signal. -/
def livenessAfter (conduct : Conduct) (signal : Nat) : Liveness :=
  if signal = haltNumber then .halted
  else
    match reaction conduct signal with
    | .dies => .ended (.signalled signal)
    | .ignores => .running
    | .exits code => .ended (ExitStatus.ofCode code)

/-- What becomes of a process that takes one more signal. -/
def take (conduct : Conduct) (liveness : Liveness) (signal : Nat) : Liveness :=
  match liveness with
  | .running => livenessAfter conduct signal
  | .halted =>
      if signal = Signal.kill.number then .ended (.signalled signal) else .halted
  | .starting | .ended _ => liveness

def takeSignals (process : Process) : Process :=
  { process with
    liveness := process.pending.foldl (take process.conduct) process.liveness
    pending := [] }

/-- A running process that follows its errand. -/
def pursue (process : Process) : Process :=
  match process.conduct.errand with
  | .runsOn => process
  | .exits code =>
      { process with liveness := .ended (ExitStatus.ofCode code) }
  | .signalsItself signal => process.send signal
  | .exitsWhenTold code =>
      if process.told then
        { process with liveness := .ended (ExitStatus.ofCode code) }
      else process

/-- Whether a process is told to exit and waits for that. -/
def heedsCall (process : Process) : Bool :=
  match process.conduct.errand with
  | .exitsWhenTold _ => process.told
  | _ => false

def isBusy (process : Process) : Bool :=
  match process.liveness with
  | .starting => true
  | .running => !process.pending.isEmpty || process.heedsCall
  | .halted => !process.pending.isEmpty
  | .ended _ => false

end Process

end Overseer
