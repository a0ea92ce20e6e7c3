import Overseer.Notice

/-!
# Jobs

A job is a unit of work whose body runs on a task of its own.  It is stopped by
raising its stop flag; its exit flag tells that the body is gone.  The phase of a
job only moves forward, and a job that was killed or has exited stays so.

Every operation here is one step: nothing happens in the middle of it.
-/

namespace Overseer

/-- How far the life of a job has come. -/
inductive Phase where
  | created
  | running
  | stopRequested
  | terminating
  | killed
  | exited
  deriving DecidableEq, Repr

namespace Phase

/-- The phases in the order of a life. -/
def all : List Phase :=
  [.created, .running, .stopRequested, .terminating, .killed, .exited]

def name : Phase → String
  | .created => "created"
  | .running => "running"
  | .stopRequested => "stop-requested"
  | .terminating => "terminating"
  | .killed => "killed"
  | .exited => "exited"

/-- The name of a phase within the description of a job. -/
def title : Phase → String
  | .created => "Created"
  | .running => "Running"
  | .stopRequested => "StopRequested"
  | .terminating => "Terminating"
  | .killed => "Killed"
  | .exited => "Exited"

def isFinal : Phase → Bool
  | .killed | .exited => true
  | _ => false

end Phase

/-- What became of the body of a job. -/
inductive Body where
  | unlaunched
  /-- The job was stopped before it was started. -/
  | withdrawn
  /-- The body has a task that was not run yet. -/
  | scheduled
  | underway
  | gone
  deriving DecidableEq, Repr

def Body.hasTask : Body → Bool
  | .scheduled | .underway => true
  | _ => false

/-- What is done to a body on the way to its end. -/
inductive Hook where
  | stop
  | terminate
  | kill
  deriving DecidableEq, Repr

/-- A unit of work under control. -/
structure Job where
  name : String
  /-- How long each step of the escalation waits after the stop timeout. -/
  killGrace : Duration
  phase : Phase
  body : Body
  /-- The task of the body was told to end. -/
  aborted : Bool
  stopFlag : Bool
  exitFlag : Bool
  restartMark : Bool
  /-- Some call has begun to stop the job. -/
  stopClaimed : Bool

namespace Job

def fresh (name : String) (killGrace : Duration) : Job :=
  { name := name
    killGrace := killGrace
    phase := .created
    body := .unlaunched
    aborted := false
    stopFlag := false
    exitFlag := false
    restartMark := false
    stopClaimed := false }

/-- The job in its next phase, unless its life is over. -/
def moveTo (job : Job) (phase : Phase) : Job :=
  if job.phase.isFinal then job else { job with phase := phase }

/-- The job when its body is gone: both flags are raised. -/
def markExited (job : Job) : Job :=
  { job with
    phase := if job.phase = .killed then .killed else .exited
    stopFlag := true
    exitFlag := true }

/-- Whether a job was started and has not exited. -/
def isAlive (job : Job) : Bool :=
  job.phase ≠ .created && !job.exitFlag

/-- The job with its body scheduled; a body is scheduled only once. -/
def start (job : Job) : Except Notice Job :=
  if job.body = .unlaunched then
    .ok { job.moveTo .running with restartMark := false, body := .scheduled }
  else .error .alreadyStarted

/-- The job marked for a fresh start after its stop. -/
def markForRestart (job : Job) : Job :=
  { job with restartMark := true }

/-- The job whose body is told to end without any hook. -/
def abort (job : Job) : Job :=
  { job.moveTo .killed with aborted := job.aborted || job.body.hasTask }

/-- The job when its body is entered. -/
def enter (job : Job) : Job :=
  { job with body := .underway }

/-- The job when its body came to an end after it was entered. -/
def finish (job : Job) : Job :=
  { job.markExited with body := .gone }

/-- The job when the task of its aborted body is dropped; a body that was never
entered leaves no trace. -/
def drop (job : Job) : Job :=
  if job.body = .underway then job.finish else { job with body := .gone }

/-- The job when its stop is claimed: the flag is raised. -/
def requestStop (job : Job) : Job :=
  { job.moveTo .stopRequested with stopFlag := true }

/-- The job that will not be started any more. -/
def withdraw (job : Job) : Job :=
  { job.markExited with body := .withdrawn }

def description (job : Job) (number : Nat) : String :=
  "ControlledProcess \x7b id: " ++ toString number ++ ", name: " ++
    Quoted.quote job.name ++ ", state: " ++ job.phase.title ++ " \x7d"

end Job

end Overseer
