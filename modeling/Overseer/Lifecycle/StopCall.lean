import Overseer.Lifecycle.WaitCall
import Overseer.Timers

/-!
# Stopping a job

The first call raises the stop flag and runs the stop hook.  It waits for its
timeout, then runs the terminate hook and waits for the kill grace, then runs the
kill hook, aborts the body and waits for the kill grace once more.  Later calls
only wait, at most as long as all of this can take.  A call from inside the body
waits for nothing.

`StopCall.begin` is what a call does until it first waits, `StopCall.resume` is
what it does when it runs again.
-/

namespace Overseer

variable [Timers]

/-- What a stop does besides changing the job. -/
inductive StopEffect where
  | hook (hook : Hook)
  | report (notice : Notice)
  deriving DecidableEq

/-- A stop that waits. -/
inductive StopCall where
  /-- Another call performs the stop. -/
  | following (deadline : Instant)
  /-- The stop flag was raised. -/
  | graceful (wait : WaitCall)
  /-- The terminate hook was run. -/
  | terminating (deadline : Instant)
  /-- The body was aborted. -/
  | killing (deadline : Instant)
  deriving DecidableEq

namespace StopCall

inductive Standing where
  | waits (call : StopCall)
  | returned
  /-- A deadline is beyond what can be computed. -/
  | crashed
  deriving DecidableEq

/-- The job after a step of a stop, what the step did, and where it stands. -/
structure Step where
  job : Job
  effects : List StopEffect
  standing : Standing

/-- How long a call waits for the one that performs the stop. -/
def bound? (timeout killGrace : Duration) : Option Duration :=
  killGrace.double?.bind timeout.add?

/-- A call that waits for the exit flag until a deadline, and then returns. -/
def awaitExit (now : Instant) (deadline : Instant) (job : Job)
    (effects : List StopEffect) (call : StopCall) : Step :=
  if job.exitFlag || deadline ≤ now then ⟨job, effects, .returned⟩
  else ⟨job, effects, .waits call⟩

/-- The last step: the kill hook, and the end of the body. -/
def kill (now : Instant) (job : Job) (effects : List StopEffect) : Step :=
  let deadline := now.deadline job.killGrace
  awaitExit now deadline job.abort
    (effects ++ [.report (.jobKilled job.killGrace), .hook .kill])
    (.killing deadline)

/-- A call whose terminate hook was run. -/
def awaitTermination (now : Instant) (deadline : Instant) (job : Job)
    (effects : List StopEffect) : Step :=
  if job.exitFlag then ⟨job, effects, .returned⟩
  else if deadline ≤ now then kill now job effects
  else ⟨job, effects, .waits (.terminating deadline)⟩

/-- The second step: the terminate hook. -/
def terminate (now : Instant) (job : Job) (fault : Fault)
    (effects : List StopEffect) : Step :=
  awaitTermination now (now.deadline job.killGrace) (job.moveTo .terminating)
    (effects ++ [.report (.stopTimedOut fault), .hook .terminate])

/-- A call whose stop hook was run. -/
def awaitStop (now : Instant) (wait : WaitCall) (job : Job)
    (effects : List StopEffect) : Step :=
  match wait.result? now job with
  | none => ⟨job, effects, .waits (.graceful (wait.look job))⟩
  | some (.ok ()) => ⟨job, effects, .returned⟩
  | some (.error fault) => terminate now job fault effects

def resume (now : Instant) (job : Job) : StopCall → Step
  | .following deadline => awaitExit now deadline job [] (.following deadline)
  | .graceful wait => awaitStop now wait job []
  | .terminating deadline => awaitTermination now deadline job []
  | .killing deadline => awaitExit now deadline job [] (.killing deadline)

/-- A call that comes after another. -/
def follow (now : Instant) (job : Job) (timeout : Duration) (inside : Bool) :
    Step :=
  if inside then ⟨job, [], .returned⟩
  else
    match bound? timeout job.killGrace with
    | none => ⟨job, [], .crashed⟩
    | some bound =>
        let deadline := now.deadline bound
        awaitExit now deadline job [] (.following deadline)

/-- The first call, on a job whose body is not gone. -/
def perform (now : Instant) (job : Job) (timeout : Duration) (inside : Bool) :
    Step :=
  let requested := job.requestStop
  let effects := [StopEffect.hook .stop]
  if job.body = .unlaunched then ⟨requested.withdraw, effects, .returned⟩
  else if inside then ⟨requested, effects, .returned⟩
  else
    match WaitCall.begin? now timeout false with
    | none => ⟨requested, effects, .crashed⟩
    | some wait => awaitStop now wait requested effects

/-- What a call does until it first waits. -/
def begin (now : Instant) (job : Job) (timeout : Duration) (inside : Bool) :
    Step :=
  if job.stopClaimed then follow now job timeout inside
  else
    let claimed := { job with stopClaimed := true }
    if job.exitFlag then ⟨claimed, [], .returned⟩
    else perform now claimed timeout inside

def isReady (now : Instant) (job : Job) : StopCall → Bool
  | .following deadline | .terminating deadline | .killing deadline =>
      job.exitFlag || deadline ≤ now
  | .graceful wait => wait.isReady now job

/-- Until when a call waits at most. -/
def deadline : StopCall → Instant
  | .following deadline | .terminating deadline | .killing deadline => deadline
  | .graceful wait => wait.deadline

end StopCall

inductive StopTask where
  | called (timeout : Duration)
  | waits (call : StopCall)
  deriving DecidableEq

namespace StopTask

def step (now : Instant) (job : Job) : StopTask → StopCall.Step
  | .called timeout => StopCall.begin now job timeout false
  | .waits call => call.resume now job

def isReady (now : Instant) (job : Job) : StopTask → Bool
  | .called _ => true
  | .waits call => call.isReady now job

/-- Until when the task waits at most. -/
def deadline : StopTask → Option Instant
  | .called _ => none
  | .waits call => some call.deadline

end StopTask

end Overseer
