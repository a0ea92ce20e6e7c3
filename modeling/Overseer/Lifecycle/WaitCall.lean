import Overseer.Lifecycle.Job

/-!
# Waiting for the end of a job

One deadline bounds the wait for the stop flag and then for the exit flag.  A
call from inside the body waits for the stop flag only, since the body cannot
wait for its own end.  A call runs again when the flag that it waits for is
raised, and may then wait for the other one.
-/

namespace Overseer

/-- A wait for the end of a job. -/
structure WaitCall where
  timeout : Duration
  deadline : Instant
  /-- The call comes from the body of the job. -/
  inside : Bool
  /-- The stop flag was seen, so that the call waits for the exit flag. -/
  flagSeen : Bool
  deriving DecidableEq

namespace WaitCall

/-- A wait that begins now; there is none if the clock does not hold its
deadline. -/
def begin? (now : Instant) (timeout : Duration) (inside : Bool) :
    Option WaitCall :=
  (now.after? timeout).map fun deadline => ⟨timeout, deadline, inside, false⟩

/-- Whether the job has come as far as the call waits for. -/
def isMet (job : Job) (call : WaitCall) : Bool :=
  job.stopFlag && (call.inside || job.exitFlag)

def fault (call : WaitCall) : Fault :=
  .timeout "wait_stop" call.timeout

def look (job : Job) (call : WaitCall) : WaitCall :=
  { call with flagSeen := call.flagSeen || job.stopFlag }

def isReady (now : Instant) (job : Job) (call : WaitCall) : Bool :=
  (if call.flagSeen then job.exitFlag else job.stopFlag) || call.deadline ≤ now

/-- What a call comes to at an instant; nothing if it goes on waiting. -/
def result? (now : Instant) (job : Job) (call : WaitCall) :
    Option (Except Fault Unit) :=
  if call.isMet job then some (.ok ())
  else if call.deadline ≤ now then some (.error call.fault)
  else none

end WaitCall

end Overseer
