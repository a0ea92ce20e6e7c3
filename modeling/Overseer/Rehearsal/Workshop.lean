import Overseer.Lifecycle.StopCall
import Overseer.Lifecycle.WaitCall

/-!
# Jobs of a workshop

Jobs whose bodies follow a list of actions, a script that starts, stops and
watches them, and records of what happens.  A pause is what a body or the script
waits for.
-/

namespace Overseer.Rehearsal

/-- A step of the body of a job; jobs are meant by their position. -/
inductive Action where
  | sleep (time : Duration)
  | giveWay
  | awaitStop (job : Nat)
  | awaitExit (job : Nat)
  | stop (job : Nat) (timeout : Duration)
  | waitStop (job : Nat) (timeout : Duration)
  | tryWaitStop (job : Nat) (timeout : Duration)
  | start (job : Nat)
  | mark (job : Nat)
  | abort (job : Nat)
  | beginStop (job : Nat) (timeout : Duration)
  | awaitHook (hook : Hook)
  | poll (job : Nat) (period : Duration)
  | note (job : Nat)
  | fail (fault : Fault)
  | panic

/-- What a step of the script does. -/
inductive Prompt where
  | start
  | stop (timeout : Duration)
  | beginStop (timeout : Duration)
  | join
  | sleep (time : Duration)
  | giveWay
  | mark
  | abort
  | waitStop (timeout : Duration)
  | awaitStop (limit : Duration)
  | awaitExit (limit : Duration)
  | describe
  | name
  | look

/-- A step of the script, and the job that it is about and shows. -/
structure Cue where
  subject : Nat
  prompt : Prompt

/-- What can be seen of a job. -/
structure JobSight where
  phase : Phase
  stopFlag : Bool
  restartMark : Bool
  exitFlag : Bool
  alive : Bool

def JobSight.of (job : Job) : JobSight :=
  ⟨job.phase, job.stopFlag, job.restartMark, job.exitFlag, job.isAlive⟩

inductive Happening where
  | entered (job : Nat)
  | returned (job : Nat)
  | hooked (job : Nat) (hook : Hook)
  | waited (job : Nat) (result : Except Fault Unit)
  | noted (job : Nat) (sight : JobSight)
  | reported (job : Nat) (notice : Notice)
  | stopReturned (number : Nat)

/-- Happenings of one time are shown by job, then by background stop. -/
def Happening.rank : Happening → Nat
  | .entered job | .returned job | .hooked job _ | .waited job _ | .noted job _
  | .reported job _ => job
  | .stopReturned number => 1000 + number

/-- A happening and its time. -/
structure Record where
  time : Instant
  /-- Whose doing it was. -/
  rank : Nat
  happening : Happening

/-- The order in which records are shown. -/
def Record.isBefore (first second : Record) : Bool :=
  first.time < second.time || (first.time == second.time && first.rank ≤ second.rank)

/-- What a step of the script came to. -/
inductive CueResult where
  | nothing
  | waited (result : Except Fault Unit)
  | happened (inTime : Bool)
  | text (text : String)

/-- What a step of the script shows. -/
structure CueSight where
  sight : JobSight
  time : Instant
  result : CueResult
  records : List Record

/-- What the body of a job does, and whether it is recorded. -/
structure Part where
  actions : List Action
  silent : Bool

/-- The jobs, their clock, and what happened. -/
structure Workshop where
  now : Instant
  jobs : Array Job
  parts : Array Part
  hooked : List (Nat × Hook)
  records : List Record
  /-- Background stops that the script began since the last join. -/
  begunStops : Nat
  /-- How many of them have not returned. -/
  openStops : Nat
  sights : List CueSight

namespace Workshop

def job (workshop : Workshop) (index : Nat) : Job :=
  workshop.jobs.getD index (Job.fresh "" Duration.zero)

/-- The body of a job. -/
def part (workshop : Workshop) (index : Nat) : Part :=
  workshop.parts.getD index ⟨[], true⟩

def setJob (workshop : Workshop) (index : Nat) (job : Job) : Workshop :=
  { workshop with jobs := workshop.jobs.setIfInBounds index job }

/-- The longest time that a script sleeps: thirty years. -/
def longestSleep : Duration :=
  { nanos := 86400 * 365 * 30 * nanosPerSecond }

/-- When a sleep that begins now ends. -/
def sleepEnd (workshop : Workshop) (time : Duration) : Instant :=
  workshop.now + min time.nanos longestSleep.nanos

/-- The first of the jobs that have the name of this one: reports tell a job by its
name only. -/
def namesake (workshop : Workshop) (index : Nat) : Nat :=
  (workshop.jobs.toList.findIdx? (·.name == (workshop.job index).name)).getD index

def recordBy (workshop : Workshop) (actor : Nat) (happening : Happening) :
    Workshop :=
  { workshop with
    records := ⟨workshop.now, actor, happening⟩ :: workshop.records }

def record (workshop : Workshop) (happening : Happening) : Workshop :=
  workshop.recordBy happening.rank happening

def recordReport (workshop : Workshop) (index : Nat) (notice : Notice) :
    Workshop :=
  workshop.record (.reported (workshop.namesake index) notice)

/-- Records something about the body of a job, unless that is silent. -/
def recordUnlessSilent (workshop : Workshop) (index : Nat)
    (happening : Happening) : Workshop :=
  if (workshop.part index).silent then workshop else workshop.record happening

/-- What a stop does besides changing its job. -/
def applyEffect (index : Nat) (workshop : Workshop) : StopEffect → Workshop
  | .hook hook =>
      { workshop with hooked := (index, hook) :: workshop.hooked }
        |>.recordUnlessSilent index (.hooked index hook)
  | .report notice => workshop.recordReport index notice

def commit (workshop : Workshop) (index : Nat) (step : StopCall.Step) :
    Workshop :=
  step.effects.foldl (applyEffect index) (workshop.setJob index step.job)

end Workshop

/-- What a task waits for. -/
inductive Pause where
  | clockAt (deadline : Instant)
  | gaveWay
  | relieved
  | stopFlag (job : Nat) (deadline : Option Instant)
  | exitFlag (job : Nat) (deadline : Option Instant)
  | stopping (job : Nat) (call : StopCall)
  | waiting (job : Nat) (call : WaitCall)
  | hook (job : Nat) (hook : Hook)
  | join

/-- How a pause ends. -/
inductive Resolution where
  | done
  | expired
  | failed (fault : Fault)
  | crashed

namespace Pause

def hasPassed (now : Instant) (deadline : Option Instant) : Bool :=
  deadline.any (· ≤ now)

/-- Whether a task that waits can run on. -/
def isReady (workshop : Workshop) : Pause → Bool
  | .clockAt deadline => deadline ≤ workshop.now
  | .gaveWay => false
  | .relieved => true
  | .stopFlag job deadline =>
      (workshop.job job).stopFlag || hasPassed workshop.now deadline
  | .exitFlag job deadline =>
      (workshop.job job).exitFlag || hasPassed workshop.now deadline
  | .stopping job call => call.isReady workshop.now (workshop.job job)
  | .waiting job call => call.isReady workshop.now (workshop.job job)
  | .hook job awaited => workshop.hooked.contains (job, awaited)
  | .join => workshop.openStops = 0

/-- Until when a task waits at most. -/
def deadline : Pause → Option Instant
  | .clockAt deadline => some deadline
  | .stopFlag _ deadline | .exitFlag _ deadline => deadline
  | .stopping _ call => some call.deadline
  | .waiting _ call => some call.deadline
  | .gaveWay | .relieved | .hook _ _ | .join => none

/-- Where a pause stands among those that one step of a job ends: the stop flag is
raised first, then hooks are run, then the exit flag is raised. -/
def rank : Pause → Nat
  | .hook _ _ => 1
  | .exitFlag _ _ | .stopping _ _ => 2
  | .waiting _ call => if call.flagSeen then 2 else 0
  | .clockAt _ | .gaveWay | .relieved | .stopFlag _ _ | .join => 0

/-- A flag that is waited for, with a limit or without. -/
def flagResolution (raised : Bool) : Resolution :=
  if raised then .done else .expired

def ofStopStep (workshop : Workshop) (job : Nat) (step : StopCall.Step) :
    Workshop × Except Pause Resolution :=
  (workshop.commit job step,
    match step.standing with
    | .waits call => .error (.stopping job call)
    | .returned => .ok .done
    | .crashed => .ok .crashed)

def ofWaitCall (workshop : Workshop) (job : Nat) (call : WaitCall) :
    Except Pause Resolution :=
  match call.result? workshop.now (workshop.job job) with
  | none => .error (.waiting job (call.look (workshop.job job)))
  | some (.ok ()) => .ok .done
  | some (.error fault) => .ok (.failed fault)

/-- What a pause comes to when its task runs: it ends, or the task goes on
waiting. -/
def resolve (workshop : Workshop) (pause : Pause) :
    Workshop × Except Pause Resolution :=
  match pause with
  | .stopping job call =>
      ofStopStep workshop job (call.resume workshop.now (workshop.job job))
  | .waiting job call => (workshop, ofWaitCall workshop job call)
  | .stopFlag job _ =>
      (workshop,
        if pause.isReady workshop then
          .ok (flagResolution (workshop.job job).stopFlag)
        else .error pause)
  | .exitFlag job _ =>
      (workshop,
        if pause.isReady workshop then
          .ok (flagResolution (workshop.job job).exitFlag)
        else .error pause)
  | _ =>
      (workshop, if pause.isReady workshop then .ok .done else .error pause)

end Pause

end Overseer.Rehearsal
