import Overseer.Event
import Overseer.Host.Process
import Overseer.Lifecycle.Job
import Overseer.Timers

/-!
# Applications

An application is a program that runs as a child process while its job lasts.
When the stop flag of the job is raised, the body gives the child its exit grace,
then sends SIGTERM and gives it the kill grace, then sends SIGKILL and waits.
The hooks of the job work beside that: the stop hook interrupts whatever process
the pidfile names, the other two signal the child.

`Application.attend` is what the body does whenever it runs: it looks at the stop
flag, at the child and at the clock, and says which signals it sends.
-/

namespace Overseer

variable [Timers]

/-- A program that is run, and what is known about its child. -/
structure Application where
  program : String
  arguments : List String
  /-- The environment that the child is given, later values first. -/
  environment : List (String × List UInt8)
  pidfilePath : String
  /-- How long the child has to exit once a stop is requested. -/
  exitGrace : Duration
  /-- How long the child has to exit once it was terminated. -/
  killGrace : Duration
  /-- The number of the child while it is attended to. -/
  child : Option ProcessNumber
  /-- How the child ended. -/
  status : Option ExitStatus

/-- Where the body of an application waits. -/
inductive Attendance where
  /-- For the child or the stop flag. -/
  | running (child : ProcessNumber)
  | exiting (child : ProcessNumber) (deadline : Instant)
  /-- For the child after SIGTERM, with the kill grace. -/
  | terminating (child : ProcessNumber) (deadline : Instant)
  | killing (child : ProcessNumber)
  deriving DecidableEq

namespace Attendance

def child : Attendance → ProcessNumber
  | .running child | .exiting child _ | .terminating child _
  | .killing child => child

/-- Until when the body waits at most. -/
def deadline : Attendance → Option Instant
  | .exiting _ deadline | .terminating _ deadline => some deadline
  | .running _ | .killing _ => none

end Attendance

namespace Application

/-- The exit grace, unless told otherwise. -/
def defaultExitGrace : Duration := Duration.ofSeconds 5

def exitCode (application : Application) : Option Int :=
  application.status.map ExitStatus.code

/-- Whether the child was ended by a signal. -/
def wasSignalled (application : Application) : Bool :=
  application.status.any ExitStatus.isSignalled

/-- What the child is given. -/
def report (application : Application) : Report :=
  ⟨application.arguments, application.environment⟩

def withChild (application : Application) (child : ProcessNumber) : Application :=
  { application with child := some child }

def withoutChild (application : Application) : Application :=
  { application with child := none }

/-- The application whose child has ended. -/
def withStatus (application : Application) (status : ExitStatus) : Application :=
  { application with child := none, status := some status }

/-- What the body did when it ran, and where it waits now; nowhere if it has
returned. -/
structure Attended where
  application : Application
  signals : List Signal
  notices : List Notice
  waits : Option Attendance

/-- The child is waited for after SIGKILL. -/
def killChild (application : Application) (child : ProcessNumber)
    (signals : List Signal) : Attended :=
  ⟨application, signals ++ [.kill], [.childKilled application.killGrace],
    some (.killing child)⟩

/-- The child is waited for after SIGTERM. -/
def awaitTermination (now : Instant) (application : Application)
    (child : ProcessNumber) (deadline : Instant) (signals : List Signal) :
    Attended :=
  if deadline ≤ now then application.killChild child signals
  else ⟨application, signals, [], some (.terminating child deadline)⟩

/-- The child is waited for after the stop flag. -/
def awaitExit (now : Instant) (application : Application) (child : ProcessNumber)
    (deadline : Instant) : Attended :=
  if deadline ≤ now then
    application.awaitTermination now child (now.deadline application.killGrace)
      [.terminate]
  else ⟨application, [], [], some (.exiting child deadline)⟩

/-- What the body does when it runs. -/
def attend (now : Instant) (stopFlag : Bool) (status : Option ExitStatus)
    (application : Application) (attendance : Attendance) : Attended :=
  match status with
  | some status => ⟨application.withStatus status, [], [], none⟩
  | none =>
      match attendance with
      | .running child =>
          if stopFlag then
            application.awaitExit now child
              (now.deadline application.exitGrace)
          else ⟨application, [], [], some (.running child)⟩
      | .exiting child deadline => application.awaitExit now child deadline
      | .terminating child deadline =>
          application.awaitTermination now child deadline []
      | .killing child => ⟨application, [], [], some (.killing child)⟩

/-- Whether the body can run on. -/
def isReady (now : Instant) (stopFlag : Bool) (status : Option ExitStatus) :
    Attendance → Bool
  | .running _ => status.isSome || stopFlag
  | .exiting _ deadline | .terminating _ deadline =>
      status.isSome || deadline ≤ now
  | .killing _ => status.isSome

/-- The process that a hook signals, and the signal; `recorded` is the content of
the pidfile, if there is one. -/
def hookSignal (application : Application) (recorded : Option (List UInt8)) :
    Hook → Option (ProcessNumber × Signal)
  | .stop => (recorded.bind Pidfile.read?).map fun number => (number, .interrupt)
  | .terminate => application.child.map fun child => (child, .terminate)
  | .kill => application.child.map fun child => (child, .kill)

end Application

end Overseer
