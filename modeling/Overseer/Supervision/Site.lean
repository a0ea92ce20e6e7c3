import Overseer.Supervision.Supervisor

/-!
# The site

Everything that works together: the clock, the host, the jobs with their duties,
and the supervisors.  A duty is what the body of a job does; a stop acts on the
duty through the hooks of its job.
-/

namespace Overseer

variable [Timers]

/-- What the body of a job does. -/
inductive Duty where
  | gate (gate : Gate)
  /-- The events of the application are posted under a number. -/
  | application (application : Application) (sink : Nat)

/-- A job and its duty. -/
structure Post where
  job : Job
  duty : Duty

/-- A signal that was sent. -/
structure Dispatch where
  time : Instant
  /-- The post whose body or whose stop sent it. -/
  post : Nat
  call : SignalCall
  deriving DecidableEq

/-- The whole of a supervised system. -/
structure Site where
  now : Instant
  host : Host
  posts : Array Post
  supervisors : Array Supervisor
  /-- What was posted, the latest first. -/
  events : List (Nat × Event)
  /-- What was reported, the latest first. -/
  notices : List Notice
  /-- The signals that were sent, the latest first. -/
  signals : List Dispatch
  /-- Stops in the background that are counted and have not returned. -/
  openStops : Nat

namespace Site

def fresh (host : Host) : Site :=
  { now := 0
    host := host
    posts := #[]
    supervisors := #[]
    events := []
    notices := []
    signals := []
    openStops := 0 }

def job (site : Site) (index : Nat) : Job :=
  ((site.posts[index]?).map Post.job).getD (Job.fresh "" Duration.zero)

def gate? (site : Site) (index : Nat) : Option Gate :=
  match (site.posts[index]?).map Post.duty with
  | some (.gate gate) => some gate
  | _ => none

def application? (site : Site) (index : Nat) : Option Application :=
  match (site.posts[index]?).map Post.duty with
  | some (.application application _) => some application
  | _ => none

def setJob (site : Site) (index : Nat) (job : Job) : Site :=
  { site with
    posts := site.posts.modify index fun post => { post with job := job } }

def setGate (site : Site) (index : Nat) (gate : Gate) : Site :=
  { site with
    posts := site.posts.modify index fun post =>
      { post with duty := .gate gate } }

/-- An application in another state; other duties stay as they are. -/
def Duty.withApplication (application : Application) : Duty → Duty
  | .application _ sink => .application application sink
  | other => other

def setApplication (site : Site) (index : Nat) (application : Application) :
    Site :=
  { site with
    posts := site.posts.modify index fun post =>
      { post with duty := Duty.withApplication application post.duty } }

/-- One more job, and its position. -/
def addPost (site : Site) (post : Post) : Site × Nat :=
  ({ site with posts := site.posts.push post }, site.posts.size)

def report (site : Site) (notice : Notice) : Site :=
  { site with notices := notice :: site.notices }

/-- Reports some things in their order. -/
def reportAll (site : Site) (notices : List Notice) : Site :=
  notices.foldl report site

def postEvent (site : Site) (sink : Nat) (event : Event) : Site :=
  { site with events := (sink, event) :: site.events }

def postFrom (site : Site) (index : Nat) (event : Event) : Site :=
  match (site.posts[index]?).map Post.duty with
  | some (.application _ sink) => site.postEvent sink event
  | _ => site

/-- Sends a signal to a process number for the post at a position, if the system
takes it. -/
def signal (site : Site) (index : Nat) (number : ProcessNumber) (signal : Signal) :
    Site :=
  match SignalCall.toProcess? number (some signal) with
  | none => site
  | some call =>
      { site with
        host := site.host.deliver call
        signals := ⟨site.now, index, call⟩ :: site.signals }

def runHook (site : Site) (index : Nat) (hook : Hook) : Site :=
  match site.application? index with
  | none => site
  | some application =>
      let recorded := site.host.tree.read? application.pidfilePath
      match application.hookSignal recorded hook with
      | none => site
      | some (number, signal) => site.signal index number signal

/-- What a stop does besides changing its job. -/
def applyEffect (index : Nat) (site : Site) : StopEffect → Site
  | .hook hook => site.runHook index hook
  | .report notice => site.report notice

def commit (site : Site) (index : Nat) (step : StopCall.Step) : Site :=
  step.effects.foldl (applyEffect index) (site.setJob index step.job)

/-- What a stop of the job at a position does until it first waits. -/
def beginStop (site : Site) (index : Nat) (timeout : Duration) :
    Site × StopCall.Standing :=
  let step := StopCall.begin site.now (site.job index) timeout false
  (site.commit index step, step.standing)

/-- What a stop that waits does when it runs again. -/
def resumeStop (site : Site) (index : Nat) (call : StopCall) :
    Site × StopCall.Standing :=
  let step := call.resume site.now (site.job index)
  (site.commit index step, step.standing)

def supervisor? (site : Site) (index : Nat) : Option Supervisor :=
  site.supervisors[index]?

def setSupervisor (site : Site) (index : Nat) (supervisor : Supervisor) : Site :=
  { site with
    supervisors := site.supervisors.setIfInBounds index supervisor }

/-- One more supervisor, and its position. -/
def addSupervisor (site : Site) (supervisor : Supervisor) : Site × Nat :=
  ({ site with supervisors := site.supervisors.push supervisor },
    site.supervisors.size)

def setSockets (site : Site) (sockets : Sockets) : Site :=
  { site with host := { site.host with sockets := sockets } }

end Site

end Overseer
