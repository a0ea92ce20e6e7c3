import Overseer.Supervision.Traffic

/-!
# The run of a supervisor

A run opens the control channel and supervises rounds of the application.  During
a round it listens for commands, each of which is executed on a task of its own.
When the application has ended its job is stopped, which is a formality, and the
verdict on the round tells what follows.  At last the channel is closed.

Requests to stop, to restart and to kill come from commands, from signals and
from callers; they act on the round that is current.
-/

namespace Overseer

variable [Timers]

/-- A task of a site. -/
inductive Activity where
  /-- A body that was not entered yet. -/
  | enter (post : Nat)
  | guard (post : Nat) (watch : Gate.Watch)
  | attend (post : Nat) (attendance : Attendance)
  /-- A stop in the background; some are counted. -/
  | stop (post : Nat) (task : StopTask) (counted : Bool)
  | execute (supervisor : Nat) (command : Command)
  | run (supervisor : Nat) (stage : RunStage)

/-- A run after one of its steps: where it waits, and what it began. -/
structure RunStep where
  site : Site
  /-- Where the run waits; nowhere if it is over. -/
  waits : Option RunStage
  begun : List Activity

namespace Site

/-! ## Requests -/

/-- A request to stop for good; the stop of the current round, if there is
one. -/
def requestStop (site : Site) (index : Nat) : Site × Option (Nat × StopCall.Standing) :=
  match site.supervisor? index with
  | none => (site, none)
  | some supervisor =>
      let requested :=
        site.setSupervisor index { supervisor with stopRequested := true }
      match supervisor.current with
      | none => (requested, none)
      | some round =>
          let (stopped, standing) :=
            requested.beginStop round supervisor.settings.stopTimeout
          (stopped, some (round, standing))

/-- A request to restart; the stop of the current round, if there is one. -/
def requestRestart (site : Site) (index : Nat) :
    Site × Option (Nat × StopCall.Standing) :=
  match site.supervisor? index with
  | none => (site, none)
  | some supervisor =>
      match supervisor.current with
      | none => (site.report .nothingToRestart, none)
      | some round =>
          let marked := site.setJob round (site.job round).markForRestart
          let (stopped, standing) :=
            marked.beginStop round supervisor.settings.stopTimeout
          (stopped, some (round, standing))

/-- A request to end at once. -/
def requestKill (site : Site) (index : Nat) : Site :=
  match site.supervisor? index with
  | none => site
  | some supervisor =>
      let requested :=
        site.setSupervisor index { supervisor with stopRequested := true }
      match supervisor.current with
      | none => requested
      | some round =>
          (requested.report .applicationKilled).setJob round
            (requested.job round).abort

/-- What each command requests of the supervisor at a position. -/
def commandTarget (index : Nat) :
    Command.Target (Site → Site × Option (Nat × StopCall.Standing)) :=
  { stop := fun site => site.requestStop index
    restart := fun site => site.requestRestart index }

def stopActivity : Option (Nat × StopCall.Standing) → Option Activity
  | some (round, .waits call) => some (.stop round (.waits call) false)
  | _ => none

/-- A signal to the supervisor: the first one is a request to stop, which gets a
task of its own, later ones are requests to end at once. -/
def takeSignal (site : Site) (index : Nat) : Site × List Activity :=
  match site.supervisor? index with
  | none => (site, [])
  | some supervisor =>
      let counted :=
        site.setSupervisor index
          { supervisor with signals := supervisor.signals + 1 }
      if supervisor.signals = 0 then (counted, [.execute index .stop])
      else (counted.requestKill index, [])

/-! ## Runs -/

def finishRun (site : Site) (index : Nat) (result : RunResult) : Site :=
  match site.supervisor? index with
  | none => site
  | some supervisor =>
      site.setSupervisor index
        { supervisor with results := supervisor.results ++ [result] }

/-- A run that crashed: its channel is given up. -/
def crashRun (site : Site) (index : Nat) (supervisor : Supervisor) : RunStep :=
  let abandoned := site.abandonChannel supervisor.channel
  let closed :=
    abandoned.setSupervisor index
      { supervisor with channel := { supervisor.channel with gate := none } }
  ⟨closed.finishRun index .crashed, none, []⟩

/-- The end of a run whose gate has been stopped. -/
def endRun (site : Site) (index : Nat) (supervisor : Supervisor) (gate : Nat)
    (code : Option Int) : RunStep :=
  let cleared := site.clearChannel supervisor.channel.path gate
  let closed :=
    cleared.setSupervisor index
      { supervisor with channel := { supervisor.channel with gate := none } }
  ⟨(closed.postEvent index .supervisorStopped).finishRun index
      (.returned (.ok code)), none, []⟩

/-- The gate is being stopped. -/
def awaitGate (site : Site) (index : Nat) (supervisor : Supervisor) (gate : Nat)
    (code : Option Int) (standing : StopCall.Standing) : RunStep :=
  match standing with
  | .waits call => ⟨site, some (.closing code gate call), []⟩
  | .returned | .crashed => site.endRun index supervisor gate code

/-- The last round has ended with this code: the channel is closed. -/
def closeRun (site : Site) (index : Nat) (supervisor : Supervisor)
    (code : Option Int) : RunStep :=
  match supervisor.channel.gate with
  | none =>
      ⟨(site.postEvent index .supervisorStopped).finishRun index
        (.returned (.ok code)), none, []⟩
  | some gate =>
      let (stopped, standing) := site.beginStop gate Channel.closeTimeout
      stopped.awaitGate index supervisor gate code standing

/-- A new round, whose job is not started; it becomes the current one. -/
def openRound (site : Site) (index : Nat) (supervisor : Supervisor) : Site × Nat :=
  let (added, round) :=
    site.addPost ⟨supervisor.job, .application supervisor.application index⟩
  (added.setSupervisor index { supervisor with current := some round }, round)

/-- A new round that is listened to. -/
def launchRound (site : Site) (index : Nat) (supervisor : Supervisor) : RunStep :=
  let (opened, round) := site.openRound index supervisor
  let listening := RunStage.listening round (supervisor.pollDeadline site.now)
  match (opened.job round).start with
  | .ok job => ⟨opened.setJob round job, some listening, [.enter round]⟩
  | .error notice => ⟨opened.report notice, some listening, []⟩

/-- The verdict on a round that has ended, and what follows from it. -/
def concludeRound (site : Site) (index : Nat) (supervisor : Supervisor)
    (round : Nat) : RunStep :=
  let idle := { supervisor with current := none }
  let status := (site.application? round).bind Application.status
  let posted :=
    (site.setSupervisor index idle).postEvent index
      (.applicationExited (status.map ExitStatus.code))
  match Verdict.of (site.job round).restartMark supervisor.stopRequested status with
  | .again => (posted.postEvent index .restartScheduled).launchRound index idle
  | .ends code => posted.closeRun index idle code

/-- The job of a round that has ended is being stopped. -/
def awaitRound (site : Site) (index : Nat) (supervisor : Supervisor)
    (round : Nat) (standing : StopCall.Standing) : RunStep :=
  match standing with
  | .waits call => ⟨site, some (.settling round call), []⟩
  | .returned => site.concludeRound index supervisor round
  | .crashed => site.crashRun index supervisor

/-- The job of a round that has ended is stopped. -/
def settleRound (site : Site) (index : Nat) (supervisor : Supervisor)
    (round : Nat) : RunStep :=
  let (stopped, standing) :=
    site.beginStop round supervisor.settings.stopTimeout
  stopped.awaitRound index supervisor round standing

/-- A new round; if a stop was requested its job is stopped and not started. -/
def beginRound (site : Site) (index : Nat) (supervisor : Supervisor) : RunStep :=
  if supervisor.stopRequested then
    let (opened, round) := site.openRound index supervisor
    let (stopped, _) := opened.beginStop round supervisor.settings.stopTimeout
    stopped.settleRound index { supervisor with current := some round } round
  else site.launchRound index supervisor

/-- A command that came in is posted and executed. -/
def dispatch (site : Site) (index : Nat) (supervisor : Supervisor) (round : Nat)
    (command : Command) : RunStep :=
  ⟨site.postEvent index (.commandReceived command.name),
    some (.listening round (supervisor.pollDeadline site.now)),
    [.execute index command]⟩

/-- A round that is listened to: one command, the end of the round, or another
poll. -/
def listen (site : Site) (index : Nat) (supervisor : Supervisor) (round : Nat)
    (deadline : Instant) : RunStep :=
  if !(site.job round).isAlive then site.settleRound index supervisor round
  else
    match supervisor.channel.gate.bind site.takeCommand? with
    | some (taken, command) => taken.dispatch index supervisor round command
    | none =>
        let next :=
          if deadline ≤ site.now then supervisor.pollDeadline site.now
          else deadline
        ⟨site, some (.listening round next), []⟩

/-- The beginning of a run: its channel is opened. -/
def openRun (site : Site) (index : Nat) (supervisor : Supervisor) : RunStep :=
  match site.openChannel supervisor.channel with
  | (site, .error fault) =>
      ⟨site.finishRun index (.returned (.error fault)), none, []⟩
  | (site, .ok (channel, gate)) =>
      let opened := { supervisor with channel := channel }
      let step := (site.setSupervisor index opened).beginRound index opened
      { step with begun := gate.toList.map .enter ++ step.begun }

def continueRun (site : Site) (index : Nat) (supervisor : Supervisor) :
    RunStage → RunStep
  | .called => site.openRun index supervisor
  | .listening round deadline => site.listen index supervisor round deadline
  | .settling round call =>
      let (resumed, standing) := site.resumeStop round call
      resumed.awaitRound index supervisor round standing
  | .closing code gate call =>
      let (resumed, standing) := site.resumeStop gate call
      resumed.awaitGate index supervisor gate code standing

def runIsReady (site : Site) (index : Nat) : RunStage → Bool
  | .called => true
  | .listening round deadline =>
      !(site.job round).isAlive || deadline ≤ site.now ||
        (site.supervisor? index).any fun supervisor =>
          supervisor.channel.gate.any site.hasCommand
  | .settling round call => call.isReady site.now (site.job round)
  | .closing _ gate call => call.isReady site.now (site.job gate)

end Site

/-- Until when a run waits at most. -/
def RunStage.deadline : RunStage → Option Instant
  | .called => none
  | .listening _ deadline => some deadline
  | .settling _ call | .closing _ _ call => some call.deadline

end Overseer
