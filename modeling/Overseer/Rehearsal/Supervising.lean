import Overseer.Rehearsal.Play

/-!
# Scripted supervisors

A script that runs a supervisor, once or several times, and meanwhile sends it
commands, calls it and watches its current round.
-/

namespace Overseer.Rehearsal

/-- A step of a script for a supervisor. -/
inductive SupervisorCue where
  /-- Waits until a run of the program is up, counted from one. -/
  | ready (run : Nat)
  | tell (run : Nat)
  | send (command : Command)
  /-- A client sends any bytes and closes its connection. -/
  | sendBytes (bytes : List UInt8)
  | stop
  | restart
  | beginStop
  | kill
  | mark
  | sleep (time : Duration)
  /-- Looks at the current round. -/
  | current
  /-- Looks for the control socket. -/
  | socket
  | beginRun
  /-- Waits until so many runs are over. -/
  | awaitRuns (count : Nat)

/-- What can be seen of a round. -/
structure RoundSight where
  name : String
  phase : Phase
  alive : Bool
  restartMark : Bool
  stopFlag : Bool

/-- What a step came to. -/
inductive SupervisorResult where
  | nothing
  | report (report : Report)
  | sent (result : Except Fault Unit)
  | round (sight : Option RoundSight)
  | exists (found : Bool)
  /-- The step belongs to the frame of the script and is not shown. -/
  | unseen

/-- What the script keeps. -/
structure SupervisorDesk where
  results : List SupervisorResult

/-- What a script shows. -/
structure SupervisorShow where
  results : List SupervisorResult
  runs : List RunResult
  hasCurrent : Bool
  socketExists : Bool
  events : List Event
  notices : List Notice

namespace SupervisorDesk

/-- A play and the result of a step. -/
abbrev Moved := Move SupervisorDesk SupervisorResult

/-- A step that is over. -/
def done (play : Play SupervisorDesk) (site : Site)
    (result : SupervisorResult) (begun : List Activity) : Moved :=
  ⟨{ play with site := site }, .ok result, begun⟩

/-- A step that waits. -/
def hold (play : Play SupervisorDesk) (site : Site) (hold : Hold) : Moved :=
  ⟨{ play with site := site }, .error hold, []⟩

/-- A round is being stopped. -/
def stopping (play : Play SupervisorDesk) (site : Site)
    (stop : Option (Nat × StopCall.Standing)) : Moved :=
  match stop with
  | none => done play site .nothing []
  | some (round, standing) =>
      match stopOutcome round standing with
      | .error waits => hold play site waits
      | .ok () => done play site .nothing []

/-- The job of the current round. -/
def current? (site : Site) : Option Nat :=
  (site.supervisor? 0).bind Supervisor.current

def socketPath (site : Site) : String :=
  ((site.supervisor? 0).map fun supervisor => supervisor.channel.path).getD ""

/-- What can be seen of the current round. -/
def roundSight (site : Site) : Option RoundSight :=
  (current? site).map fun round =>
    let job := site.job round
    ⟨job.name, job.phase, job.isAlive, job.restartMark, job.stopFlag⟩

/-- A connection over which any bytes are sent. -/
def sendBytes (site : Site) (bytes : List UInt8) : Site :=
  match site.host.connect (socketPath site) with
  | .error _ => site
  | .ok (host, connection) =>
      let sockets := (host.sockets.send connection bytes).finish connection
      { site with host := { host with sockets := sockets } }

def begin (play : Play SupervisorDesk) (cue : SupervisorCue) : Moved :=
  let site := play.site
  match cue with
  | .ready run => hold play site (.report run)
  | .tell run => done play { site with host := site.host.tell run } .nothing []
  | .send command =>
      let (site, result) :=
        site.sendCommand (socketPath site) Channel.defaultConnectTimeout command
      done play site (.sent result) []
  | .sendBytes bytes => done play (sendBytes site bytes) .nothing []
  | .stop =>
      let (site, stop) := site.requestStop 0
      stopping play site stop
  | .restart =>
      let (site, stop) := site.requestRestart 0
      stopping play site stop
  | .beginStop => done play site .nothing [.execute 0 .stop]
  | .kill => done play (site.requestKill 0) .nothing []
  | .mark =>
      match current? site with
      | none => done play site .nothing []
      | some round =>
          done play (site.setJob round (site.job round).markForRestart) .nothing []
  | .sleep time => hold play site (.clockAt (site.now.deadline time))
  | .current => done play site (.round (roundSight site)) []
  | .socket =>
      done play site (.exists (site.host.tree.at? (socketPath site)).isSome) []
  | .beginRun => done play site .unseen [.run 0 .called]
  | .awaitRuns count => hold play site (.results 0 count)

/-- How a step goes on. -/
def resume (play : Play SupervisorDesk) (cue : SupervisorCue) (hold : Hold) :
    Moved :=
  match hold, cue with
  | .stopping round call, _ =>
      let (site, standing) := play.site.resumeStop round call
      stopping play site (some (round, standing))
  | .report run, _ =>
      match play.site.host.report? run with
      | some report => done play play.site (.report report) []
      | none => done play play.site .nothing []
  | .results _ _, _ => done play play.site .unseen []
  | _, _ => done play play.site .nothing []

/-- Keeps what a step came to. -/
def display (play : Play SupervisorDesk) (_ : SupervisorCue)
    (result : SupervisorResult) : Play SupervisorDesk :=
  match result with
  | .unseen => play
  | seen => { play with own := ⟨seen :: play.own.results⟩ }

/-- The rules of a script for a supervisor. -/
def direction : Direction SupervisorDesk SupervisorCue SupervisorResult :=
  { begin := begin
    resume := resume
    display := display }

/-- More runs, one after the other, when so many are over. -/
def furtherRuns (finished : Nat) : Nat → List SupervisorCue
  | 0 => []
  | again + 1 =>
      .beginRun :: .awaitRuns (finished + 1) :: furtherRuns (finished + 1) again

/-- Plays a script: steps before the run, steps beside it, and more runs after
it. -/
def perform (host : Host) (supervisor : Supervisor)
    (before beside : List SupervisorCue) (again : Nat) : SupervisorShow × Site :=
  let cues :=
    before ++ .beginRun :: beside ++ .awaitRuns 1 :: furtherRuns 1 again
  let play : Play SupervisorDesk :=
    ⟨((Site.fresh host).addSupervisor supervisor).1, ⟨[]⟩⟩
  let ended := direction.stage play cues
  let site := ended.site
  ({ results := ended.own.results.reverse
     runs := ((site.supervisor? 0).map Supervisor.results).getD []
     hasCurrent := (current? site).isSome
     socketExists := (site.host.tree.at? (socketPath site)).isSome
     events := (site.events.map Prod.snd).reverse
     notices := site.notices.reverse }, site)

end SupervisorDesk

end Overseer.Rehearsal
