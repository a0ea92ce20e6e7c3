import Overseer.CommandLine.Program
import Overseer.Rehearsal.Play

/-!
# Scripted calls of the command

A script that calls the command and waits for its end, or leaves it running and
meanwhile sends it signals.  For some calls somebody else listens for the command
that the call sends.
-/

namespace Overseer.Rehearsal

/-- A step of a script of calls. -/
inductive CallCue where
  | run (arguments : List String)
  /-- The same, while a channel is open at a path. -/
  | client (arguments : List String) (path : String)
  | spawn (arguments : List String)
  /-- Waits for the end of the call that was left running. -/
  | wait
  /-- Sends a signal to the call that was left running. -/
  | signal
  | ready (run : Nat)
  | tell (run : Nat)
  | sleep (time : Duration)
  | exists (path : String)

/-- What a step came to. -/
inductive CallResult where
  | nothing
  | ended (ending : Ending)
  | heard (ending : Ending) (command : Option Command)
  | report (report : Report)
  | exists (found : Bool)

/-- What the script keeps. -/
structure CallDesk where
  environment : Environment
  /-- The call that was left running. -/
  spawned : Option Program
  called : Option Program
  /-- The channel that is open meanwhile. -/
  channel : Channel
  heard : Option Command
  results : List CallResult

namespace CallDesk

/-- A play and the result of a step. -/
abbrev Moved := Move CallDesk CallResult

def listenTimeout : Duration := Duration.ofMillis 500

/-- A step that is over. -/
def done (play : Play CallDesk) (result : CallResult)
    (begun : List Activity) : Moved :=
  ⟨play, .ok result, begun⟩

/-- A step that waits. -/
def hold (play : Play CallDesk) (hold : Hold) (begun : List Activity) : Moved :=
  ⟨play, .error hold, begun⟩

def withSite (play : Play CallDesk) (site : Site) : Play CallDesk :=
  { play with site := site }

/-- Waits for the end of a call, which may have come. -/
def await (play : Play CallDesk) (program : Program) (begun : List Activity) :
    Moved :=
  let waiting := { play with own := { play.own with called := some program } }
  match program with
  | .ended ending => done play (.ended ending) begun
  | .supervises index => hold waiting (.results index 1) begun

def ending (play : Play CallDesk) : Ending :=
  (play.own.called.bind (Program.ending? play.site)).getD Ending.success

def listen (play : Play CallDesk) (begun : List Activity) : Moved :=
  match play.own.channel.gate with
  | none => done play (.heard (ending play) none) begun
  | some gate =>
      hold play (.command gate (play.site.now.deadline listenTimeout)) begun

/-- Waits for the end of a call that is listened for. -/
def awaitHeard (play : Play CallDesk) (program : Program)
    (begun : List Activity) : Moved :=
  let waiting := { play with own := { play.own with called := some program } }
  match program with
  | .ended _ => listen waiting begun
  | .supervises index => hold waiting (.results index 1) begun

/-- A call while a channel is open. -/
def client (play : Play CallDesk) (arguments : List String) (path : String) :
    Moved :=
  let (opened, result) := play.site.openChannel (Channel.closed path)
  let (channel, gate) :=
    match result with
    | .ok (channel, gate) => (channel, gate)
    | .error _ => (Channel.closed path, none)
  let (called, program, begun) := opened.call play.own.environment arguments
  awaitHeard ⟨called, { play.own with channel := channel }⟩ program
    (gate.toList.map .enter ++ begun)

/-- The gate of the channel is being stopped. -/
def closing (play : Play CallDesk) (gate : Nat) (standing : StopCall.Standing) :
    Moved :=
  match stopOutcome gate standing with
  | .error waits => hold play waits []
  | .ok () =>
      let cleared := withSite play (play.site.clearChannel play.own.channel.path gate)
      done cleared (.heard (ending cleared) cleared.own.heard) []

/-- Takes the command that was listened for, if it came, and closes the
channel. -/
def hear (play : Play CallDesk) (gate : Nat) : Moved :=
  let (site, heard) :=
    match play.site.takeCommand? gate with
    | some (site, command) => (site, some command)
    | none => (play.site, none)
  let (site, standing) := site.beginStop gate Channel.closeTimeout
  closing ⟨site, { play.own with heard := heard }⟩ gate standing

def signal (play : Play CallDesk) : Moved :=
  match play.own.spawned with
  | some (.supervises index) =>
      let (site, begun) := play.site.takeSignal index
      done (withSite play site) .nothing begun
  | _ => done play .nothing []

def begin (play : Play CallDesk) : CallCue → Moved
  | .run arguments =>
      let (site, program, begun) := play.site.call play.own.environment arguments
      await (withSite play site) program begun
  | .client arguments path => client play arguments path
  | .spawn arguments =>
      let (site, program, begun) := play.site.call play.own.environment arguments
      done ⟨site, { play.own with spawned := some program }⟩ .nothing begun
  | .wait =>
      match play.own.spawned with
      | none => done play .nothing []
      | some program => await play program []
  | .signal => signal play
  | .ready run => hold play (.report run) []
  | .tell run =>
      done (withSite play { play.site with host := play.site.host.tell run })
        .nothing []
  | .sleep time => hold play (.clockAt (play.site.now.deadline time)) []
  | .exists path =>
      done play (.exists (play.site.host.tree.at? path).isSome) []

/-- How a step goes on. -/
def resume (play : Play CallDesk) (cue : CallCue) (hold : Hold) : Moved :=
  match hold, cue with
  | .results _ _, .client _ _ => listen play []
  | .results _ _, _ => done play (.ended (ending play)) []
  | .command gate _, _ => hear play gate
  | .stopping gate call, _ =>
      let (site, standing) := play.site.resumeStop gate call
      closing (withSite play site) gate standing
  | .report run, _ =>
      match play.site.host.report? run with
      | some report => done play (.report report) []
      | none => done play .nothing []
  | _, _ => done play .nothing []

/-- Keeps what a step came to. -/
def display (play : Play CallDesk) (_ : CallCue) (result : CallResult) :
    Play CallDesk :=
  { play with
    own := { play.own with
      called := none
      heard := none
      results := result :: play.own.results } }

/-- The rules of a script of calls. -/
def direction : Direction CallDesk CallCue CallResult :=
  { begin := begin
    resume := resume
    display := display }

/-- What the steps of a script came to, and the site after it. -/
def perform (host : Host) (environment : Environment) (cues : List CallCue) :
    List CallResult × Site :=
  let desk : CallDesk :=
    { environment := environment
      spawned := none
      called := none
      channel := Channel.closed ""
      heard := none
      results := [] }
  let ended := direction.stage ⟨Site.fresh host, desk⟩ cues
  (ended.own.results.reverse, ended.site)

end CallDesk

end Overseer.Rehearsal
