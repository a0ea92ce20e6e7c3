import Overseer.Rehearsal.Play

/-!
# Scripted applications

A script that starts, stops and watches one application.
-/

namespace Overseer.Rehearsal

/-- A step of a script for an application. -/
inductive ApplicationCue where
  | start
  /-- Waits until a run of the program is up, counted from one. -/
  | ready (run : Nat)
  | tell (run : Nat)
  | stop (timeout : Duration)
  | beginStop (timeout : Duration)
  | join
  | awaitExit
  | waitStop (timeout : Duration)
  | sleep (time : Duration)
  | mark
  | abort
  | hook (hook : Hook)
  | name

/-- What a step came to. -/
inductive ApplicationResult where
  | nothing
  | report (report : Report)
  | exited
  | waited (result : Except Fault Unit)
  | text (text : String)

/-- What a step shows. -/
structure ApplicationSight where
  phase : Phase
  stopFlag : Bool
  restartMark : Bool
  alive : Bool
  hasChild : Bool
  code : Option Int
  signalled : Bool
  result : ApplicationResult
  notices : List Notice

/-- What the script keeps. -/
structure ApplicationDesk where
  sights : List ApplicationSight

namespace ApplicationDesk

/-- A play and the result of a step. -/
abbrev Moved := Move ApplicationDesk ApplicationResult

/-- A step that is over. -/
def done (play : Play ApplicationDesk) (site : Site)
    (result : ApplicationResult) (begun : List Activity) : Moved :=
  ⟨{ play with site := site }, .ok result, begun⟩

/-- A step that waits. -/
def hold (play : Play ApplicationDesk) (site : Site) (hold : Hold) : Moved :=
  ⟨{ play with site := site }, .error hold, []⟩

/-- The only job is being stopped. -/
def stopping (play : Play ApplicationDesk) (site : Site)
    (standing : StopCall.Standing) : Moved :=
  match stopOutcome 0 standing with
  | .error waits => hold play site waits
  | .ok () => done play site .nothing []

/-- The end of the only job is waited for. -/
def waiting (play : Play ApplicationDesk) (call : WaitCall) : Moved :=
  match waitOutcome play.site 0 call with
  | .error waits => hold play play.site waits
  | .ok result => done play play.site (.waited result) []

def begin (play : Play ApplicationDesk) (cue : ApplicationCue) : Moved :=
  let site := play.site
  match cue with
  | .start =>
      match (site.job 0).start with
      | .ok job => done play (site.setJob 0 job) .nothing [.enter 0]
      | .error notice => done play (site.report notice) .nothing []
  | .ready run => hold play site (.report run)
  | .tell run => done play { site with host := site.host.tell run } .nothing []
  | .stop timeout =>
      let (site, standing) := site.beginStop 0 timeout
      stopping play site standing
  | .beginStop timeout =>
      done play { site with openStops := site.openStops + 1 } .nothing
        [.stop 0 (.called timeout) true]
  | .join => hold play site .stops
  | .awaitExit => hold play site (.exit 0 none)
  | .waitStop timeout =>
      match WaitCall.begin? site.now timeout false with
      | none => done play site .nothing []
      | some call => waiting play call
  | .sleep time => hold play site (.clockAt (site.now.deadline time))
  | .mark => done play (site.setJob 0 (site.job 0).markForRestart) .nothing []
  | .abort => done play (site.setJob 0 (site.job 0).abort) .nothing []
  | .hook hook => done play (site.runHook 0 hook) .nothing []
  | .name => done play site (.text (site.job 0).name) []

/-- How a step goes on. -/
def resume (play : Play ApplicationDesk) (cue : ApplicationCue) (hold : Hold) :
    Moved :=
  match hold, cue with
  | .stopping post call, _ =>
      let (site, standing) := play.site.resumeStop post call
      stopping play site standing
  | .waiting _ call, _ => waiting play call
  | .report run, _ =>
      match play.site.host.report? run with
      | some report => done play play.site (.report report) []
      | none => done play play.site .nothing []
  | _, .awaitExit => done play play.site .exited []
  | _, _ => done play play.site .nothing []

/-- Shows what a step came to. -/
def display (play : Play ApplicationDesk) (_ : ApplicationCue)
    (result : ApplicationResult) : Play ApplicationDesk :=
  let (site, notices) := takeNotices play.site
  let job := site.job 0
  let application := site.application? 0
  let sight : ApplicationSight :=
    { phase := job.phase
      stopFlag := job.stopFlag
      restartMark := job.restartMark
      alive := job.isAlive
      hasChild := (application.bind Application.child).isSome
      code := application.bind Application.exitCode
      signalled := application.any Application.wasSignalled
      result := result
      notices := notices }
  ⟨site, ⟨sight :: play.own.sights⟩⟩

/-- The rules of a script for an application. -/
def direction : Direction ApplicationDesk ApplicationCue ApplicationResult :=
  { begin := begin
    resume := resume
    display := display }

/-- What the steps of a script show, and the site after it. -/
def perform (host : Host) (application : Application) (killGrace : Duration)
    (cues : List ApplicationCue) : List ApplicationSight × Site :=
  let post : Post := ⟨Job.fresh "application" killGrace, .application application 0⟩
  let play : Play ApplicationDesk := ⟨((Site.fresh host).addPost post).1, ⟨[]⟩⟩
  let ended := direction.stage play cues
  (ended.own.sights.reverse, ended.site)

end ApplicationDesk

end Overseer.Rehearsal
