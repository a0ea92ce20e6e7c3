import Overseer.Schedule
import Overseer.Supervision.Run

/-!
# Activities

How the tasks of a site run: each turn takes one task from where it waits to
where it waits next.
-/

namespace Overseer

variable [Timers]

namespace Site

def guardTurn (site : Site) (index : Nat) (watch : Gate.Watch) :
    Turn Site Activity :=
  match site.gate? index with
  | none => ⟨site, none, []⟩
  | some gate =>
      if (site.job index).aborted then ⟨site.dropGate index gate watch, none, []⟩
      else
        let (site, next) := site.guard index gate watch
        ⟨site, next.map (.guard index), []⟩

/-- The turn of the body of an application. -/
def attendTurn (site : Site) (index : Nat) (attendance : Attendance) :
    Turn Site Activity :=
  match site.application? index with
  | none => ⟨site, none, []⟩
  | some application =>
      if (site.job index).aborted then
        ⟨site.dropApplication index attendance, none, []⟩
      else
        let (site, next) := site.attend index application attendance
        ⟨site, next.map (.attend index), []⟩

/-- The first turn of a body. -/
def enterTurn (site : Site) (index : Nat) : Turn Site Activity :=
  if (site.job index).aborted then ⟨site.dropBody index, none, []⟩
  else
    let entered := site.setJob index (site.job index).enter
    match (entered.posts[index]?).map Post.duty with
    | none => ⟨entered, none, []⟩
    | some (.gate gate) =>
        let (site, next) := entered.guard index gate .accepting
        ⟨site, next.map (.guard index), []⟩
    | some (.application application _) =>
        let (site, next) := entered.launch index application
        ⟨site, next.map (.attend index), []⟩

def stopTurn (site : Site) (index : Nat) (task : StopTask) (counted : Bool) :
    Turn Site Activity :=
  let step := task.step site.now (site.job index)
  let stepped := site.commit index step
  match step.standing with
  | .waits call => ⟨stepped, some (.stop index (.waits call) counted), []⟩
  | .returned | .crashed =>
      ⟨if counted then { stepped with openStops := stepped.openStops - 1 }
        else stepped, none, []⟩

def runTurn (site : Site) (index : Nat) (stage : RunStage) : Turn Site Activity :=
  match site.supervisor? index with
  | none => ⟨site, none, []⟩
  | some supervisor =>
      let step := site.continueRun index supervisor stage
      ⟨step.site, step.waits.map (.run index), step.begun⟩

def turn (site : Site) : Activity → Turn Site Activity
  | .enter index => site.enterTurn index
  | .guard index watch => site.guardTurn index watch
  | .attend index attendance => site.attendTurn index attendance
  | .stop index task counted => site.stopTurn index task counted
  | .execute index command =>
      let (site, stop) := command.execute (commandTarget index) site
      ⟨site, stopActivity stop, []⟩
  | .run index stage => site.runTurn index stage

/-- Whether a task that waits can run on. -/
def isReady (site : Site) : Activity → Bool
  | .enter _ | .execute _ _ => true
  | .guard index watch =>
      let job := site.job index
      job.aborted || (site.gate? index).any fun gate =>
        gate.isReady site.now job.stopFlag site.host.sockets watch
  | .attend index attendance =>
      let job := site.job index
      job.aborted ||
        Application.isReady site.now job.stopFlag (site.childStatus attendance)
          attendance
  | .stop index task _ => task.isReady site.now (site.job index)
  | .run index stage => site.runIsReady index stage

end Site

/-- Until when a task waits at most. -/
def Activity.deadline : Activity → Option Instant
  | .guard _ watch => Gate.deadline watch
  | .attend _ attendance => attendance.deadline
  | .stop _ task _ => task.deadline
  | .run _ stage => stage.deadline
  | .enter _ | .execute _ _ => none

/-- How tasks run on a site. -/
def Site.regime : Regime Site Activity :=
  { clock := Site.now
    setClock := fun site now => { site with now := now }
    turn := Site.turn
    goesOn := fun _ => false
    isReady := Site.isReady
    rank := fun _ => 0
    deadline := Activity.deadline
    relieve := fun _ => none
    react := fun site =>
      site.host.react.map fun host => { site with host := host } }

end Overseer
