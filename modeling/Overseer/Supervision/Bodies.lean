import Overseer.Supervision.Site

/-!
# Bodies of jobs

What the bodies of the jobs of a site do: a gate guards a channel, an application
attends to its child.  A body that is aborted before it was entered leaves no
trace; one that was entered lets go of what it holds.
-/

namespace Overseer

variable [Timers]

namespace Site

/-- The listener of a gate is closed when its body is gone. -/
def closeListener (site : Site) (index : Nat) : Site :=
  match site.gate? index with
  | none => site
  | some gate => site.setSockets (site.host.sockets.close gate.listener)

def endBody (site : Site) (index : Nat) : Site :=
  (site.closeListener index).setJob index (site.job index).finish

def failBody (site : Site) (index : Nat) (fault : Fault) : Site :=
  (site.report (.bodyFailed fault)).endBody index

/-- The end of a body that was aborted. -/
def dropBody (site : Site) (index : Nat) : Site :=
  (site.closeListener index).setJob index (site.job index).drop

/-- One step of a gate, and what it then waits for. -/
def guard (site : Site) (index : Nat) (gate : Gate) (watch : Gate.Watch) :
    Site × Option Gate.Watch :=
  let step :=
    gate.step site.now (site.job index).stopFlag site.host.sockets watch
  let stepped :=
    ((site.setSockets step.sockets).setGate index step.gate).reportAll step.notices
  match step.waits with
  | none => (stepped.endBody index, none)
  | some watch => (stepped, some watch)

/-- The end of a gate that was aborted. -/
def dropGate (site : Site) (index : Nat) (gate : Gate) (watch : Gate.Watch) :
    Site :=
  let shut := gate.shut site.host.sockets watch
  (site.setSockets shut.sockets).dropBody index

/-- How the child that is attended to ended, if it has. -/
def childStatus (site : Site) (attendance : Attendance) : Option ExitStatus :=
  site.host.status? attendance.child

/-- What the body of an application does when it runs, and where it then
waits. -/
def attend (site : Site) (index : Nat) (application : Application)
    (attendance : Attendance) : Site × Option Attendance :=
  let attended :=
    application.attend site.now (site.job index).stopFlag
      (site.childStatus attendance) attendance
  let signalled :=
    attended.signals.foldl
      (fun site signal => site.signal index attendance.child signal) site
  let stepped :=
    (signalled.setApplication index attended.application).reportAll
      attended.notices
  match attended.waits with
  | none => (stepped.endBody index, none)
  | some attendance => (stepped, some attendance)

/-- The first thing that the body of an application does: its child is
spawned. -/
def launch (site : Site) (index : Nat) (application : Application) :
    Site × Option Attendance :=
  match site.host.spawn application.program application.report with
  | .error error =>
      (site.failBody index (.spawn application.program error), none)
  | .ok (host, child) =>
      let started :=
        ({ site with host := host }.setApplication index
          (application.withChild child)).postFrom index (.applicationStarted child)
      started.attend index (application.withChild child) (.running child)

/-- The child of an application is let go: it is killed, unless it has ended. -/
def letGo (site : Site) (index : Nat) (attendance : Attendance) : Site :=
  if (site.childStatus attendance).isSome then site
  else site.signal index attendance.child .kill

/-- The end of an application that was aborted. -/
def dropApplication (site : Site) (index : Nat) (attendance : Attendance) : Site :=
  (site.letGo index attendance).dropBody index

/-- The end of an application whose child could not be waited for. -/
def failApplication (site : Site) (index : Nat) (application : Application)
    (attendance : Attendance) (fault : Fault) : Site :=
  let left := site.letGo index attendance
  (left.setApplication index application.withoutChild).failBody index fault

end Site

end Overseer
