import Overseer.Rehearsal.Workshop
import Overseer.Schedule

/-!
# Work in a workshop

The bodies of jobs, stops in the background and a script take turns on a clock of
their own.  What each step of the script came to is shown with the records of
what happened meanwhile, in the order of their times.
-/

namespace Overseer.Rehearsal

/-- A task of the workshop. -/
inductive Task where
  /-- The body of a job that was not entered yet. -/
  | scheduled (job : Nat)
  | acting (job : Nat) (actions : List Action)
  | body (job : Nat) (pause : Pause) (actions : List Action)
  /-- A stop in the background, with its number if the script began it. -/
  | stop (number : Option Nat) (job : Nat) (state : StopTask)
  /-- The script, with its next steps. -/
  | script (cues : List Cue)
  | waitingScript (pause : Pause) (cues : List Cue)

/-- How the body of a job ends. -/
inductive BodyEnd where
  | returned
  | failed (fault : Fault)
  | panicked

/-- Where a body stands after an action. -/
inductive Pace where
  | goesOn
  | waits (pause : Pause)
  | ends (ending : BodyEnd)

namespace Workshop

def startJob (workshop : Workshop) (index : Nat) : Workshop × List Task :=
  match (workshop.job index).start with
  | .ok job => (workshop.setJob index job, [.scheduled index])
  | .error notice => (workshop.recordReport index notice, [])

/-- A wait for the end of a job that begins now. -/
def beginWait (workshop : Workshop) (index : Nat) (timeout : Duration)
    (inside : Bool) : Except Pause Resolution :=
  match WaitCall.begin? workshop.now timeout inside with
  | none => .ok .crashed
  | some call => Pause.ofWaitCall workshop index call

def paceOf : Except Pause Resolution → Pace
  | .error pause => .waits pause
  | .ok .done | .ok .expired => .goesOn
  | .ok (.failed fault) => .ends (.failed fault)
  | .ok .crashed => .ends .panicked

def paceOfPause (workshop : Workshop) (pause : Pause) : Pace :=
  if pause.isReady workshop then .goesOn else .waits pause

/-- The result of a wait, which a body takes note of. -/
def noteWait (workshop : Workshop) (self : Nat) :
    Except Pause Resolution → Workshop × Pace
  | .error pause => (workshop, .waits pause)
  | .ok (.failed fault) =>
      (workshop.record (.waited self (.error fault)), .goesOn)
  | .ok .crashed => (workshop, .ends .panicked)
  | .ok _ => (workshop.record (.waited self (.ok ())), .goesOn)

/-- What an action of the body of the job at `self` does. -/
def act (workshop : Workshop) (self : Nat) :
    Action → Workshop × Pace × List Task
  | .sleep time =>
      (workshop,
        workshop.paceOfPause (.clockAt (workshop.sleepEnd time)), [])
  | .giveWay => (workshop, .waits .gaveWay, [])
  | .awaitStop index => (workshop, workshop.paceOfPause (.stopFlag index none), [])
  | .awaitExit index => (workshop, workshop.paceOfPause (.exitFlag index none), [])
  | .stop index timeout =>
      let (workshop, result) :=
        Pause.ofStopStep workshop index
          (StopCall.begin workshop.now (workshop.job index) timeout (index == self))
      (workshop, paceOf result, [])
  | .waitStop index timeout =>
      (workshop, paceOf (workshop.beginWait index timeout (index == self)), [])
  | .tryWaitStop index timeout =>
      let (workshop, pace) :=
        workshop.noteWait self (workshop.beginWait index timeout (index == self))
      (workshop, pace, [])
  | .start index =>
      let (workshop, begun) := workshop.startJob index
      (workshop, .goesOn, begun)
  | .mark index =>
      (workshop.setJob index (workshop.job index).markForRestart, .goesOn, [])
  | .abort index =>
      (workshop.setJob index (workshop.job index).abort, .goesOn, [])
  | .beginStop index timeout =>
      (workshop, .goesOn, [.stop none index (.called timeout)])
  | .awaitHook hook => (workshop, workshop.paceOfPause (.hook self hook), [])
  | .poll index period =>
      (workshop,
        if (workshop.job index).stopFlag then .goesOn
        else .waits (.clockAt (workshop.sleepEnd period)), [])
  | .note index =>
      (workshop.recordBy self (.noted self (JobSight.of (workshop.job index))),
        .goesOn, [])
  | .fail fault => (workshop, .ends (.failed fault), [])
  | .panic => (workshop, .ends .panicked, [])

def react (workshop : Workshop) (self : Nat) (action : Action)
    (result : Except Pause Resolution) : Workshop × Pace × List Task :=
  match action, result with
  | .poll _ _, .ok _ => workshop.act self action
  | .tryWaitStop _ _, result =>
      let (workshop, pace) := workshop.noteWait self result
      (workshop, pace, [])
  | _, result => (workshop, paceOf result, [])

def endBody (workshop : Workshop) (self : Nat) (ending : BodyEnd) : Workshop :=
  let recorded :=
    match ending with
    | .returned => workshop.recordUnlessSilent self (.returned self)
    | .failed fault => workshop.recordReport self (.bodyFailed fault)
    | .panicked => workshop
  recorded.setJob self (recorded.job self).finish

/-- The turn of a body that waits; an aborted body ends instead. -/
def suspend (workshop : Workshop) (self : Nat) (pause : Pause)
    (actions : List Action) (begun : List Task) : Turn Workshop Task :=
  if (workshop.job self).aborted then
    ⟨workshop.setJob self (workshop.job self).drop, none, begun⟩
  else ⟨workshop, some (.body self pause actions), begun⟩

/-- What an action leaves behind, where `action` may be waited for and `rest`
follows it. -/
def follow (self : Nat) (action : Action) (rest : List Action) :
    Workshop × Pace × List Task → Turn Workshop Task
  | (workshop, .goesOn, begun) => ⟨workshop, some (.acting self rest), begun⟩
  | (workshop, .waits pause, begun) =>
      workshop.suspend self pause (action :: rest) begun
  | (workshop, .ends ending, begun) =>
      ⟨workshop.endBody self ending, none, begun⟩

def proceed (workshop : Workshop) (self : Nat) :
    List Action → Turn Workshop Task
  | [] => ⟨workshop.endBody self .returned, none, []⟩
  | action :: rest => follow self action rest (workshop.act self action)

def resume (workshop : Workshop) (self : Nat) (pause : Pause) :
    List Action → Turn Workshop Task
  | [] => ⟨workshop.endBody self .returned, none, []⟩
  | action :: rest =>
      let (workshop, result) := pause.resolve workshop
      follow self action rest (workshop.react self action result)

def runStop (workshop : Workshop) (number : Option Nat) (index : Nat)
    (state : StopTask) : Turn Workshop Task :=
  let step := state.step workshop.now (workshop.job index)
  let stepped := workshop.commit index step
  let closed :=
    if number.isSome then { stepped with openStops := stepped.openStops - 1 }
    else stepped
  match step.standing, number with
  | .waits call, _ => ⟨stepped, some (.stop number index (.waits call)), []⟩
  | .returned, some number => ⟨closed.record (.stopReturned number), none, []⟩
  | .returned, none | .crashed, _ => ⟨closed, none, []⟩

/-- What a step of the script does first. -/
def play (workshop : Workshop) (cue : Cue) :
    Workshop × Except Pause CueResult × List Task :=
  let index := cue.subject
  match cue.prompt with
  | .start =>
      let (workshop, begun) := workshop.startJob index
      (workshop, .ok .nothing, begun)
  | .stop timeout =>
      let (workshop, result) :=
        Pause.ofStopStep workshop index
          (StopCall.begin workshop.now (workshop.job index) timeout false)
      (workshop, result.map fun _ => .nothing, [])
  | .beginStop timeout =>
      ({ workshop with
          begunStops := workshop.begunStops + 1
          openStops := workshop.openStops + 1 },
        .ok .nothing, [.stop (some workshop.begunStops) index (.called timeout)])
  | .join => (workshop, .error .join, [])
  | .sleep time => (workshop, .error (.clockAt (workshop.sleepEnd time)), [])
  | .giveWay => (workshop, .error .gaveWay, [])
  | .mark =>
      (workshop.setJob index (workshop.job index).markForRestart, .ok .nothing, [])
  | .abort =>
      (workshop.setJob index (workshop.job index).abort, .ok .nothing, [])
  | .waitStop timeout =>
      (workshop,
        (workshop.beginWait index timeout false).map fun
          | .failed fault => .waited (.error fault)
          | _ => .waited (.ok ()), [])
  | .awaitStop limit =>
      (workshop,
        .error (.stopFlag index (some (workshop.now.deadline limit))), [])
  | .awaitExit limit =>
      (workshop,
        .error (.exitFlag index (some (workshop.now.deadline limit))), [])
  | .describe =>
      (workshop, .ok (.text ((workshop.job index).description index)), [])
  | .name => (workshop, .ok (.text (workshop.job index).name), [])
  | .look => (workshop, .ok .nothing, [])

/-- What a step of the script came to when its pause has ended. -/
def resultOf (cue : Cue) (resolution : Resolution) : CueResult :=
  match cue.prompt, resolution with
  | .waitStop _, .failed fault => .waited (.error fault)
  | .waitStop _, _ => .waited (.ok ())
  | .awaitStop _, .done | .awaitExit _, .done => .happened true
  | .awaitStop _, _ | .awaitExit _, _ => .happened false
  | _, _ => .nothing

/-- Shows what a step of the script came to. -/
def display (workshop : Workshop) (cue : Cue) (result : CueResult) : Workshop :=
  let sight : CueSight :=
    { sight := JobSight.of (workshop.job cue.subject)
      time := workshop.now
      result := result
      records := workshop.records.reverse.mergeSort Record.isBefore }
  { workshop with
    records := []
    begunStops := match cue.prompt with | .join => 0 | _ => workshop.begunStops
    sights := sight :: workshop.sights }

/-- What a step of the script leaves behind when it is over or has to wait. -/
def leave (cue : Cue) (rest : List Cue) (begun : List Task) :
    Workshop × Except Pause CueResult → Turn Workshop Task
  | (workshop, .ok result) =>
      ⟨workshop.display cue result, some (.script rest), begun⟩
  | (workshop, .error pause) =>
      ⟨workshop, some (.waitingScript pause (cue :: rest)), begun⟩

def endPause (workshop : Workshop) (cue : Cue) (pause : Pause) :
    Workshop × Except Pause CueResult :=
  let (workshop, resolved) := pause.resolve workshop
  (workshop, resolved.map (resultOf cue))

/-- The turn of the script that comes to its next step. -/
def runScript (workshop : Workshop) : List Cue → Turn Workshop Task
  | [] => ⟨workshop, none, []⟩
  | cue :: rest =>
      match workshop.play cue with
      | (workshop, .error pause, begun) =>
          leave cue rest begun
            (if pause.isReady workshop then workshop.endPause cue pause
            else (workshop, .error pause))
      | (workshop, .ok result, begun) => leave cue rest begun (workshop, .ok result)

def resumeScript (workshop : Workshop) (pause : Pause) :
    List Cue → Turn Workshop Task
  | [] => ⟨workshop, none, []⟩
  | cue :: rest => leave cue rest [] (workshop.endPause cue pause)

def turn (workshop : Workshop) : Task → Turn Workshop Task
  | .scheduled index =>
      let job := workshop.job index
      if job.aborted then ⟨workshop.setJob index job.drop, none, []⟩
      else
        (workshop.setJob index job.enter)
          |>.recordUnlessSilent index (.entered index)
          |>.proceed index (workshop.part index).actions
  | .acting index actions => workshop.proceed index actions
  | .body index pause actions =>
      let job := workshop.job index
      if job.aborted then ⟨workshop.setJob index job.drop, none, []⟩
      else workshop.resume index pause actions
  | .stop number index state => workshop.runStop number index state
  | .script cues => workshop.runScript cues
  | .waitingScript pause cues => workshop.resumeScript pause cues

def isReady (workshop : Workshop) : Task → Bool
  | .body index pause _ => (workshop.job index).aborted || pause.isReady workshop
  | .stop _ index state => state.isReady workshop.now (workshop.job index)
  | .waitingScript pause _ => pause.isReady workshop
  | .scheduled _ | .acting _ _ | .script _ => true

end Workshop

namespace Task

/-- Where a task stands among those that one turn makes ready. -/
def rank : Task → Nat
  | .body _ pause _ | .waitingScript pause _ => pause.rank
  | .stop _ _ (.waits _) => 2
  | .stop _ _ (.called _) | .scheduled _ | .acting _ _ | .script _ => 0

def deadline : Task → Option Instant
  | .body _ pause _ | .waitingScript pause _ => pause.deadline
  | .stop _ _ state => state.deadline
  | .scheduled _ | .acting _ _ | .script _ => none

/-- Whether a task does not wait but comes to its next step. -/
def goesOn : Task → Bool
  | .acting _ _ | .script _ => true
  | .scheduled _ | .body _ _ _ | .stop _ _ _ | .waitingScript _ _ => false

def relieve : Task → Option Task
  | .body index .gaveWay actions => some (.body index .relieved actions)
  | .waitingScript .gaveWay cues => some (.waitingScript .relieved cues)
  | _ => none

end Task

namespace Workshop

def regime : Regime Workshop Task :=
  { clock := Workshop.now
    setClock := fun workshop now => { workshop with now := now }
    turn := turn
    goesOn := Task.goesOn
    isReady := isReady
    rank := Task.rank
    deadline := Task.deadline
    relieve := Task.relieve
    react := fun _ => none }

def fresh (jobs : List (Job × Part)) : Workshop :=
  { now := 0
    jobs := (jobs.map Prod.fst).toArray
    parts := (jobs.map Prod.snd).toArray
    hooked := []
    records := []
    begunStops := 0
    openStops := 0
    sights := [] }

/-- How many turns a script is given. -/
def patience : Nat := 1000000

/-- What the steps of a script show. -/
def perform (jobs : List (Job × Part)) (cues : List Cue) : List CueSight :=
  let crew : Crew Workshop Task := ⟨fresh jobs, some (.script cues), [], []⟩
  (crew.run regime patience).world.sights.reverse

end Workshop

end Overseer.Rehearsal
