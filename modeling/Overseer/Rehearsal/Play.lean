import Overseer.Supervision.Activity

/-!
# Plays on a site

A play is a site with a script that leads it.  A step of the script acts on the
site and may then have to wait; what it came to is shown when it is over.  The
script itself is the lead of the schedule, so whatever can happen happens before
its next step.
-/

namespace Overseer.Rehearsal

/-- A site, and what a script keeps for itself. -/
structure Play (α : Type) where
  site : Site
  own : α

/-- What a script waits for. -/
inductive Hold where
  | clockAt (deadline : Instant)
  /-- That nothing else can run. -/
  | calm
  | calmed
  | exit (post : Nat) (deadline : Option Instant)
  | stopping (post : Nat) (call : StopCall)
  | waiting (post : Nat) (call : WaitCall)
  /-- That a run of the program is up, counted from one. -/
  | report (run : Nat)
  /-- That the counted stops have returned. -/
  | stops
  | command (gate : Nat) (deadline : Instant)
  | results (supervisor : Nat) (count : Nat)

namespace Hold

/-- Whether what is waited for is the case. -/
def isOver (site : Site) : Hold → Bool
  | .clockAt deadline => deadline ≤ site.now
  | .calm => false
  | .calmed => true
  | .exit post deadline =>
      (site.job post).exitFlag || deadline.any (· ≤ site.now)
  | .stopping post call => call.isReady site.now (site.job post)
  | .waiting post call => call.isReady site.now (site.job post)
  | .report run => (site.host.report? run).isSome
  | .stops => site.openStops = 0
  | .command gate deadline => site.hasCommand gate || deadline ≤ site.now
  | .results supervisor count =>
      (site.supervisor? supervisor).any fun supervisor =>
        count ≤ supervisor.results.length

/-- Until when the script waits at most. -/
def deadline : Hold → Option Instant
  | .clockAt deadline | .command _ deadline => some deadline
  | .exit _ deadline => deadline
  | .stopping _ call => some call.deadline
  | .waiting _ call => some call.deadline
  | .calm | .calmed | .report _ | .stops | .results _ _ => none

end Hold

/-- A play after a step, with its result or what it waits for. -/
structure Move (α ρ : Type) where
  play : Play α
  outcome : Except Hold ρ
  begun : List Activity

/-- The rules of a script: how its steps begin, how they go on when what they
wait for is the case, and how their results are shown. -/
structure Direction (α κ ρ : Type) where
  begin : Play α → κ → Move α ρ
  resume : Play α → κ → Hold → Move α ρ
  display : Play α → κ → ρ → Play α

/-- The script, with its next steps. -/
inductive Scene (κ : Type) where
  | cues (cues : List κ)
  | held (hold : Hold) (cue : κ) (cues : List κ)

namespace Direction

variable {α κ ρ : Type}

def leadTurn (play : Play α) (rest : Option (Scene κ)) (begun : List Activity) :
    Turn (Play α) (Activity ⊕ Scene κ) :=
  ⟨play, rest.map .inr, begun.map .inl⟩

/-- What a step of the script leaves behind when it is over or has to wait. -/
def follow (direction : Direction α κ ρ) (cue : κ) (rest : List κ) :
    Move α ρ → Turn (Play α) (Activity ⊕ Scene κ)
  | ⟨play, .ok result, begun⟩ =>
      leadTurn (direction.display play cue result) (some (.cues rest)) begun
  | ⟨play, .error hold, begun⟩ =>
      leadTurn play (some (.held hold cue rest)) begun

/-- One step of the script. -/
def proceed (direction : Direction α κ ρ) (play : Play α) :
    Scene κ → Turn (Play α) (Activity ⊕ Scene κ)
  | .cues [] => leadTurn play none []
  | .cues (cue :: rest) => direction.follow cue rest (direction.begin play cue)
  | .held hold cue rest =>
      direction.follow cue rest (direction.resume play cue hold)

/-- How the tasks of a play run. -/
def regime (direction : Direction α κ ρ) :
    Regime (Play α) (Activity ⊕ Scene κ) :=
  { clock := fun play => play.site.now
    setClock := fun play now =>
      { play with site := Site.regime.setClock play.site now }
    turn := fun play task =>
      match task with
      | .inl activity =>
          let turn := play.site.turn activity
          ⟨{ play with site := turn.world }, turn.rest.map .inl,
            turn.begun.map .inl⟩
      | .inr scene => direction.proceed play scene
    goesOn := fun task =>
      match task with
      | .inr (.cues _) => true
      | .inl _ | .inr (.held _ _ _) => false
    isReady := fun play task =>
      match task with
      | .inl activity => play.site.isReady activity
      | .inr (.cues _) => true
      | .inr (.held hold _ _) => hold.isOver play.site
    rank := fun _ => 0
    deadline := fun task =>
      match task with
      | .inl activity => activity.deadline
      | .inr (.cues _) => none
      | .inr (.held hold _ _) => hold.deadline
    relieve := fun task =>
      match task with
      | .inr (.held .calm cue rest) => some (.inr (.held .calmed cue rest))
      | _ => none
    react := fun play =>
      (Site.regime.react play.site).map fun site => { play with site := site } }

/-- How many turns a play is given. -/
def patience : Nat := 1000000

def stage (direction : Direction α κ ρ) (play : Play α) (cues : List κ) :
    Play α :=
  let crew : Crew (Play α) (Activity ⊕ Scene κ) :=
    ⟨play, some (.inr (.cues cues)), [], []⟩
  (crew.run direction.regime patience).world

end Direction

/-- What a wait for the end of a job came to. -/
def waitOutcome (site : Site) (post : Nat) (call : WaitCall) :
    Except Hold (Except Fault Unit) :=
  match call.result? site.now (site.job post) with
  | some result => .ok result
  | none => .error (.waiting post (call.look (site.job post)))

def stopOutcome (post : Nat) : StopCall.Standing → Except Hold Unit
  | .waits call => .error (.stopping post call)
  | .returned | .crashed => .ok ()

/-- What was reported since the last step, the oldest first; nothing is left. -/
def takeNotices (site : Site) : Site × List Notice :=
  ({ site with notices := [] }, site.notices.reverse)

end Overseer.Rehearsal
