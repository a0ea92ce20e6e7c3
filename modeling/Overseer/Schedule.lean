import Overseer.Duration

/-!
# Cooperative tasks on a clock

One task runs at a time, in turns, until it waits or ends.  Tasks that can run on
stand in a queue, in the order in which they became ready.  One task, the lead,
takes over only when the queue is empty.  When the lead waits too, the
surroundings may react; then the clock moves straight to the next deadline, and
the lead is looked at first.

A task that gave way runs on when the queue is empty: it is queued before the
lead takes over, or else before the clock moves.  Of several such tasks the one
that gave way last is queued first.
-/

namespace Overseer

/-- What a task leaves behind after a turn. -/
structure Turn (σ τ : Type) where
  world : σ
  /-- The rest of the task; nothing if it ended. -/
  rest : Option τ
  begun : List τ

/-- How tasks of one kind run in a world. -/
structure Regime (σ τ : Type) where
  clock : σ → Instant
  setClock : σ → Instant → σ
  turn : σ → τ → Turn σ τ
  /-- Whether a task does not wait after its turn but takes the next one too. -/
  goesOn : τ → Bool
  isReady : σ → τ → Bool
  /-- Where a task stands among those that one turn makes ready. -/
  rank : τ → Nat
  /-- Until when a task waits at most. -/
  deadline : τ → Option Instant
  /-- A task that gave way, when its time has come again. -/
  relieve : τ → Option τ
  /-- What the surroundings do when no task can run. -/
  react : σ → Option σ

/-- The tasks of a world. -/
structure Crew (σ τ : Type) where
  world : σ
  lead : Option τ
  queue : List τ
  waiting : List τ

namespace Crew

variable {σ τ : Type}

/-- The tasks that wait and can run on are put at the end of the queue, in the
order in which they began to wait. -/
def collect (regime : Regime σ τ) (crew : Crew σ τ) : Crew σ τ :=
  let (ready, waiting) := crew.waiting.partition (regime.isReady crew.world)
  { crew with queue := crew.queue ++ ready, waiting := waiting }

/-- The tasks that a turn made ready are put at the end of the queue, by rank. -/
def collectRanked (regime : Regime σ τ) (crew : Crew σ τ) : Crew σ τ :=
  let (ready, waiting) := crew.waiting.partition (regime.isReady crew.world)
  let ranked :=
    ready.mergeSort fun first second => regime.rank first ≤ regime.rank second
  { crew with queue := crew.queue ++ ranked, waiting := waiting }

def runTask (regime : Regime σ τ) (crew : Crew σ τ) (task : τ)
    (queue : List τ) : Crew σ τ :=
  let turn := regime.turn crew.world task
  let (going, waiting) := turn.rest.toList.partition regime.goesOn
  collectRanked regime
    { crew with
      world := turn.world
      queue := going ++ queue ++ turn.begun
      waiting := crew.waiting ++ waiting }

def runLead (regime : Regime σ τ) (crew : Crew σ τ) (task : τ) : Crew σ τ :=
  let turn := regime.turn crew.world task
  collectRanked regime
    { crew with
      world := turn.world
      lead := turn.rest
      queue := crew.queue ++ turn.begun }

/-- The tasks that can run on are queued, and the lead runs if it is ready. -/
def runReadyLead (regime : Regime σ τ) (crew : Crew σ τ) : Crew σ τ :=
  let collected := collect regime crew
  match crew.lead with
  | some task =>
      if regime.isReady crew.world task then runLead regime collected task
      else collected
  | none => collected

def someGaveWay (regime : Regime σ τ) (crew : Crew σ τ) : Bool :=
  (crew.lead.toList ++ crew.waiting).any fun task => (regime.relieve task).isSome

/-- The tasks that gave way, but for the lead, are queued, the last one first. -/
def relieveOthers (regime : Regime σ τ) (crew : Crew σ τ) : Crew σ τ :=
  { crew with
    queue := crew.queue ++ (crew.waiting.filterMap regime.relieve).reverse
    waiting := crew.waiting.filter fun task => (regime.relieve task).isNone }

/-- All tasks that gave way may run on. -/
def relieveAll (regime : Regime σ τ) (crew : Crew σ τ) : Crew σ τ :=
  { relieveOthers regime crew with
    lead := crew.lead.map fun task => (regime.relieve task).getD task }

/-- The next deadline of a task, after the time on the clock. -/
def nextDeadline (regime : Regime σ τ) (crew : Crew σ τ) : Option Instant :=
  let now := regime.clock crew.world
  (((crew.lead.toList ++ crew.waiting).filterMap regime.deadline).filter
    (now < ·)).min?

/-- What happens next; nothing if the lead has ended or all wait without end. -/
def step (regime : Regime σ τ) (crew : Crew σ τ) : Option (Crew σ τ) :=
  match crew.lead, crew.queue with
  | none, _ => none
  | some lead, task :: queue =>
      some (if regime.goesOn lead then runLead regime crew lead
        else runTask regime crew task queue)
  | some lead, [] =>
      if regime.isReady crew.world lead then
        some (runLead regime (relieveOthers regime crew) lead)
      else
        match regime.react crew.world with
        | some world => some (collect regime { crew with world := world })
        | none =>
            if someGaveWay regime crew then
              some (runReadyLead regime (relieveAll regime crew))
            else
              (nextDeadline regime crew).map fun deadline =>
                runReadyLead regime
                  { crew with world := regime.setClock crew.world deadline }

/-- Runs the tasks until the lead has ended, at most so many steps. -/
def run (regime : Regime σ τ) : (steps : Nat) → Crew σ τ → Crew σ τ
  | 0, crew => crew
  | steps + 1, crew =>
      match step regime crew with
      | none => crew
      | some next => run regime steps next

end Crew

end Overseer
