import Overseer.Proofs.Lifecycle.Timing

/-!
# The escalation of a stop

The first stop of a job that was started goes through up to three steps, each at
its time.  `Stage` says, for every moment, where this call stands, which hooks ran
and what became of the body.  Whatever happens to the job, and whenever the call
runs again, one stage leads to another.
-/

namespace Overseer

namespace Job

/-- The body of a job is there, and nobody has told it to end. -/
structure Runs (job : Job) (phase : Phase) : Prop where
  body : job.body = .scheduled ∨ job.body = .underway
  phase : job.phase = phase
  exitFlag : job.exitFlag = false
  aborted : job.aborted = false

/-- The body of a job was told to end and has not yet. -/
structure Aborted (job : Job) : Prop where
  body : job.body = .underway
  phase : job.phase = .killed
  exitFlag : job.exitFlag = false
  aborted : job.aborted = true

/-- The body of a job is gone. -/
structure Ended (job : Job) (phase : Phase) : Prop where
  body : job.body = .gone
  phase : job.phase = phase
  exitFlag : job.exitFlag = true
  stopFlag : job.stopFlag = true

variable {job : Job} {phase : Phase}

theorem moveTo_of_not_final (unfinished : job.phase.isFinal = false)
    (next : Phase) : job.moveTo next = { job with phase := next } := by
  simp [moveTo, unfinished]

theorem Runs.launched (runs : job.Runs phase) : job.body ≠ .unlaunched := by
  rcases runs.body with body | body <;>
    · rw [body]
      exact Body.noConfusion

theorem Runs.claim (runs : job.Runs phase) :
    ({ job with stopClaimed := true }).Runs phase :=
  ⟨runs.body, runs.phase, runs.exitFlag, runs.aborted⟩

theorem Runs.requestStop (runs : job.Runs .running) :
    job.requestStop.Runs .stopRequested := by
  have unfinished : job.phase.isFinal = false := by
    rw [runs.phase]
    rfl
  simp only [Job.requestStop, moveTo, unfinished]
  exact ⟨runs.body, rfl, runs.exitFlag, runs.aborted⟩

theorem Runs.terminate (runs : job.Runs .stopRequested) :
    (job.moveTo .terminating).Runs .terminating := by
  have unfinished : job.phase.isFinal = false := by
    rw [runs.phase]
    rfl
  rw [moveTo_of_not_final unfinished]
  exact ⟨runs.body, rfl, runs.exitFlag, runs.aborted⟩

theorem Runs.abort (runs : job.Runs .terminating)
    (underway : job.body = .underway) : job.abort.Aborted := by
  have unfinished : job.phase.isFinal = false := by
    rw [runs.phase]
    rfl
  unfold Job.abort
  rw [moveTo_of_not_final unfinished]
  refine ⟨underway, rfl, runs.exitFlag, ?_⟩
  simp [underway, Body.hasTask]

theorem Runs.enter (runs : job.Runs phase) : job.enter.Runs phase :=
  ⟨.inr rfl, runs.phase, runs.exitFlag, runs.aborted⟩

theorem Runs.finish (runs : job.Runs phase) (unfinished : phase ≠ .killed) :
    job.finish.Ended .exited := by
  refine ⟨rfl, ?_, rfl, rfl⟩
  simp [Job.finish, markExited, runs.phase, unfinished]

theorem Aborted.finish (aborted : job.Aborted) : job.finish.Ended .killed := by
  refine ⟨rfl, ?_, rfl, rfl⟩
  simp [Job.finish, markExited, aborted.phase]

theorem Aborted.drop (aborted : job.Aborted) : job.drop.Ended .killed := by
  unfold Job.drop
  rw [if_pos aborted.body]
  exact aborted.finish

end Job

/-! ## Steps of the stop -/

namespace StopCall

variable {job : Job} {phase : Phase} {now : Instant}

theorem awaitExit_of_ended (ended : job.exitFlag = true) (deadline : Instant)
    (effects : List StopEffect) (call : StopCall) :
    awaitExit now deadline job effects call = ⟨job, effects, .returned⟩ := by
  simp [awaitExit, ended]

theorem awaitExit_of_early (running : job.exitFlag = false) {deadline : Instant}
    (early : now < deadline) (effects : List StopEffect) (call : StopCall) :
    awaitExit now deadline job effects call = ⟨job, effects, .waits call⟩ := by
  simp [awaitExit, running, Nat.not_le.mpr early]

variable [Timers]

theorem awaitTermination_of_ended (ended : job.exitFlag = true)
    (deadline : Instant) (effects : List StopEffect) :
    awaitTermination now deadline job effects = ⟨job, effects, .returned⟩ := by
  simp [awaitTermination, ended]

theorem awaitTermination_of_early (running : job.exitFlag = false)
    {deadline : Instant} (early : now < deadline) (effects : List StopEffect) :
    awaitTermination now deadline job effects =
      ⟨job, effects, .waits (.terminating deadline)⟩ := by
  simp [awaitTermination, running, Nat.not_le.mpr early]

/-- A body that has not ended by the second deadline is aborted. -/
theorem awaitTermination_of_late (running : job.exitFlag = false)
    {deadline : Instant} (late : deadline ≤ now)
    (lasts : job.killGrace.Lasts) (effects : List StopEffect) :
    awaitTermination now deadline job effects =
      ⟨job.abort,
        effects ++ [.report (.jobKilled job.killGrace), .hook .kill],
        .waits (.killing (now.deadline job.killGrace))⟩ := by
  have still : job.abort.exitFlag = false := by
    unfold Job.abort Job.moveTo
    split
    · exact running
    · exact running
  unfold awaitTermination
  rw [if_neg (by simp [running]), if_pos late]
  exact awaitExit_of_early still (lasts now) _ _

theorem awaitStop_of_ended (ended : job.Ended phase) (wait : WaitCall)
    (effects : List StopEffect) :
    awaitStop now wait job effects = ⟨job, effects, .returned⟩ := by
  simp [awaitStop, WaitCall.result?, WaitCall.isMet, ended.exitFlag, ended.stopFlag]

theorem awaitStop_of_early (running : job.exitFlag = false) {wait : WaitCall}
    (outside : wait.inside = false) (early : now < wait.deadline)
    (effects : List StopEffect) :
    awaitStop now wait job effects =
      ⟨job, effects, .waits (.graceful (wait.look job))⟩ := by
  simp [awaitStop, WaitCall.result?, WaitCall.isMet, running, outside,
    Nat.not_le.mpr early]

theorem awaitStop_of_late (running : job.exitFlag = false) {wait : WaitCall}
    (outside : wait.inside = false) (late : wait.deadline ≤ now)
    (lasts : job.killGrace.Lasts) (effects : List StopEffect) :
    awaitStop now wait job effects =
      ⟨job.moveTo .terminating,
        effects ++ [.report (.stopTimedOut wait.fault), .hook .terminate],
        .waits (.terminating (now.deadline job.killGrace))⟩ := by
  have still : (job.moveTo .terminating).exitFlag = false := by
    unfold Job.moveTo
    split
    · exact running
    · exact running
  simp only [awaitStop, WaitCall.result?, WaitCall.isMet, running, outside, late,
    Bool.or_self, Bool.and_false, if_true]
  exact awaitTermination_of_early still (lasts now) _

theorem begin_of_ended (unclaimed : job.stopClaimed = false)
    (ended : job.exitFlag = true) (timeout : Duration) (inside : Bool) :
    begin now job timeout inside =
      ⟨{ job with stopClaimed := true }, [], .returned⟩ := by
  simp [begin, unclaimed, ended]

/-- The first stop of a job that runs raises its flag, and waits until the timeout
is over if the clock holds that instant. -/
theorem begin_of_held (unclaimed : job.stopClaimed = false)
    (runs : job.Runs phase) {timeout : Duration}
    (held : now + timeout.nanos < Instant.limit) :
    begin now job timeout false =
      awaitStop now ⟨timeout, now + timeout.nanos, false, false⟩
        ({ job with stopClaimed := true }).requestStop [.hook .stop] := by
  have begun : WaitCall.begin? now timeout false =
      some ⟨timeout, now + timeout.nanos, false, false⟩ := by
    simp [WaitCall.begin?, Instant.after?, held]
  simp [begin, perform, unclaimed, runs.exitFlag, runs.launched, begun]

theorem begin_of_beyond (unclaimed : job.stopClaimed = false)
    (runs : job.Runs phase) {timeout : Duration}
    (beyond : Instant.limit ≤ now + timeout.nanos) :
    begin now job timeout false =
      ⟨({ job with stopClaimed := true }).requestStop, [.hook .stop],
        .crashed⟩ := by
  have none : WaitCall.begin? now timeout false = none := by
    simp [WaitCall.begin?, Instant.after?, Nat.not_lt.mpr beyond]
  simp [begin, perform, unclaimed, runs.exitFlag, runs.launched, none]

theorem begin_claims (now : Instant) (job : Job) (timeout : Duration)
    (inside : Bool) :
    (begin now job timeout inside).job.killGrace = job.killGrace ∧
      (begin now job timeout inside).job.stopClaimed = true := by
  obtain ⟨phase, moved⟩ :=
    ({ job with stopClaimed := true }).moveTo_frame .stopRequested
  unfold begin
  split
  · rename_i claimed
    unfold follow
    split
    · exact ⟨rfl, claimed⟩
    · split
      · exact ⟨rfl, claimed⟩
      · rw [awaitExit_job]
        exact ⟨rfl, claimed⟩
  · dsimp only
    split
    · exact ⟨rfl, rfl⟩
    · unfold perform Job.requestStop
      rw [moved]
      dsimp only
      split
      · exact ⟨rfl, rfl⟩
      · split
        · exact ⟨rfl, rfl⟩
        · split
          · exact ⟨rfl, rfl⟩
          · rename_i wait _
            obtain ⟨_, _, frame⟩ := awaitStop_frame now wait
              { job with stopClaimed := true, phase := phase, stopFlag := true }
              [.hook .stop]
            rw [frame]
            exact ⟨rfl, rfl⟩

end StopCall

/-! ## Stages -/

/-- A stop that escalates: when it was called, its timeout, the kill grace of its
job, and its position among the calls. -/
structure Escalation where
  start : Instant
  timeout : Duration
  grace : Duration
  position : Nat
  /-- The job had exited before. -/
  spared : Bool

namespace Escalation

def terminateAt (escalation : Escalation) : Instant :=
  escalation.start + escalation.timeout.nanos

variable [Timers]

def killAt (escalation : Escalation) : Instant :=
  escalation.terminateAt.deadline escalation.grace

def asked (escalation : Escalation) : List (Instant × Hook) :=
  [(escalation.start, .stop)]

/-- The hooks after the second step. -/
def terminated (escalation : Escalation) : List (Instant × Hook) :=
  [(escalation.start, .stop), (escalation.terminateAt, .terminate)]

/-- The hooks after the third step. -/
def killed (escalation : Escalation) : List (Instant × Hook) :=
  [(escalation.start, .stop), (escalation.terminateAt, .terminate),
    (escalation.killAt, .kill)]

def wait (escalation : Escalation) : WaitCall :=
  ⟨escalation.timeout, escalation.terminateAt, false, true⟩

/-- What became of the body of a job that was started. -/
inductive Condition where
  | running (phase : Phase)
  | aborted
  | ended (phase : Phase)

def Condition.Of (job : Job) : Condition → Prop
  | .running phase => job.Runs phase
  | .aborted => job.Aborted
  | .ended phase => job.Ended phase

/-- How the escalation stands at an instant: the condition of the job, the hooks
that ran, when the body has ended by itself, and the call. -/
inductive Stage (escalation : Escalation) (now : Instant) :
    Condition → List (Instant × Hook) → Option Instant → CallStanding → Prop where
  | spared {ended : Instant} (settled : escalation.spared = true)
      (earlier : ended ≤ escalation.start) :
      Stage escalation now (.ended .exited) [] (some ended)
        (.returned escalation.start)
  | asked (early : now ≤ escalation.terminateAt) :
      Stage escalation now (.running .stopRequested) escalation.asked none
        (.stops (.graceful escalation.wait))
  | askedEnded (early : now ≤ escalation.terminateAt) :
      Stage escalation now (.ended .exited) escalation.asked (some now)
        (.stops (.graceful escalation.wait))
  | askedReturned {ended : Instant} (early : ended ≤ escalation.terminateAt)
      (past : ended ≤ now) :
      Stage escalation now (.ended .exited) escalation.asked (some ended)
        (.returned ended)
  | terminated (late : escalation.terminateAt ≤ now)
      (early : now ≤ escalation.killAt) :
      Stage escalation now (.running .terminating) escalation.terminated none
        (.stops (.terminating escalation.killAt))
  | terminatedEnded (late : escalation.terminateAt ≤ now)
      (early : now ≤ escalation.killAt) :
      Stage escalation now (.ended .exited) escalation.terminated (some now)
        (.stops (.terminating escalation.killAt))
  | terminatedReturned {ended : Instant}
      (late : escalation.terminateAt ≤ ended) (early : ended ≤ escalation.killAt)
      (past : ended ≤ now) :
      Stage escalation now (.ended .exited) escalation.terminated (some ended)
        (.returned ended)
  | killed {deadline : Instant} (here : now = escalation.killAt)
      (ahead : escalation.killAt < deadline) :
      Stage escalation now .aborted escalation.killed none
        (.stops (.killing deadline))
  | killedEnded {deadline : Instant} {ended : Option Instant}
      (here : now = escalation.killAt)
      (only : ∀ time, ended = some time → time = escalation.killAt) :
      Stage escalation now (.ended .killed) escalation.killed ended
        (.stops (.killing deadline))
  | killedReturned {ended : Option Instant} (past : escalation.killAt ≤ now)
      (only : ∀ time, ended = some time → time = escalation.killAt) :
      Stage escalation now (.ended .killed) escalation.killed ended
        (.returned escalation.killAt)
  /-- The clock does not hold the first deadline. -/
  | crashed (beyond : Instant.limit ≤ escalation.terminateAt) :
      Stage escalation now (.running .stopRequested) escalation.asked none .crashed
  | crashedEnded {ended : Instant}
      (beyond : Instant.limit ≤ escalation.terminateAt) (past : ended ≤ now) :
      Stage escalation now (.ended .exited) escalation.asked (some ended) .crashed

variable {escalation : Escalation} {now : Instant} {job : Job}
  {condition : Condition} {hooks : List (Instant × Hook)} {ended : Option Instant}
  {standing : CallStanding} {stop : StopCall}

/-! ## Instants of the escalation -/

omit [Timers] in
theorem start_le_terminateAt (escalation : Escalation) :
    escalation.start ≤ escalation.terminateAt :=
  Nat.le_add_right _ _

theorem terminateAt_lt_killAt (lasts : escalation.grace.Lasts) :
    escalation.terminateAt < escalation.killAt :=
  lasts escalation.terminateAt

theorem killAt_eq (onTime : Timers.OnTime) (escalation : Escalation) :
    escalation.killAt =
      escalation.start + escalation.timeout.nanos + escalation.grace.nanos :=
  onTime escalation.terminateAt escalation.grace

theorem le_bound_of_le_killAt (onTime : Timers.OnTime) {time : Instant}
    (early : time ≤ escalation.killAt) :
    time ≤ escalation.start + escalation.timeout.nanos +
      2 * escalation.grace.nanos := by
  rw [killAt_eq onTime] at early
  unfold Instant at *
  omega

/-! ## What a stage says -/

omit [Timers] in
theorem Condition.Of.launched (of : condition.Of job) : job.body ≠ .unlaunched := by
  cases condition with
  | running phase => exact Job.Runs.launched of
  | aborted =>
      rw [of.body]
      exact Body.noConfusion
  | ended phase =>
      rw [of.body]
      exact Body.noConfusion

/-- As long as the body is not gone, the clock is before the kill, unless the
escalation has crashed. -/
theorem Stage.le_killAt
    (stage : Stage escalation now condition hooks ended standing)
    (lasts : escalation.grace.Lasts)
    (present : ∀ phase, condition ≠ .ended phase) :
    now ≤ escalation.killAt ∨ Instant.limit ≤ escalation.terminateAt := by
  have later := terminateAt_lt_killAt lasts
  cases stage with
  | asked early => exact .inl (Nat.le_of_lt (Nat.lt_of_le_of_lt early later))
  | terminated late early => exact .inl early
  | killed here ahead => exact .inl (Nat.le_of_eq here)
  | crashed beyond => exact .inr beyond
  | spared | askedEnded | askedReturned | terminatedEnded | terminatedReturned
  | killedEnded | killedReturned | crashedEnded => exact absurd rfl (present _)

theorem Stage.now_le
    (stage : Stage escalation now condition hooks ended (.stops stop))
    (lasts : escalation.grace.Lasts) : now ≤ escalation.killAt := by
  have second := Nat.le_of_lt (terminateAt_lt_killAt lasts)
  cases stage with
  | asked early => exact Nat.le_trans early second
  | askedEnded early => exact Nat.le_trans early second
  | terminated _ early => exact early
  | terminatedEnded _ early => exact early
  | killed here _ => exact Nat.le_of_eq here
  | killedEnded here _ => exact Nat.le_of_eq here

/-- The call that escalates returns no later than the kill. -/
theorem Stage.returned_le {now time : Instant}
    (stage : Stage escalation now condition hooks ended (.returned time))
    (lasts : escalation.grace.Lasts) : time ≤ escalation.killAt := by
  have first := start_le_terminateAt escalation
  have second := Nat.le_of_lt (terminateAt_lt_killAt lasts)
  cases stage with
  | spared => exact Nat.le_trans first second
  | askedReturned early _ => exact Nat.le_trans early second
  | terminatedReturned _ early _ => exact early
  | killedReturned => exact Nat.le_refl _

theorem Stage.ne_waits
    (stage : Stage escalation now condition hooks ended standing)
    (wait : WaitCall) : standing ≠ .waits wait := by
  cases stage <;> exact CallStanding.noConfusion

theorem Stage.hooks_ne_nil
    (stage : Stage escalation now condition hooks ended (.stops stop)) :
    hooks ≠ [] := by
  cases stage <;> exact List.cons_ne_nil _ _

/-! ## What happens to the body -/

omit [Timers] in
theorem Condition.Of.mark (of : condition.Of job) :
    condition.Of job.markForRestart := by
  cases condition with
  | running phase => exact ⟨of.body, of.phase, of.exitFlag, of.aborted⟩
  | aborted => exact ⟨of.body, of.phase, of.exitFlag, of.aborted⟩
  | ended phase => exact ⟨of.body, of.phase, of.exitFlag, of.stopFlag⟩

omit [Timers] in
theorem Condition.Of.enter (of : condition.Of job)
    (scheduled : job.body = .scheduled) : condition.Of job.enter := by
  cases condition with
  | running phase => exact Job.Runs.enter of
  | aborted =>
      have body := of.body
      rw [scheduled] at body
      cases body
  | ended phase =>
      have body := of.body
      rw [scheduled] at body
      cases body

theorem Stage.finishes (stage : Stage escalation now condition hooks ended standing)
    (of : condition.Of job) (underway : job.body = .underway) :
    ∃ next : Condition, next.Of job.finish ∧
      Stage escalation now next hooks (some now) standing := by
  have absent {phase : Phase} (settled : (Condition.ended phase).Of job) :
      False := by
    have body := settled.body
    rw [underway] at body
    cases body
  cases stage with
  | asked early =>
      exact ⟨.ended .exited, of.finish Phase.noConfusion, .askedEnded early⟩
  | terminated late early =>
      exact ⟨.ended .exited, of.finish Phase.noConfusion,
        .terminatedEnded late early⟩
  | killed here ahead =>
      refine ⟨.ended .killed, of.finish, .killedEnded here ?_⟩
      intro time same
      rw [← Option.some.inj same]
      exact here
  | crashed beyond =>
      exact ⟨.ended .exited, of.finish Phase.noConfusion,
        .crashedEnded beyond (Nat.le_refl _)⟩
  | spared | askedEnded | askedReturned | terminatedEnded | terminatedReturned
  | killedEnded | killedReturned | crashedEnded => exact absurd of absent

theorem Stage.drops (stage : Stage escalation now condition hooks ended standing)
    (of : condition.Of job) (aborted : job.aborted = true)
    (hasTask : job.body.hasTask = true) :
    ∃ next : Condition, next.Of job.drop ∧
      Stage escalation now next hooks ended standing := by
  have present {phase : Phase} (settled : (Condition.ended phase).Of job) :
      False := by
    rw [settled.body] at hasTask
    cases hasTask
  have untold {phase : Phase} (runs : (Condition.running phase).Of job) :
      False := by
    rw [runs.aborted] at aborted
    cases aborted
  cases stage with
  | killed here ahead =>
      refine ⟨.ended .killed, of.drop, .killedEnded here ?_⟩
      intro time same
      cases same
  | asked | terminated | crashed => exact absurd of untold
  | spared | askedEnded | askedReturned | terminatedEnded
  | terminatedReturned | killedEnded | killedReturned | crashedEnded =>
      exact absurd of present

/-! ## The clock -/

/-- The clock moves only where the escalation has nothing to do. -/
theorem Stage.passes {now time : Instant}
    (stage : Stage escalation now condition hooks ended standing)
    (of : condition.Of job) (later : now ≤ time)
    (undisturbed : job.aborted = true → job.body.hasTask = false)
    (idle : standing.isReady now job = false)
    (reaches : ∀ deadline, standing.deadline = some deadline →
      time ≤ deadline) :
    Stage escalation time condition hooks ended standing := by
  cases stage with
  | spared settled earlier => exact .spared settled earlier
  | asked _ => exact .asked (reaches _ rfl)
  | askedEnded _ | terminatedEnded _ _ | killedEnded _ _ =>
      -- A call whose body has ended is ready.
      simp [CallStanding.isReady, StopCall.isReady, WaitCall.isReady, wait,
        of.exitFlag] at idle
  | askedReturned early past =>
      exact .askedReturned early (Nat.le_trans past later)
  | terminated late _ =>
      exact .terminated (Nat.le_trans late later) (reaches _ rfl)
  | terminatedReturned late early past =>
      exact .terminatedReturned late early (Nat.le_trans past later)
  | killed here ahead =>
      have gone := undisturbed of.aborted
      rw [of.body] at gone
      cases gone
  | killedReturned past only => exact .killedReturned (Nat.le_trans past later) only
  | crashed beyond => exact .crashed beyond
  | crashedEnded beyond past => exact .crashedEnded beyond (Nat.le_trans past later)

/-! ## The steps of the call -/

/-- A step of the call, after some hooks, brings the escalation to a stage. -/
def Reaches (escalation : Escalation) (now : Instant)
    (hooks : List (Instant × Hook)) (ended : Option Instant)
    (step : StopCall.Step) : Prop :=
  ∃ condition : Condition, condition.Of step.job ∧
    Stage escalation now condition
      (hooks ++ (Life.hooksOf step.effects).map (now, ·)) ended
      (Life.standingOf now step.standing)

theorem reaches_awaitStop (runs : job.Runs .stopRequested)
    (lasts : escalation.grace.Lasts)
    (grace : job.killGrace = escalation.grace) {wait : WaitCall}
    (looks : wait.look job = escalation.wait)
    (early : now ≤ escalation.terminateAt) {effects : List StopEffect}
    (asked : hooks ++ (Life.hooksOf effects).map (now, ·) = escalation.asked) :
    Reaches escalation now hooks none
      (StopCall.awaitStop now wait job effects) := by
  have deadline : wait.deadline = escalation.terminateAt :=
    congrArg WaitCall.deadline looks
  have outside : wait.inside = false := congrArg WaitCall.inside looks
  rcases Nat.lt_or_ge now escalation.terminateAt with before | late
  · rw [← deadline] at before
    rw [StopCall.awaitStop_of_early runs.exitFlag outside before, looks]
    refine ⟨.running .stopRequested, runs, ?_⟩
    rw [asked]
    exact .asked early
  · have patient : job.killGrace.Lasts := by
      rw [grace]
      exact lasts
    rw [← deadline] at late
    rw [StopCall.awaitStop_of_late runs.exitFlag outside late patient, grace]
    refine ⟨.running .terminating, runs.terminate, ?_⟩
    rw [deadline] at late
    obtain rfl : now = escalation.terminateAt := Nat.le_antisymm early late
    unfold Life.hooksOf at asked ⊢
    rw [List.filterMap_append, List.map_append, ← List.append_assoc, asked]
    exact .terminated late (Nat.le_of_lt (terminateAt_lt_killAt lasts))

/-- The second deadline is met or the kill hook runs. -/
theorem reaches_awaitTermination (runs : job.Runs .terminating)
    (lasts : escalation.grace.Lasts)
    (grace : job.killGrace = escalation.grace)
    (entered : job.body = .scheduled → now = escalation.start)
    (late : escalation.terminateAt ≤ now) (early : now ≤ escalation.killAt) :
    Reaches escalation now escalation.terminated none
      (StopCall.awaitTermination now escalation.killAt job []) := by
  rcases Nat.lt_or_ge now escalation.killAt with before | reached
  · rw [StopCall.awaitTermination_of_early runs.exitFlag before]
    exact ⟨.running .terminating, runs, .terminated late early⟩
  · have patient : job.killGrace.Lasts := by
      rw [grace]
      exact lasts
    -- The clock has moved since the stop, so the body was entered.
    have underway : job.body = .underway := by
      rcases runs.body with scheduled | underway
      · have begun := entered scheduled
        have first := start_le_terminateAt escalation
        have second := terminateAt_lt_killAt lasts
        unfold Instant at *
        omega
      · exact underway
    rw [StopCall.awaitTermination_of_late runs.exitFlag reached patient]
    refine ⟨.aborted, runs.abort underway, ?_⟩
    obtain rfl : now = escalation.killAt := Nat.le_antisymm early reached
    exact .killed rfl (patient _)

theorem reaches_begin (runs : job.Runs .running)
    (unclaimed : job.stopClaimed = false) (lasts : escalation.grace.Lasts)
    (grace : job.killGrace = escalation.grace) :
    Reaches escalation escalation.start [] none
      (StopCall.begin escalation.start job escalation.timeout false) := by
  have requested := runs.claim.requestStop
  rcases Nat.lt_or_ge escalation.terminateAt Instant.limit with held | beyond
  · rw [StopCall.begin_of_held unclaimed runs held]
    refine reaches_awaitStop requested lasts ?_ rfl
      (start_le_terminateAt escalation) rfl
    obtain ⟨_, moved⟩ :=
      ({ job with stopClaimed := true }).moveTo_frame .stopRequested
    unfold Job.requestStop
    rw [moved]
    exact grace
  · rw [StopCall.begin_of_beyond unclaimed runs beyond]
    exact ⟨.running .stopRequested, requested, .crashed beyond⟩

/-- What the first call does when it runs again. -/
theorem Stage.resumes
    (stage : Stage escalation now condition hooks ended (.stops stop))
    (of : condition.Of job) (lasts : escalation.grace.Lasts)
    (grace : job.killGrace = escalation.grace)
    (entered : job.body = .scheduled → now = escalation.start) :
    Reaches escalation now hooks ended (stop.resume now job) := by
  cases stage with
  | asked early =>
      exact reaches_awaitStop of lasts grace rfl early (List.append_nil _)
  | askedEnded early =>
      unfold StopCall.resume
      dsimp only
      rw [StopCall.awaitStop_of_ended of]
      exact ⟨.ended .exited, of, .askedReturned early (Nat.le_refl now)⟩
  | terminated late early =>
      exact reaches_awaitTermination of lasts grace entered late early
  | terminatedEnded late early =>
      unfold StopCall.resume
      dsimp only
      rw [StopCall.awaitTermination_of_ended of.exitFlag]
      exact ⟨.ended .exited, of, .terminatedReturned late early (Nat.le_refl now)⟩
  | @killed deadline here ahead =>
      have before : now < deadline := by
        rw [here]
        exact ahead
      unfold StopCall.resume
      dsimp only
      rw [StopCall.awaitExit_of_early of.exitFlag before]
      exact ⟨.aborted, of, .killed here ahead⟩
  | killedEnded here only =>
      unfold StopCall.resume
      dsimp only
      rw [StopCall.awaitExit_of_ended of.exitFlag]
      obtain rfl : now = escalation.killAt := here
      exact ⟨.ended .killed, of, .killedReturned (Nat.le_refl _) only⟩

end Escalation

end Overseer
