import Overseer.Lifecycle.StopCall

/-!
# Sound jobs

The phase, the two flags, the body and the claim of a job are written by
different operations.  `Job.Sound` is what they have in common at any time, and
`Job.Grows` says that the life of a job goes forward only.  Every operation on a
job keeps the one and brings the other.

A stop that waits runs the terminate hook later; it relies on what its first step
did to the job, which is `Job.Stopping`.
-/

namespace Overseer

/-- How far a phase is; the two ends of a life are equally far. -/
def Phase.rank : Phase → Nat
  | .created => 0
  | .running => 1
  | .stopRequested => 2
  | .terminating => 3
  | .killed | .exited => 4

theorem Phase.rank_le (phase : Phase) : phase.rank ≤ 4 := by
  cases phase <;> decide

namespace Job

/-- What holds of the parts of a job at any time. -/
structure Sound (job : Job) : Prop where
  /-- A job that was not launched was neither stopped nor has it exited. -/
  unlaunched : job.body = .unlaunched →
    job.stopClaimed = false ∧ job.stopFlag = false ∧ job.exitFlag = false ∧
      (job.phase = .created ∨ job.phase = .killed)
  created : job.phase = .created → job.body = .unlaunched
  exited : job.exitFlag = true →
    job.stopFlag = true ∧ (job.phase = .exited ∨ job.phase = .killed)
  /-- Whoever is on the way to its end has its stop flag raised. -/
  raised : job.phase = .stopRequested ∨ job.phase = .terminating ∨
    job.phase = .exited → job.stopFlag = true
  lowered : job.stopFlag = true → job.phase ≠ .created ∧ job.phase ≠ .running
  claimed : job.phase = .stopRequested ∨ job.phase = .terminating →
    job.stopClaimed = true

/-- Nothing that a life has passed comes back. -/
structure Grows (before after : Job) : Prop where
  rank : before.phase.rank ≤ after.phase.rank
  final : before.phase.isFinal = true → after.phase = before.phase
  stopFlag : before.stopFlag = true → after.stopFlag = true
  exitFlag : before.exitFlag = true → after.exitFlag = true
  stopClaimed : before.stopClaimed = true → after.stopClaimed = true

/-- A stop of the job has begun. -/
structure Stopping (job : Job) : Prop where
  stopClaimed : job.stopClaimed = true
  stopFlag : job.stopFlag = true

theorem Grows.refl (job : Job) : Grows job job :=
  ⟨Nat.le_refl _, fun _ => rfl, id, id, id⟩

theorem Grows.trans {first second third : Job} (earlier : Grows first second)
    (later : Grows second third) : Grows first third := by
  refine ⟨Nat.le_trans earlier.rank later.rank, ?_, ?_, ?_, ?_⟩
  · intro final
    have same := earlier.final final
    rw [later.final (by rw [same]; exact final), same]
  · exact fun raised => later.stopFlag (earlier.stopFlag raised)
  · exact fun raised => later.exitFlag (earlier.exitFlag raised)
  · exact fun claimed => later.stopClaimed (earlier.stopClaimed claimed)

theorem Stopping.grows {before after : Job} (stopping : Stopping before)
    (grows : Grows before after) : Stopping after :=
  ⟨grows.stopClaimed stopping.stopClaimed, grows.stopFlag stopping.stopFlag⟩

theorem sound_fresh (name : String) (killGrace : Duration) :
    Sound (fresh name killGrace) := by
  constructor <;> simp [fresh]

/-! ## What is done to a job -/

variable {job : Job}

theorem Sound.start {started : Job} (sound : Sound job)
    (starts : job.start = .ok started) : Sound started ∧ Grows job started := by
  unfold Job.start at starts
  split at starts
  · rename_i unlaunched
    obtain ⟨unclaimed, unstopped, alive, phase⟩ := sound.unlaunched unlaunched
    cases starts
    rcases phase with created | killed
    · constructor
      · constructor <;> simp_all [moveTo, Phase.isFinal]
      · constructor <;> simp_all [moveTo, Phase.isFinal, Phase.rank]
    · constructor
      · constructor <;> simp_all [moveTo, Phase.isFinal]
      · constructor <;> simp_all [moveTo, Phase.isFinal]
  · cases starts

theorem Sound.markForRestart (sound : Sound job) :
    Sound job.markForRestart ∧ Grows job job.markForRestart :=
  ⟨⟨sound.unlaunched, sound.created, sound.exited, sound.raised, sound.lowered,
    sound.claimed⟩, ⟨Nat.le_refl _, fun _ => rfl, id, id, id⟩⟩

theorem Sound.abort (sound : Sound job) :
    Sound job.abort ∧ Grows job job.abort := by
  obtain ⟨unlaunched, created, exited, raised, lowered, claimed⟩ := sound
  cases phase : job.phase with
  | created | running | stopRequested | terminating | killed | exited =>
      constructor
      · constructor <;> simp_all [Job.abort, moveTo, Phase.isFinal]
      · constructor <;> simp_all [Job.abort, moveTo, Phase.isFinal, Phase.rank]

theorem Sound.enter (sound : Sound job) (scheduled : job.body = .scheduled) :
    Sound job.enter ∧ Grows job job.enter := by
  obtain ⟨unlaunched, created, exited, raised, lowered, claimed⟩ := sound
  refine ⟨⟨?_, ?_, exited, raised, lowered, claimed⟩,
    ⟨Nat.le_refl _, fun _ => rfl, id, id, id⟩⟩
  · intro absent
    cases absent
  · intro phase
    rw [created phase] at scheduled
    cases scheduled

/-- Both flags are raised when a body is gone, or will never be. -/
theorem Sound.markExited (sound : Sound job) {body : Body}
    (launched : body ≠ .unlaunched) :
    Sound { job.markExited with body := body } ∧
      Grows job { job.markExited with body := body } := by
  obtain ⟨unlaunched, created, exited, raised, lowered, claimed⟩ := sound
  by_cases killed : job.phase = .killed
  · constructor
    · constructor <;> simp_all [Job.markExited]
    · constructor <;> simp_all [Job.markExited]
  · constructor
    · constructor <;> simp_all [Job.markExited]
    · constructor
      · simp only [Job.markExited, killed, if_false]
        exact Phase.rank_le job.phase
      · intro final
        cases phase : job.phase <;>
          simp_all [Job.markExited, Phase.isFinal]
      · intro _
        rfl
      · intro _
        rfl
      · exact id

theorem Sound.finish (sound : Sound job) :
    Sound job.finish ∧ Grows job job.finish :=
  sound.markExited Body.noConfusion

theorem Sound.drop (sound : Sound job) (hasTask : job.body.hasTask = true) :
    Sound job.drop ∧ Grows job job.drop := by
  unfold Job.drop
  split
  · exact sound.finish
  · refine ⟨⟨?_, ?_, sound.exited, sound.raised, sound.lowered, sound.claimed⟩,
      ⟨Nat.le_refl _, fun _ => rfl, id, id, id⟩⟩
    · intro absent
      cases absent
    · intro phase
      rw [sound.created phase] at hasTask
      cases hasTask

theorem Sound.requestStop (sound : Sound job) (launched : job.body ≠ .unlaunched)
    (unclaimed : job.stopClaimed = false) :
    Sound ({ job with stopClaimed := true }).requestStop ∧
      Grows job ({ job with stopClaimed := true }).requestStop := by
  obtain ⟨unlaunched, created, exited, raised, lowered, claimed⟩ := sound
  cases phase : job.phase with
  | created | running | stopRequested | terminating | killed | exited =>
      constructor
      · constructor <;> simp_all [Job.requestStop, moveTo, Phase.isFinal]
      · constructor <;>
          simp_all [Job.requestStop, moveTo, Phase.isFinal, Phase.rank]

theorem stopping_requestStop (job : Job) :
    Stopping ({ job with stopClaimed := true }).requestStop := by
  constructor
  · simp only [Job.requestStop, moveTo]
    split <;> rfl
  · rfl

theorem Sound.claim (sound : Sound job) (exited : job.exitFlag = true) :
    Sound { job with stopClaimed := true } ∧
      Grows job { job with stopClaimed := true } := by
  refine ⟨⟨?_, sound.created, sound.exited, sound.raised, sound.lowered,
    fun _ => rfl⟩, ⟨Nat.le_refl _, fun _ => rfl, id, id, fun _ => rfl⟩⟩
  intro absent
  rw [(sound.unlaunched absent).2.2.1] at exited
  cases exited

/-- A stop of a job that was not launched leaves nothing to start. -/
theorem Sound.withdraw_requestStop (sound : Sound job) :
    Sound ({ job with stopClaimed := true }).requestStop.withdraw ∧
      Grows job ({ job with stopClaimed := true }).requestStop.withdraw := by
  obtain ⟨unlaunched, created, exited, raised, lowered, claimed⟩ := sound
  cases phase : job.phase with
  | created | running | stopRequested | terminating | killed | exited =>
      constructor
      · constructor <;>
          simp_all [Job.withdraw, Job.markExited, Job.requestStop, moveTo,
            Phase.isFinal]
      · constructor <;>
          simp_all [Job.withdraw, Job.markExited, Job.requestStop, moveTo,
            Phase.isFinal, Phase.rank]

theorem Sound.terminate (sound : Sound job) (stopping : Stopping job) :
    Sound (job.moveTo .terminating) ∧ Grows job (job.moveTo .terminating) := by
  obtain ⟨unlaunched, created, exited, raised, lowered, claimed⟩ := sound
  obtain ⟨stopClaimed, stopFlag⟩ := stopping
  cases phase : job.phase with
  | created | running | stopRequested | terminating | killed | exited =>
      constructor
      · constructor <;> simp_all [moveTo, Phase.isFinal]
      · constructor <;> simp_all [moveTo, Phase.isFinal, Phase.rank]

end Job

/-! ## What a stop does to its job -/

namespace StopCall

variable {job : Job}

@[simp] theorem awaitExit_job (now deadline : Instant) (job : Job)
    (effects : List StopEffect) (call : StopCall) :
    (awaitExit now deadline job effects call).job = job := by
  unfold awaitExit
  split <;> rfl

variable [Timers]

theorem kill_sound (sound : job.Sound) (now : Instant)
    (effects : List StopEffect) :
    (kill now job effects).job.Sound ∧ job.Grows (kill now job effects).job := by
  unfold kill
  rw [awaitExit_job]
  exact sound.abort

theorem awaitTermination_sound (sound : job.Sound) (now deadline : Instant)
    (effects : List StopEffect) :
    (awaitTermination now deadline job effects).job.Sound ∧
      job.Grows (awaitTermination now deadline job effects).job := by
  unfold awaitTermination
  split
  · exact ⟨sound, .refl job⟩
  · split
    · exact kill_sound sound now effects
    · exact ⟨sound, .refl job⟩

theorem terminate_sound (sound : job.Sound) (stopping : job.Stopping)
    (now : Instant) (fault : Fault) (effects : List StopEffect) :
    (terminate now job fault effects).job.Sound ∧
      job.Grows (terminate now job fault effects).job := by
  obtain ⟨terminated, moved⟩ := sound.terminate stopping
  obtain ⟨awaited, went⟩ := awaitTermination_sound terminated now
    (now.deadline job.killGrace)
    (effects ++ [.report (.stopTimedOut fault), .hook .terminate])
  exact ⟨awaited, moved.trans went⟩

theorem awaitStop_sound (sound : job.Sound) (stopping : job.Stopping)
    (now : Instant) (wait : WaitCall) (effects : List StopEffect) :
    (awaitStop now wait job effects).job.Sound ∧
      job.Grows (awaitStop now wait job effects).job := by
  unfold awaitStop
  split
  · exact ⟨sound, .refl job⟩
  · exact ⟨sound, .refl job⟩
  · exact terminate_sound sound stopping now _ effects

/-- A stop that waits for the body to heed its flag has raised that flag. -/
def Relies (job : Job) : StopCall → Prop
  | .graceful _ => job.Stopping
  | .following _ | .terminating _ | .killing _ => True

omit [Timers] in
theorem Relies.grows {before after : Job} {call : StopCall}
    (relies : call.Relies before) (grows : before.Grows after) :
    call.Relies after := by
  cases call with
  | graceful wait => exact Job.Stopping.grows relies grows
  | following deadline => trivial
  | terminating deadline => trivial
  | killing deadline => trivial

theorem resume_sound (sound : job.Sound) {call : StopCall}
    (relies : call.Relies job) (now : Instant) :
    (call.resume now job).job.Sound ∧ job.Grows (call.resume now job).job := by
  cases call with
  | following deadline =>
      unfold resume
      rw [awaitExit_job]
      exact ⟨sound, .refl job⟩
  | graceful wait => exact awaitStop_sound sound relies now wait []
  | terminating deadline => exact awaitTermination_sound sound now deadline []
  | killing deadline =>
      unfold resume
      rw [awaitExit_job]
      exact ⟨sound, .refl job⟩

theorem begin_sound (sound : job.Sound) (now : Instant) (timeout : Duration)
    (inside : Bool) :
    (begin now job timeout inside).job.Sound ∧
      job.Grows (begin now job timeout inside).job := by
  unfold begin
  split
  · unfold follow
    split
    · exact ⟨sound, .refl job⟩
    · split
      · exact ⟨sound, .refl job⟩
      · rw [awaitExit_job]
        exact ⟨sound, .refl job⟩
  · rename_i unclaimed
    dsimp only
    split
    · rename_i exited
      exact sound.claim exited
    · unfold perform
      dsimp only
      split
      · exact sound.withdraw_requestStop
      · rename_i launched
        obtain ⟨requested, raised⟩ := sound.requestStop launched
          (by simpa using unclaimed)
        split
        · exact ⟨requested, raised⟩
        · split
          · exact ⟨requested, raised⟩
          · have stopping : ({ job with stopClaimed := true }).requestStop.Stopping :=
              job.stopping_requestStop
            obtain ⟨awaited, went⟩ := awaitStop_sound requested stopping now _ _
            exact ⟨awaited, raised.trans went⟩

/-! ## What a stop relies on when it waits -/

omit [Timers] in
theorem awaitExit_waits {now deadline : Instant} {effects : List StopEffect}
    {call next : StopCall}
    (waits : (awaitExit now deadline job effects call).standing = .waits next) :
    next = call := by
  unfold awaitExit at waits
  split at waits
  · cases waits
  · cases waits
    rfl

theorem awaitTermination_relies {now deadline : Instant}
    {effects : List StopEffect} {next : StopCall}
    (waits : (awaitTermination now deadline job effects).standing = .waits next)
    (other : Job) : next.Relies other := by
  unfold awaitTermination at waits
  split at waits
  · cases waits
  · split at waits
    · rw [awaitExit_waits waits]
      trivial
    · cases waits
      trivial

theorem awaitStop_relies (stopping : job.Stopping) {now : Instant}
    {wait : WaitCall} {effects : List StopEffect} {next : StopCall}
    (waits : (awaitStop now wait job effects).standing = .waits next) :
    next.Relies (awaitStop now wait job effects).job := by
  unfold awaitStop at waits ⊢
  split at waits
  · cases waits
    exact stopping
  · cases waits
  · exact awaitTermination_relies waits _

theorem resume_relies {call : StopCall} (relies : call.Relies job) {now : Instant}
    {next : StopCall} (waits : (call.resume now job).standing = .waits next) :
    next.Relies (call.resume now job).job := by
  cases call with
  | following deadline =>
      rw [awaitExit_waits waits]
      trivial
  | graceful wait => exact awaitStop_relies relies waits
  | terminating deadline => exact awaitTermination_relies waits _
  | killing deadline =>
      rw [awaitExit_waits waits]
      trivial

theorem begin_relies {now : Instant} {timeout : Duration} {inside : Bool}
    {next : StopCall}
    (waits : (begin now job timeout inside).standing = .waits next) :
    next.Relies (begin now job timeout inside).job := by
  unfold begin at waits ⊢
  split at waits
  · unfold follow at waits
    split at waits
    · cases waits
    · split at waits
      · cases waits
      · rw [awaitExit_waits waits]
        trivial
  · rename_i unclaimed
    rw [if_neg unclaimed]
    dsimp only at waits ⊢
    split at waits
    · cases waits
    · rename_i alive
      rw [if_neg alive]
      unfold perform at waits ⊢
      dsimp only at waits ⊢
      split at waits
      · cases waits
      · rename_i launched
        rw [if_neg launched]
        split at waits
        · cases waits
        · rename_i outside
          rw [if_neg outside]
          split at waits
          · cases waits
          · exact awaitStop_relies job.stopping_requestStop waits

/-! ## What a stop does to the body -/

end StopCall

theorem Job.moveTo_frame (job : Job) (phase : Phase) :
    ∃ reached, job.moveTo phase = { job with phase := reached } := by
  unfold Job.moveTo
  split
  · exact ⟨job.phase, rfl⟩
  · exact ⟨phase, rfl⟩

@[simp] theorem Job.body_moveTo (job : Job) (phase : Phase) :
    (job.moveTo phase).body = job.body := by
  obtain ⟨_, frame⟩ := job.moveTo_frame phase
  rw [frame]

@[simp] theorem Job.body_abort (job : Job) : job.abort.body = job.body :=
  job.body_moveTo .killed

namespace StopCall

variable [Timers] {job : Job}

theorem awaitTermination_frame (now deadline : Instant) (job : Job)
    (effects : List StopEffect) :
    ∃ phase aborted, (awaitTermination now deadline job effects).job =
      { job with phase := phase, aborted := aborted } := by
  unfold awaitTermination kill
  split
  · exact ⟨job.phase, job.aborted, rfl⟩
  · split
    · obtain ⟨phase, frame⟩ := job.moveTo_frame .killed
      rw [awaitExit_job]
      unfold Job.abort
      rw [frame]
      exact ⟨phase, _, rfl⟩
    · exact ⟨job.phase, job.aborted, rfl⟩

theorem awaitStop_frame (now : Instant) (wait : WaitCall) (job : Job)
    (effects : List StopEffect) :
    ∃ phase aborted, (awaitStop now wait job effects).job =
      { job with phase := phase, aborted := aborted } := by
  unfold awaitStop
  split
  · exact ⟨job.phase, job.aborted, rfl⟩
  · exact ⟨job.phase, job.aborted, rfl⟩
  · unfold terminate
    obtain ⟨reached, moved⟩ := job.moveTo_frame .terminating
    rw [moved]
    exact awaitTermination_frame _ _ _ _

/-- A stop that runs again changes the phase of its job and aborts the body, no
more. -/
theorem resume_frame (now : Instant) (job : Job) (call : StopCall) :
    ∃ phase aborted, (call.resume now job).job =
      { job with phase := phase, aborted := aborted } := by
  cases call with
  | following deadline | killing deadline =>
      unfold resume
      rw [awaitExit_job]
      exact ⟨job.phase, job.aborted, rfl⟩
  | graceful wait => exact awaitStop_frame now wait job []
  | terminating deadline => exact awaitTermination_frame now deadline job []

theorem body_awaitStop (now : Instant) (wait : WaitCall) (job : Job)
    (effects : List StopEffect) :
    (awaitStop now wait job effects).job.body = job.body := by
  obtain ⟨_, _, frame⟩ := awaitStop_frame now wait job effects
  rw [frame]

theorem body_resume (now : Instant) (job : Job) (call : StopCall) :
    (call.resume now job).job.body = job.body := by
  obtain ⟨_, _, frame⟩ := resume_frame now job call
  rw [frame]

/-- A stop withdraws a body that was not launched, and leaves any other to
itself. -/
theorem body_begin (sound : job.Sound) (now : Instant) (timeout : Duration)
    (inside : Bool) :
    (begin now job timeout inside).job.body =
      if job.body = .unlaunched then .withdrawn else job.body := by
  unfold begin
  split
  · rename_i claimed
    have launched : job.body ≠ .unlaunched := by
      intro absent
      rw [(sound.unlaunched absent).1] at claimed
      cases claimed
    rw [if_neg launched]
    unfold follow
    split
    · rfl
    · split
      · rfl
      · rw [awaitExit_job]
  · dsimp only
    split
    · rename_i exited
      have launched : job.body ≠ .unlaunched := by
        intro absent
        rw [(sound.unlaunched absent).2.2.1] at exited
        cases exited
      rw [if_neg launched]
    · unfold perform
      dsimp only
      split
      · rfl
      · split
        · simp [Job.requestStop]
        · split
          · simp [Job.requestStop]
          · rw [body_awaitStop]
            simp [Job.requestStop]

end StopCall

end Overseer
