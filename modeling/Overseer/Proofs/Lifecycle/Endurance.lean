import Overseer.Proofs.Lifecycle.Soundness

/-!
# What a job keeps while it is stopped

A stop that meets a launched body leaves the body and the exit flag to the body's own
task; one that meets a body that was never launched may withdraw it.  Either way the
grace of the job stays what it is, and a job that is past its creation stays so.
-/

namespace Overseer

namespace Job

/-- Whoever has exited is told to stop as well. -/
def IsTold (job : Job) : Prop :=
  job.exitFlag = true → job.stopFlag = true

/-- What a job keeps through the steps of a stop. -/
structure Endures (before after : Job) : Prop where
  killGrace : after.killGrace = before.killGrace
  launched : before.body ≠ .unlaunched →
    after.body = before.body ∧ after.exitFlag = before.exitFlag
  unlaunched : before.body = .unlaunched →
    after.body = .unlaunched ∨ after.body = .withdrawn
  exited : before.exitFlag = true → after.exitFlag = true
  started : before.phase ≠ .created → after.phase ≠ .created
  told : before.IsTold → after.IsTold

variable {job first second third : Job}

theorem Endures.refl (job : Job) : Endures job job :=
  ⟨rfl, fun _ => ⟨rfl, rfl⟩, .inl, id, id, id⟩

theorem Endures.trans (earlier : Endures first second)
    (later : Endures second third) : Endures first third := by
  constructor
  · rw [later.killGrace, earlier.killGrace]
  · intro launched
    obtain ⟨body, exitFlag⟩ := earlier.launched launched
    obtain ⟨still, lasts⟩ := later.launched (by rw [body]; exact launched)
    exact ⟨still.trans body, lasts.trans exitFlag⟩
  · intro unlaunched
    rcases earlier.unlaunched unlaunched with same | withdrawn
    · exact later.unlaunched same
    · obtain ⟨body, _⟩ := later.launched (by rw [withdrawn]; exact Body.noConfusion)
      exact .inr (body.trans withdrawn)
  · exact fun exited => later.exited (earlier.exited exited)
  · exact fun started => later.started (earlier.started started)
  · exact fun told => later.told (earlier.told told)

/-- A job in another phase, and told to end or not. -/
theorem endures_of_phase (job : Job) {phase : Phase} (aborted : Bool)
    (started : job.phase ≠ .created → phase ≠ .created) :
    Endures job { job with phase := phase, aborted := aborted } :=
  ⟨rfl, fun _ => ⟨rfl, rfl⟩, .inl, id, started, id⟩

theorem phase_moveTo_ne_created (job : Job) (phase : Phase)
    (target : phase ≠ .created) :
    job.phase ≠ .created → (job.moveTo phase).phase ≠ .created := by
  intro started
  unfold moveTo
  split
  · exact started
  · exact target

theorem endures_moveTo (job : Job) (phase : Phase) (target : phase ≠ .created) :
    Endures job (job.moveTo phase) := by
  have started := job.phase_moveTo_ne_created phase target
  obtain ⟨reached, moved⟩ := job.moveTo_frame phase
  rw [moved] at started ⊢
  exact endures_of_phase job job.aborted started

theorem endures_abort (job : Job) : Endures job job.abort := by
  have started := job.phase_moveTo_ne_created .killed Phase.noConfusion
  unfold abort
  obtain ⟨reached, moved⟩ := job.moveTo_frame .killed
  rw [moved] at started ⊢
  exact endures_of_phase job _ started

theorem endures_markForRestart (job : Job) : Endures job job.markForRestart :=
  ⟨rfl, fun _ => ⟨rfl, rfl⟩, .inl, id, id, id⟩

theorem endures_claim (job : Job) : Endures job { job with stopClaimed := true } :=
  ⟨rfl, fun _ => ⟨rfl, rfl⟩, .inl, id, id, id⟩

theorem endures_requestStop (job : Job) : Endures job job.requestStop := by
  obtain ⟨killGrace, launched, unlaunched, exited, started, _⟩ :=
    job.endures_moveTo .stopRequested Phase.noConfusion
  exact ⟨killGrace, launched, unlaunched, exited, started, fun _ _ => rfl⟩

theorem endures_withdraw (unlaunched : job.body = .unlaunched) :
    Endures job job.withdraw := by
  refine ⟨rfl, fun launched => absurd unlaunched launched, fun _ => .inr rfl,
    fun _ => rfl, ?_, fun _ _ => rfl⟩
  intro _
  simp only [withdraw, markExited]
  split
  · exact Phase.noConfusion
  · exact Phase.noConfusion

end Job

namespace StopCall

variable [Timers] {job : Job}

theorem endures_kill (now : Instant) (job : Job) (effects : List StopEffect) :
    job.Endures (kill now job effects).job := by
  unfold kill
  rw [awaitExit_job]
  exact job.endures_abort

theorem endures_awaitTermination (now deadline : Instant) (job : Job)
    (effects : List StopEffect) :
    job.Endures (awaitTermination now deadline job effects).job := by
  unfold awaitTermination
  split
  · exact .refl job
  · split
    · exact endures_kill now job effects
    · exact .refl job

theorem endures_awaitStop (now : Instant) (wait : WaitCall) (job : Job)
    (effects : List StopEffect) :
    job.Endures (awaitStop now wait job effects).job := by
  unfold awaitStop
  split
  · exact .refl job
  · exact .refl job
  · exact (job.endures_moveTo .terminating Phase.noConfusion).trans
      (endures_awaitTermination now _ (job.moveTo .terminating) _)

theorem endures_resume (now : Instant) (job : Job) (call : StopCall) :
    job.Endures (call.resume now job).job := by
  cases call with
  | following deadline | killing deadline =>
      unfold resume
      rw [awaitExit_job]
      exact .refl job
  | graceful wait => exact endures_awaitStop now wait job []
  | terminating deadline => exact endures_awaitTermination now deadline job []

theorem endures_begin (now : Instant) (job : Job) (timeout : Duration)
    (inside : Bool) : job.Endures (begin now job timeout inside).job := by
  unfold begin
  split
  · unfold follow
    split
    · exact .refl job
    · split
      · exact .refl job
      · rw [awaitExit_job]
        exact .refl job
  · have claimed := job.endures_claim
    dsimp only
    split
    · exact claimed
    · unfold perform
      have requested := claimed.trans
        ({ job with stopClaimed := true } : Job).endures_requestStop
      dsimp only
      split
      · rename_i unlaunched
        apply requested.trans
        apply Job.endures_withdraw
        simpa [Job.requestStop] using unlaunched
      · split
        · exact requested
        · split
          · exact requested
          · exact requested.trans (endures_awaitStop now _ _ _)

theorem begin_of_exited (exited : job.exitFlag = true) (now : Instant)
    (timeout : Duration) (inside : Bool) :
    ∃ standing, begin now job timeout inside =
        ⟨{ job with stopClaimed := true }, [], standing⟩ ∧
      ∀ call, standing ≠ .waits call := by
  by_cases claimed : job.stopClaimed = true
  · have same : { job with stopClaimed := true } = job := by
      rw [← claimed]
    unfold begin
    rw [if_pos claimed, same]
    unfold follow
    split
    · exact ⟨.returned, rfl, fun call => Standing.noConfusion⟩
    · split
      · exact ⟨.crashed, rfl, fun call => Standing.noConfusion⟩
      · refine ⟨.returned, ?_, fun call => Standing.noConfusion⟩
        simp [awaitExit, exited]
  · refine ⟨.returned, ?_, fun call => Standing.noConfusion⟩
    simp [begin, claimed, exited]

theorem effects_begin_of_exited (exited : job.exitFlag = true) (now : Instant)
    (timeout : Duration) (inside : Bool) :
    (begin now job timeout inside).effects = [] := by
  obtain ⟨standing, begins, _⟩ := begin_of_exited exited now timeout inside
  rw [begins]

theorem effects_resume_of_exited (exited : job.exitFlag = true)
    (raised : job.stopFlag = true) (now : Instant) (call : StopCall) :
    (call.resume now job).effects = [] := by
  cases call with
  | following deadline => simp [resume, awaitExit, exited]
  | graceful wait =>
      simp [resume, awaitStop, WaitCall.result?, WaitCall.isMet, exited, raised]
  | terminating deadline => simp [resume, awaitTermination, exited]
  | killing deadline => simp [resume, awaitExit, exited]

/-- A stop of a job that was not started withdraws it; of the hooks only the stop
hook runs. -/
theorem begin_of_fresh (name : String) (killGrace : Duration) (now : Instant)
    (timeout : Duration) :
    begin now (Job.fresh name killGrace) timeout false =
      ⟨({ Job.fresh name killGrace with stopClaimed := true }).requestStop.withdraw,
        [.hook .stop], .returned⟩ := by
  simp [begin, perform, Job.fresh]

end StopCall

end Overseer
