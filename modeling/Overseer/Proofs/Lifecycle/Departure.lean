import Overseer.Proofs.Lifecycle.Life

/-!
# How bodies depart

A body that was entered raises both flags when it is gone, however it ends.  A body
that was aborted before it was entered raises none: the job counts as alive, and
whoever waits for its end waits for ever.
-/

namespace Overseer

namespace StopCall

variable {job : Job}

/-- A stop raises the exit flag of a job that was not started, and of no other. -/
theorem exitFlag_begin (sound : job.Sound) (now : Instant) (timeout : Duration)
    (inside : Bool) :
    (begin now job timeout inside).job.exitFlag =
      if job.body = .unlaunched then true else job.exitFlag := by
  have requested : ({ job with stopClaimed := true }).requestStop.exitFlag =
      job.exitFlag := by
    obtain ⟨phase, moved⟩ :=
      ({ job with stopClaimed := true }).moveTo_frame .stopRequested
    simp only [Job.requestStop, moved]
  unfold begin
  split
  · rename_i claimed
    have launched : job.body ≠ .unlaunched := by
      intro absent
      rw [(sound.unlaunched absent).1] at claimed
      cases claimed
    rw [if_neg launched]
    unfold follow
    split
    · rfl
    · split
      · rfl
      · rw [awaitExit_job]
  · dsimp only
    split
    · rename_i exited
      simp [exited]
    · unfold perform
      dsimp only
      split
      · rfl
      · split
        · exact requested
        · split
          · exact requested
          · rename_i wait _
            obtain ⟨_, _, frame⟩ := awaitStop_frame now wait
              ({ job with stopClaimed := true }).requestStop [.hook .stop]
            rw [frame]
            exact requested

end StopCall

namespace Life

/-- What became of a body, how often it was entered, and whether the exit flag is
raised. -/
inductive Departure : Body → Nat → Bool → Prop where
  | unlaunched : Departure .unlaunched 0 false
  | withdrawn : Departure .withdrawn 0 true
  | scheduled : Departure .scheduled 0 false
  | underway : Departure .underway 1 false
  | left : Departure .gone 1 true
  /-- The body was aborted before it was entered. -/
  | dropped : Departure .gone 0 false

namespace Departure

variable {entries : Nat} {exited : Bool}

theorem of_unlaunched (departure : Departure .unlaunched entries exited) :
    entries = 0 ∧ exited = false := by
  cases departure
  exact ⟨rfl, rfl⟩

theorem of_withdrawn (departure : Departure .withdrawn entries exited) : exited = true := by
  cases departure
  rfl

theorem of_scheduled (departure : Departure .scheduled entries exited) :
    entries = 0 ∧ exited = false := by
  cases departure
  exact ⟨rfl, rfl⟩

theorem of_underway (departure : Departure .underway entries exited) :
    entries = 1 ∧ exited = false := by
  cases departure
  exact ⟨rfl, rfl⟩

theorem of_gone (departure : Departure .gone entries exited) :
    entries = 1 ∧ exited = true ∨ entries = 0 ∧ exited = false := by
  cases departure with
  | left => exact .inl ⟨rfl, rfl⟩
  | dropped => exact .inr ⟨rfl, rfl⟩

end Departure

def Departs (life : Life) : Prop :=
  Departure life.job.body life.entries life.job.exitFlag

variable {life next : Life} {occurrence : Occurrence}

theorem departs_fresh (name : String) (killGrace : Duration) :
    (fresh name killGrace).Departs :=
  .unlaunched

theorem Departs.congr (departs : life.Departs)
    (body : next.job.body = life.job.body) (entries : next.entries = life.entries)
    (exitFlag : next.job.exitFlag = life.job.exitFlag) : next.Departs := by
  unfold Departs at departs ⊢
  rw [body, entries, exitFlag]
  exact departs

theorem Departs.starts (departs : life.Departs)
    (steps : life.step? .starts = some next) : next.Departs := by
  rcases of_starts steps with ⟨unlaunched, rfl⟩ | ⟨_, rfl⟩
  · unfold Departs at departs ⊢
    rw [unlaunched] at departs
    obtain ⟨none, lowered⟩ := departs.of_unlaunched
    obtain ⟨_, moved⟩ := life.job.moveTo_frame .running
    simp only [moved, none, lowered]
    exact .scheduled
  · exact departs

theorem Departs.enters (departs : life.Departs)
    (steps : life.step? .enters = some next) : next.Departs := by
  obtain ⟨scheduled, rfl⟩ := of_enters steps
  unfold Departs at departs ⊢
  rw [scheduled] at departs
  obtain ⟨none, lowered⟩ := departs.of_scheduled
  simp only [Job.enter, none, lowered]
  exact .underway

theorem Departs.finishes (departs : life.Departs)
    (steps : life.step? .finishes = some next) : next.Departs := by
  obtain ⟨underway, rfl⟩ := of_finishes steps
  unfold Departs at departs ⊢
  rw [underway] at departs
  obtain ⟨once, _⟩ := departs.of_underway
  simp only [once]
  exact .left

theorem Departs.drops (departs : life.Departs)
    (steps : life.step? .drops = some next) : next.Departs := by
  obtain ⟨_, hasTask, rfl⟩ := of_drops steps
  unfold Departs at departs ⊢
  cases body : life.job.body with
  | unlaunched | withdrawn | gone =>
      rw [body] at hasTask
      cases hasTask
  | scheduled =>
      rw [body] at departs
      obtain ⟨none, lowered⟩ := departs.of_scheduled
      simp only [Job.drop, body, reduceCtorEq, if_false, none, lowered]
      exact .dropped
  | underway =>
      rw [body] at departs
      obtain ⟨once, _⟩ := departs.of_underway
      simp only [Job.drop, body, if_true, once]
      exact .left

theorem Departs.stops (departs : life.Departs) (sound : life.Sound)
    (timeout : Duration) (inside : Bool) :
    (life.stop timeout inside).Departs := by
  have body := StopCall.body_begin sound.job life.now timeout inside
  have exitFlag := StopCall.exitFlag_begin sound.job life.now timeout inside
  unfold Departs at departs ⊢
  change Departure (StopCall.begin life.now life.job timeout inside).job.body
    life.entries (StopCall.begin life.now life.job timeout inside).job.exitFlag
  rw [body, exitFlag]
  split
  · rename_i unlaunched
    rw [unlaunched] at departs
    rw [departs.of_unlaunched.1]
    exact .withdrawn
  · exact departs

theorem Departs.resumes (departs : life.Departs) {position : Nat}
    (steps : life.step? (.resumes position) = some next) : next.Departs := by
  unfold step? resume? at steps
  dsimp only at steps
  split at steps
  · rename_i stop _
    obtain ⟨_, _, frame⟩ := StopCall.resume_frame life.now life.job stop
    cases steps
    apply departs.congr
    · simp [setStanding, commit, frame]
    · rfl
    · simp [setStanding, commit, frame]
  · cases steps
    exact departs
  · cases steps

theorem Departs.step (departs : life.Departs) (sound : life.Sound)
    (steps : life.step? occurrence = some next) : next.Departs := by
  cases occurrence with
  | starts => exact departs.starts steps
  | enters => exact departs.enters steps
  | finishes => exact departs.finishes steps
  | drops => exact departs.drops steps
  | aborts =>
      cases steps
      obtain ⟨_, moved⟩ := life.job.moveTo_frame .killed
      apply departs.congr
      · exact life.job.body_abort
      · rfl
      · simp [Job.abort, moved]
  | stops timeout inside =>
      cases steps
      exact departs.stops sound timeout inside
  | resumes position => exact departs.resumes steps
  | abandons position =>
      rw [of_abandons steps]
      exact departs
  | marks | waits timeout inside | passes time =>
      cases steps
      exact departs

theorem Departs.run {occurrences : List Occurrence} {final : Life}
    (departs : life.Departs) (sound : life.Sound)
    (runs : life.run? occurrences = some final) : final.Departs := by
  induction occurrences generalizing life with
  | nil =>
      cases runs
      exact departs
  | cons occurrence rest induction =>
      obtain ⟨next, steps, continues⟩ := run?_cons runs
      exact induction (departs.step sound steps) (sound.step steps).sound continues

/-! ## A body that is gone -/

theorem entries_of_step (steps : life.step? occurrence = some next)
    (other : occurrence ≠ .enters) : next.entries = life.entries := by
  cases occurrence with
  | starts =>
      rcases of_starts steps with ⟨_, rfl⟩ | ⟨_, rfl⟩
      · rfl
      · rfl
  | enters => exact absurd rfl other
  | finishes =>
      obtain ⟨_, rfl⟩ := of_finishes steps
      rfl
  | drops =>
      obtain ⟨_, _, rfl⟩ := of_drops steps
      rfl
  | resumes position =>
      unfold step? resume? at steps
      dsimp only at steps
      split at steps <;> cases steps <;> rfl
  | abandons position =>
      rw [of_abandons steps]
      rfl
  | marks | aborts | stops timeout inside | waits timeout inside | passes time =>
      cases steps
      rfl

theorem Sound.gone_of_run {occurrences : List Occurrence} {final : Life}
    (sound : life.Sound) (runs : life.run? occurrences = some final)
    (gone : life.job.body = .gone) :
    final.job.body = .gone ∧ final.entries = life.entries := by
  induction occurrences generalizing life with
  | nil =>
      cases runs
      exact ⟨gone, rfl⟩
  | cons occurrence rest induction =>
      obtain ⟨next, steps, continues⟩ := run?_cons runs
      have goesOn := sound.step steps
      have still : next.job.body = .gone := by
        have body := goesOn.body
        rw [gone] at body
        generalize next.job.body = after at body
        cases body with
        | stays => rfl
        | dropped hasTask => cases hasTask
      have entries : next.entries = life.entries := by
        apply entries_of_step steps
        rintro rfl
        rw [(of_enters steps).1] at gone
        cases gone
      rw [← entries]
      exact induction goesOn.sound continues still

/-- When the task of a body is gone, both flags are raised if it was ever entered:
whoever waits for the end is answered, and the job is not alive.  If it was not, the
exit flag stays lowered and the job alive whatever happens later, and no wait from
outside is met. -/
theorem done_iff_entered {name : String} {killGrace : Duration}
    {before after : List Occurrence} {life final : Life}
    (lives : (fresh name killGrace).run? before = some life)
    (gone : life.job.body = .gone) (goes : life.run? after = some final) :
    (life.entries = 1 → final.job.stopFlag = true ∧ final.job.exitFlag = true ∧
      final.job.isAlive = false ∧
      ∀ wait : WaitCall, wait.result? final.now final.job = some (.ok ())) ∧
    (life.entries ≠ 1 → final.job.exitFlag = false ∧ final.job.isAlive = true ∧
      ∀ wait : WaitCall, wait.inside = false →
        wait.result? final.now final.job ≠ some (.ok ())) := by
  obtain ⟨sound, _⟩ := (sound_fresh name killGrace).run lives
  obtain ⟨later, _⟩ := sound.run goes
  obtain ⟨still, entries⟩ := sound.gone_of_run goes gone
  have departs := ((departs_fresh name killGrace).run
    (sound_fresh name killGrace) lives).run sound goes
  unfold Departs at departs
  rw [still, entries] at departs
  rcases departs.of_gone with ⟨once, exited⟩ | ⟨never, alive⟩
  · have raised := (later.job.exited exited).1
    constructor
    · intro _
      refine ⟨raised, exited, ?_, ?_⟩
      · simp [Job.isAlive, exited]
      · intro wait
        simp [WaitCall.result?, WaitCall.isMet, raised, exited]
    · exact fun apart => absurd once apart
  · have started : final.job.phase ≠ .created := by
      intro created
      rw [later.job.created created] at still
      cases still
    constructor
    · intro once
      rw [never] at once
      cases once
    · intro _
      refine ⟨alive, ?_, ?_⟩
      · simp [Job.isAlive, alive, started]
      · intro wait outside met
        simp only [WaitCall.result?, WaitCall.isMet, alive, outside, Bool.or_self,
          Bool.and_false, Bool.false_eq_true, if_false] at met
        split at met
        · cases met
        · cases met

/-- A body that runs is aborted, and whoever asks is told that it is gone. -/
theorem done_iff_entered_of_aborted_body :
    ∃ life,
      (fresh "unit" { nanos := 1000 }).run? [.starts, .enters, .aborts, .drops] =
          some life ∧
        life.job.body = .gone ∧ life.entries = 1 ∧ life.job.stopFlag = true ∧
          life.job.exitFlag = true ∧ life.job.isAlive = false := by
  let before : List Occurrence := [.starts, .enters, .aborts, .drops]
  have settled : ((fresh "unit" { nanos := 1000 }).run? before).map
      (fun life => (life.job.body, life.entries)) = some (.gone, 1) := by
    decide +kernel
  obtain ⟨life, lives, ends⟩ := Option.map_eq_some_iff.mp settled
  obtain ⟨gone, once⟩ : life.job.body = .gone ∧ life.entries = 1 := by
    simpa using ends
  have same : life.run? [] = some life := rfl
  obtain ⟨entered, _⟩ := done_iff_entered lives gone same
  obtain ⟨raised, exited, lifeless, _⟩ := entered once
  exact ⟨life, lives, gone, once, raised, exited, lifeless⟩

/-- A body that is aborted right after its start is gone, and nobody is told. -/
theorem gone_without_a_trace :
    ((fresh "unit" { nanos := 1000 }).run? [.starts, .aborts, .drops]).map
        (fun life => (life.job.body, life.job.stopFlag, life.job.exitFlag,
          life.job.isAlive)) =
      some (.gone, false, false, true) := by
  decide +kernel

end Life

end Overseer
