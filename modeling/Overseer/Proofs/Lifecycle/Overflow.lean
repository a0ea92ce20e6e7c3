import Overseer.Proofs.Lifecycle.Abandonment
import Overseer.Proofs.Lifecycle.Vigil

/-!
# Deadlines that cannot be computed

A call adds its timeout to the clock, or to twice the kill grace, and crashes if the sum is
out of range.  It does so when it is made or never: what it waits for later is left to
timers.

A first stop that crashes has claimed the teardown and run the stop hook by then.  Nobody
carries out the rest, as if it had been given up.
-/

namespace Overseer

theorem Duration.ofNanos?_eq_none_iff {nanos : Nat} :
    ofNanos? nanos = none ↔ UInt64.size * nanosPerSecond ≤ nanos := by
  unfold ofNanos?
  split
  · rename_i held
    simp [Nat.not_le.mpr held]
  · rename_i beyond
    simp [Nat.not_lt.mp beyond]

theorem WaitCall.begin?_eq_none_iff {now : Instant} {timeout : Duration} (inside : Bool) :
    begin? now timeout inside = none ↔ Instant.limit ≤ now + timeout.nanos := by
  unfold begin? Instant.after?
  split
  · rename_i held
    simp [Nat.not_le.mpr held]
  · rename_i beyond
    simp [Nat.not_lt.mp beyond]

namespace StopCall

variable {now : Instant} {job : Job} {timeout killGrace : Duration} {inside : Bool}

/-- The bound of a later call is out of range if the sum is; the double alone is no more. -/
theorem bound?_eq_none_iff :
    bound? timeout killGrace = none ↔
      UInt64.size * nanosPerSecond ≤ timeout.nanos + 2 * killGrace.nanos := by
  unfold bound?
  cases doubled : killGrace.double? with
  | none =>
      have beyond := Duration.ofNanos?_eq_none_iff.mp doubled
      simp only [Option.bind_none, true_iff]
      exact Nat.le_trans beyond (Nat.le_add_left _ _)
  | some twice =>
      have same : twice.nanos = 2 * killGrace.nanos := by
        unfold Duration.double? Duration.ofNanos? at doubled
        split at doubled
        · cases doubled
          rfl
        · cases doubled
      rw [Option.bind_some, ← same]
      exact Duration.ofNanos?_eq_none_iff

theorem awaitExit_ne_crashed (now deadline : Instant) (job : Job) (effects : List StopEffect)
    (call : StopCall) : (awaitExit now deadline job effects call).standing ≠ .crashed := by
  unfold awaitExit
  split <;> exact Standing.noConfusion

theorem awaitTermination_ne_crashed (now deadline : Instant) (job : Job)
    (effects : List StopEffect) :
    (awaitTermination now deadline job effects).standing ≠ .crashed := by
  unfold awaitTermination
  split
  · exact Standing.noConfusion
  · split
    · exact awaitExit_ne_crashed _ _ _ _ _
    · exact Standing.noConfusion

theorem awaitStop_ne_crashed (now : Instant) (wait : WaitCall) (job : Job)
    (effects : List StopEffect) : (awaitStop now wait job effects).standing ≠ .crashed := by
  unfold awaitStop
  split
  · exact Standing.noConfusion
  · exact Standing.noConfusion
  · exact awaitTermination_ne_crashed _ _ _ _

theorem resume_ne_crashed (now : Instant) (job : Job) (call : StopCall) :
    (call.resume now job).standing ≠ .crashed := by
  cases call with
  | following deadline | killing deadline => exact awaitExit_ne_crashed _ _ _ _ _
  | graceful wait => exact awaitStop_ne_crashed _ _ _ _
  | terminating deadline => exact awaitTermination_ne_crashed _ _ _ _

theorem follow_crashed_iff :
    (follow now job timeout inside).standing = .crashed ↔
      inside = false ∧
        UInt64.size * nanosPerSecond ≤ timeout.nanos + 2 * job.killGrace.nanos := by
  rw [← bound?_eq_none_iff]
  unfold follow
  cases inside with
  | true => simp
  | false =>
      cases bounded : bound? timeout job.killGrace with
      | none => simp
      | some bound => simp [awaitExit_ne_crashed]

theorem perform_crashed_iff :
    (perform now job timeout inside).standing = .crashed ↔
      inside = false ∧ job.body ≠ .unlaunched ∧ Instant.limit ≤ now + timeout.nanos := by
  rw [← WaitCall.begin?_eq_none_iff false]
  unfold perform
  by_cases unlaunched : job.body = .unlaunched
  · simp [unlaunched]
  · cases inside with
    | true => simp [unlaunched]
    | false =>
        cases begins : WaitCall.begin? now timeout false with
        | none => simp [unlaunched]
        | some wait => simp [unlaunched, awaitStop_ne_crashed]

end StopCall

def Request.made (timeout : Duration) (inside : Bool) : Request → Life.Occurrence
  | .stop => .stops timeout inside
  | .wait => .waits timeout inside

namespace Life

variable {life next met final : Life} {request : Request} {timeout killGrace : Duration}
  {inside : Bool} {occurrence : Occurrence} {position : Nat}

/-- A call comes at a time and to a job for which the sum that it computes is out of range:
a wait, the first stop of a launched job that has not exited, or a later stop; stops that
come from the body compute none. -/
inductive Overflows (life : Life) (timeout : Duration) : Request → Bool → Prop where
  | wait (inside : Bool) (beyond : Instant.limit ≤ life.now + timeout.nanos) :
      Overflows life timeout .wait inside
  | first (unclaimed : life.job.stopClaimed = false) (running : life.job.exitFlag = false)
      (launched : life.job.body ≠ .unlaunched)
      (beyond : Instant.limit ≤ life.now + timeout.nanos) : Overflows life timeout .stop false
  | later (claimed : life.job.stopClaimed = true)
      (beyond : UInt64.size * nanosPerSecond ≤
        timeout.nanos + 2 * life.job.killGrace.nanos) : Overflows life timeout .stop false

theorem overflows_wait_iff :
    life.Overflows timeout .wait inside ↔ Instant.limit ≤ life.now + timeout.nanos := by
  constructor
  · rintro (_ | _)
    assumption
  · exact .wait inside

theorem overflows_stop_iff :
    life.Overflows timeout .stop inside ↔
      (StopCall.begin life.now life.job timeout inside).standing = .crashed := by
  unfold StopCall.begin
  cases claimed : life.job.stopClaimed with
  | true =>
      rw [if_pos rfl, StopCall.follow_crashed_iff]
      constructor
      · intro overflows
        cases overflows with
        | first unclaimed => cases claimed.symm.trans unclaimed
        | later _ beyond => exact ⟨rfl, beyond⟩
      · rintro ⟨rfl, beyond⟩
        exact .later claimed beyond
  | false =>
      rw [if_neg Bool.false_ne_true]
      dsimp only
      cases exited : life.job.exitFlag with
      | true =>
          rw [if_pos rfl]
          constructor
          · intro overflows
            cases overflows with
            | first _ running => cases exited.symm.trans running
            | later was => cases claimed.symm.trans was
          · nofun
      | false =>
          rw [if_neg Bool.false_ne_true, StopCall.perform_crashed_iff]
          constructor
          · intro overflows
            cases overflows with
            | first _ _ launched beyond => exact ⟨rfl, launched, beyond⟩
            | later was => cases claimed.symm.trans was
          · rintro ⟨rfl, launched, beyond⟩
            exact .first claimed exited launched beyond

/-! ## Crashes along a run -/

theorem waitStanding_ne_crashed (now : Instant) (job : Job) (wait : WaitCall) :
    waitStanding now job wait ≠ .crashed := by
  unfold waitStanding
  split <;> exact CallStanding.noConfusion

theorem standingOf_eq_crashed_iff {now : Instant} {standing : StopCall.Standing} :
    standingOf now standing = .crashed ↔ standing = .crashed := by
  cases standing <;> simp [standingOf]

/-- A call crashes when it is made, or never. -/
theorem standing?_made (steps : life.step? (request.made timeout inside) = some next) :
    ∃ standing, next.standing? life.calls.length = some standing ∧
      (standing = .crashed ↔ life.Overflows timeout request inside) := by
  cases request with
  | stop =>
      cases steps
      refine ⟨_, standing?_call_length _ .stop timeout inside _, ?_⟩
      rw [overflows_stop_iff]
      exact standingOf_eq_crashed_iff
  | wait =>
      cases steps
      refine ⟨_, standing?_call_length _ .wait timeout inside _, ?_⟩
      rw [overflows_wait_iff, ← WaitCall.begin?_eq_none_iff inside]
      cases WaitCall.begin? life.now timeout inside with
      | none => simp
      | some wait => simp [waitStanding_ne_crashed]

/-- A call that was made does not crash later, and one that has crashed stays so. -/
theorem standing?_step (steps : life.step? occurrence = some next) {standing : CallStanding}
    (stands : life.standing? position = some standing) :
    ∃ later, next.standing? position = some later ∧
      (later = .crashed ↔ standing = .crashed) := by
  by_cases resumed : occurrence = .resumes position
  · subst resumed
    obtain ⟨call, found, moves⟩ := of_resumes steps
    have stood : call.standing = standing := by simpa [standing?, found] using stands
    rcases moves with ⟨stop, waits, rfl⟩ | ⟨wait, waits, rfl⟩
    · have stands : (life.commit (stop.resume life.now life.job)).standing? position =
          some standing := stands
      refine ⟨_, standing?_setStanding stands _, ?_⟩
      rw [standingOf_eq_crashed_iff, ← stood, waits]
      simp [StopCall.resume_ne_crashed]
    · refine ⟨_, standing?_setStanding stands _, ?_⟩
      rw [← stood, waits]
      simp [waitStanding_ne_crashed]
  by_cases abandoned : occurrence = .abandons position
  · subst abandoned
    unfold step? abandon? at steps
    dsimp only at steps
    rw [stands] at steps
    cases standing with
    | stops | waits =>
        cases steps
        exact ⟨.abandoned, standing?_setStanding stands .abandoned, by simp⟩
    | returned | crashed | abandoned => cases steps
  · refine ⟨standing, ?_, Iff.rfl⟩
    rw [(proceeds_of_step steps).stands (lt_of_standing? stands) resumed abandoned]
    exact stands

theorem standing?_run {occurrences : List Occurrence}
    (runs : life.run? occurrences = some final) {standing : CallStanding}
    (stands : life.standing? position = some standing) :
    ∃ later, final.standing? position = some later ∧
      (later = .crashed ↔ standing = .crashed) := by
  induction occurrences generalizing life standing with
  | nil =>
      cases runs
      exact ⟨standing, stands, Iff.rfl⟩
  | cons occurrence rest induction =>
      obtain ⟨next, steps, continues⟩ := run?_cons runs
      obtain ⟨moved, stood, same⟩ := standing?_step steps stands
      obtain ⟨later, ends, alike⟩ := induction continues stood
      exact ⟨later, ends, alike.trans same⟩

/-! ## What a crash leaves -/

theorem begin_of_overflow (unclaimed : life.job.stopClaimed = false)
    (overflows : life.Overflows timeout .stop inside) :
    StopCall.begin life.now life.job timeout inside =
      ⟨({ life.job with stopClaimed := true }).requestStop, [.hook .stop], .crashed⟩ := by
  cases overflows with
  | first _ running launched beyond =>
      have none := (WaitCall.begin?_eq_none_iff false).mpr beyond
      simp [StopCall.begin, StopCall.perform, unclaimed, running, launched, none]
  | later claimed => cases claimed.symm.trans unclaimed

/-- A first stop that crashes is performed by nobody. -/
theorem Teardown.unperformed_of_overflow {grace : Duration} (teardown : Teardown grace life)
    (unclaimed : life.job.stopClaimed = false)
    (overflows : life.Overflows timeout .stop inside) :
    (life.stop timeout inside).Unperformed := by
  refine ⟨(StopCall.begin_claims life.now life.job timeout inside).2, ?_⟩
  intro call member stop waits
  rcases List.mem_append.mp member with earlier | last
  · exact absurd waits (((teardown.unclaimed unclaimed).2 call earlier).2 stop)
  · rw [List.mem_singleton.mp last, begin_of_overflow unclaimed overflows] at waits
    cases waits

/-- Whatever was called before and whatever happens after: a call crashes exactly if the sum
that it computes is out of range when it is made.  If it was to perform the stop, then the
teardown is claimed, the stop flag is raised and the stop hook has run, and that is all:
no other hook runs any more, whoever calls what, and only the end of the body raises the
exit flag, which only somebody else can abort. -/
theorem crashes_iff_overflows {name : String} {before after : List Occurrence}
    (lives : (fresh name killGrace).run? before = some met)
    (goes : met.run? (request.made timeout inside :: after) = some final) :
    (final.standing? met.calls.length = some .crashed ↔
      met.Overflows timeout request inside) ∧
    (request = .stop → met.job.stopClaimed = false → met.Overflows timeout request inside →
      final.job.stopClaimed = true ∧ final.job.stopFlag = true ∧
      final.hooks = [(met.now, .stop)] ∧
      (final.job.exitFlag = true → .finishes ∈ after ∨ .drops ∈ after) ∧
      (final.job.aborted = true → met.job.aborted = true ∨ .aborts ∈ after)) := by
  obtain ⟨next, steps, continues⟩ := run?_cons goes
  constructor
  · obtain ⟨standing, stands, crashes⟩ := standing?_made steps
    obtain ⟨later, ends, same⟩ := standing?_run continues stands
    rw [ends, Option.some.injEq, same, crashes]
  · rintro rfl unclaimed overflows
    cases steps
    have teardown := (teardown_fresh name killGrace).run lives
    have sound := ((sound_fresh name killGrace).run lives).1
    have goesOn := sound.stops timeout inside
    have unperformed := teardown.unperformed_of_overflow unclaimed overflows
    obtain ⟨_, left, hooks⟩ := unperformed.run goesOn.sound continues []
    obtain ⟨exits, aborts⟩ := unperformed.of_run goesOn.sound continues
    have grows := (goesOn.sound.run continues).2
    have begins := begin_of_overflow unclaimed overflows
    obtain ⟨phase, moved⟩ :=
      ({ met.job with stopClaimed := true }).moveTo_frame .stopRequested
    have job : (met.stop timeout inside).job =
        { met.job with phase := phase, stopClaimed := true, stopFlag := true } := by
      show (StopCall.begin met.now met.job timeout inside).job = _
      rw [begins, Job.requestStop, moved]
    have ran : (met.stop timeout inside).hooks = [(met.now, .stop)] := by
      show met.hooks ++ _ = _
      rw [begins, (teardown.unclaimed unclaimed).1]
      rfl
    rw [job] at exits aborts grows
    refine ⟨left.claimed, grows.stopFlag rfl, hooks.trans ran, fun exited => ?_, aborts⟩
    cases overflows with
    | first _ running => exact (exits exited).resolve_left (by simp [running])
    | later claimed => cases claimed.symm.trans unclaimed

/-- A stop with the longest timeout crashes, and a later stop with a short one waits in vain
for what nobody performs. -/
theorem crashes_iff_overflows_of_longest_timeout :
    ∃ met final,
      (fresh "unit" { nanos := 100 }).run? [.starts, .enters] = some met ∧
        met.run? (Request.stop.made longestTimeout false ::
          [.stops { nanos := 50 } false, .passes { nanos := 250 }, .resumes 1]) = some final ∧
        final.standing? 0 = some .crashed ∧ final.standing? 1 = some (.returned 250) ∧
        final.hooks = [(0, .stop)] ∧ final.job.exitFlag = false := by
  let after : List Occurrence :=
    [.stops { nanos := 50 } false, .passes { nanos := 250 }, .resumes 1]
  let start := fresh "unit" { nanos := 100 }
  have begun : (start.run? [.starts, .enters]).map
      (fun met => (met.job.stopClaimed, met.job.exitFlag, met.job.body, met.now,
        met.calls.length)) = some (false, false, .underway, 0, 0) := by
    decide +kernel
  have ran : ((start.run? [.starts, .enters]).bind
      (·.run? (Request.stop.made longestTimeout false :: after))).map (·.standing? 1) =
        some (some (.returned 250)) := by
    decide +kernel
  obtain ⟨met, lives, facts⟩ := Option.map_eq_some_iff.mp begun
  simp only [Prod.mk.injEq] at facts
  obtain ⟨unclaimed, running, underway, now, none⟩ := facts
  rw [lives, Option.bind_some] at ran
  obtain ⟨final, goes, returned⟩ := Option.map_eq_some_iff.mp ran
  have overflows : met.Overflows longestTimeout .stop false := by
    refine .first unclaimed running (by rw [underway]; exact Body.noConfusion) ?_
    rw [now]
    decide +kernel
  obtain ⟨crashes, leaves⟩ := crashes_iff_overflows lives goes
  obtain ⟨_, _, hooks, exits, _⟩ := leaves rfl unclaimed overflows
  rw [none] at crashes
  rw [now] at hooks
  refine ⟨met, final, lives, goes, crashes.mpr overflows, returned, hooks, ?_⟩
  rw [← Bool.not_eq_true]
  intro exited
  simpa [after] using exits exited

/-- With a kill grace of five seconds the longest timeout crashes the first stop, a later one
and a wait, and the first leaves a body that nobody stops. -/
theorem crashes_with_longest_timeout :
    ((fresh "application" (Duration.ofSeconds 5)).runInTime?
        [.starts, .enters, .stops longestTimeout false, .stops longestTimeout false,
          .waits longestTimeout false]).map
        (fun life => (life.calls.map Call.standing, life.job.stopClaimed,
          life.job.exitFlag, life.hooks)) =
      some ([.crashed, .crashed, .crashed], true, false, [(0, .stop)]) := by
  decide +kernel

end Life

end Overseer
