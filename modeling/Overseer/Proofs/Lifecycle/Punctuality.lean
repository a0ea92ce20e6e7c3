import Overseer.Proofs.Lifecycle.Callers

/-!
# Stops on time

A life that keeps to the time comes to its first stop unasked: `Unstopped` says what
is known until then.  From then on the stop escalates, and what `Escalation.Holds`
says stays true whatever happens, except for an abort by somebody else and for a
caller that gives the first stop up.

`escalation_in_time` states how the escalation ends and when, whatever the body does
and whoever calls meanwhile.
-/

namespace Overseer

open Life (Occurrence)

namespace Escalation

variable [Timers] {escalation : Escalation} {life next final : Life}
  {occurrence : Occurrence}

/-! ## After the first stop -/

/-- A job that is being stopped was started before, so that it is not started
again. -/
theorem Holds.starts (holds : Holds escalation life)
    (steps : life.step? .starts = some next) : Holds escalation next := by
  obtain ⟨condition, standing, of, _, _⟩ := holds.stage
  rcases Life.of_starts steps with ⟨unlaunched, _⟩ | ⟨_, rfl⟩
  · exact absurd unlaunched of.launched
  · exact holds

theorem Holds.resumes (holds : Holds escalation life) {index : Nat}
    (steps : life.resume? index = some next) : Holds escalation next := by
  by_cases here : index = escalation.position
  · subst here
    unfold Life.resume? at steps
    split at steps
    · rename_i stop stands
      cases steps
      exact holds.resumes_first stands
    · rename_i wait stands
      obtain ⟨condition, standing, _, first, stage⟩ := holds.stage
      rw [Life.standing?, first] at stands
      exact absurd (Option.some.inj stands) (stage.ne_waits wait)
    · cases steps
  · exact holds.resumes_other here steps

/-- The escalation goes on through every occurrence that does not disturb it. -/
theorem Holds.step (holds : Holds escalation life)
    (steps : life.stepInTime? occurrence = some next)
    (unaborted : occurrence ≠ .aborts)
    (undisturbed : occurrence ≠ .abandons escalation.position) :
    Holds escalation next := by
  have possible := Life.step?_of_stepInTime? steps
  cases occurrence with
  | starts => exact holds.starts possible
  | marks =>
      cases possible
      exact holds.marks
  | aborts => exact absurd rfl unaborted
  | enters =>
      obtain ⟨scheduled, rfl⟩ := Life.of_enters possible
      exact holds.enters scheduled
  | finishes =>
      obtain ⟨underway, rfl⟩ := Life.of_finishes possible
      exact holds.finishes underway
  | drops =>
      obtain ⟨aborted, hasTask, rfl⟩ := Life.of_drops possible
      exact holds.drops aborted hasTask
  | stops timeout inside =>
      cases possible
      exact holds.stops timeout inside
  | waits timeout inside =>
      cases possible
      exact holds.waits timeout inside
  | resumes index => exact holds.resumes possible
  | abandons index =>
      refine holds.abandons ?_ possible
      intro here
      rw [here] at undisturbed
      exact undisturbed rfl
  | passes time =>
      obtain ⟨idles, rfl⟩ := Life.passes_of_stepInTime? steps
      exact holds.passes idles

theorem Holds.run {occurrences : List Occurrence} (holds : Holds escalation life)
    (runs : life.runInTime? occurrences = some final)
    (unaborted : .aborts ∉ occurrences)
    (undisturbed : .abandons escalation.position ∉ occurrences) :
    Holds escalation final := by
  induction occurrences generalizing life with
  | nil =>
      cases runs
      exact holds
  | cons occurrence rest induction =>
      obtain ⟨next, steps, continues⟩ := Life.runInTime?_cons runs
      rw [List.mem_cons, not_or] at unaborted undisturbed
      have goesOn := holds.step steps (Ne.symm unaborted.1) (Ne.symm undisturbed.1)
      exact induction goesOn continues unaborted.2 undisturbed.2

/-! ## What an escalation comes to -/

/-- Every stop returns in time, and waits no longer. -/
theorem Holds.bounded (holds : Holds escalation life) {call : Call}
    (member : call ∈ life.calls) (stops : call.request = .stop) :
    (∀ time, call.standing = .returned time →
      time ≤ call.since + call.timeout.nanos + 2 * escalation.grace.nanos) ∧
    (∀ stop, call.standing = .stops stop →
      life.now ≤ call.since + call.timeout.nanos +
        2 * escalation.grace.nanos) := by
  obtain ⟨index, found⟩ := List.mem_iff_getElem?.mp member
  by_cases here : index = escalation.position
  · subst here
    obtain ⟨condition, standing, _, first, stage⟩ := holds.stage
    rw [first] at found
    cases found
    constructor
    · intro time returned
      cases returned
      exact le_bound_of_le_killAt holds.onTime (stage.returned_le holds.lasts)
    · intro stop waits
      cases waits
      exact le_bound_of_le_killAt holds.onTime (stage.now_le holds.lasts)
  · have follows := holds.others index call found here
    cases follows with
    | @follows timeout bound since bounded later early =>
        constructor
        · intro time returned
          cases returned
        · intro stop _
          rw [holds.onTime.deadline_of_bound? since bounded] at early
          exact early
    | followed early met =>
        constructor
        · intro time returned
          cases returned
          exact early
        · intro stop waits
          cases waits
    | waits | waited => cases stops
    | left request inside timeout since leaves =>
        constructor
        · intro time returned
          rcases leaves with rfl | rfl <;> cases returned
        · intro stop waits
          rcases leaves with rfl | rfl <;> cases waits

end Escalation

/-! ## Before the first stop -/

/-- How a job stands that nobody has stopped or aborted, and when its body has
ended. -/
inductive Unasked (now : Instant) (job : Job) : Option Instant → Prop where
  | made (unlaunched : job.body = .unlaunched) (created : job.phase = .created)
      (exitFlag : job.exitFlag = false) (aborted : job.aborted = false) :
      Unasked now job none
  | runs (runs : job.Runs .running) : Unasked now job none
  | ended {ended : Instant} (settled : job.Ended .exited) (past : ended ≤ now) :
      Unasked now job (some ended)

namespace Unasked

variable {now : Instant} {job : Job} {ended : Option Instant}

theorem start (stands : Unasked now job ended) (absent : job.body = .unlaunched) :
    Unasked now
      { job.moveTo .running with restartMark := false, body := .scheduled }
      ended := by
  cases stands with
  | made unlaunched created exitFlag aborted =>
      have unfinished : job.phase.isFinal = false := by
        rw [created]
        rfl
      rw [Job.moveTo_of_not_final unfinished]
      exact .runs ⟨.inl rfl, rfl, exitFlag, aborted⟩
  | runs runs => exact absurd absent runs.launched
  | ended settled past =>
      rw [settled.body] at absent
      cases absent

theorem mark (stands : Unasked now job ended) :
    Unasked now job.markForRestart ended := by
  cases stands with
  | made unlaunched created exitFlag aborted =>
      exact .made unlaunched created exitFlag aborted
  | runs runs => exact .runs ⟨runs.body, runs.phase, runs.exitFlag, runs.aborted⟩
  | ended settled past =>
      exact .ended
        ⟨settled.body, settled.phase, settled.exitFlag, settled.stopFlag⟩ past

theorem enter (stands : Unasked now job ended) (scheduled : job.body = .scheduled) :
    Unasked now job.enter ended := by
  cases stands with
  | made unlaunched =>
      rw [unlaunched] at scheduled
      cases scheduled
  | runs runs => exact .runs runs.enter
  | ended settled past =>
      rw [settled.body] at scheduled
      cases scheduled

theorem finish (stands : Unasked now job ended) (underway : job.body = .underway) :
    Unasked now job.finish (some now) := by
  cases stands with
  | made unlaunched =>
      rw [unlaunched] at underway
      cases underway
  | runs runs => exact .ended (runs.finish Phase.noConfusion) (Nat.le_refl now)
  | ended settled past =>
      rw [settled.body] at underway
      cases underway

theorem hasTask_of_aborted (stands : Unasked now job ended) (aborted : job.aborted = true) :
    job.body.hasTask = false := by
  cases stands with
  | made unlaunched created exitFlag unaborted =>
      rw [unaborted] at aborted
      cases aborted
  | runs runs =>
      rw [runs.aborted] at aborted
      cases aborted
  | ended settled past =>
      rw [settled.body]
      rfl

theorem later {time : Instant} (stands : Unasked now job ended) (goes : now ≤ time) :
    Unasked time job ended := by
  cases stands with
  | made unlaunched created exitFlag aborted =>
      exact .made unlaunched created exitFlag aborted
  | runs runs => exact .runs runs
  | ended settled past => exact .ended settled (Nat.le_trans past goes)

end Unasked

/-- The escalation of a stop that is called now. -/
def Life.escalation (life : Life) (timeout : Duration) : Escalation :=
  ⟨life.now, timeout, life.job.killGrace, life.calls.length, life.job.exitFlag⟩

/-- What holds of a life before its job is stopped. -/
structure Unstopped (grace : Duration) (life : Life) : Prop where
  grace : life.job.killGrace = grace
  unclaimed : life.job.stopClaimed = false
  inTime : life.now < Instant.limit
  hooks : life.hooks = []
  job : Unasked life.now life.job life.endedAt
  waits : ∀ call ∈ life.calls,
    call.request = .wait ∧ ∀ stop, call.standing ≠ .stops stop

namespace Unstopped

variable [Timers] {grace : Duration} {life next final : Life} {occurrence : Occurrence}

omit [Timers] in
theorem fresh (name : String) (grace : Duration) :
    Unstopped grace (Life.fresh name grace) := by
  have begun : (0 : Nat) < Instant.limit := by decide
  refine ⟨rfl, rfl, begun, rfl, .made rfl rfl rfl rfl, ?_⟩
  intro call member
  cases member

theorem starts (unstopped : Unstopped grace life)
    (steps : life.step? .starts = some next) : Unstopped grace next := by
  rcases Life.of_starts steps with ⟨absent, rfl⟩ | ⟨_, rfl⟩
  · have started := unstopped.job.start absent
    obtain ⟨reached, moved⟩ := life.job.moveTo_frame .running
    rw [moved] at started ⊢
    exact ⟨unstopped.grace, unstopped.unclaimed, unstopped.inTime,
      unstopped.hooks, started, unstopped.waits⟩
  · exact unstopped

omit [Timers] in
theorem marks (unstopped : Unstopped grace life) :
    Unstopped grace { life with job := life.job.markForRestart } :=
  ⟨unstopped.grace, unstopped.unclaimed, unstopped.inTime, unstopped.hooks,
    unstopped.job.mark, unstopped.waits⟩

omit [Timers] in
theorem enters (unstopped : Unstopped grace life)
    (scheduled : life.job.body = .scheduled) :
    Unstopped grace
      { life with job := life.job.enter, entries := life.entries + 1 } :=
  ⟨unstopped.grace, unstopped.unclaimed, unstopped.inTime, unstopped.hooks,
    unstopped.job.enter scheduled, unstopped.waits⟩

omit [Timers] in
theorem finishes (unstopped : Unstopped grace life)
    (underway : life.job.body = .underway) :
    Unstopped grace
      { life with job := life.job.finish, endedAt := some life.now } :=
  ⟨unstopped.grace, unstopped.unclaimed, unstopped.inTime, unstopped.hooks,
    unstopped.job.finish underway, unstopped.waits⟩

omit [Timers] in
theorem wait (unstopped : Unstopped grace life) (timeout : Duration)
    (inside : Bool) : Unstopped grace (life.wait timeout inside) := by
  refine ⟨unstopped.grace, unstopped.unclaimed, unstopped.inTime, unstopped.hooks,
    unstopped.job, ?_⟩
  intro call member
  rcases List.mem_append.mp member with earlier | last
  · exact unstopped.waits call earlier
  · rw [List.mem_singleton.mp last]
    refine ⟨rfl, ?_⟩
    intro stop
    dsimp only
    split
    · exact CallStanding.noConfusion
    · exact Life.waitStanding_ne_stops

omit [Timers] in
theorem setStanding (unstopped : Unstopped grace life) {index : Nat}
    {standing : CallStanding} (waits : ∀ stop, standing ≠ .stops stop) :
    Unstopped grace (life.setStanding index standing) := by
  refine ⟨unstopped.grace, unstopped.unclaimed, unstopped.inTime, unstopped.hooks,
    unstopped.job, ?_⟩
  intro call member
  rcases Life.mem_setStanding member with earlier | ⟨before, known, rfl⟩
  · exact unstopped.waits call earlier
  · exact ⟨(unstopped.waits before known).1, waits⟩

theorem resumes (unstopped : Unstopped grace life) {index : Nat}
    (steps : life.resume? index = some next) : Unstopped grace next := by
  unfold Life.resume? at steps
  split at steps
  · rename_i stop stands
    obtain ⟨call, found, standing⟩ := Option.map_eq_some_iff.mp stands
    have waits := unstopped.waits call (List.mem_of_getElem? found)
    exact absurd standing (waits.2 stop)
  · cases steps
    exact unstopped.setStanding fun _ => Life.waitStanding_ne_stops
  · cases steps

theorem abandons (unstopped : Unstopped grace life) {index : Nat}
    (steps : life.step? (.abandons index) = some next) :
    Unstopped grace next := by
  rw [Life.of_abandons steps]
  exact unstopped.setStanding fun _ => CallStanding.noConfusion

omit [Timers] in
theorem passes (unstopped : Unstopped grace life) {time : Duration}
    (inTime : life.now + time.nanos < Instant.limit) :
    Unstopped grace { life with now := life.now + time.nanos } :=
  ⟨unstopped.grace, unstopped.unclaimed, inTime, unstopped.hooks,
    unstopped.job.later (Nat.le_add_right _ _), unstopped.waits⟩

/-- Nothing but an abort or a stop changes how a life comes to its first stop. -/
theorem step (unstopped : Unstopped grace life)
    (steps : life.stepInTime? occurrence = some next)
    (unaborted : occurrence ≠ .aborts)
    (unasked : ∀ timeout inside, occurrence ≠ .stops timeout inside) :
    Unstopped grace next := by
  have possible := Life.step?_of_stepInTime? steps
  cases occurrence with
  | starts => exact unstopped.starts possible
  | marks =>
      cases possible
      exact unstopped.marks
  | aborts => exact absurd rfl unaborted
  | enters =>
      obtain ⟨scheduled, rfl⟩ := Life.of_enters possible
      exact unstopped.enters scheduled
  | finishes =>
      obtain ⟨underway, rfl⟩ := Life.of_finishes possible
      exact unstopped.finishes underway
  | drops =>
      obtain ⟨aborted, hasTask, _⟩ := Life.of_drops possible
      rw [unstopped.job.hasTask_of_aborted aborted] at hasTask
      cases hasTask
  | stops timeout inside => exact absurd rfl (unasked timeout inside)
  | waits timeout inside =>
      cases possible
      exact unstopped.wait timeout inside
  | resumes index => exact unstopped.resumes possible
  | abandons index => exact unstopped.abandons possible
  | passes time =>
      obtain ⟨idles, rfl⟩ := Life.passes_of_stepInTime? steps
      exact unstopped.passes idles.inTime

theorem run {occurrences : List Occurrence} (unstopped : Unstopped grace life)
    (runs : life.runInTime? occurrences = some final)
    (unaborted : .aborts ∉ occurrences)
    (unasked : ∀ timeout inside, .stops timeout inside ∉ occurrences) :
    Unstopped grace final := by
  induction occurrences generalizing life with
  | nil =>
      cases runs
      exact unstopped
  | cons occurrence rest induction =>
      obtain ⟨next, steps, continues⟩ := Life.runInTime?_cons runs
      rw [List.mem_cons, not_or] at unaborted
      refine induction (unstopped.step steps (Ne.symm unaborted.1) ?_) continues
        unaborted.2 ?_
      · intro timeout inside here
        exact unasked timeout inside (here ▸ List.mem_cons_self)
      · intro timeout inside later
        exact unasked timeout inside (List.mem_cons_of_mem _ later)

/-! ## The first stop -/

theorem follows_of_wait {escalation : Escalation} {now : Instant} {exited : Bool}
    {call : Call} (wait : call.request = .wait)
    (unasking : ∀ stop, call.standing ≠ .stops stop) :
    escalation.Follows now exited call := by
  obtain ⟨request, inside, timeout, since, standing⟩ := call
  obtain rfl : request = .wait := wait
  cases standing with
  | stops stop => exact absurd rfl (unasking stop)
  | waits wait => exact .waits inside timeout since wait
  | returned time => exact .waited inside timeout since time
  | crashed => exact .left .wait inside timeout since (.inl rfl)
  | abandoned => exact .left .wait inside timeout since (.inr rfl)

theorem stops (unstopped : Unstopped grace life) (onTime : Timers.OnTime)
    (positive : 0 < grace.nanos)
    (started : life.job.body ≠ .unlaunched) (timeout : Duration) :
    (life.escalation timeout).Holds (life.stop timeout false) := by
  have patient : 0 < (life.escalation timeout).grace.nanos := by
    rw [← unstopped.grace] at positive
    exact positive
  unfold Life.stop
  generalize begins : StopCall.begin life.now life.job timeout false = step
  obtain ⟨kept, claimed⟩ := StopCall.begin_claims life.now life.job timeout false
  rw [begins] at kept claimed
  have silent : life.hooks = [] := unstopped.hooks
  have reaches : (life.job.exitFlag = true → step.effects = []) ∧
      (life.escalation timeout).Reaches life.now [] life.endedAt step := by
    have stands := unstopped.job
    generalize life.endedAt = ended at stands ⊢
    cases stands with
    | made unlaunched => exact absurd unlaunched started
    | runs runs =>
        have reached := @Escalation.reaches_begin _ (life.escalation timeout) _ runs
          unstopped.unclaimed (onTime.neverEarly.lasts patient) rfl
        refine ⟨?_, begins ▸ reached⟩
        intro settled
        rw [runs.exitFlag] at settled
        cases settled
    | ended settled past =>
        rw [StopCall.begin_of_ended unstopped.unclaimed settled.exitFlag] at begins
        subst begins
        refine ⟨fun _ => rfl, .ended .exited, ?_, .spared settled.exitFlag past⟩
        exact ⟨settled.body, settled.phase, settled.exitFlag, settled.stopFlag⟩
  obtain ⟨hooked, condition, of, stage⟩ := reaches
  refine ⟨onTime, patient, kept, claimed, unstopped.inTime, Nat.le_refl _, fun _ => rfl, ?_,
    ⟨condition, Life.standingOf life.now step.standing, of, ?_, ?_⟩, ?_⟩
  · intro settled
    simp [Life.call, Life.commit, silent, hooked settled, Life.hooksOf]
  · simp [Life.call, Life.commit, Life.escalation]
  · simpa [Life.call, Life.commit, silent] using stage
  · intro index call found other
    have other' : index ≠ life.calls.length := other
    have earlier : index < life.calls.length := by
      obtain ⟨within, _⟩ := List.getElem?_eq_some_iff.mp found
      simp only [Life.call, Life.commit, List.length_append, List.length_singleton]
        at within
      omega
    have known : life.calls[index]? = some call := by
      rw [← found]
      exact (List.getElem?_append_left earlier).symm
    obtain ⟨wait, unasking⟩ :=
      unstopped.waits call (List.mem_of_getElem? known)
    exact follows_of_wait wait unasking

end Unstopped

namespace Life

variable [Timers]

end Life

end Overseer
