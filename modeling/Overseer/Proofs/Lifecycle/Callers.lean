import Overseer.Proofs.Lifecycle.Escalation

/-!
# A stop among other calls

While a stop escalates, other calls come and go.  They only wait: a later stop until
the body is gone, but not longer than the escalation can take, and any other call as
long as it likes.  `Holds` says how all of them stand, and it is kept by whatever
happens to the job, to the clock and to the calls.
-/

namespace Overseer

variable [Timers]

namespace Escalation

/-- How another call stands: it follows the escalation, or it is a wait. -/
inductive Follows (escalation : Escalation) (now : Instant) (exited : Bool) :
    Call → Prop where
  | follows {timeout bound : Duration} {since : Instant}
      (bounded : StopCall.bound? timeout escalation.grace = some bound)
      (later : escalation.start ≤ since) (early : now ≤ since.deadline bound) :
      Follows escalation now exited
        ⟨.stop, false, timeout, since, .stops (.following (since.deadline bound))⟩
  | followed {inside : Bool} {timeout : Duration} {since time : Instant}
      (early : time ≤ since + timeout.nanos + 2 * escalation.grace.nanos)
      (met : inside = false → escalation.timeout.nanos ≤ timeout.nanos →
        exited = true) :
      Follows escalation now exited
        ⟨.stop, inside, timeout, since, .returned time⟩
  | waits (inside : Bool) (timeout : Duration) (since : Instant)
      (wait : WaitCall) :
      Follows escalation now exited ⟨.wait, inside, timeout, since, .waits wait⟩
  | waited (inside : Bool) (timeout : Duration) (since time : Instant) :
      Follows escalation now exited
        ⟨.wait, inside, timeout, since, .returned time⟩
  | left (request : Request) (inside : Bool) (timeout : Duration)
      (since : Instant) {standing : CallStanding}
      (leaves : standing = .crashed ∨ standing = .abandoned) :
      Follows escalation now exited ⟨request, inside, timeout, since, standing⟩

/-- What holds of a life while a stop of its job escalates, and after that. -/
structure Holds (escalation : Escalation) (life : Life) : Prop where
  onTime : Timers.OnTime
  positive : 0 < escalation.grace.nanos
  grace : life.job.killGrace = escalation.grace
  claimed : life.job.stopClaimed = true
  inTime : life.now < Instant.limit
  began : escalation.start ≤ life.now
  scheduled : life.job.body = .scheduled → life.now = escalation.start
  hooked : escalation.spared = true → life.hooks = []
  stage : ∃ condition standing,
    condition.Of life.job ∧
    life.calls[escalation.position]? =
      some ⟨.stop, false, escalation.timeout, escalation.start, standing⟩ ∧
    Stage escalation life.now condition life.hooks life.endedAt standing
  others : ∀ index call, life.calls[index]? = some call →
    index ≠ escalation.position →
      Follows escalation life.now life.job.exitFlag call

variable {escalation : Escalation} {life next : Life}

/-! ## Other calls -/

theorem Follows.later {now now' : Instant} {exited exited' : Bool} {call : Call}
    (follows : Follows escalation now exited call)
    (kept : exited = true → exited' = true)
    (early : ∀ stop, call.standing = .stops stop → now' ≤ stop.deadline) :
    Follows escalation now' exited' call := by
  cases follows with
  | follows bounded later _ => exact .follows bounded later (early _ rfl)
  | followed inTime met =>
      exact .followed inTime fun outside longer => kept (met outside longer)
  | waits inside timeout since wait => exact .waits inside timeout since wait
  | waited inside timeout since time => exact .waited inside timeout since time
  | left request inside timeout since leaves =>
      exact .left request inside timeout since leaves

theorem Follows.exits {now : Instant} {exited exited' : Bool} {call : Call}
    (follows : Follows escalation now exited call)
    (kept : exited = true → exited' = true) :
    Follows escalation now exited' call := by
  refine follows.later kept ?_
  intro stop waits
  cases follows with
  | follows bounded later early =>
      cases waits
      exact early
  | followed | waits | waited => cases waits
  | left request inside timeout since leaves =>
      rcases leaves with rfl | rfl <;> cases waits

theorem Holds.lasts (holds : Holds escalation life) : escalation.grace.Lasts :=
  holds.onTime.neverEarly.lasts holds.positive

theorem Holds.exitFlag_or (holds : Holds escalation life) :
    life.job.exitFlag = true ∨ life.now ≤ escalation.killAt ∨
      Instant.limit ≤ escalation.terminateAt := by
  obtain ⟨condition, standing, of, _, stage⟩ := holds.stage
  cases condition with
  | running phase =>
      exact .inr (stage.le_killAt holds.lasts fun _ => Condition.noConfusion)
  | aborted =>
      exact .inr (stage.le_killAt holds.lasts fun _ => Condition.noConfusion)
  | ended phase => exact .inl of.exitFlag

/-- Where a call stands that waits for the one that performs the stop, when it
has looked at the job. -/
theorem Holds.follows_awaitExit (holds : Holds escalation life)
    {timeout bound : Duration} {since : Instant}
    (bounded : StopCall.bound? timeout escalation.grace = some bound)
    (later : escalation.start ≤ since)
    (early : life.now ≤ since.deadline bound) :
    Follows escalation life.now life.job.exitFlag
      ⟨.stop, false, timeout, since,
        Life.standingOf life.now
          (StopCall.awaitExit life.now (since.deadline bound) life.job []
            (.following (since.deadline bound))).standing⟩ := by
  have due := holds.onTime.deadline_of_bound? since bounded
  have inTime := early
  rw [due] at inTime
  cases exited : life.job.exitFlag with
  | true =>
      rw [StopCall.awaitExit_of_ended exited]
      exact .followed inTime fun _ _ => rfl
  | false =>
      rcases Nat.lt_or_ge life.now (since.deadline bound) with before | late
      · rw [StopCall.awaitExit_of_early exited before]
        exact .follows bounded later early
      · have returned : StopCall.awaitExit life.now (since.deadline bound)
            life.job [] (.following (since.deadline bound)) =
              ⟨life.job, [], .returned⟩ := by
          simp [StopCall.awaitExit, late]
        rw [returned]
        refine .followed inTime ?_
        intro _ longer
        -- The clock would have reached the kill before this deadline.
        rw [due] at late
        have began := holds.inTime
        have positive := holds.positive
        rcases holds.exitFlag_or with settled | stillEarly | crashed
        · rw [exited] at settled
          cases settled
        · rw [killAt_eq holds.onTime] at stillEarly
          unfold Instant at *
          omega
        · unfold terminateAt at crashed
          unfold Instant at *
          omega

theorem follows_waitStanding {now : Instant} {job : Job} {exited : Bool}
    (inside : Bool) (timeout : Duration) (since : Instant) (wait : WaitCall) :
    Follows escalation now exited
      ⟨.wait, inside, timeout, since, Life.waitStanding now job wait⟩ := by
  unfold Life.waitStanding
  split
  · exact .waits inside timeout since _
  · exact .waited inside timeout since now

/-! ## What happens to the calls -/

theorem Holds.call (holds : Holds escalation life) {request : Request}
    {timeout : Duration} {inside : Bool} {standing : CallStanding}
    (follows : Follows escalation life.now life.job.exitFlag
      ⟨request, inside, timeout, life.now, standing⟩) :
    Holds escalation (life.call request timeout inside standing) := by
  obtain ⟨condition, stands, of, first, stage⟩ := holds.stage
  obtain ⟨known, _⟩ := List.getElem?_eq_some_iff.mp first
  refine ⟨holds.onTime, holds.positive, holds.grace, holds.claimed, holds.inTime, holds.began,
    holds.scheduled, holds.hooked, ⟨condition, stands, of, ?_, stage⟩, ?_⟩
  · rw [← first]
    exact List.getElem?_append_left known
  · intro index call found other
    rcases Nat.lt_or_ge index life.calls.length with earlier | last
    · refine holds.others index call ?_ other
      rw [← found]
      exact (List.getElem?_append_left earlier).symm
    · have member := found
      simp only [Life.call] at member
      rw [List.getElem?_append_right last] at member
      rw [List.mem_singleton.mp (List.mem_of_getElem? member)]
      exact follows

theorem Holds.setStanding (holds : Holds escalation life) {index : Nat}
    (other : index ≠ escalation.position) {standing : CallStanding}
    (follows : ∀ call, life.calls[index]? = some call →
      Follows escalation life.now life.job.exitFlag
        { call with standing := standing }) :
    Holds escalation (life.setStanding index standing) := by
  obtain ⟨condition, stands, of, first, stage⟩ := holds.stage
  refine ⟨holds.onTime, holds.positive, holds.grace, holds.claimed, holds.inTime, holds.began,
    holds.scheduled, holds.hooked, ⟨condition, stands, of, ?_, stage⟩, ?_⟩
  · simp only [Life.setStanding, List.getElem?_modify, other, if_false]
    simpa using first
  · intro index' call found other'
    simp only [Life.setStanding, List.getElem?_modify] at found
    by_cases here : index = index'
    · subst here
      cases held : life.calls[index]? with
      | none => simp [held] at found
      | some before =>
          rw [held] at found
          simp only [if_true] at found
          rw [← Option.some.inj found]
          exact follows before held
    · refine holds.others index' call ?_ other'
      simpa [here] using found

theorem Holds.advance (holds : Holds escalation life) {step : StopCall.Step}
    {condition : Condition} {hooks : List (Instant × Hook)}
    {standing : CallStanding}
    (grace : step.job.killGrace = life.job.killGrace)
    (claimed : step.job.stopClaimed = life.job.stopClaimed)
    (body : step.job.body = life.job.body)
    (kept : life.job.exitFlag = true → step.job.exitFlag = true)
    (of : condition.Of step.job)
    (ran : life.hooks ++ (Life.hooksOf step.effects).map (life.now, ·) = hooks)
    (hooked : escalation.spared = false)
    (stage : Stage escalation life.now condition hooks life.endedAt standing) :
    Holds escalation
      ((life.commit step).setStanding escalation.position standing) := by
  obtain ⟨_, _, _, first, _⟩ := holds.stage
  refine ⟨holds.onTime, holds.positive, grace.trans holds.grace, claimed.trans holds.claimed,
    holds.inTime, holds.began, ?_, ?_, ⟨condition, standing, of, ?_, ?_⟩, ?_⟩
  · intro scheduled
    exact holds.scheduled (body.symm.trans scheduled)
  · intro settled
    rw [hooked] at settled
    cases settled
  · simp [Life.setStanding, Life.commit, first]
  · change Stage escalation life.now condition (life.hooks ++ _) life.endedAt
      standing
    rw [ran]
    exact stage
  · intro index call found other
    simp only [Life.setStanding, Life.commit, List.getElem?_modify] at found
    have here : escalation.position ≠ index := Ne.symm other
    simp only [here, if_false] at found
    exact (holds.others index call (by simpa using found) other).exits kept

/-! ## What happens to the job -/

/-- Something happens to the job beside the calls. -/
theorem Holds.withJob (holds : Holds escalation life) {job : Job}
    {ended : Option Instant}
    (grace : job.killGrace = life.job.killGrace)
    (claimed : job.stopClaimed = life.job.stopClaimed)
    (body : job.body = .scheduled → life.job.body = .scheduled)
    (kept : life.job.exitFlag = true → job.exitFlag = true)
    (stage : ∀ condition standing, condition.Of life.job →
      Stage escalation life.now condition life.hooks life.endedAt standing →
        ∃ next : Condition, next.Of job ∧
          Stage escalation life.now next life.hooks ended standing) :
    Holds escalation { life with job := job, endedAt := ended } := by
  obtain ⟨condition, standing, of, first, stands⟩ := holds.stage
  obtain ⟨next, of', stands'⟩ := stage condition standing of stands
  refine ⟨holds.onTime, holds.positive, grace.trans holds.grace, claimed.trans holds.claimed,
    holds.inTime, holds.began, fun scheduled => holds.scheduled (body scheduled),
    holds.hooked, ⟨next, standing, of', first, stands'⟩, ?_⟩
  intro index call found other
  exact (holds.others index call found other).exits kept

theorem Holds.marks (holds : Holds escalation life) :
    Holds escalation { life with job := life.job.markForRestart } := by
  refine holds.withJob rfl rfl id id ?_
  intro condition standing of stage
  exact ⟨condition, of.mark, stage⟩

theorem Holds.enters (holds : Holds escalation life)
    (scheduled : life.job.body = .scheduled) :
    Holds escalation
      { life with job := life.job.enter, entries := life.entries + 1 } := by
  have entered : Holds escalation { life with job := life.job.enter } := by
    refine holds.withJob rfl rfl (fun absent => absurd absent Body.noConfusion)
      id ?_
    intro condition standing of stage
    exact ⟨condition, of.enter scheduled, stage⟩
  exact ⟨entered.onTime, entered.positive, entered.grace, entered.claimed, entered.inTime,
    entered.began, entered.scheduled, entered.hooked, entered.stage, entered.others⟩

theorem Holds.finishes (holds : Holds escalation life)
    (underway : life.job.body = .underway) :
    Holds escalation
      { life with job := life.job.finish, endedAt := some life.now } := by
  refine holds.withJob rfl rfl (fun absent => absurd absent Body.noConfusion)
    (fun _ => rfl) ?_
  intro condition standing of stage
  exact stage.finishes of underway

theorem Holds.drops (holds : Holds escalation life)
    (aborted : life.job.aborted = true) (hasTask : life.job.body.hasTask = true) :
    Holds escalation { life with job := life.job.drop } := by
  have kept (job : Job) : job.drop.killGrace = job.killGrace ∧
      job.drop.stopClaimed = job.stopClaimed ∧ job.drop.body = .gone ∧
      (job.exitFlag = true → job.drop.exitFlag = true) := by
    unfold Job.drop
    split
    · exact ⟨rfl, rfl, rfl, fun _ => rfl⟩
    · exact ⟨rfl, rfl, rfl, id⟩
  obtain ⟨grace, claimed, gone, exited⟩ := kept life.job
  refine holds.withJob grace claimed ?_ exited ?_
  · intro scheduled
    rw [gone] at scheduled
    cases scheduled
  · intro condition standing of stage
    exact stage.drops of aborted hasTask

/-! ## The clock -/

theorem Holds.passes (holds : Holds escalation life) {time : Duration}
    (idles : life.Idles (life.now + time.nanos)) :
    Holds escalation { life with now := life.now + time.nanos } := by
  have later : life.now ≤ life.now + time.nanos := Nat.le_add_right _ _
  obtain ⟨condition, standing, of, first, stage⟩ := holds.stage
  have member := List.mem_of_getElem? first
  refine ⟨holds.onTime, holds.positive, holds.grace, holds.claimed, idles.inTime,
    Nat.le_trans holds.began later, fun scheduled => absurd scheduled idles.entered,
    holds.hooked, ⟨condition, standing, of, first, ?_⟩, ?_⟩
  · exact stage.passes of later idles.undisturbed (idles.waiting _ member)
      (idles.early _ member)
  · intro index call found other
    refine (holds.others index call found other).later id ?_
    intro stop waits
    refine idles.early call (List.mem_of_getElem? found) stop.deadline ?_
    rw [waits]
    rfl

/-! ## The steps of the calls -/

theorem Holds.resumes_first (holds : Holds escalation life) {stop : StopCall}
    (stands : life.standing? escalation.position = some (.stops stop)) :
    Holds escalation
      ((life.commit (stop.resume life.now life.job)).setStanding
        escalation.position
        (Life.standingOf life.now (stop.resume life.now life.job).standing)) := by
  obtain ⟨condition, standing, of, first, stage⟩ := holds.stage
  obtain rfl : standing = .stops stop := by
    unfold Life.standing? at stands
    rw [first] at stands
    exact Option.some.inj stands
  obtain ⟨phase, aborted, frame⟩ := StopCall.resume_frame life.now life.job stop
  obtain ⟨next, of', stage'⟩ :=
    stage.resumes of holds.lasts holds.grace holds.scheduled
  have escalates : escalation.spared = false := by
    cases settled : escalation.spared with
    | false => rfl
    | true => exact absurd (holds.hooked settled) stage.hooks_ne_nil
  refine holds.advance ?_ ?_ ?_ ?_ of' rfl escalates stage'
  · rw [frame]
  · rw [frame]
  · rw [frame]
  · rw [frame]
    exact id

omit [Timers] in
/-- A step that changes nothing. -/
theorem commit_unchanged (life : Life) (standing : StopCall.Standing) :
    life.commit ⟨life.job, [], standing⟩ = life := by
  simp [Life.commit, Life.hooksOf]

omit [Timers] in
theorem commit_awaitExit (life : Life) (deadline : Instant) (call : StopCall) :
    life.commit (StopCall.awaitExit life.now deadline life.job [] call) = life := by
  unfold StopCall.awaitExit
  split <;> exact commit_unchanged life _

/-- Another call runs again. -/
theorem Holds.resumes_other (holds : Holds escalation life) {index : Nat}
    (other : index ≠ escalation.position)
    (steps : life.resume? index = some next) : Holds escalation next := by
  unfold Life.resume? at steps
  cases found : life.calls[index]? with
  | none => simp [Life.standing?, found] at steps
  | some call =>
      have follows := holds.others index call found other
      simp only [Life.standing?, found, Option.map_some] at steps
      cases follows with
      | @follows timeout bound since bounded later early =>
          cases steps
          simp only [StopCall.resume, commit_awaitExit]
          refine holds.setStanding other ?_
          intro call same
          rw [found] at same
          cases same
          exact holds.follows_awaitExit bounded later early
      | waits inside timeout since wait =>
          cases steps
          refine holds.setStanding other ?_
          intro call same
          rw [found] at same
          cases same
          exact follows_waitStanding inside timeout since wait
      | followed | waited => cases steps
      | left request inside timeout since leaves =>
          rcases leaves with rfl | rfl <;> cases steps

theorem Holds.stops (holds : Holds escalation life) (timeout : Duration)
    (inside : Bool) : Holds escalation (life.stop timeout inside) := by
  have follow : StopCall.begin life.now life.job timeout inside =
      StopCall.follow life.now life.job timeout inside := by
    unfold StopCall.begin
    rw [if_pos holds.claimed]
  unfold Life.stop
  rw [follow]
  unfold StopCall.follow
  cases inside with
  | true =>
      simp only [if_true, commit_unchanged]
      refine holds.call (.followed ?_ fun outside => absurd outside Bool.noConfusion)
      exact Nat.le_trans (Nat.le_add_right _ _) (Nat.le_add_right _ _)
  | false =>
      rw [holds.grace]
      cases bounded : StopCall.bound? timeout escalation.grace with
      | none =>
          simp only [Bool.false_eq_true, if_false, commit_unchanged]
          exact holds.call (.left .stop false timeout life.now (.inl rfl))
      | some bound =>
          simp only [Bool.false_eq_true, if_false, commit_awaitExit]
          refine holds.call (holds.follows_awaitExit bounded holds.began ?_)
          exact holds.onTime.neverEarly.le_deadline life.now bound

theorem Holds.waits (holds : Holds escalation life) (timeout : Duration)
    (inside : Bool) : Holds escalation (life.wait timeout inside) := by
  unfold Life.wait
  refine holds.call ?_
  cases WaitCall.begin? life.now timeout inside with
  | none => exact .left .wait inside timeout life.now (.inl rfl)
  | some wait => exact follows_waitStanding inside timeout life.now wait

theorem Holds.abandons (holds : Holds escalation life) {index : Nat}
    (other : index ≠ escalation.position)
    (steps : life.step? (.abandons index) = some next) :
    Holds escalation next := by
  rw [Life.of_abandons steps]
  refine holds.setStanding other ?_
  intro call _
  exact .left call.request call.inside call.timeout call.since (.inr rfl)

end Escalation

end Overseer
