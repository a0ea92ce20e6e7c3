import Overseer.Proofs.Lifecycle.Endurance
import Overseer.Proofs.Lifecycle.Escalation

/-!
# One teardown

Of all calls that stop a job one performs the stop, and it climbs at most three
rungs: it asks, it terminates, it kills.  `Rung` says which hooks have run and what
the call still waits for.  Any other call waits for the end or is over.  Time may
pass in any way here, and a call may be given up at any point.
-/

namespace Overseer

namespace StopCall

@[simp] theorem awaitExit_effects (now deadline : Instant) (job : Job)
    (effects : List StopEffect) (call : StopCall) :
    (awaitExit now deadline job effects call).effects = effects := by
  unfold awaitExit
  split <;> rfl

variable [Timers]

omit [Timers] in
theorem awaitExit_follows {now deadline : Instant} {job : Job}
    {effects : List StopEffect} {stop : StopCall}
    (waits : (awaitExit now deadline job effects (.following deadline)).standing =
      .waits stop) : ∃ deadline, stop = .following deadline :=
  ⟨deadline, awaitExit_waits waits⟩

/-- A call that comes after another has nothing to do but to wait. -/
theorem begin_of_claimed {job : Job} (claimed : job.stopClaimed = true)
    (now : Instant) (timeout : Duration) (inside : Bool) :
    (begin now job timeout inside).job = job ∧
      (begin now job timeout inside).effects = [] ∧
      (∀ stop, (begin now job timeout inside).standing = .waits stop →
        ∃ deadline, stop = .following deadline) ∧
      (inside = true → (begin now job timeout inside).standing = .returned) := by
  unfold begin
  rw [if_pos claimed]
  unfold follow
  split
  · exact ⟨rfl, rfl, fun _ => Standing.noConfusion, fun _ => rfl⟩
  · rename_i outside
    split
    · exact ⟨rfl, rfl, fun _ => Standing.noConfusion, fun own => absurd own outside⟩
    · refine ⟨awaitExit_job _ _ _ _ _, awaitExit_effects _ _ _ _ _, ?_,
        fun own => absurd own outside⟩
      intro stop waits
      exact awaitExit_follows waits

/-- A call from inside the body does not wait, and runs the stop hook at most. -/
theorem begin_of_inside (now : Instant) (job : Job) (timeout : Duration) :
    (begin now job timeout true).standing = .returned ∧
      ((begin now job timeout true).effects = [] ∨
        (begin now job timeout true).effects = [.hook .stop]) := by
  cases claimed : job.stopClaimed with
  | true =>
      obtain ⟨_, silent, _, returns⟩ := begin_of_claimed claimed now timeout true
      exact ⟨returns rfl, .inl silent⟩
  | false =>
      unfold begin
      simp only [claimed, Bool.false_eq_true, if_false]
      split
      · exact ⟨rfl, .inl rfl⟩
      · unfold perform
        dsimp only
        split
        · exact ⟨rfl, .inr rfl⟩
        · exact ⟨rfl, .inr rfl⟩

end StopCall

namespace Life

@[simp] theorem hooksOf_nil : hooksOf [] = [] := rfl

@[simp] theorem hooksOf_append (first second : List StopEffect) :
    hooksOf (first ++ second) = hooksOf first ++ hooksOf second :=
  List.filterMap_append

variable [Timers]

/-- How far a call that performs the stop of its job has come, where it stands: the
hooks that have run for it. -/
inductive Rung (grace : Duration) (call : Call) (standing : CallStanding) :
    List (Instant × Hook) → Prop where
  /-- The job had exited before. -/
  | spared (idle : ∀ stop, standing ≠ .stops stop) : Rung grace call standing []
  | asked
      (waits : ∀ stop, standing = .stops stop → ∃ wait,
        stop = .graceful wait ∧ call.inside = false ∧
          call.since + call.timeout.nanos ≤ wait.deadline) :
      Rung grace call standing [(call.since, .stop)]
  | terminated {time : Instant} (outside : call.inside = false)
      (late : call.since + call.timeout.nanos ≤ time)
      (waits : ∀ stop, standing = .stops stop → ∃ deadline,
        stop = .terminating deadline ∧ time.deadline grace ≤ deadline) :
      Rung grace call standing [(call.since, .stop), (time, .terminate)]
  | killed {time last : Instant} (outside : call.inside = false)
      (late : call.since + call.timeout.nanos ≤ time)
      (later : time.deadline grace ≤ last)
      (waits : ∀ stop, standing = .stops stop → ∃ deadline,
        stop = .killing deadline) :
      Rung grace call standing
        [(call.since, .stop), (time, .terminate), (last, .kill)]

/-- Where a step of a stop brings the call that performs it. -/
def Climbs (grace : Duration) (now : Instant) (call : Call)
    (hooks : List (Instant × Hook)) (step : StopCall.Step) : Prop :=
  Rung grace call (standingOf now step.standing)
    (hooks ++ (hooksOf step.effects).map (now, ·))

variable {grace : Duration} {now : Instant} {call : Call} {job : Job}
  {hooks : List (Instant × Hook)} {effects : List StopEffect}

/-! ## The steps of the call that performs the stop -/

theorem climbs_kill {time : Instant} (outside : call.inside = false)
    (late : call.since + call.timeout.nanos ≤ time)
    (later : time.deadline grace ≤ now)
    (ran : hooks ++ (hooksOf effects).map (now, ·) =
      [(call.since, .stop), (time, .terminate)]) :
    Climbs grace now call hooks (StopCall.kill now job effects) := by
  have last : hooks ++ (hooksOf (effects ++
      [.report (.jobKilled job.killGrace), .hook .kill])).map (now, ·) =
        [(call.since, .stop), (time, .terminate), (now, .kill)] := by
    rw [hooksOf_append, List.map_append, ← List.append_assoc, ran]
    rfl
  unfold Climbs StopCall.kill StopCall.awaitExit
  dsimp only
  split
  · rw [last]
    apply Rung.killed outside late later
    intro stop waits
    cases waits
  · rw [last]
    apply Rung.killed outside late later
    intro stop waits
    cases waits
    exact ⟨_, rfl⟩

theorem climbs_awaitTermination {time deadline : Instant}
    (outside : call.inside = false)
    (late : call.since + call.timeout.nanos ≤ time)
    (patient : time.deadline grace ≤ deadline)
    (ran : hooks ++ (hooksOf effects).map (now, ·) =
      [(call.since, .stop), (time, .terminate)]) :
    Climbs grace now call hooks
      (StopCall.awaitTermination now deadline job effects) := by
  unfold StopCall.awaitTermination
  split
  · unfold Climbs
    rw [ran]
    apply Rung.terminated outside late
    intro stop waits
    cases waits
  · split
    · rename_i past
      exact climbs_kill outside late (Nat.le_trans patient past) ran
    · unfold Climbs
      rw [ran]
      apply Rung.terminated outside late
      intro stop waits
      cases waits
      exact ⟨deadline, rfl, patient⟩

theorem climbs_awaitStop {wait : WaitCall} (killGrace : job.killGrace = grace)
    (outside : call.inside = false)
    (patient : call.since + call.timeout.nanos ≤ wait.deadline)
    (ran : hooks ++ (hooksOf effects).map (now, ·) = [(call.since, .stop)]) :
    Climbs grace now call hooks (StopCall.awaitStop now wait job effects) := by
  unfold StopCall.awaitStop
  split
  · unfold Climbs
    rw [ran]
    apply Rung.asked
    intro stop waits
    cases waits
    exact ⟨_, rfl, outside, patient⟩
  · unfold Climbs
    rw [ran]
    apply Rung.asked
    intro stop waits
    cases waits
  · rename_i fault timedOut
    have past : wait.deadline ≤ now := by
      unfold WaitCall.result? at timedOut
      split at timedOut
      · cases timedOut
      · split at timedOut
        · assumption
        · cases timedOut
    unfold StopCall.terminate
    rw [killGrace]
    apply climbs_awaitTermination outside (Nat.le_trans patient past)
      (Nat.le_refl _)
    rw [hooksOf_append, List.map_append, ← List.append_assoc, ran]
    rfl

theorem Rung.resume {stop : StopCall}
    (rung : Rung grace call (.stops stop) hooks) (killGrace : job.killGrace = grace) :
    Climbs grace now call hooks (stop.resume now job) := by
  cases rung with
  | spared idle => exact absurd rfl (idle stop)
  | asked still =>
      obtain ⟨wait, rfl, outside, patient⟩ := still stop rfl
      apply climbs_awaitStop killGrace outside patient
      rfl
  | terminated outside late still =>
      obtain ⟨deadline, rfl, patient⟩ := still stop rfl
      apply climbs_awaitTermination outside late patient
      rfl
  | killed outside late later still =>
      obtain ⟨deadline, rfl⟩ := still stop rfl
      unfold Climbs StopCall.resume StopCall.awaitExit
      dsimp only
      split
      · apply Rung.killed outside late later
        intro stop waits
        cases waits
      · apply Rung.killed outside late later
        intro stop waits
        cases waits
        exact ⟨deadline, rfl⟩

theorem climbs_begin {timeout : Duration} {inside : Bool}
    (unclaimed : job.stopClaimed = false) (killGrace : job.killGrace = grace)
    (standing : CallStanding) :
    Climbs grace now ⟨.stop, inside, timeout, now, standing⟩ []
      (StopCall.begin now job timeout inside) := by
  have answered (job : Job) (settled : StopCall.Standing)
      (idle : ∀ stop, settled ≠ .waits stop) :
      Climbs grace now ⟨.stop, inside, timeout, now, standing⟩ []
        ⟨job, [.hook .stop], settled⟩ := by
    apply Rung.asked
    intro stop waits
    exact absurd (stops_of_standingOf waits) (idle stop)
  have kept : ({ job with stopClaimed := true }).requestStop.killGrace = grace := by
    obtain ⟨phase, moved⟩ :=
      ({ job with stopClaimed := true }).moveTo_frame .stopRequested
    unfold Job.requestStop
    rw [moved]
    exact killGrace
  unfold StopCall.begin
  simp only [unclaimed, Bool.false_eq_true, if_false]
  split
  · apply Rung.spared
    intro stop waits
    cases waits
  · unfold StopCall.perform
    dsimp only
    split
    · exact answered _ _ fun _ => StopCall.Standing.noConfusion
    · split
      · exact answered _ _ fun _ => StopCall.Standing.noConfusion
      · rename_i outside
        split
        · exact answered _ _ fun _ => StopCall.Standing.noConfusion
        · rename_i wait begun
          obtain ⟨deadline, held, rfl⟩ := Option.map_eq_some_iff.mp begun
          have sum : now + timeout.nanos = deadline := by
            unfold Instant.after? at held
            split at held
            · exact Option.some.inj held
            · cases held
          apply climbs_awaitStop kept
          · simpa using outside
          · exact Nat.le_of_eq sum
          · rfl

/-! ## A job that has exited -/

/-- A call performs the stop of a job: no stop was called before it, and others wait
at most for the end. -/
structure Performs (grace : Duration) (life : Life) (performer : Nat)
    (call : Call) : Prop where
  found : life.calls[performer]? = some call
  stops : call.request = .stop
  rung : Rung grace call call.standing life.hooks
  first : ∀ index other, life.calls[index]? = some other →
    index < performer → other.request ≠ .stop
  follow : ∀ index other stop, life.calls[index]? = some other →
    index ≠ performer → other.standing = .stops stop →
      ∃ deadline, stop = .following deadline

/-- How the calls to a job stand. -/
structure Teardown (grace : Duration) (life : Life) : Prop where
  killGrace : life.job.killGrace = grace
  unclaimed : life.job.stopClaimed = false → life.hooks = [] ∧
    ∀ call ∈ life.calls, call.request ≠ .stop ∧
      ∀ stop, call.standing ≠ .stops stop
  performed : life.job.stopClaimed = true →
    ∃ performer call, Performs grace life performer call
  own : ∀ call ∈ life.calls, call.request = .stop → call.inside = true →
    call.standing = .returned call.since

variable {life next : Life} {performer : Nat}

theorem Rung.withStanding {standing : CallStanding}
    (rung : Rung grace call standing hooks) (other : CallStanding) :
    Rung grace { call with standing := other } standing hooks := by
  cases rung with
  | spared idle => exact .spared idle
  | asked waits => exact .asked waits
  | terminated outside late waits => exact .terminated outside late waits
  | killed outside late later waits => exact .killed outside late later waits

theorem Rung.leave {standing : CallStanding}
    (rung : Rung grace call standing hooks) {other : CallStanding}
    (idle : ∀ stop, other ≠ .stops stop) : Rung grace call other hooks := by
  cases rung with
  | spared _ => exact .spared idle
  | asked _ => exact .asked fun stop waits => absurd waits (idle stop)
  | terminated outside late _ =>
      exact .terminated outside late fun stop waits => absurd waits (idle stop)
  | killed outside late later _ =>
      exact .killed outside late later fun stop waits => absurd waits (idle stop)

theorem Performs.calls (performs : Performs grace life performer call)
    (request : Request) (timeout : Duration) (inside : Bool)
    {standing : CallStanding}
    (follows : ∀ stop, standing = .stops stop →
      ∃ deadline, stop = .following deadline) :
    Performs grace (life.call request timeout inside standing) performer call := by
  obtain ⟨known, _⟩ := List.getElem?_eq_some_iff.mp performs.found
  constructor
  · rw [← performs.found]
    exact List.getElem?_append_left known
  · exact performs.stops
  · exact performs.rung
  · intro index other found earlier
    apply performs.first index other _ earlier
    rw [← found]
    exact (List.getElem?_append_left (Nat.lt_trans earlier known)).symm
  · intro index other stop found elsewhere waits
    rcases Nat.lt_or_ge index life.calls.length with within | last
    · apply performs.follow index other stop _ elsewhere waits
      rw [← found]
      exact (List.getElem?_append_left within).symm
    · simp only [Life.call] at found
      rw [List.getElem?_append_right last] at found
      rw [List.mem_singleton.mp (List.mem_of_getElem? found)] at waits
      exact follows stop waits

/-- Some call stands elsewhere: the one that performs the stop at a rung, any other
with nothing to do but to wait. -/
theorem Performs.setStanding (performs : Performs grace life performer call)
    {position : Nat} {standing : CallStanding} {after : List (Instant × Hook)}
    {job : Job}
    (here : position = performer → Rung grace call standing after)
    (elsewhere : position ≠ performer → after = life.hooks ∧
      ∀ stop, standing = .stops stop → ∃ deadline, stop = .following deadline) :
    ∃ call, Performs grace
      (({ life with job := job, hooks := after }).setStanding position standing)
      performer call := by
  have changed (index : Nat) : ((({ life with job := job, hooks := after }).setStanding
      position standing).calls)[index]? =
        if position = index then
          (life.calls[index]?).map ({ · with standing := standing })
        else life.calls[index]? := by
    simp only [Life.setStanding, List.getElem?_modify]
    split
    · rfl
    · cases life.calls[index]? <;> rfl
  have before {index : Nat} {other : Call}
      (found : ((({ life with job := job, hooks := after }).setStanding
        position standing).calls)[index]? = some other) :
      ∃ old, life.calls[index]? = some old ∧ other.request = old.request ∧
        (position ≠ index → other = old) ∧
        (position = index → other.standing = standing) := by
    rw [changed] at found
    split at found
    · rename_i same
      obtain ⟨old, held, rfl⟩ := Option.map_eq_some_iff.mp found
      exact ⟨old, held, rfl, fun apart => absurd same apart, fun _ => rfl⟩
    · rename_i apart
      exact ⟨other, found, rfl, fun _ => rfl, fun same => absurd same apart⟩
  refine ⟨if position = performer then { call with standing := standing } else call,
    ?_, ?_, ?_, ?_, ?_⟩
  · rw [changed, performs.found]
    split <;> rfl
  · split
    · exact performs.stops
    · exact performs.stops
  · split
    · rename_i same
      exact (here same).withStanding standing
    · rename_i apart
      change Rung grace call call.standing after
      rw [(elsewhere apart).1]
      exact performs.rung
  · intro index other found earlier
    obtain ⟨old, held, same, _⟩ := before found
    rw [same]
    exact performs.first index old held earlier
  · intro index other stop found apart waits
    obtain ⟨old, held, _, kept, moved⟩ := before found
    by_cases same : position = index
    · rw [moved same] at waits
      apply (elsewhere _).2 stop waits
      rw [same]
      exact apart
    · rw [kept same] at waits
      exact performs.follow index old stop held apart waits

/-! ## What happens to the job -/

theorem Teardown.congr (teardown : Teardown grace life)
    (killGrace : next.job.killGrace = life.job.killGrace)
    (claimed : next.job.stopClaimed = life.job.stopClaimed)
    (calls : next.calls = life.calls) (hooks : next.hooks = life.hooks) :
    Teardown grace next := by
  constructor
  · exact killGrace.trans teardown.killGrace
  · rw [claimed, calls, hooks]
    exact teardown.unclaimed
  · intro asked
    rw [claimed] at asked
    obtain ⟨performer, call, performs⟩ := teardown.performed asked
    refine ⟨performer, call, ?_, performs.stops, ?_, ?_, ?_⟩
    · rw [calls]
      exact performs.found
    · rw [hooks]
      exact performs.rung
    · rw [calls]
      exact performs.first
    · rw [calls]
      exact performs.follow
  · rw [calls]
    exact teardown.own

theorem teardown_fresh (name : String) (killGrace : Duration) :
    Teardown killGrace (fresh name killGrace) := by
  constructor
  · rfl
  · simp [fresh]
  · intro claimed
    cases claimed
  · simp [fresh]

/-! ## What happens to the calls -/

omit [Timers] in
theorem returned_of_own (life : Life)
    (own : ∀ call ∈ life.calls, call.request = .stop → call.inside = true →
      call.standing = .returned call.since)
    {request : Request} {timeout : Duration} {inside : Bool}
    {standing : CallStanding}
    (returns : request = .stop → inside = true → standing = .returned life.now) :
    ∀ call ∈ (life.call request timeout inside standing).calls,
      call.request = .stop → call.inside = true →
        call.standing = .returned call.since := by
  intro call member stops inner
  rcases List.mem_append.mp member with earlier | last
  · exact own call earlier stops inner
  · rw [List.mem_singleton.mp last] at stops inner ⊢
    exact returns stops inner

theorem Teardown.waits (teardown : Teardown grace life) (timeout : Duration)
    (inside : Bool) : Teardown grace (life.wait timeout inside) := by
  obtain ⟨standing, calls, idle⟩ : ∃ standing,
      life.wait timeout inside = life.call .wait timeout inside standing ∧
        ∀ stop, standing ≠ .stops stop := by
    unfold Life.wait
    split
    · exact ⟨_, rfl, fun _ => CallStanding.noConfusion⟩
    · exact ⟨_, rfl, fun _ => waitStanding_ne_stops⟩
  rw [calls]
  constructor
  · exact teardown.killGrace
  · intro unclaimed
    obtain ⟨silent, waiting⟩ := teardown.unclaimed unclaimed
    refine ⟨silent, ?_⟩
    intro call member
    rcases List.mem_append.mp member with earlier | last
    · exact waiting call earlier
    · rw [List.mem_singleton.mp last]
      exact ⟨Request.noConfusion, idle⟩
  · intro claimed
    obtain ⟨performer, call, performs⟩ := teardown.performed claimed
    refine ⟨performer, call, performs.calls .wait timeout inside ?_⟩
    intro stop waits
    exact absurd waits (idle stop)
  · exact returned_of_own life teardown.own Request.noConfusion

theorem Teardown.stops (teardown : Teardown grace life) (timeout : Duration)
    (inside : Bool) : Teardown grace (life.stop timeout inside) := by
  obtain ⟨kept, asked⟩ :=
    StopCall.begin_claims life.now life.job timeout inside
  have returns : Request.stop = .stop → inside = true →
      standingOf life.now (StopCall.begin life.now life.job timeout
        inside).standing = .returned life.now := by
    rintro - rfl
    rw [(StopCall.begin_of_inside life.now life.job timeout).1]
    rfl
  constructor
  · exact kept.trans teardown.killGrace
  · intro unclaimed
    rw [show (life.stop timeout inside).job.stopClaimed = true from asked]
      at unclaimed
    cases unclaimed
  · intro _
    cases claimed : life.job.stopClaimed with
    | true =>
        obtain ⟨same, silent, follows, _⟩ :=
          StopCall.begin_of_claimed claimed life.now timeout inside
        obtain ⟨performer, call, performs⟩ := teardown.performed claimed
        refine ⟨performer, call, ?_⟩
        unfold Life.stop commit
        dsimp only
        rw [same, silent, hooksOf_nil, List.map_nil, List.append_nil]
        apply performs.calls
        intro stop waits
        exact follows stop (stops_of_standingOf waits)
    | false =>
        obtain ⟨silent, waiting⟩ := teardown.unclaimed claimed
        refine ⟨life.calls.length, _, List.getElem?_concat_length, rfl, ?_, ?_, ?_⟩
        · have climbs := @climbs_begin _ grace life.now life.job timeout inside
            claimed teardown.killGrace (standingOf life.now
              (StopCall.begin life.now life.job timeout inside).standing)
          unfold Climbs at climbs
          rw [← silent] at climbs
          exact climbs
        · intro index other found earlier
          apply (waiting other _).1
          apply List.mem_of_getElem?
          rw [← found]
          exact (List.getElem?_append_left earlier).symm
        · intro index other stop found elsewhere waits
          have within : index < life.calls.length := by
            obtain ⟨known, _⟩ := List.getElem?_eq_some_iff.mp found
            simp only [Life.stop, Life.call, commit, List.length_append,
              List.length_singleton] at known
            omega
          refine absurd waits ((waiting other ?_).2 stop)
          apply List.mem_of_getElem?
          rw [← found]
          exact (List.getElem?_append_left within).symm
  · exact returned_of_own (life.commit _) teardown.own returns

theorem of_resumes {position : Nat}
    (steps : life.step? (.resumes position) = some next) :
    ∃ call, life.calls[position]? = some call ∧
      ((∃ stop, call.standing = .stops stop ∧
        next = (life.commit (stop.resume life.now life.job)).setStanding position
          (standingOf life.now (stop.resume life.now life.job).standing)) ∨
      (∃ wait, call.standing = .waits wait ∧
        next = life.setStanding position
          (waitStanding life.now life.job wait))) := by
  unfold step? resume? at steps
  dsimp only at steps
  split at steps
  · rename_i stop stands
    obtain ⟨call, found, same⟩ := Option.map_eq_some_iff.mp stands
    exact ⟨call, found, .inl ⟨stop, same, (Option.some.inj steps).symm⟩⟩
  · rename_i wait stands
    obtain ⟨call, found, same⟩ := Option.map_eq_some_iff.mp stands
    exact ⟨call, found, .inr ⟨wait, same, (Option.some.inj steps).symm⟩⟩
  · cases steps

theorem not_returned_of_abandons {position : Nat}
    (steps : life.step? (.abandons position) = some next) :
    ∃ call, life.calls[position]? = some call ∧
      ∀ time, call.standing ≠ .returned time := by
  unfold step? abandon? at steps
  dsimp only at steps
  split at steps
  · rename_i stop stands
    obtain ⟨call, found, same⟩ := Option.map_eq_some_iff.mp stands
    refine ⟨call, found, ?_⟩
    simp [same]
  · rename_i wait stands
    obtain ⟨call, found, same⟩ := Option.map_eq_some_iff.mp stands
    refine ⟨call, found, ?_⟩
    simp [same]
  · cases steps

theorem Teardown.setStanding (teardown : Teardown grace life) {position : Nat}
    {standing : CallStanding} (after : List (Instant × Hook)) (job : Job)
    (killGrace : job.killGrace = life.job.killGrace)
    (claimed : job.stopClaimed = life.job.stopClaimed)
    (waited : ∃ call, life.calls[position]? = some call ∧
      ∀ time, call.standing ≠ .returned time)
    (idle : life.job.stopClaimed = false →
      after = life.hooks ∧ ∀ stop, standing ≠ .stops stop)
    (here : ∀ call, Performs grace life position call →
      Rung grace call standing after)
    (elsewhere : ∀ performer call, Performs grace life performer call →
      position ≠ performer → after = life.hooks ∧
        ∀ stop, standing = .stops stop → ∃ deadline, stop = .following deadline) :
    Teardown grace
      (({ life with job := job, hooks := after }).setStanding position
        standing) := by
  constructor
  · exact killGrace.trans teardown.killGrace
  · intro unclaimed
    have before : life.job.stopClaimed = false := claimed.symm.trans unclaimed
    obtain ⟨silent, waiting⟩ := teardown.unclaimed before
    obtain ⟨same, returned⟩ := idle before
    refine ⟨same.trans silent, ?_⟩
    intro call member
    rcases mem_setStanding member with earlier | ⟨old, held, rfl⟩
    · exact waiting call earlier
    · exact ⟨(waiting old held).1, returned⟩
  · intro asked
    obtain ⟨performer, call, performs⟩ :=
      teardown.performed (claimed.symm.trans asked)
    refine ⟨performer, performs.setStanding ?_ (elsewhere performer call performs)⟩
    rintro rfl
    exact here call performs
  · intro call member stops inner
    obtain ⟨index, found⟩ := List.mem_iff_getElem?.mp member
    simp only [Life.setStanding, List.getElem?_modify] at found
    obtain ⟨old, held, running⟩ := waited
    by_cases same : position = index
    · subst same
      rw [held] at found
      simp only [if_true] at found
      obtain rfl := Option.some.inj found
      have own := teardown.own old (List.mem_of_getElem? held) stops inner
      exact absurd own (running _)
    · simp only [same, if_false] at found
      exact teardown.own call
        (List.mem_of_getElem? (by simpa using found : life.calls[index]? = some call)) stops inner

theorem Teardown.resumes (teardown : Teardown grace life) {position : Nat}
    (steps : life.step? (.resumes position) = some next) :
    Teardown grace next := by
  obtain ⟨call, found, moves⟩ := of_resumes steps
  rcases moves with ⟨stop, stands, rfl⟩ | ⟨wait, stands, rfl⟩
  · obtain ⟨phase, aborted, frame⟩ :=
      StopCall.resume_frame life.now life.job stop
    have killGrace : (stop.resume life.now life.job).job.killGrace =
        life.job.killGrace := by rw [frame]
    have claimed : (stop.resume life.now life.job).job.stopClaimed =
        life.job.stopClaimed := by rw [frame]
    apply teardown.setStanding _ _ killGrace claimed
    · refine ⟨call, found, ?_⟩
      simp [stands]
    · intro unclaimed
      obtain ⟨_, waiting⟩ := teardown.unclaimed unclaimed
      have idle := (waiting call (List.mem_of_getElem? found)).2 stop
      exact absurd stands idle
    · intro performing performs
      obtain rfl : call = performing :=
        Option.some.inj (found.symm.trans performs.found)
      have rung := performs.rung
      rw [stands] at rung
      exact rung.resume teardown.killGrace
    · intro performer other performs apart
      obtain ⟨deadline, rfl⟩ := performs.follow position call stop found apart stands
      constructor
      · simp [StopCall.resume]
      · intro next waits
        exact StopCall.awaitExit_follows (stops_of_standingOf waits)
  · apply teardown.setStanding life.hooks life.job rfl rfl
    · refine ⟨call, found, ?_⟩
      simp [stands]
    · exact fun _ => ⟨rfl, fun _ => waitStanding_ne_stops⟩
    · intro performing performs
      exact performs.rung.leave fun _ => waitStanding_ne_stops
    · intro _ _ _ _
      exact ⟨rfl, fun _ waits => absurd waits waitStanding_ne_stops⟩

theorem Teardown.abandons (teardown : Teardown grace life) {position : Nat}
    (steps : life.step? (.abandons position) = some next) :
    Teardown grace next := by
  have waited := not_returned_of_abandons steps
  rw [of_abandons steps]
  apply teardown.setStanding life.hooks life.job rfl rfl waited
  · exact fun _ => ⟨rfl, fun _ => CallStanding.noConfusion⟩
  · intro performing performs
    exact performs.rung.leave fun _ => CallStanding.noConfusion
  · intro _ _ _ _
    exact ⟨rfl, fun _ waits => CallStanding.noConfusion waits⟩

/-! ## One step and many -/

theorem Teardown.step {occurrence : Occurrence} (teardown : Teardown grace life)
    (steps : life.step? occurrence = some next) : Teardown grace next := by
  cases occurrence with
  | starts =>
      rcases of_starts steps with ⟨_, rfl⟩ | ⟨_, rfl⟩
      · obtain ⟨phase, moved⟩ := life.job.moveTo_frame .running
        refine teardown.congr ?_ ?_ rfl rfl
        · rw [moved]
        · rw [moved]
      · exact teardown
  | marks =>
      cases steps
      exact teardown.congr rfl rfl rfl rfl
  | aborts =>
      cases steps
      obtain ⟨phase, moved⟩ := life.job.moveTo_frame .killed
      refine teardown.congr ?_ ?_ rfl rfl
      · simp [Job.abort, moved]
      · simp [Job.abort, moved]
  | enters =>
      obtain ⟨_, rfl⟩ := of_enters steps
      exact teardown.congr rfl rfl rfl rfl
  | finishes =>
      obtain ⟨_, rfl⟩ := of_finishes steps
      exact teardown.congr rfl rfl rfl rfl
  | drops =>
      obtain ⟨_, _, rfl⟩ := of_drops steps
      refine teardown.congr ?_ ?_ rfl rfl
      · unfold Job.drop
        split <;> rfl
      · unfold Job.drop
        split <;> rfl
  | stops timeout inside =>
      cases steps
      exact teardown.stops timeout inside
  | waits timeout inside =>
      cases steps
      exact teardown.waits timeout inside
  | resumes position => exact teardown.resumes steps
  | abandons position => exact teardown.abandons steps
  | passes time =>
      cases steps
      exact teardown.congr rfl rfl rfl rfl

theorem Teardown.run {occurrences : List Occurrence} {final : Life}
    (teardown : Teardown grace life) (runs : life.run? occurrences = some final) :
    Teardown grace final := by
  induction occurrences generalizing life with
  | nil =>
      cases runs
      exact teardown
  | cons occurrence rest induction =>
      obtain ⟨next, steps, continues⟩ := run?_cons runs
      exact induction (teardown.step steps) continues

/-! ## Which hooks run -/

end Life

end Overseer
