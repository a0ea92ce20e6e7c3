import Overseer.Proofs.Lifecycle.Teardown
import Overseer.Proofs.Lifecycle.Timing

/-!
# Stops that nobody performs

The first stop of a job performs it, unless it was called from inside the body or was
given up while it waited.  Then no call ever performs the stop: a later one only waits,
as long as an escalation would take, and the job goes on as if it had not been called.
`goes_on_unstopped` states this; in `outlives_a_stop` a job is still there when a stop
from outside has returned.
-/

namespace Overseer

namespace Life

/-- Whether an occurrence is about a call, not about the job or the clock. -/
def Occurrence.isCall : Occurrence → Bool
  | .stops _ _ | .waits _ _ | .resumes _ | .abandons _ => true
  | .starts | .marks | .aborts | .enters | .finishes | .drops | .passes _ => false

/-- The first stop was called from inside the body, or it was given up. -/
def BrokenOff (life : Life) : Prop :=
  ∃ (position : Nat) (call : Call),
    life.calls[position]? = some call ∧ call.request = .stop ∧
    (∀ (index : Nat) (other : Call), life.calls[index]? = some other →
      index < position → other.request ≠ .stop) ∧
    (call.inside = true ∨ call.standing = .abandoned)

/-- A stop was begun, and a call that waits in it has nothing to do but to wait. -/
structure Unperformed (life : Life) : Prop where
  claimed : life.job.stopClaimed = true
  follow : ∀ call ∈ life.calls, ∀ stop, call.standing = .stops stop →
    ∃ deadline, stop = .following deadline

/-- How a stop from outside stands that came after another. -/
inductive Lingers (grace : Duration) (exited : Bool) : Call → Prop where
  | waits {timeout bound : Duration} {since : Instant}
      (bounded : StopCall.bound? timeout grace = some bound) :
      Lingers grace exited
        ⟨.stop, false, timeout, since, .stops (.following (since.deadline bound))⟩
  | returned {timeout : Duration} {since time : Instant}
      (met : exited = true ∨ ∃ bound, StopCall.bound? timeout grace = some bound ∧
        since.deadline bound ≤ time) :
      Lingers grace exited ⟨.stop, false, timeout, since, .returned time⟩
  | left {timeout : Duration} {since : Instant} {standing : CallStanding}
      (leaves : standing = .crashed ∨ standing = .abandoned) :
      Lingers grace exited ⟨.stop, false, timeout, since, standing⟩

variable {grace : Duration} {life next final : Life} {occurrence : Occurrence}

/-! ## What the calls do -/

theorem Teardown.unperformed (teardown : Teardown grace life)
    (broken : life.BrokenOff) : life.Unperformed := by
  obtain ⟨position, call, found, stops, first, leaves⟩ := broken
  have claimed : life.job.stopClaimed = true := by
    cases claimed : life.job.stopClaimed with
    | true => rfl
    | false =>
        have member := List.mem_of_getElem? found
        exact absurd stops ((teardown.unclaimed claimed).2 call member).1
  obtain ⟨performer, performing, performs⟩ := teardown.performed claimed
  obtain rfl : performer = position := by
    rcases Nat.lt_trichotomy performer position with earlier | same | later
    · exact absurd performs.stops (first performer performing performs.found earlier)
    · exact same
    · exact absurd stops (performs.first position call found later)
  refine ⟨claimed, ?_⟩
  intro other member stop waits
  obtain ⟨index, held⟩ := List.mem_iff_getElem?.mp member
  by_cases here : index = performer
  · rw [here, found] at held
    obtain rfl := Option.some.inj held
    rcases leaves with inside | abandoned
    · rw [teardown.own call member stops inside] at waits
      cases waits
    · rw [abandoned] at waits
      cases waits
  · exact performs.follow index other stop held here waits

theorem Unperformed.resumes (unperformed : life.Unperformed) {position : Nat}
    (steps : life.step? (.resumes position) = some next) :
    ∃ call, life.calls[position]? = some call ∧
      ((∃ deadline, call.standing = .stops (.following deadline) ∧
        next = life.setStanding position (standingOf life.now
          (StopCall.awaitExit life.now deadline life.job []
            (.following deadline)).standing)) ∨
      ∃ wait, call.standing = .waits wait ∧
        next = life.setStanding position (waitStanding life.now life.job wait)) := by
  obtain ⟨call, found, ⟨stop, waits, rfl⟩ | waiting⟩ := of_resumes steps
  · obtain ⟨deadline, rfl⟩ :=
      unperformed.follow call (List.mem_of_getElem? found) stop waits
    refine ⟨call, found, .inl ⟨deadline, waits, ?_⟩⟩
    simp [commit, StopCall.resume, StopCall.awaitExit_job]
  · exact ⟨call, found, .inr waiting⟩

theorem Unperformed.stop (unperformed : life.Unperformed) (timeout : Duration)
    (inside : Bool) :
    life.stop timeout inside = life.call .stop timeout inside (standingOf life.now
      (StopCall.follow life.now life.job timeout inside).standing) := by
  obtain ⟨same, silent, _⟩ :=
    StopCall.begin_of_claimed unperformed.claimed life.now timeout inside
  have follows : StopCall.begin life.now life.job timeout inside =
      StopCall.follow life.now life.job timeout inside := by
    simp [StopCall.begin, unperformed.claimed]
  rw [follows] at same silent
  simp [Life.stop, commit, follows, same, silent]

theorem Unperformed.of_isCall (unperformed : life.Unperformed)
    (steps : life.step? occurrence = some next) (about : occurrence.isCall = true) :
    next = { life with calls := next.calls } := by
  cases occurrence with
  | stops timeout inside =>
      cases steps
      rw [unperformed.stop]
      rfl
  | waits timeout inside =>
      cases steps
      rfl
  | resumes position =>
      obtain ⟨_, _, ⟨_, _, rfl⟩ | ⟨_, _, rfl⟩⟩ := unperformed.resumes steps
      · rfl
      · rfl
  | abandons position =>
      rw [of_abandons steps]
      rfl
  | starts | marks | aborts | enters | finishes | drops | passes time => cases about

/-- Any other occurrence does not know of the calls, and runs no hook. -/
theorem of_not_isCall (steps : life.step? occurrence = some next)
    (apart : occurrence.isCall = false) (calls : List Call) :
    ({ life with calls := calls }).step? occurrence = some { next with calls := calls } ∧
      next.calls = life.calls ∧ next.hooks = life.hooks := by
  cases occurrence with
  | starts =>
      rcases of_starts steps with ⟨unlaunched, rfl⟩ | ⟨launched, rfl⟩
      · simp [step?, Job.start, unlaunched]
      · simp [step?, Job.start, launched]
  | enters | finishes | drops =>
      simp only [step?] at steps ⊢
      split at steps
      · rename_i ready
        cases steps
        exact ⟨if_pos ready, rfl, rfl⟩
      · cases steps
  | marks | aborts | passes time =>
      cases steps
      exact ⟨rfl, rfl, rfl⟩
  | stops timeout inside | waits timeout inside | resumes position | abandons position =>
      cases apart

/-! ## A whole run -/

theorem Unperformed.step (unperformed : life.Unperformed) (sound : life.Sound)
    (steps : life.step? occurrence = some next) : next.Unperformed := by
  have claimed := (sound.step steps).grows.stopClaimed unperformed.claimed
  refine ⟨claimed, ?_⟩
  intro call member stop waits
  cases about : occurrence.isCall with
  | false =>
      rw [(of_not_isCall steps about life.calls).2.1] at member
      exact unperformed.follow call member stop waits
  | true =>
      cases occurrence with
      | stops timeout inside =>
          obtain ⟨_, _, follows, _⟩ :=
            StopCall.begin_of_claimed unperformed.claimed life.now timeout inside
          cases steps
          rcases List.mem_append.mp member with earlier | last
          · exact unperformed.follow call earlier stop waits
          · rw [List.mem_singleton.mp last] at waits
            exact follows stop (stops_of_standingOf waits)
      | waits timeout inside =>
          cases steps
          rcases List.mem_append.mp member with earlier | last
          · exact unperformed.follow call earlier stop waits
          · rw [List.mem_singleton.mp last] at waits
            dsimp only at waits
            split at waits
            · cases waits
            · exact absurd waits waitStanding_ne_stops
      | resumes position =>
          obtain ⟨_, _, ⟨deadline, _, rfl⟩ | ⟨_, _, rfl⟩⟩ := unperformed.resumes steps
          · rcases mem_setStanding member with earlier | ⟨_, _, rfl⟩
            · exact unperformed.follow call earlier stop waits
            · exact StopCall.awaitExit_follows (stops_of_standingOf waits)
          · rcases mem_setStanding member with earlier | ⟨_, _, rfl⟩
            · exact unperformed.follow call earlier stop waits
            · exact absurd waits waitStanding_ne_stops
      | abandons position =>
          rw [of_abandons steps] at member
          rcases mem_setStanding member with earlier | ⟨_, _, rfl⟩
          · exact unperformed.follow call earlier stop waits
          · cases waits
      | starts | marks | aborts | enters | finishes | drops | passes time => cases about

/-- The calls are of no account: without them the job comes as far. -/
theorem Unperformed.run (unperformed : life.Unperformed) (sound : life.Sound)
    {occurrences : List Occurrence} (runs : life.run? occurrences = some final)
    (calls : List Call) :
    ({ life with calls := calls }).run? (occurrences.filter (!·.isCall)) =
        some { final with calls := calls } ∧
      final.Unperformed ∧ final.hooks = life.hooks := by
  induction occurrences generalizing life with
  | nil =>
      cases runs
      exact ⟨rfl, unperformed, rfl⟩
  | cons occurrence rest induction =>
      obtain ⟨next, steps, continues⟩ := run?_cons runs
      obtain ⟨ran, ends, hooks⟩ :=
        induction (unperformed.step sound steps) (sound.step steps).sound continues
      cases about : occurrence.isCall with
      | true =>
          have same := unperformed.of_isCall steps about
          rw [List.filter_cons_of_neg (by simp [about])]
          rw [same] at ran hooks
          exact ⟨ran, ends, hooks⟩
      | false =>
          obtain ⟨alike, _, silent⟩ := of_not_isCall steps about calls
          rw [List.filter_cons_of_pos (by simp [about])]
          refine ⟨?_, ends, hooks.trans silent⟩
          rw [run?, List.foldlM_cons, alike]
          exact ran

/-- Only the end of the body raises the exit flag, and only an abort tells it to end. -/
theorem Unperformed.of_step (unperformed : life.Unperformed)
    (steps : life.step? occurrence = some next) :
    (next.job.exitFlag = true → life.job.exitFlag = true ∨
      occurrence = .finishes ∨ occurrence = .drops) ∧
    (next.job.aborted = true → life.job.aborted = true ∨ occurrence = .aborts) := by
  cases about : occurrence.isCall with
  | true =>
      rw [unperformed.of_isCall steps about]
      exact ⟨.inl, .inl⟩
  | false =>
      cases occurrence with
      | starts =>
          obtain ⟨_, moved⟩ := life.job.moveTo_frame .running
          rcases of_starts steps with ⟨_, rfl⟩ | ⟨_, rfl⟩
          · simp [moved]
          · exact ⟨.inl, .inl⟩
      | aborts =>
          obtain ⟨_, moved⟩ := life.job.moveTo_frame .killed
          cases steps
          simp [Job.abort, moved]
      | enters =>
          obtain ⟨_, rfl⟩ := of_enters steps
          exact ⟨.inl, .inl⟩
      | finishes =>
          obtain ⟨_, rfl⟩ := of_finishes steps
          exact ⟨fun _ => .inr (.inl rfl), .inl⟩
      | drops =>
          obtain ⟨aborted, _, rfl⟩ := of_drops steps
          exact ⟨fun _ => .inr (.inr rfl), fun _ => .inl aborted⟩
      | marks | passes time =>
          cases steps
          exact ⟨.inl, .inl⟩
      | stops timeout inside | waits timeout inside | resumes position
      | abandons position => cases about

theorem Unperformed.of_run (unperformed : life.Unperformed) (sound : life.Sound)
    {occurrences : List Occurrence} (runs : life.run? occurrences = some final) :
    (final.job.exitFlag = true → life.job.exitFlag = true ∨
      .finishes ∈ occurrences ∨ .drops ∈ occurrences) ∧
    (final.job.aborted = true → life.job.aborted = true ∨ .aborts ∈ occurrences) := by
  induction occurrences generalizing life with
  | nil =>
      cases runs
      exact ⟨.inl, .inl⟩
  | cons occurrence rest induction =>
      obtain ⟨next, steps, continues⟩ := run?_cons runs
      obtain ⟨exits, aborts⟩ := unperformed.of_step steps
      obtain ⟨later, beyond⟩ :=
        induction (unperformed.step sound steps) (sound.step steps).sound continues
      simp only [List.mem_cons]
      constructor
      · intro exited
        rcases later exited with met | finished | dropped
        · rcases exits met with before | rfl | rfl
          · exact .inl before
          · exact .inr (.inl (.inl rfl))
          · exact .inr (.inr (.inl rfl))
        · exact .inr (.inl (.inr finished))
        · exact .inr (.inr (.inr dropped))
      · intro aborted
        rcases beyond aborted with met | told
        · rcases aborts met with before | rfl
          · exact .inl before
          · exact .inr (.inl rfl)
        · exact .inr (.inr told)

/-! ## Later stops -/

/-- The stops from outside that were called since there were so many calls. -/
def Linger (grace : Duration) (count : Nat) (life : Life) : Prop :=
  ∀ (index : Nat) (call : Call), count ≤ index → life.calls[index]? = some call →
    call.request = .stop → call.inside = false → Lingers grace life.job.exitFlag call

theorem Lingers.later {exited exited' : Bool} {call : Call}
    (lingers : Lingers grace exited call) (kept : exited = true → exited' = true) :
    Lingers grace exited' call := by
  cases lingers with
  | waits bounded => exact .waits bounded
  | returned met => exact .returned (met.imp_left kept)
  | left leaves => exact .left leaves

theorem lingers_awaitExit {timeout bound : Duration} {now since : Instant} {job : Job}
    (bounded : StopCall.bound? timeout grace = some bound) :
    Lingers grace job.exitFlag
      ⟨.stop, false, timeout, since, standingOf now
        (StopCall.awaitExit now (since.deadline bound) job []
          (.following (since.deadline bound))).standing⟩ := by
  unfold StopCall.awaitExit
  split
  · rename_i met
    apply Lingers.returned
    rcases Bool.or_eq_true_iff.mp met with exited | late
    · exact .inl exited
    · exact .inr ⟨bound, bounded, of_decide_eq_true late⟩
  · exact .waits bounded

theorem lingers_follow {timeout : Duration} {now : Instant} {job : Job}
    (killGrace : job.killGrace = grace) :
    Lingers grace job.exitFlag
      ⟨.stop, false, timeout, now,
        standingOf now (StopCall.follow now job timeout false).standing⟩ := by
  simp only [StopCall.follow, Bool.false_eq_true, if_false]
  split
  · exact .left (.inl rfl)
  · rename_i bounded
    rw [killGrace] at bounded
    exact lingers_awaitExit bounded

theorem Linger.call {count : Nat} (linger : life.Linger grace count)
    {request : Request} {timeout : Duration} {inside : Bool} {standing : CallStanding}
    (lingers : request = .stop → inside = false →
      Lingers grace life.job.exitFlag ⟨request, inside, timeout, life.now, standing⟩) :
    (life.call request timeout inside standing).Linger grace count := by
  intro index call later found stops outside
  rcases Nat.lt_or_ge index life.calls.length with earlier | last
  · apply linger index call later _ stops outside
    rw [← found]
    exact (List.getElem?_append_left earlier).symm
  · simp only [Life.call] at found
    rw [List.getElem?_append_right last] at found
    obtain rfl := List.mem_singleton.mp (List.mem_of_getElem? found)
    exact lingers stops outside

theorem Linger.setStanding {count position : Nat} (linger : life.Linger grace count)
    {standing : CallStanding}
    (lingers : ∀ call, life.calls[position]? = some call → call.request = .stop →
      call.inside = false → Lingers grace life.job.exitFlag call →
        Lingers grace life.job.exitFlag { call with standing := standing }) :
    (life.setStanding position standing).Linger grace count := by
  intro index call later found stops outside
  simp only [Life.setStanding, List.getElem?_modify] at found
  by_cases here : position = index
  · rw [here] at lingers
    simp only [here, if_true] at found
    obtain ⟨before, held, rfl⟩ := Option.map_eq_some_iff.mp found
    exact lingers before held stops outside (linger index before later held stops outside)
  · simp only [here, if_false] at found
    exact linger index call later (by simpa using found) stops outside

theorem Linger.step {count : Nat} (linger : life.Linger grace count)
    (unperformed : life.Unperformed) (sound : life.Sound)
    (killGrace : life.job.killGrace = grace)
    (steps : life.step? occurrence = some next) : next.Linger grace count := by
  cases about : occurrence.isCall with
  | false =>
      have kept := (sound.step steps).grows.exitFlag
      intro index call later found stops outside
      rw [(of_not_isCall steps about life.calls).2.1] at found
      exact (linger index call later found stops outside).later kept
  | true =>
      cases occurrence with
      | stops timeout inside =>
          cases steps
          rw [unperformed.stop]
          apply linger.call
          rintro - rfl
          exact lingers_follow killGrace
      | waits timeout inside =>
          cases steps
          exact linger.call Request.noConfusion
      | resumes position =>
          obtain ⟨call, found, ⟨deadline, waits, rfl⟩ | ⟨wait, waits, rfl⟩⟩ :=
            unperformed.resumes steps
          · apply linger.setStanding
            intro other held stops outside lingers
            obtain rfl := Option.some.inj (found.symm.trans held)
            cases lingers with
            | waits bounded =>
                cases waits
                exact lingers_awaitExit bounded
            | returned met => cases waits
            | left leaves => rcases leaves with rfl | rfl <;> cases waits
          · apply linger.setStanding
            intro other held stops outside lingers
            obtain rfl := Option.some.inj (found.symm.trans held)
            cases lingers with
            | waits bounded => cases waits
            | returned met => cases waits
            | left leaves => rcases leaves with rfl | rfl <;> cases waits
      | abandons position =>
          rw [of_abandons steps]
          apply linger.setStanding
          intro call _ stops outside lingers
          cases lingers <;> exact .left (.inr rfl)
      | starts | marks | aborts | enters | finishes | drops | passes time => cases about

theorem Linger.run {count : Nat} (linger : life.Linger grace count)
    (unperformed : life.Unperformed) (sound : life.Sound) (teardown : Teardown grace life)
    {occurrences : List Occurrence} (runs : life.run? occurrences = some final) :
    final.Linger grace count := by
  induction occurrences generalizing life with
  | nil =>
      cases runs
      exact linger
  | cons occurrence rest induction =>
      obtain ⟨next, steps, continues⟩ := run?_cons runs
      exact induction (linger.step unperformed sound teardown.killGrace steps)
        (unperformed.step sound steps) (sound.step steps).sound (teardown.step steps)
        continues

/-- Another stop from outside, if nothing else happens until its wait is over. -/
theorem Unperformed.stops_in_vain (unperformed : life.Unperformed)
    (killGrace : life.job.killGrace = grace) (running : life.job.exitFlag = false)
    {timeout bound time : Duration}
    (bounded : StopCall.bound? timeout grace = some bound) (positive : 0 < bound.nanos)
    (late : life.now.deadline bound ≤ life.now + time.nanos) :
    life.run? [.stops timeout false, .passes time, .resumes life.calls.length] =
      some { life with
        now := life.now + time.nanos
        calls := life.calls ++
          [⟨.stop, false, timeout, life.now, .returned (life.now + time.nanos)⟩] } := by
  have early := Timers.onTime_exact.neverEarly.lasts positive life.now
  have waits : StopCall.follow life.now life.job timeout false =
      ⟨life.job, [], .waits (.following (life.now.deadline bound))⟩ := by
    simp only [StopCall.follow, killGrace, bounded, Bool.false_eq_true, if_false]
    exact StopCall.awaitExit_of_early running early _ _
  have returns : StopCall.awaitExit (life.now + time.nanos) (life.now.deadline bound)
      life.job [] (.following (life.now.deadline bound)) = ⟨life.job, [], .returned⟩ := by
    simp [StopCall.awaitExit, late]
  simp [run?, step?, unperformed.stop, waits, resume?, standing?, Life.call, standingOf,
    StopCall.resume, returns, commit, Life.setStanding]
  exact List.modifyTailIdx_add _ 0 life.calls _

/-- Once the first stop was broken off, the job and the clock go on as if no call were
made: no hook runs any more, and nothing but its own end or an abort raises the exit
flag.  A later stop from outside has returned only if the flag was raised or its wait
was over; and if nothing else happens, it returns with the job just as it was. -/
theorem goes_on_unstopped {name : String} {killGrace : Duration}
    {before between : List Occurrence} {life final : Life}
    (lives : (fresh name killGrace).run? before = some life)
    (broken : life.BrokenOff) (goes : life.run? between = some final) :
    life.run? (between.filter (!·.isCall)) = some { final with calls := life.calls } ∧
    final.hooks = life.hooks ∧
    (final.job.exitFlag = true → life.job.exitFlag = true ∨
      .finishes ∈ between ∨ .drops ∈ between) ∧
    (final.job.aborted = true → life.job.aborted = true ∨ .aborts ∈ between) ∧
    (∀ (index : Nat) (call : Call) (time : Instant), life.calls.length ≤ index →
      final.calls[index]? = some call → call.request = .stop → call.inside = false →
      call.standing = .returned time →
        final.job.exitFlag = true ∨
          ∃ bound, StopCall.bound? call.timeout killGrace = some bound ∧
            call.since.deadline bound ≤ time) ∧
    (0 < killGrace.nanos → final.job.exitFlag = false →
      ∀ timeout bound time : Duration,
        StopCall.bound? timeout killGrace = some bound →
        final.now.deadline bound ≤ final.now + time.nanos →
          final.run? [.stops timeout false, .passes time, .resumes final.calls.length] =
            some { final with
              now := final.now + time.nanos
              calls := final.calls ++
                [⟨.stop, false, timeout, final.now,
                  .returned (final.now + time.nanos)⟩] }) := by
  obtain ⟨sound, _⟩ := (sound_fresh name killGrace).run lives
  have teardown := (teardown_fresh name killGrace).run lives
  have unperformed := teardown.unperformed broken
  obtain ⟨ran, still, silent⟩ := unperformed.run sound goes life.calls
  have none : life.Linger killGrace life.calls.length := by
    intro index call later found
    obtain ⟨within, _⟩ := List.getElem?_eq_some_iff.mp found
    omega
  have linger := none.run unperformed sound teardown goes
  obtain ⟨exits, aborts⟩ := unperformed.of_run sound goes
  refine ⟨ran, silent, exits, aborts, ?_, ?_⟩
  · intro index call time later found stops outside returned
    have lingers := linger index call later found stops outside
    cases lingers with
    | waits bounded => cases returned
    | returned met =>
        cases returned
        exact met
    | left leaves => rcases leaves with rfl | rfl <;> cases returned
  · intro positive running timeout bound time bounded late
    have sum := StopCall.nanos_of_bound? bounded
    exact still.stops_in_vain (teardown.run goes).killGrace running bounded
      (by omega) late

/-- A stop is given up while it waits, and another one returns when its wait is over. -/
theorem goes_on_unstopped_of_given_up_stop :
    ∃ life final,
      (fresh "unit" { nanos := 100 }).run?
          [.starts, .enters, .stops { nanos := 50 } false, .abandons 0] = some life ∧
        life.BrokenOff ∧
        life.run? [.passes { nanos := 60 }, .stops { nanos := 50 } false,
          .passes { nanos := 250 }, .resumes 1] = some final ∧
        final.standing? 1 = some (.returned 310) ∧
        final.hooks = life.hooks ∧ final.job.exitFlag = false := by
  let before : List Occurrence :=
    [.starts, .enters, .stops { nanos := 50 } false, .abandons 0]
  let between : List Occurrence :=
    [.passes { nanos := 60 }, .stops { nanos := 50 } false, .passes { nanos := 250 },
      .resumes 1]
  let start := fresh "unit" { nanos := 100 }
  have begun : (start.run? before).map (·.calls) =
      some [⟨.stop, false, { nanos := 50 }, 0, .abandoned⟩] := by decide +kernel
  have ran : ((start.run? before).bind (·.run? between)).map
      (fun final => (final.standing? 1, final.job.exitFlag)) =
        some (some (.returned 310), false) := by decide +kernel
  obtain ⟨life, lives, calls⟩ := Option.map_eq_some_iff.mp begun
  rw [lives, Option.bind_some] at ran
  obtain ⟨final, goes, ends⟩ := Option.map_eq_some_iff.mp ran
  obtain ⟨returned, running⟩ := Prod.mk.inj ends
  have broken : life.BrokenOff := by
    refine ⟨0, _, by rw [calls]; rfl, rfl, ?_, .inr rfl⟩
    intro index _ _ earlier
    exact absurd earlier (Nat.not_lt_zero index)
  obtain ⟨_, silent, _⟩ := goes_on_unstopped lives broken goes
  exact ⟨life, final, lives, broken, goes, returned, silent, running⟩

/-- A body stops itself and runs on; a stop from outside returns and it is still there,
with no hook run but the first. -/
theorem outlives_a_stop :
    ((fresh "unit" { nanos := 100 }).runInTime?
        [.starts, .enters, .stops { nanos := 50 } true, .stops { nanos := 50 } false,
          .passes { nanos := 250 }, .resumes 1]).map
        (fun life => (life.standing? 1, life.job.exitFlag, life.hooks)) =
      some (some (.returned 250), false, [(0, .stop)]) := by
  decide +kernel

end Life

end Overseer
