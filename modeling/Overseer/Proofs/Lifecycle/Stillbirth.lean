import Overseer.Proofs.Lifecycle.Departure

/-!
# Jobs that are over before they begin

A life that is over and whose body was not entered goes on without it: the body was
withdrawn by a stop, or its task is told to end.  The exception is a job that was aborted
before anything else was asked of it.  An abort leaves its body to be launched, so that the
job counts as alive although it was never started, and a start that follows runs the body
of a job that was killed.

How a life began is read off its first start or stop.
-/

namespace Overseer

namespace Job

/-- A body that is still to be entered although the life of the job is over is told to
end. -/
def Doomed (job : Job) : Prop :=
  job.body = .scheduled → job.phase.isFinal = true → job.aborted = true

variable {job : Job}

theorem doomed_of_body (elsewhere : job.body ≠ .scheduled) : job.Doomed :=
  fun scheduled _ => absurd scheduled elsewhere

theorem Doomed.moveTo (doomed : job.Doomed) {phase : Phase} (goes_on : phase.isFinal = false) :
    (job.moveTo phase).Doomed := by
  unfold Job.moveTo
  split
  · exact doomed
  · intro _ final
    rw [goes_on] at final
    cases final

theorem doomed_abort (job : Job) : job.abort.Doomed := by
  intro scheduled _
  rw [body_abort] at scheduled
  simp [Job.abort, scheduled, Body.hasTask]

end Job

namespace StopCall

variable {job : Job}

theorem awaitTermination_doomed (doomed : job.Doomed) (now deadline : Instant)
    (effects : List StopEffect) : (awaitTermination now deadline job effects).job.Doomed := by
  unfold awaitTermination
  split
  · exact doomed
  · split
    · unfold kill
      rw [awaitExit_job]
      exact job.doomed_abort
    · exact doomed

theorem awaitStop_doomed (doomed : job.Doomed) (now : Instant) (wait : WaitCall)
    (effects : List StopEffect) : (awaitStop now wait job effects).job.Doomed := by
  unfold awaitStop
  split
  · exact doomed
  · exact doomed
  · exact awaitTermination_doomed (doomed.moveTo rfl) _ _ _

theorem resume_doomed (doomed : job.Doomed) (now : Instant) (call : StopCall) :
    (call.resume now job).job.Doomed := by
  cases call with
  | following deadline | killing deadline =>
      unfold resume
      rw [awaitExit_job]
      exact doomed
  | graceful wait => exact awaitStop_doomed doomed now wait []
  | terminating deadline => exact awaitTermination_doomed doomed now deadline []

theorem begin_doomed (doomed : job.Doomed) (now : Instant) (timeout : Duration)
    (inside : Bool) : (begin now job timeout inside).job.Doomed := by
  have requested : ({ job with stopClaimed := true }).requestStop.Doomed := by
    have claimed : ({ job with stopClaimed := true } : Job).Doomed := doomed
    have goes_on : Phase.isFinal .stopRequested = false := rfl
    exact claimed.moveTo goes_on
  unfold begin
  split
  · unfold follow
    split
    · exact doomed
    · split
      · exact doomed
      · rw [awaitExit_job]
        exact doomed
  · dsimp only
    split
    · exact doomed
    · unfold perform
      dsimp only
      split
      · exact Job.doomed_of_body Body.noConfusion
      · split
        · exact requested
        · split
          · exact requested
          · exact awaitStop_doomed requested now _ _

end StopCall

namespace Life

variable {life next final : Life} {occurrence : Occurrence} {before between : List Occurrence}

/-! ## Lives that are over -/

theorem doomed_step (doomed : life.job.Doomed) (launched : life.job.body ≠ .unlaunched)
    (steps : life.step? occurrence = some next) : next.job.Doomed := by
  cases occurrence with
  | starts =>
      rcases of_starts steps with ⟨unlaunched, _⟩ | ⟨_, rfl⟩
      · exact absurd unlaunched launched
      · exact doomed
  | aborts =>
      cases steps
      exact life.job.doomed_abort
  | enters =>
      obtain ⟨_, rfl⟩ := of_enters steps
      exact Job.doomed_of_body Body.noConfusion
  | finishes =>
      obtain ⟨_, rfl⟩ := of_finishes steps
      exact Job.doomed_of_body Body.noConfusion
  | drops =>
      obtain ⟨_, _, rfl⟩ := of_drops steps
      apply Job.doomed_of_body
      unfold Job.drop
      split <;> exact Body.noConfusion
  | stops timeout inside =>
      cases steps
      exact StopCall.begin_doomed doomed life.now timeout inside
  | resumes position =>
      unfold step? resume? at steps
      dsimp only at steps
      split at steps
      · rename_i stop _
        cases steps
        exact StopCall.resume_doomed doomed life.now stop
      · cases steps
        exact doomed
      · cases steps
  | abandons position =>
      rw [of_abandons steps]
      exact doomed
  | marks | waits timeout inside | passes time =>
      cases steps
      exact doomed

theorem launched_step (sound : life.Sound) (launched : life.job.body ≠ .unlaunched)
    (steps : life.step? occurrence = some next) :
    next.job.body ≠ .unlaunched ∧
      (life.job.body = .withdrawn ↔ next.job.body = .withdrawn) := by
  have body := (sound.step steps).body
  generalize life.job.body = earlier at launched body
  generalize next.job.body = later at body
  cases body with
  | stays => exact ⟨launched, Iff.rfl⟩
  | launched | withdrawn timeout inside => exact absurd rfl launched
  | entered | finished => simp
  | dropped hasTask =>
      refine ⟨Body.noConfusion, ?_⟩
      constructor
      · rintro rfl
        cases hasTask
      · exact Body.noConfusion

theorem lowered_of_enters (steps : life.step? .enters = some next) :
    life.job.aborted = false := by
  unfold step? at steps
  dsimp only at steps
  split at steps
  · rename_i ready
    exact ready.2
  · cases steps

/-- A life that is over is not taken up again: no later start does anything, and the body
is not entered any more. -/
theorem Sound.stays_over (sound : life.Sound) (doomed : life.job.Doomed)
    (launched : life.job.body ≠ .unlaunched) (isOver : life.job.phase.isFinal = true)
    (goes : life.run? between = some final) :
    final.job.body ≠ .unlaunched ∧ final.entries = life.entries := by
  induction between generalizing life with
  | nil =>
      cases goes
      exact ⟨launched, rfl⟩
  | cons occurrence rest induction =>
      obtain ⟨next, steps, continues⟩ := run?_cons goes
      have goesOn := sound.step steps
      have still : next.job.phase.isFinal = true := by
        rw [goesOn.grows.final isOver]
        exact isOver
      have entries : next.entries = life.entries := by
        apply entries_of_step steps
        rintro rfl
        have told := doomed (of_enters steps).1 isOver
        rw [lowered_of_enters steps] at told
        cases told
      rw [← entries]
      exact induction goesOn.sound (doomed_step doomed launched steps)
        (launched_step sound launched steps).1 still continues

/-! ## How a life began -/

def Occurrence.opens : Occurrence → Bool
  | .starts | .stops _ _ => true
  | _ => false

/-- The first start or stop. -/
def opening? (occurrences : List Occurrence) : Option Occurrence :=
  occurrences.find? Occurrence.opens

/-- What came before the first start and the first stop. -/
def preamble (occurrences : List Occurrence) : List Occurrence :=
  occurrences.takeWhile fun occurrence => !occurrence.opens

theorem opening?_append_of_some {first : Occurrence} (opened : opening? before = some first)
    (occurrence : Occurrence) : opening? (before ++ [occurrence]) = some first := by
  unfold opening? at opened ⊢
  rw [List.find?_append, opened, Option.some_or]

theorem opening?_append_of_none (unopened : opening? before = none)
    (occurrence : Occurrence) :
    opening? (before ++ [occurrence]) = if occurrence.opens then some occurrence else none := by
  unfold opening? at unopened ⊢
  rw [List.find?_append, unopened, Option.none_or]
  cases opens : occurrence.opens with
  | true => rw [List.find?_cons_of_pos opens, if_pos rfl]
  | false => simp [opens]

theorem preamble_append_of_some {first : Occurrence} (opened : opening? before = some first)
    (occurrence : Occurrence) : preamble (before ++ [occurrence]) = preamble before := by
  obtain ⟨opens, earlier, later, rfl, quiet⟩ := List.find?_eq_some_iff_append.mp opened
  unfold preamble
  rw [List.append_assoc, List.takeWhile_append_of_pos quiet, List.takeWhile_append_of_pos quiet]
  simp [opens]

theorem preamble_append_of_none (unopened : opening? before = none)
    (rest : List Occurrence) : preamble (before ++ rest) = before ++ preamble rest := by
  apply List.takeWhile_append_of_pos
  simpa [opening?] using unopened

def NoStopWaits (life : Life) : Prop :=
  ∀ call ∈ life.calls, ∀ stop, call.standing ≠ .stops stop

theorem NoStopWaits.setStanding (no_stop : life.NoStopWaits) (position : Nat)
    {standing : CallStanding} (other : ∀ stop, standing ≠ .stops stop) :
    (life.setStanding position standing).NoStopWaits := by
  intro call member
  rcases mem_setStanding member with earlier | ⟨_, _, rfl⟩
  · exact no_stop call earlier
  · exact other

theorem NoStopWaits.waits (no_stop : life.NoStopWaits) (timeout : Duration) (inside : Bool) :
    (life.wait timeout inside).NoStopWaits := by
  intro call member stop
  rcases List.mem_append.mp member with earlier | last
  · exact no_stop call earlier stop
  · rw [List.mem_singleton.mp last]
    dsimp only
    split
    · exact CallStanding.noConfusion
    · exact waitStanding_ne_stops

theorem NoStopWaits.resumes (no_stop : life.NoStopWaits) {position : Nat}
    (steps : life.step? (.resumes position) = some next) :
    next.job = life.job ∧ next.NoStopWaits := by
  unfold step? resume? at steps
  dsimp only at steps
  split at steps
  · rename_i stop stands
    obtain ⟨call, member, standing⟩ := mem_of_standing? stands
    exact absurd standing (no_stop call member stop)
  · cases steps
    exact ⟨rfl, no_stop.setStanding position fun _ => waitStanding_ne_stops⟩
  · cases steps

/-- A job that no one started or stopped. -/
structure Untouched (before : List Occurrence) (life : Life) : Prop where
  unopened : opening? before = none
  unlaunched : life.job.body = .unlaunched
  untold : life.job.aborted = false
  phase : life.job.phase = if .aborts ∈ before then .killed else .created
  no_stop : life.NoStopWaits

/-- What the first start or stop tells of the body. -/
inductive Opening (before : List Occurrence) (life : Life) : Prop
  | absent (untouched : Untouched before life)
  | stop {timeout : Duration} {inside : Bool}
      (opened : opening? before = some (.stops timeout inside))
      (withdrawn : life.job.body = .withdrawn)
  | start (opened : opening? before = some .starts) (launched : life.job.body ≠ .unlaunched)
      (kept : life.job.body ≠ .withdrawn)
      (doomed : .aborts ∉ preamble before → life.job.Doomed)

theorem untouched_fresh (name : String) (killGrace : Duration) :
    Untouched [] (fresh name killGrace) :=
  ⟨rfl, rfl, rfl, rfl, by simp [NoStopWaits, fresh]⟩

namespace Untouched

/-- The first start; if no one aborted the job before, it runs. -/
theorem starts (untouched : Untouched before life)
    (steps : life.step? .starts = some next) : Opening (before ++ [.starts]) next := by
  have opened : opening? (before ++ [.starts]) = some .starts :=
    opening?_append_of_none untouched.unopened .starts
  rcases of_starts steps with ⟨_, rfl⟩ | ⟨launched, _⟩
  · refine .start opened Body.noConfusion Body.noConfusion ?_
    intro unaborted _ isOver
    rw [preamble_append_of_none untouched.unopened] at unaborted
    have created : life.job.phase = .created := by
      rw [untouched.phase, if_neg]
      exact fun aborted => unaborted (List.mem_append_left _ aborted)
    simp [Job.moveTo, created, Phase.isFinal] at isOver
  · exact absurd untouched.unlaunched launched

theorem stops (untouched : Untouched before life) (sound : life.Sound) (timeout : Duration)
    (inside : Bool) :
    Opening (before ++ [.stops timeout inside]) (life.stop timeout inside) := by
  refine .stop (opening?_append_of_none untouched.unopened _) ?_
  have body := StopCall.body_begin sound.job life.now timeout inside
  rw [if_pos untouched.unlaunched] at body
  exact body

theorem aborts (untouched : Untouched before life) :
    Untouched (before ++ [.aborts]) { life with job := life.job.abort } where
  unopened := opening?_append_of_none untouched.unopened .aborts
  unlaunched := life.job.body_abort.trans untouched.unlaunched
  untold := by simp [Job.abort, untouched.untold, untouched.unlaunched, Body.hasTask]
  phase := by
    have phase := untouched.phase
    split at phase <;> simp [Job.abort, Job.moveTo, Phase.isFinal, phase]
  no_stop := untouched.no_stop

theorem congr (untouched : Untouched before life) (silent : occurrence.opens = false)
    (other : occurrence ≠ .aborts) (body : next.job.body = life.job.body)
    (aborted : next.job.aborted = life.job.aborted) (phase : next.job.phase = life.job.phase)
    (no_stop : next.NoStopWaits) : Untouched (before ++ [occurrence]) next where
  unopened := by
    rw [opening?_append_of_none untouched.unopened, silent]
    rfl
  unlaunched := body.trans untouched.unlaunched
  untold := aborted.trans untouched.untold
  phase := by
    rw [phase, untouched.phase]
    simp [other.symm]
  no_stop := no_stop

theorem step (untouched : Untouched before life) (sound : life.Sound)
    (steps : life.step? occurrence = some next) : Opening (before ++ [occurrence]) next := by
  cases occurrence with
  | starts => exact untouched.starts steps
  | stops timeout inside =>
      cases steps
      exact untouched.stops sound timeout inside
  | aborts =>
      cases steps
      exact .absent untouched.aborts
  | enters =>
      obtain ⟨scheduled, _⟩ := of_enters steps
      rw [untouched.unlaunched] at scheduled
      cases scheduled
  | finishes =>
      obtain ⟨underway, _⟩ := of_finishes steps
      rw [untouched.unlaunched] at underway
      cases underway
  | drops =>
      obtain ⟨aborted, _⟩ := of_drops steps
      rw [untouched.untold] at aborted
      cases aborted
  | resumes position =>
      obtain ⟨same, no_stop⟩ := untouched.no_stop.resumes steps
      exact .absent (untouched.congr rfl Occurrence.noConfusion (by rw [same]) (by rw [same])
        (by rw [same]) no_stop)
  | abandons position =>
      rw [of_abandons steps]
      exact .absent (untouched.congr rfl Occurrence.noConfusion rfl rfl rfl
        (untouched.no_stop.setStanding position fun _ => CallStanding.noConfusion))
  | waits timeout inside =>
      cases steps
      exact .absent (untouched.congr rfl Occurrence.noConfusion rfl rfl rfl
        (untouched.no_stop.waits timeout inside))
  | marks | passes time =>
      cases steps
      exact .absent (untouched.congr rfl Occurrence.noConfusion rfl rfl rfl untouched.no_stop)

end Untouched

theorem Opening.step (opening : Opening before life) (sound : life.Sound)
    (steps : life.step? occurrence = some next) : Opening (before ++ [occurrence]) next := by
  cases opening with
  | absent untouched => exact untouched.step sound steps
  | stop opened withdrawn =>
      obtain ⟨_, settled⟩ := launched_step sound (by simp [withdrawn]) steps
      exact .stop (opening?_append_of_some opened occurrence) (settled.mp withdrawn)
  | start opened launched kept doomed =>
      obtain ⟨still, settled⟩ := launched_step sound launched steps
      refine .start (opening?_append_of_some opened occurrence) still
        (fun withdrawn => kept (settled.mpr withdrawn)) ?_
      rw [preamble_append_of_some opened]
      exact fun unaborted => doomed_step (doomed unaborted) launched steps

theorem Opening.run (opening : Opening before life) (sound : life.Sound)
    (goes : life.run? between = some final) : Opening (before ++ between) final := by
  induction between generalizing before life with
  | nil =>
      cases goes
      rwa [List.append_nil]
  | cons occurrence rest induction =>
      obtain ⟨next, steps, continues⟩ := run?_cons goes
      rw [List.append_cons]
      exact induction (opening.step sound steps) (sound.step steps).sound continues

/-! ## Jobs that are over, and jobs that are alive -/

theorem Untouched.isAlive_iff (untouched : Untouched before life) (sound : life.Sound) :
    life.job.isAlive = true ↔ .aborts ∈ before := by
  obtain ⟨_, _, exitFlag, _⟩ := sound.job.unlaunched untouched.unlaunched
  simp [Job.isAlive, exitFlag, untouched.phase]

theorem Untouched.revives (untouched : Untouched before life) (aborted : .aborts ∈ before) :
    ∃ revived, life.run? [.starts, .enters] = some revived ∧
      revived.job.phase = .killed ∧ revived.entries = life.entries + 1 := by
  have killed : life.job.phase = .killed := by
    rw [untouched.phase, if_pos aborted]
  refine ⟨{ life with
    job := ({ life.job with restartMark := false, body := .scheduled } : Job).enter
    entries := life.entries + 1 }, ?_, killed, rfl⟩
  simp [run?, step?, Job.start, Job.moveTo, Phase.isFinal, untouched.unlaunched,
    untouched.untold, killed]

/-- What is over was launched and is told to end, unless it was aborted first of all. -/
theorem Opening.doomed (opening : Opening before life)
    (isOver : life.job.phase.isFinal = true)
    (unaborted : .aborts ∉ preamble before) :
    life.job.body ≠ .unlaunched ∧ life.job.Doomed := by
  cases opening with
  | absent untouched =>
      have all := preamble_append_of_none untouched.unopened []
      rw [List.append_nil] at all
      have phase := untouched.phase
      rw [all, preamble, List.takeWhile_nil, List.append_nil] at unaborted
      rw [if_neg unaborted] at phase
      rw [phase] at isOver
      cases isOver
  | stop opened withdrawn =>
      rw [withdrawn]
      exact ⟨Body.noConfusion, Job.doomed_of_body (by simp [withdrawn])⟩
  | start opened launched kept doomed => exact ⟨launched, doomed unaborted⟩

theorem Opening.isAlive_iff (opening : Opening before life) (sound : life.Sound)
    (departs : life.Departs) :
    life.job.isAlive = true ↔
      opening? before = some .starts ∧ life.job.exitFlag = false ∨
        opening? before = none ∧ .aborts ∈ before := by
  cases opening with
  | absent untouched =>
      rw [untouched.isAlive_iff sound]
      simp [untouched.unopened]
  | stop opened withdrawn =>
      have exitFlag : life.job.exitFlag = true := by
        unfold Departs at departs
        rw [withdrawn] at departs
        exact departs.of_withdrawn
      simp [Job.isAlive, exitFlag, opened]
  | start opened launched kept doomed =>
      have started : life.job.phase ≠ .created :=
        fun created => launched (sound.job.created created)
      simp [Job.isAlive, started, opened]

/-- A life that is over and whose body was not entered, from any moment to any later one: it
stays so and starts are refused, unless the job was aborted before it was first started or
stopped.  A job is alive from its start until it exits; one that was aborted and neither
started nor stopped is alive too, and a start runs its body. -/
theorem over_for_good {name : String} {killGrace : Duration}
    (lives : (fresh name killGrace).run? before = some life)
    (goes : life.run? between = some final) :
    (life.job.phase = .killed ∨ life.job.phase = .exited → life.entries = 0 →
      .aborts ∉ preamble before →
        life.job.start = .error .alreadyStarted ∧ final.job.start = .error .alreadyStarted ∧
          final.entries = 0) ∧
    (life.job.isAlive = true ↔
      opening? before = some .starts ∧ life.job.exitFlag = false ∨
        opening? before = none ∧ .aborts ∈ before) ∧
    (opening? before = none → .aborts ∈ before →
      life.job.phase = .killed ∧ life.entries = 0 ∧
        ∃ revived, life.run? [.starts, .enters] = some revived ∧
          revived.job.phase = .killed ∧ revived.entries = 1) := by
  have begun := sound_fresh name killGrace
  obtain ⟨sound, _⟩ := begun.run lives
  have departs := (departs_fresh name killGrace).run begun lives
  have opening : Opening before life :=
    (Opening.absent (untouched_fresh name killGrace)).run begun lives
  refine ⟨?_, opening.isAlive_iff sound departs, ?_⟩
  · intro settled unentered unaborted
    have isOver : life.job.phase.isFinal = true := by
      rcases settled with phase | phase <;> simp [phase, Phase.isFinal]
    obtain ⟨launched, doomed⟩ := opening.doomed isOver unaborted
    obtain ⟨still, entries⟩ := sound.stays_over doomed launched isOver goes
    exact ⟨if_neg launched, if_neg still, entries.trans unentered⟩
  · intro unopened aborted
    cases opening with
    | absent untouched =>
        have none : life.entries = 0 := by
          apply sound.unentered
          rw [untouched.unlaunched]
          trivial
        obtain ⟨revived, runs, killed, once⟩ := untouched.revives aborted
        rw [none] at once
        exact ⟨by rw [untouched.phase, if_pos aborted], none, revived, runs, killed, once⟩
    | stop opened _ => simp [opened] at unopened
    | start opened _ _ _ => simp [opened] at unopened

/-- A job is aborted right after its start: it has not exited and counts as alive, but its
body is never entered. -/
theorem over_for_good_of_aborted_start :
    ∃ life final,
      (fresh "unit" { nanos := 1000 }).run? [.marks, .starts, .aborts] = some life ∧
        life.run? [.starts, .drops, .starts] = some final ∧
        life.job.phase = .killed ∧ life.job.start = .error .alreadyStarted ∧
        final.job.start = .error .alreadyStarted ∧ final.entries = 0 ∧
        life.job.isAlive = true := by
  let start := fresh "unit" { nanos := 1000 }
  let before : List Occurrence := [.marks, .starts, .aborts]
  let between : List Occurrence := [.starts, .drops, .starts]
  have met : (start.run? before).map
      (fun life => (life.job.phase, life.entries, life.job.exitFlag)) =
        some (.killed, 0, false) := by decide +kernel
  have later : ((start.run? before).bind (·.run? between)).isSome = true := by decide +kernel
  obtain ⟨life, lives, facts⟩ := Option.map_eq_some_iff.mp met
  obtain ⟨killed, unentered, exitFlag⟩ : life.job.phase = .killed ∧ life.entries = 0 ∧
      life.job.exitFlag = false := by simpa using facts
  rw [lives] at later
  obtain ⟨final, goes⟩ := Option.isSome_iff_exists.mp later
  obtain ⟨isOver, alive, _⟩ := over_for_good lives goes
  obtain ⟨refused, again, never⟩ := isOver (.inl killed) unentered (by decide)
  exact ⟨life, final, lives, goes, killed, refused, again, never,
    alive.mpr (.inl ⟨by decide, exitFlag⟩)⟩

/-- A job is aborted before its start: it is alive, and the start runs its body. -/
theorem entered_after_death :
    ((fresh "unit" { nanos := 1000 }).run? [.aborts]).map
        (fun life => (life.job.phase, life.entries, life.job.isAlive)) =
      some (.killed, 0, true) ∧
    ((fresh "unit" { nanos := 1000 }).run? [.aborts, .starts, .enters]).map
        (fun life => (life.job.phase, life.entries)) = some (.killed, 1) := by
  decide +kernel

end Life

end Overseer
