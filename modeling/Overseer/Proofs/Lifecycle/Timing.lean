import Overseer.Proofs.Lifecycle.Life

/-!
# Lives in time

Whoever can run on does so before the clock moves, and the clock does not move
past a deadline that somebody waits for.  A body may take any time once it was
entered, but it waits from time to time, so that an abort takes effect.

Of the timers that stops set, some lemmas ask that none fires early, and some that each
fires on time.
-/

namespace Overseer

variable [Timers]

def CallStanding.isReady (now : Instant) (job : Job) : CallStanding → Bool
  | .stops call => call.isReady now job
  | .waits wait => wait.isReady now job
  | .returned _ | .crashed | .abandoned => false

def CallStanding.deadline : CallStanding → Option Instant
  | .stops call => some call.deadline
  | .waits wait => some wait.deadline
  | .returned _ | .crashed | .abandoned => none

namespace Life

def longestTimeout : Duration := Duration.ofSeconds (UInt64.ofNat (UInt64.size - 1))

/-- Whether nobody can run on: no task of a body takes its first turn or is to be
dropped, and no call is ready. -/
def isQuiet (life : Life) : Bool :=
  life.job.body ≠ .scheduled &&
    !(life.job.aborted && life.job.body.hasTask) &&
    life.calls.all fun call => !call.standing.isReady life.now life.job

/-- Whether the clock may move on to an instant. -/
def mayReach (life : Life) (time : Instant) : Bool :=
  life.isQuiet && time < Instant.limit &&
    life.calls.all fun call => call.standing.deadline.all (time ≤ ·)

/-- Whether an occurrence keeps to the time. -/
def allows (life : Life) : Occurrence → Bool
  | .passes time => life.mayReach (life.now + time.nanos)
  | _ => true

/-- The life after an occurrence that keeps to the time. -/
def stepInTime? (life : Life) (occurrence : Occurrence) : Option Life :=
  if life.allows occurrence then life.step? occurrence else none

def runInTime? (life : Life) (occurrences : List Occurrence) : Option Life :=
  occurrences.foldlM stepInTime? life

theorem step?_of_stepInTime? {life next : Life} {occurrence : Occurrence}
    (steps : life.stepInTime? occurrence = some next) :
    life.step? occurrence = some next := by
  unfold stepInTime? at steps
  split at steps
  · exact steps
  · cases steps

theorem runInTime?_cons {life final : Life} {occurrence : Occurrence}
    {rest : List Occurrence}
    (runs : life.runInTime? (occurrence :: rest) = some final) :
    ∃ next, life.stepInTime? occurrence = some next ∧
      next.runInTime? rest = some final := by
  unfold runInTime? at runs
  rw [List.foldlM_cons] at runs
  exact Option.bind_eq_some_iff.mp runs

/-- What must be true for the clock to move. -/
structure Idles (life : Life) (time : Instant) : Prop where
  entered : life.job.body ≠ .scheduled
  undisturbed : life.job.aborted = true → life.job.body.hasTask = false
  waiting : ∀ call ∈ life.calls,
    call.standing.isReady life.now life.job = false
  inTime : time < Instant.limit
  early : ∀ call ∈ life.calls, ∀ deadline,
    call.standing.deadline = some deadline → time ≤ deadline

theorem passes_of_stepInTime? {life next : Life} {time : Duration}
    (steps : life.stepInTime? (.passes time) = some next) :
    life.Idles (life.now + time.nanos) ∧
      next = { life with now := life.now + time.nanos } := by
  unfold stepInTime? at steps
  split at steps
  · rename_i allowed
    simp only [allows, mayReach, isQuiet, Bool.and_eq_true, List.all_eq_true,
      decide_eq_true_eq, Bool.not_eq_true', Bool.and_eq_false_iff] at allowed
    obtain ⟨⟨⟨⟨entered, undisturbed⟩, waiting⟩, inTime⟩, early⟩ := allowed
    refine ⟨⟨entered, ?_, waiting, inTime, ?_⟩, (Option.some.inj steps).symm⟩
    · intro aborted
      rcases undisturbed with not | none
      · rw [aborted] at not
        cases not
      · exact none
    · intro call member deadline waits
      have bounded := early call member
      rw [waits] at bounded
      simpa using bounded
  · cases steps

end Life

/-! ## Deadlines -/

/-- A timer that is set for such a duration does not fire at once. -/
def Duration.Lasts (duration : Duration) : Prop :=
  ∀ now : Instant, now < now.deadline duration

theorem Timers.NeverEarly.lasts (neverEarly : Timers.NeverEarly) {duration : Duration}
    (positive : 0 < duration.nanos) : duration.Lasts :=
  fun now => Nat.lt_of_lt_of_le (Nat.lt_add_of_pos_right positive) (neverEarly now duration)

theorem Timers.NeverEarly.le_deadline (neverEarly : Timers.NeverEarly) (now : Instant)
    (duration : Duration) : now ≤ now.deadline duration :=
  Nat.le_trans (Nat.le_add_right now duration.nanos) (neverEarly now duration)

omit [Timers] in
/-- How long a call waits for the one that performs the stop. -/
theorem StopCall.nanos_of_bound? {timeout killGrace bound : Duration}
    (bounded : StopCall.bound? timeout killGrace = some bound) :
    bound.nanos = timeout.nanos + 2 * killGrace.nanos := by
  obtain ⟨twice, doubled, added⟩ := Option.bind_eq_some_iff.mp bounded
  unfold Duration.double? Duration.ofNanos? at doubled
  unfold Duration.add? Duration.ofNanos? at added
  split at doubled
  · split at added
    · cases doubled
      cases added
      rfl
    · cases added
  · cases doubled

theorem Timers.OnTime.deadline_of_bound? (onTime : Timers.OnTime) (since : Instant)
    {timeout killGrace bound : Duration}
    (bounded : StopCall.bound? timeout killGrace = some bound) :
    since.deadline bound = since + timeout.nanos + 2 * killGrace.nanos := by
  rw [onTime, StopCall.nanos_of_bound? bounded, Nat.add_assoc]

end Overseer
