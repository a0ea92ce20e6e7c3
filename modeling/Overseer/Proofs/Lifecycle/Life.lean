import Overseer.Proofs.Lifecycle.Soundness

/-!
# Lives of a job

A life is a job together with the calls that were made to it, the hooks that ran
and the turns of its body.  An occurrence is one step: what a call does until it
waits, what it does when it runs again, or what the task of the body does in a
turn.  Occurrences may come in any order; `step?` says which are possible.

`goes_forward` states what holds along every life.
-/

namespace Overseer

/-- What is asked of a job by a call that may wait. -/
inductive Request where
  | stop
  | wait
  deriving DecidableEq

/-- How far a call has come. -/
inductive CallStanding where
  | stops (call : StopCall)
  | waits (call : WaitCall)
  | returned (time : Instant)
  /-- A deadline of the call is beyond what can be computed. -/
  | crashed
  /-- The caller did not wait for its return. -/
  | abandoned
  deriving DecidableEq

/-- A call that was made to a job. -/
structure Call where
  request : Request
  /-- The call comes from the body of the job. -/
  inside : Bool
  timeout : Duration
  since : Instant
  standing : CallStanding
  deriving DecidableEq

/-- A job, what was asked of it and what became of it. -/
structure Life where
  now : Instant
  job : Job
  calls : List Call
  /-- The hooks that ran, the oldest first. -/
  hooks : List (Instant × Hook)
  /-- How often the body was entered. -/
  entries : Nat
  /-- When the body came to its end by itself. -/
  endedAt : Option Instant

/-- A body that was not entered, and may still be or never will. -/
def Body.IsUnentered : Body → Prop
  | .unlaunched | .withdrawn | .scheduled => True
  | .underway | .gone => False

namespace Life

/-- What can happen in the life of a job. -/
inductive Occurrence where
  | starts
  | marks
  | aborts
  /-- The task of the body takes its first turn. -/
  | enters
  /-- The body returns, fails or panics. -/
  | finishes
  /-- The task of an aborted body takes a turn. -/
  | drops
  | stops (timeout : Duration) (inside : Bool)
  | waits (timeout : Duration) (inside : Bool)
  /-- A call that waits runs again. -/
  | resumes (call : Nat)
  | abandons (call : Nat)
  | passes (time : Duration)
  deriving DecidableEq

def fresh (name : String) (killGrace : Duration) : Life :=
  { now := 0
    job := Job.fresh name killGrace
    calls := []
    hooks := []
    entries := 0
    endedAt := none }

def hooksOf (effects : List StopEffect) : List Hook :=
  effects.filterMap fun effect =>
    match effect with
    | .hook hook => some hook
    | .report _ => none

def standingOf (now : Instant) : StopCall.Standing → CallStanding
  | .waits call => .stops call
  | .returned => .returned now
  | .crashed => .crashed

def waitStanding (now : Instant) (job : Job) (wait : WaitCall) : CallStanding :=
  match wait.result? now job with
  | none => .waits (wait.look job)
  | some _ => .returned now

def commit (life : Life) (step : StopCall.Step) : Life :=
  { life with
    job := step.job
    hooks := life.hooks ++ (hooksOf step.effects).map (life.now, ·) }

def call (life : Life) (request : Request) (timeout : Duration) (inside : Bool)
    (standing : CallStanding) : Life :=
  { life with
    calls := life.calls ++ [⟨request, inside, timeout, life.now, standing⟩] }

def setStanding (life : Life) (position : Nat) (standing : CallStanding) : Life :=
  { life with
    calls := life.calls.modify position fun call =>
      { call with standing := standing } }

def standing? (life : Life) (position : Nat) : Option CallStanding :=
  (life.calls[position]?).map Call.standing

variable [Timers]

def stop (life : Life) (timeout : Duration) (inside : Bool) : Life :=
  let step := StopCall.begin life.now life.job timeout inside
  (life.commit step).call .stop timeout inside (standingOf life.now step.standing)

def wait (life : Life) (timeout : Duration) (inside : Bool) : Life :=
  life.call .wait timeout inside
    (match WaitCall.begin? life.now timeout inside with
      | none => .crashed
      | some wait => waitStanding life.now life.job wait)

/-- A call that runs again; nothing if it does not wait. -/
def resume? (life : Life) (position : Nat) : Option Life :=
  match life.standing? position with
  | some (.stops call) =>
      let step := call.resume life.now life.job
      some ((life.commit step).setStanding position
        (standingOf life.now step.standing))
  | some (.waits wait) =>
      some (life.setStanding position (waitStanding life.now life.job wait))
  | _ => none

/-- A call that is given up; nothing if it does not wait. -/
def abandon? (life : Life) (position : Nat) : Option Life :=
  match life.standing? position with
  | some (.stops _) | some (.waits _) => some (life.setStanding position .abandoned)
  | _ => none

def step? (life : Life) : Occurrence → Option Life
  | .starts =>
      match life.job.start with
      | .ok job => some { life with job := job }
      | .error _ => some life
  | .marks => some { life with job := life.job.markForRestart }
  | .aborts => some { life with job := life.job.abort }
  | .enters =>
      if life.job.body = .scheduled ∧ life.job.aborted = false then
        some { life with job := life.job.enter, entries := life.entries + 1 }
      else none
  | .finishes =>
      if life.job.body = .underway then
        some { life with job := life.job.finish, endedAt := some life.now }
      else none
  | .drops =>
      if life.job.aborted && life.job.body.hasTask then
        some { life with job := life.job.drop }
      else none
  | .stops timeout inside => some (life.stop timeout inside)
  | .waits timeout inside => some (life.wait timeout inside)
  | .resumes position => life.resume? position
  | .abandons position => life.abandon? position
  | .passes time => some { life with now := life.now + time.nanos }

def run? (life : Life) (occurrences : List Occurrence) : Option Life :=
  occurrences.foldlM step? life

theorem run?_append (life : Life) (first second : List Occurrence) :
    life.run? (first ++ second) = (life.run? first).bind (·.run? second) :=
  List.foldlM_append

/-! ## What an occurrence needs and does -/

theorem of_starts {life next : Life} (steps : life.step? .starts = some next) :
    life.job.body = .unlaunched ∧ next = { life with
      job := { life.job.moveTo .running with
        restartMark := false, body := .scheduled } } ∨
    life.job.body ≠ .unlaunched ∧ next = life := by
  unfold step? Job.start at steps
  by_cases unlaunched : life.job.body = .unlaunched
  · simp only [unlaunched, if_true] at steps
    exact .inl ⟨unlaunched, (Option.some.inj steps).symm⟩
  · simp only [unlaunched, if_false] at steps
    exact .inr ⟨unlaunched, (Option.some.inj steps).symm⟩

theorem of_enters {life next : Life} (steps : life.step? .enters = some next) :
    life.job.body = .scheduled ∧
      next = { life with job := life.job.enter, entries := life.entries + 1 } := by
  unfold step? at steps
  dsimp only at steps
  split at steps
  · rename_i ready
    exact ⟨ready.1, (Option.some.inj steps).symm⟩
  · cases steps

theorem of_finishes {life next : Life}
    (steps : life.step? .finishes = some next) :
    life.job.body = .underway ∧
      next = { life with job := life.job.finish, endedAt := some life.now } := by
  unfold step? at steps
  dsimp only at steps
  split at steps
  · rename_i underway
    exact ⟨underway, (Option.some.inj steps).symm⟩
  · cases steps

theorem of_drops {life next : Life} (steps : life.step? .drops = some next) :
    life.job.aborted = true ∧ life.job.body.hasTask = true ∧
      next = { life with job := life.job.drop } := by
  unfold step? at steps
  dsimp only at steps
  split at steps
  · rename_i ready
    obtain ⟨aborted, hasTask⟩ := Bool.and_eq_true_iff.mp ready
    exact ⟨aborted, hasTask, (Option.some.inj steps).symm⟩
  · cases steps

theorem of_abandons {life next : Life} {position : Nat}
    (steps : life.step? (.abandons position) = some next) :
    next = life.setStanding position .abandoned := by
  unfold step? abandon? at steps
  dsimp only at steps
  split at steps
  · exact (Option.some.inj steps).symm
  · exact (Option.some.inj steps).symm
  · cases steps

/-! ## What holds along every life -/

/-- What holds of a life at any time. -/
structure Sound (life : Life) : Prop where
  job : life.job.Sound
  /-- What the stops that wait rely on. -/
  relies : ∀ call ∈ life.calls, ∀ stop,
    call.standing = .stops stop → stop.Relies life.job
  /-- The body was not entered while it is still to be. -/
  unentered : life.job.body.IsUnentered → life.entries = 0
  once : life.entries ≤ 1

omit [Timers] in
theorem sound_fresh (name : String) (killGrace : Duration) :
    Sound (fresh name killGrace) := by
  refine ⟨Job.sound_fresh name killGrace, ?_, fun _ => rfl, Nat.zero_le 1⟩
  intro call member
  cases member

/-- What an occurrence makes of the body. -/
inductive BodyStep : Body → Occurrence → Body → Prop where
  | stays (body : Body) (occurrence : Occurrence) :
      BodyStep body occurrence body
  | launched : BodyStep .unlaunched .starts .scheduled
  | withdrawn (timeout : Duration) (inside : Bool) :
      BodyStep .unlaunched (.stops timeout inside) .withdrawn
  | entered : BodyStep .scheduled .enters .underway
  | finished : BodyStep .underway .finishes .gone
  | dropped {body : Body} : body.hasTask = true → BodyStep body .drops .gone

omit [Timers] in
/-- A body that is not entered now was not entered before. -/
theorem BodyStep.isUnentered {before after : Body} {occurrence : Occurrence}
    (step : BodyStep before occurrence after) (unentered : after.IsUnentered) :
    before.IsUnentered := by
  cases step with
  | stays => exact unentered
  | launched => trivial
  | withdrawn timeout inside => trivial
  | entered => cases unentered
  | finished => cases unentered
  | dropped hasTask => cases unentered

/-- What one occurrence comes to in a sound life: it stays sound, nothing comes
back, and the body goes a step. -/
structure GoesOn (before : Life) (occurrence : Occurrence) (after : Life) :
    Prop where
  sound : after.Sound
  grows : before.job.Grows after.job
  body : BodyStep before.job.body occurrence after.job.body
  launched : ∀ timeout inside, occurrence = .stops timeout inside →
    after.job.body ≠ .unlaunched

variable {life next : Life} {occurrence : Occurrence}

omit [Timers] in
/-- What an occurrence does to the job is enough to know, unless it enters the
body or makes a call. -/
theorem Sound.withJob (sound : life.Sound) {job : Job}
    (kept : job.Sound ∧ life.job.Grows job)
    (body : BodyStep life.job.body occurrence job.body)
    (endedAt : Option Instant)
    (silent : ∀ timeout inside, occurrence ≠ .stops timeout inside) :
    GoesOn life occurrence { life with job := job, endedAt := endedAt } := by
  refine ⟨⟨kept.1, ?_, ?_, sound.once⟩, kept.2, body, ?_⟩
  · intro call member stop waits
    exact (sound.relies call member stop waits).grows kept.2
  · exact fun unentered => sound.unentered (body.isUnentered unentered)
  · intro timeout inside same
    exact absurd same (silent timeout inside)

theorem Sound.starts (sound : life.Sound)
    (steps : life.step? .starts = some next) : GoesOn life .starts next := by
  rcases of_starts steps with ⟨unlaunched, rfl⟩ | ⟨_, rfl⟩
  · refine sound.withJob (sound.job.start ?_) ?_ life.endedAt
      (fun _ _ => Occurrence.noConfusion)
    · unfold Job.start
      rw [if_pos unlaunched]
    · rw [unlaunched]
      exact .launched
  · exact sound.withJob ⟨sound.job, .refl next.job⟩ (.stays _ _) next.endedAt
      (fun _ _ => Occurrence.noConfusion)

theorem Sound.enters (sound : life.Sound)
    (steps : life.step? .enters = some next) : GoesOn life .enters next := by
  obtain ⟨scheduled, rfl⟩ := of_enters steps
  obtain ⟨entered, grows⟩ := sound.job.enter scheduled
  have none : life.entries = 0 := by
    refine sound.unentered ?_
    rw [scheduled]
    trivial
  refine ⟨⟨entered, ?_, ?_, ?_⟩, grows, ?_, ?_⟩
  · intro call member stop waits
    exact (sound.relies call member stop waits).grows grows
  · intro unentered
    cases unentered
  · exact Nat.le_of_eq (by rw [none])
  · rw [scheduled]
    exact .entered
  · intro timeout inside same
    cases same

theorem Sound.finishes (sound : life.Sound)
    (steps : life.step? .finishes = some next) : GoesOn life .finishes next := by
  obtain ⟨underway, rfl⟩ := of_finishes steps
  refine sound.withJob sound.job.finish ?_ _ (fun _ _ => Occurrence.noConfusion)
  rw [underway]
  exact .finished

theorem Sound.drops (sound : life.Sound)
    (steps : life.step? .drops = some next) : GoesOn life .drops next := by
  obtain ⟨_, hasTask, rfl⟩ := of_drops steps
  refine sound.withJob (sound.job.drop hasTask) ?_ life.endedAt
    (fun _ _ => Occurrence.noConfusion)
  have gone : life.job.drop.body = .gone := by
    unfold Job.drop
    split <;> rfl
  rw [gone]
  exact .dropped hasTask

/-! ## Calls -/

omit [Timers] in
theorem stops_of_standingOf {now : Instant} {standing : StopCall.Standing}
    {stop : StopCall} (waits : standingOf now standing = .stops stop) :
    standing = .waits stop := by
  cases standing with
  | waits call =>
      cases waits
      rfl
  | returned => cases waits
  | crashed => cases waits

omit [Timers] in
theorem waitStanding_ne_stops {now : Instant} {job : Job} {wait : WaitCall}
    {stop : StopCall} : waitStanding now job wait ≠ .stops stop := by
  unfold waitStanding
  split <;> exact CallStanding.noConfusion

omit [Timers] in
theorem mem_setStanding {position : Nat} {standing : CallStanding} {call : Call}
    (member : call ∈ (life.setStanding position standing).calls) :
    call ∈ life.calls ∨
      ∃ before ∈ life.calls, call = { before with standing := standing } := by
  obtain ⟨index, found⟩ := List.mem_iff_getElem?.mp member
  simp only [setStanding, List.getElem?_modify] at found
  cases held : life.calls[index]? with
  | none => simp [held] at found
  | some before =>
      rw [held] at found
      by_cases here : position = index
      · simp only [here, if_true] at found
        exact .inr ⟨before, List.mem_of_getElem? held, (Option.some.inj found).symm⟩
      · simp only [here, if_false] at found
        rw [← Option.some.inj found]
        exact .inl (List.mem_of_getElem? held)

theorem Sound.stops (sound : life.Sound) (timeout : Duration) (inside : Bool) :
    GoesOn life (.stops timeout inside) (life.stop timeout inside) := by
  obtain ⟨begun, grows⟩ :=
    StopCall.begin_sound sound.job life.now timeout inside
  have body := StopCall.body_begin sound.job life.now timeout inside
  have moved : BodyStep life.job.body (.stops timeout inside)
      (StopCall.begin life.now life.job timeout inside).job.body := by
    rw [body]
    split
    · rename_i absent
      rw [absent]
      exact .withdrawn timeout inside
    · exact .stays _ _
  refine ⟨⟨begun, ?_, ?_, sound.once⟩, grows, moved, ?_⟩
  · intro call member stop waits
    rcases List.mem_append.mp member with earlier | last
    · exact (sound.relies call earlier stop waits).grows grows
    · rw [List.mem_singleton.mp last] at waits
      exact StopCall.begin_relies (stops_of_standingOf waits)
  · exact fun unentered => sound.unentered (moved.isUnentered unentered)
  · intro _ _ _
    change (StopCall.begin life.now life.job timeout inside).job.body ≠ _
    rw [body]
    split
    · exact Body.noConfusion
    · assumption

omit [Timers] in
theorem Sound.waits (sound : life.Sound) (timeout : Duration) (inside : Bool) :
    GoesOn life (.waits timeout inside) (life.wait timeout inside) := by
  refine ⟨⟨sound.job, ?_, sound.unentered, sound.once⟩, .refl life.job,
    .stays _ _, ?_⟩
  · intro call member stop waits
    rcases List.mem_append.mp member with earlier | last
    · exact sound.relies call earlier stop waits
    · rw [List.mem_singleton.mp last] at waits
      dsimp only at waits
      split at waits
      · cases waits
      · exact absurd waits waitStanding_ne_stops
  · intro _ _ same
    cases same

omit [Timers] in
theorem mem_of_standing? {position : Nat} {standing : CallStanding}
    (stands : life.standing? position = some standing) :
    ∃ call ∈ life.calls, call.standing = standing := by
  obtain ⟨call, found, same⟩ := Option.map_eq_some_iff.mp stands
  exact ⟨call, List.mem_of_getElem? found, same⟩

theorem Sound.resumes (sound : life.Sound) {position : Nat}
    (steps : life.step? (.resumes position) = some next) :
    GoesOn life (.resumes position) next := by
  unfold step? resume? at steps
  dsimp only at steps
  split at steps
  · rename_i stop stands
    cases steps
    obtain ⟨call, member, waited⟩ := mem_of_standing? stands
    have relies := sound.relies call member stop waited
    obtain ⟨resumed, grows⟩ := StopCall.resume_sound sound.job relies life.now
    have body := StopCall.body_resume life.now life.job stop
    refine ⟨⟨resumed, ?_, ?_, sound.once⟩, grows, ?_, ?_⟩
    · intro call member stop waits
      rcases mem_setStanding member with earlier | ⟨before, _, rfl⟩
      · exact (sound.relies call earlier stop waits).grows grows
      · exact StopCall.resume_relies relies (stops_of_standingOf waits)
    · intro unentered
      refine sound.unentered ?_
      rw [← body]
      exact unentered
    · change BodyStep _ _ (stop.resume life.now life.job).job.body
      rw [body]
      exact .stays _ _
    · intro _ _ same
      cases same
  · cases steps
    refine ⟨⟨sound.job, ?_, sound.unentered, sound.once⟩, .refl life.job,
      .stays _ _, ?_⟩
    · intro call member stop waits
      rcases mem_setStanding member with earlier | ⟨before, _, rfl⟩
      · exact sound.relies call earlier stop waits
      · exact absurd waits waitStanding_ne_stops
    · intro _ _ same
      cases same
  · cases steps

theorem Sound.abandons (sound : life.Sound) {position : Nat}
    (steps : life.step? (.abandons position) = some next) :
    GoesOn life (.abandons position) next := by
  rw [of_abandons steps]
  refine ⟨⟨sound.job, ?_, sound.unentered, sound.once⟩, .refl life.job,
    .stays _ _, ?_⟩
  · intro call member stop waits
    rcases mem_setStanding member with earlier | ⟨before, _, rfl⟩
    · exact sound.relies call earlier stop waits
    · cases waits
  · intro _ _ same
    cases same

/-! ## One step and many -/

/-- Whatever happens in a sound life, it goes on soundly. -/
theorem Sound.step (sound : life.Sound)
    (steps : life.step? occurrence = some next) :
    GoesOn life occurrence next := by
  cases occurrence with
  | starts => exact sound.starts steps
  | marks =>
      cases steps
      exact sound.withJob sound.job.markForRestart (.stays _ _) life.endedAt
        (fun _ _ => Occurrence.noConfusion)
  | aborts =>
      cases steps
      refine sound.withJob sound.job.abort ?_ life.endedAt
        (fun _ _ => Occurrence.noConfusion)
      rw [Job.body_abort]
      exact .stays _ _
  | enters => exact sound.enters steps
  | finishes => exact sound.finishes steps
  | drops => exact sound.drops steps
  | stops timeout inside =>
      cases steps
      exact sound.stops timeout inside
  | waits timeout inside =>
      cases steps
      exact sound.waits timeout inside
  | resumes position => exact sound.resumes steps
  | abandons position => exact sound.abandons steps
  | passes time =>
      cases steps
      refine ⟨⟨sound.job, sound.relies, sound.unentered, sound.once⟩,
        .refl life.job, .stays _ _, ?_⟩
      intro _ _ same
      cases same

theorem run?_cons {rest : List Occurrence} {final : Life}
    (runs : life.run? (occurrence :: rest) = some final) :
    ∃ next, life.step? occurrence = some next ∧ next.run? rest = some final := by
  unfold run? at runs
  rw [List.foldlM_cons] at runs
  exact Option.bind_eq_some_iff.mp runs

/-- A life that goes on soundly many times. -/
theorem Sound.run {occurrences : List Occurrence} {final : Life}
    (sound : life.Sound) (runs : life.run? occurrences = some final) :
    final.Sound ∧ life.job.Grows final.job := by
  induction occurrences generalizing life with
  | nil =>
      cases runs
      exact ⟨sound, .refl _⟩
  | cons occurrence rest induction =>
      obtain ⟨next, steps, continues⟩ := run?_cons runs
      have goesOn := sound.step steps
      obtain ⟨finally', grows⟩ := induction goesOn.sound continues
      exact ⟨finally', goesOn.grows.trans grows⟩

/-- Without a start, no body is launched. -/
theorem Sound.unlaunched_of_run {occurrences : List Occurrence} {final : Life}
    (sound : life.Sound) (runs : life.run? occurrences = some final)
    (unstarted : .starts ∉ occurrences)
    (idle : life.job.body = .unlaunched ∨ life.job.body = .withdrawn) :
    final.job.body = .unlaunched ∨ final.job.body = .withdrawn := by
  induction occurrences generalizing life with
  | nil =>
      cases runs
      exact idle
  | cons occurrence rest induction =>
      obtain ⟨next, steps, continues⟩ := run?_cons runs
      have goesOn := sound.step steps
      rw [List.mem_cons, not_or] at unstarted
      refine induction goesOn.sound continues unstarted.2 ?_
      have body := goesOn.body
      generalize life.job.body = before at idle body
      generalize next.job.body = after at body
      cases body with
      | stays => exact idle
      | launched => exact absurd rfl unstarted.1
      | withdrawn timeout inside => exact .inr rfl
      | entered => simp at idle
      | finished => simp at idle
      | dropped hasTask =>
          rcases idle with absent | absent <;>
            · rw [absent] at hasTask
              cases hasTask

/-- A body that was withdrawn stays so. -/
theorem Sound.withdrawn_of_run {occurrences : List Occurrence} {final : Life}
    (sound : life.Sound) (runs : life.run? occurrences = some final)
    (withdrawn : life.job.body = .withdrawn) :
    final.job.body = .withdrawn := by
  induction occurrences generalizing life with
  | nil =>
      cases runs
      exact withdrawn
  | cons occurrence rest induction =>
      obtain ⟨next, steps, continues⟩ := run?_cons runs
      have goesOn := sound.step steps
      refine induction goesOn.sound continues ?_
      have body := goesOn.body
      generalize life.job.body = before at withdrawn body
      generalize next.job.body = after at body
      cases body with
      | stays => exact withdrawn
      | launched => cases withdrawn
      | withdrawn timeout inside => rfl
      | entered => cases withdrawn
      | finished => cases withdrawn
      | dropped hasTask =>
          rw [withdrawn] at hasTask
          cases hasTask

/-- A job that was stopped before it was started is never entered. -/
theorem Sound.entries_of_stop_first {first rest : List Occurrence} {final : Life}
    {timeout : Duration} {inside : Bool} (sound : life.Sound)
    (runs : life.run? (first ++ .stops timeout inside :: rest) = some final)
    (unlaunched : life.job.body = .unlaunched) (unstarted : .starts ∉ first) :
    final.entries = 0 := by
  rw [run?_append] at runs
  obtain ⟨met, earlier, later⟩ := Option.bind_eq_some_iff.mp runs
  obtain ⟨stopped, steps, continues⟩ := run?_cons later
  obtain ⟨sound', _⟩ := sound.run earlier
  have idle := sound.unlaunched_of_run earlier unstarted (.inl unlaunched)
  have goesOn := sound'.step steps
  have withdrawn : stopped.job.body = .withdrawn := by
    have launched := goesOn.launched timeout inside rfl
    have body := goesOn.body
    generalize met.job.body = before at idle body
    generalize stopped.job.body = after at body launched ⊢
    cases body with
    | stays =>
        rcases idle with absent | withdrawn
        · exact absurd absent launched
        · exact withdrawn
    | withdrawn => rfl
  have settled := goesOn.sound.withdrawn_of_run continues withdrawn
  obtain ⟨sound'', _⟩ := goesOn.sound.run continues
  refine sound''.unentered ?_
  rw [settled]
  trivial

/-- Along every life, from any moment to any later one: the phase moves forward
and a final phase stays, raised flags stay raised, flags and phase agree, and the
body is entered at most once, but never if the job was stopped before it was
started. -/
theorem goes_forward {name : String} {killGrace : Duration}
    {before between : List Occurrence} {life final : Life}
    (lives : (fresh name killGrace).run? before = some life)
    (goes : life.run? between = some final) :
    life.job.phase.rank ≤ final.job.phase.rank ∧
    (life.job.phase = .killed ∨ life.job.phase = .exited →
      final.job.phase = life.job.phase) ∧
    (life.job.stopFlag = true → final.job.stopFlag = true) ∧
    (life.job.exitFlag = true → final.job.exitFlag = true) ∧
    (final.job.exitFlag = true → final.job.stopFlag = true ∧
      (final.job.phase = .exited ∨ final.job.phase = .killed)) ∧
    (final.job.phase = .stopRequested ∨ final.job.phase = .terminating ∨
      final.job.phase = .exited → final.job.stopFlag = true) ∧
    (final.job.stopFlag = true →
      final.job.phase ≠ .created ∧ final.job.phase ≠ .running) ∧
    final.entries ≤ 1 ∧
    (∀ first timeout inside rest,
      before ++ between = first ++ .stops timeout inside :: rest →
        .starts ∉ first → final.entries = 0) := by
  have start := sound_fresh name killGrace
  obtain ⟨sound, _⟩ := start.run lives
  obtain ⟨sound', grows⟩ := sound.run goes
  refine ⟨grows.rank, ?_, grows.stopFlag, grows.exitFlag, sound'.job.exited,
    sound'.job.raised, sound'.job.lowered, sound'.once, ?_⟩
  · intro settled
    refine grows.final ?_
    rcases settled with killed | exited
    · rw [killed]
      rfl
    · rw [exited]
      rfl
  · intro first timeout inside rest split unstarted
    have whole : (fresh name killGrace).run? (before ++ between) = some final := by
      rw [run?_append, lives]
      exact goes
    rw [split] at whole
    exact start.entries_of_stop_first whole rfl unstarted

end Life

/-- A job is stopped by its own body and by somebody else, and then comes to its
end. -/
theorem Life.goes_forward_of_two_stops :
    ∃ life final,
      (fresh "unit" { nanos := 1000 }).run?
          [.starts, .enters, .stops { nanos := 50 } true,
            .stops { nanos := 50 } false] = some life ∧
        life.run? [.passes { nanos := 10 }, .finishes, .resumes 1, .starts,
          .aborts] = some final ∧
        life.job.phase = .stopRequested ∧ final.job.phase = .exited ∧
        life.job.phase.rank ≤ final.job.phase.rank ∧ final.entries ≤ 1 := by
  let before : List Occurrence :=
    [.starts, .enters, .stops { nanos := 50 } true, .stops { nanos := 50 } false]
  let between : List Occurrence :=
    [.passes { nanos := 10 }, .finishes, .resumes 1, .starts, .aborts]
  let start := fresh "unit" { nanos := 1000 }
  obtain ⟨life, lives⟩ : ∃ life, start.run? before = some life := ⟨_, rfl⟩
  have requested : (start.run? before).map (·.job.phase) =
      some .stopRequested := by decide +kernel
  have ended : ((start.run? before).bind (·.run? between)).map (·.job.phase) =
      some .exited := by decide +kernel
  rw [lives] at requested ended
  obtain ⟨final, goes, exited⟩ := Option.map_eq_some_iff.mp ended
  obtain ⟨forward, _, _, _, _, _, _, once, _⟩ := goes_forward lives goes
  exact ⟨life, final, lives, goes, Option.some.inj requested, exited, forward,
    once⟩

end Overseer
