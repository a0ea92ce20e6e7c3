import Overseer.Proofs.Lifecycle.Teardown

/-!
# Waits for the end of a job

A wait looks at two flags in turn and has one deadline.  What it comes to is told by one
flag alone: by the stop flag if it was called from the body of the job, and else by the
exit flag.  As long as it is unanswered, `Pends` holds of it; then the clock stands still
while that flag is raised, and never passes the deadline.
-/

namespace Overseer

def CallStanding.IsOver : CallStanding → Prop
  | .returned _ | .crashed | .abandoned => True
  | .stops _ | .waits _ => False

namespace Life

variable {life next met final : Life} {occurrence : Occurrence}
  {during : List Occurrence} {position : Nat}

/-! ## What a call is given -/

/-- The lives that a run comes through, with its first and its last one. -/
inductive Sees [Timers] : Life → List Occurrence → Life → Prop where
  | here (life : Life) (occurrences : List Occurrence) : Sees life occurrences life
  | later {life next met : Life} {occurrence : Occurrence} {rest : List Occurrence}
      (steps : life.stepInTime? occurrence = some next) (sees : Sees next rest met) :
      Sees life (occurrence :: rest) met

def answer? (life : Life) (position : Nat) : Occurrence → Option (Except Fault Unit)
  | .waits timeout inside =>
      if life.calls.length = position then
        (WaitCall.begin? life.now timeout inside).bind (·.result? life.now life.job)
      else none
  | .resumes index =>
      match life.standing? index with
      | some (.waits wait) => if index = position then wait.result? life.now life.job else none
      | _ => none
  | _ => none

/-- A run gives this answer to the wait at a position, and in this life. -/
inductive Answers [Timers] (position : Nat) :
    Life → List Occurrence → Life → Except Fault Unit → Prop where
  | here {life : Life} {occurrence : Occurrence} {rest : List Occurrence}
      {answer : Except Fault Unit} (answers : life.answer? position occurrence = some answer) :
      Answers position life (occurrence :: rest) life answer
  | later {life next met : Life} {occurrence : Occurrence} {rest : List Occurrence}
      {answer : Except Fault Unit} (steps : life.stepInTime? occurrence = some next)
      (answers : Answers position next rest met answer) :
      Answers position life (occurrence :: rest) met answer

/-- Nothing changes but the call at a position. -/
structure OnlyCall (position : Nat) (before after : Life) : Prop where
  rest : after = { before with calls := after.calls }
  others : ∀ index, index ≠ position → after.calls[index]? = before.calls[index]?

/-! ## Where calls stand -/

theorem lt_of_standing? {standing : CallStanding}
    (stands : life.standing? position = some standing) : position < life.calls.length := by
  obtain ⟨_, found, _⟩ := Option.map_eq_some_iff.mp stands
  obtain ⟨within, _⟩ := List.getElem?_eq_some_iff.mp found
  exact within

theorem standing?_setStanding {old : CallStanding}
    (stands : life.standing? position = some old) (standing : CallStanding) :
    (life.setStanding position standing).standing? position = some standing := by
  obtain ⟨call, found, _⟩ := Option.map_eq_some_iff.mp stands
  simp [standing?, setStanding, found]

theorem getElem?_setStanding_of_ne {index : Nat} (other : index ≠ position)
    (standing : CallStanding) :
    (life.setStanding position standing).calls[index]? = life.calls[index]? := by
  simp [setStanding, other.symm]

theorem standing?_call_length (life : Life) (request : Request) (timeout : Duration)
    (inside : Bool) (standing : CallStanding) :
    (life.call request timeout inside standing).standing? life.calls.length =
      some standing := by
  simp [standing?, call]

theorem getElem?_call_of_ne {index : Nat} (other : index ≠ life.calls.length)
    (request : Request) (timeout : Duration) (inside : Bool) (standing : CallStanding) :
    (life.call request timeout inside standing).calls[index]? = life.calls[index]? := by
  rcases Nat.lt_or_gt_of_ne other with within | beyond
  · exact List.getElem?_append_left within
  · rw [List.getElem?_eq_none (Nat.le_of_lt beyond)]
    apply List.getElem?_eq_none
    rw [call, List.length_append, List.length_singleton]
    exact beyond

/-- What an occurrence does to the clock and to the calls. -/
structure Proceeds (life : Life) (occurrence : Occurrence) (next : Life) : Prop where
  now : (∀ time, occurrence ≠ .passes time) → next.now = life.now
  stands : ∀ {index : Nat}, index < life.calls.length → occurrence ≠ .resumes index →
    occurrence ≠ .abandons index → next.standing? index = life.standing? index

theorem Proceeds.of_calls (now : next.now = life.now) (calls : next.calls = life.calls) :
    Proceeds life occurrence next := by
  refine ⟨fun _ => now, ?_⟩
  intro index _ _ _
  rw [standing?, calls, standing?]

variable [Timers]

theorem proceeds_of_step (steps : life.step? occurrence = some next) :
    Proceeds life occurrence next := by
  cases occurrence with
  | starts => rcases of_starts steps with ⟨_, rfl⟩ | ⟨_, rfl⟩ <;> exact .of_calls rfl rfl
  | enters =>
      obtain ⟨_, rfl⟩ := of_enters steps
      exact .of_calls rfl rfl
  | finishes =>
      obtain ⟨_, rfl⟩ := of_finishes steps
      exact .of_calls rfl rfl
  | drops =>
      obtain ⟨_, _, rfl⟩ := of_drops steps
      exact .of_calls rfl rfl
  | marks | aborts =>
      cases steps
      exact .of_calls rfl rfl
  | stops timeout inside | waits timeout inside =>
      cases steps
      refine ⟨fun _ => rfl, ?_⟩
      intro index within _ _
      exact congrArg (Option.map Call.standing)
        (getElem?_call_of_ne (Nat.ne_of_lt within) _ _ _ _)
  | resumes position =>
      obtain ⟨_, _, ⟨_, _, rfl⟩ | ⟨_, _, rfl⟩⟩ := of_resumes steps
      all_goals
        refine ⟨fun _ => rfl, ?_⟩
        intro index _ other _
        have apart : index ≠ position := fun same => other (by rw [same])
        exact congrArg (Option.map Call.standing) (getElem?_setStanding_of_ne apart _)
  | abandons position =>
      rw [of_abandons steps]
      refine ⟨fun _ => rfl, ?_⟩
      intro index _ _ other
      have apart : index ≠ position := fun same => other (by rw [same])
      exact congrArg (Option.map Call.standing) (getElem?_setStanding_of_ne apart _)
  | passes time =>
      cases steps
      exact ⟨fun moves => absurd rfl (moves time), fun _ _ _ => rfl⟩

theorem now_le_of_step (steps : life.step? occurrence = some next) : life.now ≤ next.now := by
  cases occurrence with
  | passes time =>
      cases steps
      exact Nat.le_add_right _ _
  | _ => exact Nat.le_of_eq ((proceeds_of_step steps).now (by simp)).symm

theorem run?_of_runInTime? {occurrences : List Occurrence}
    (runs : life.runInTime? occurrences = some final) : life.run? occurrences = some final := by
  induction occurrences generalizing life with
  | nil => exact runs
  | cons occurrence rest induction =>
      obtain ⟨next, steps, continues⟩ := runInTime?_cons runs
      rw [run?, List.foldlM_cons, step?_of_stepInTime? steps]
      exact induction continues

theorem Sees.now_le (sees : Sees life during met) : life.now ≤ met.now := by
  induction sees with
  | here => exact Nat.le_refl _
  | later steps _ induction =>
      exact Nat.le_trans (now_le_of_step (step?_of_stepInTime? steps)) induction

theorem Sees.cons {rest : List Occurrence} (sees : Sees life (occurrence :: rest) met)
    (steps : life.stepInTime? occurrence = some next) : met = life ∨ Sees next rest met := by
  cases sees with
  | here => exact .inl rfl
  | later same sees =>
      obtain rfl := Option.some.inj (steps.symm.trans same)
      exact .inr sees

theorem Answers.cons {rest : List Occurrence} {answer : Except Fault Unit}
    (answers : Answers position life (occurrence :: rest) met answer)
    (steps : life.stepInTime? occurrence = some next) :
    met = life ∧ life.answer? position occurrence = some answer ∨
      Answers position next rest met answer := by
  cases answers with
  | here given => exact .inl ⟨rfl, given⟩
  | later same answers =>
      obtain rfl := Option.some.inj (steps.symm.trans same)
      exact .inr answers

/-! ## Calls that are over -/

/-- Who runs again or is given up was not over. -/
theorem not_isOver_of_step {standing : CallStanding}
    (steps : life.step? occurrence = some next)
    (own : occurrence = .resumes position ∨ occurrence = .abandons position)
    (stands : life.standing? position = some standing) : ¬ standing.IsOver := by
  rintro isOver
  rcases own with rfl | rfl
  · simp only [step?, resume?, stands] at steps
    cases standing <;> first | exact isOver | cases steps
  · simp only [step?, abandon?, stands] at steps
    cases standing <;> first | exact isOver | cases steps

section Over

variable {standing : CallStanding} (isOver : standing.IsOver)
include isOver

theorem over_of_step (steps : life.step? occurrence = some next)
    (stands : life.standing? position = some standing) :
    next.standing? position = some standing := by
  rw [← stands]
  apply (proceeds_of_step steps).stands (lt_of_standing? stands)
  · exact fun resumes => not_isOver_of_step steps (.inl resumes) stands isOver
  · exact fun abandons => not_isOver_of_step steps (.inr abandons) stands isOver

theorem over_of_run (goes : life.runInTime? during = some final)
    (stands : life.standing? position = some standing) :
    final.standing? position = some standing := by
  induction during generalizing life with
  | nil =>
      cases goes
      exact stands
  | cons occurrence rest induction =>
      obtain ⟨next, steps, continues⟩ := runInTime?_cons goes
      exact induction continues (over_of_step isOver (step?_of_stepInTime? steps) stands)

theorem not_answers_of_over {answer : Except Fault Unit}
    (stands : life.standing? position = some standing) :
    ¬ Answers position life during met answer := by
  intro answers
  induction answers with
  | @here life occurrence rest answer answered =>
      have within := lt_of_standing? stands
      cases occurrence with
      | waits timeout inside =>
          rw [answer?, if_neg (Nat.ne_of_gt within)] at answered
          cases answered
      | resumes index =>
          unfold answer? at answered
          dsimp only at answered
          split at answered
          · rename_i wait held
            split at answered
            · rename_i same
              rw [same, stands] at held
              cases held
              exact isOver
            · cases answered
          · cases answered
      | _ => cases answered
  | later steps _ induction =>
      exact induction (over_of_step isOver (step?_of_stepInTime? steps) stands)

end Over

/-! ## Waits that are unanswered -/

/-- Whether the flag is raised that a wait is about. -/
def awaited (inside : Bool) (job : Job) : Bool :=
  if inside then job.stopFlag else job.exitFlag

omit [Timers] in
theorem awaited_grows {inside : Bool} {before after : Job} (grows : before.Grows after)
    (raised : awaited inside before = true) : awaited inside after = true := by
  cases inside with
  | true => exact grows.stopFlag raised
  | false => exact grows.exitFlag raised

omit [Timers] in
theorem isMet_eq_awaited {job : Job} (sound : job.Sound) (wait : WaitCall) :
    wait.isMet job = awaited wait.inside job := by
  unfold WaitCall.isMet awaited
  cases wait.inside with
  | true => simp
  | false =>
      cases exited : job.exitFlag with
      | true => simp [(sound.exited exited).1]
      | false => simp

/-- What a wait is told in this life: that its flag is raised, or that its deadline has
come. -/
def Settles (timeout : Duration) (deadline : Instant) (inside : Bool) (life : Life)
    (answer : Except Fault Unit) : Prop :=
  if awaited inside life.job then answer = .ok ()
  else answer = .error (.timeout "wait_stop" timeout) ∧ life.now = deadline

/-- A wait at a position that is unanswered; from inside it does not look at the exit flag. -/
structure Pends (position : Nat) (timeout : Duration) (deadline : Instant) (inside : Bool)
    (life : Life) : Prop where
  stands : ∃ seen, life.standing? position = some (.waits ⟨timeout, deadline, inside, seen⟩) ∧
    (inside = true → seen = false)
  early : life.now ≤ deadline

variable {timeout : Duration} {deadline : Instant} {inside seen : Bool}

omit [Timers] in
theorem settles_of_result? (sound : life.Sound) (early : life.now ≤ deadline)
    {answer : Except Fault Unit}
    (answered : WaitCall.result? life.now life.job ⟨timeout, deadline, inside, seen⟩ =
      some answer) : Settles timeout deadline inside life answer := by
  unfold WaitCall.result? at answered
  rw [isMet_eq_awaited sound.job] at answered
  unfold Settles
  split at answered
  · rename_i raised
    rw [if_pos raised]
    exact (Option.some.inj answered).symm
  · rename_i lowered
    rw [if_neg lowered]
    split at answered
    · rename_i late
      exact ⟨(Option.some.inj answered).symm, Nat.le_antisymm early late⟩
    · cases answered

omit [Timers] in
theorem result?_eq_none_iff (sound : life.Sound) :
    WaitCall.result? life.now life.job ⟨timeout, deadline, inside, seen⟩ = none ↔
      awaited inside life.job = false ∧ life.now < deadline := by
  unfold WaitCall.result?
  rw [isMet_eq_awaited sound.job]
  cases awaited inside life.job with
  | true => simp
  | false => simp

omit [Timers] in
/-- A wait looks at the flag that it is about, once it is raised. -/
theorem isReady_of_awaited (sound : life.Sound) (unseen : inside = true → seen = false)
    (raised : awaited inside life.job = true) :
    WaitCall.isReady life.now life.job ⟨timeout, deadline, inside, seen⟩ = true := by
  unfold WaitCall.isReady
  cases inside with
  | true =>
      have stopFlag : life.job.stopFlag = true := raised
      simp [unseen rfl, stopFlag]
  | false =>
      have exitFlag : life.job.exitFlag = true := raised
      simp [exitFlag, (sound.job.exited exitFlag).1]

/-- What an occurrence makes of a wait that is unanswered. -/
inductive Tick (position : Nat) (timeout : Duration) (deadline : Instant) (inside : Bool)
    (life : Life) (occurrence : Occurrence) (next : Life) : Prop
  | answered {answer : Except Fault Unit}
      (answers : life.answer? position occurrence = some answer)
      (early : life.now ≤ deadline) (settles : Settles timeout deadline inside life answer)
      (returned : next.standing? position = some (.returned life.now))
  | abandoned (own : occurrence = .abandons position)
      (given_up : next.standing? position = some .abandoned)
  | crashed (silent : life.answer? position occurrence = none)
      (beyond : Instant.limit ≤ deadline) (broken : next.standing? position = some .crashed)
  | pends (silent : life.answer? position occurrence = none)
      (pends : Pends position timeout deadline inside next)
      (still : awaited inside life.job = true → next.now = life.now)

theorem Pends.resumes (pends : Pends position timeout deadline inside life)
    (sound : life.Sound) (steps : life.step? (.resumes position) = some next) :
    Tick position timeout deadline inside life (.resumes position) next := by
  obtain ⟨seen, stands, unseen⟩ := pends.stands
  have answers : life.answer? position (.resumes position) =
      WaitCall.result? life.now life.job ⟨timeout, deadline, inside, seen⟩ := by
    simp [answer?, stands]
  simp only [step?, resume?, stands, Option.some.injEq] at steps
  subst steps
  cases result : WaitCall.result? life.now life.job ⟨timeout, deadline, inside, seen⟩ with
  | some answer =>
      rw [result] at answers
      refine .answered answers pends.early (settles_of_result? sound pends.early result) ?_
      rw [standing?_setStanding stands, waitStanding, result]
  | none =>
      rw [result] at answers
      refine .pends answers ⟨⟨seen || life.job.stopFlag, ?_, ?_⟩, pends.early⟩ fun _ => rfl
      · rw [standing?_setStanding stands, waitStanding, result]
        rfl
      · rintro rfl
        obtain ⟨lowered, _⟩ := (result?_eq_none_iff sound).mp result
        have stopFlag : life.job.stopFlag = false := lowered
        simp [unseen rfl, stopFlag]

theorem Pends.passes (pends : Pends position timeout deadline inside life)
    (sound : life.Sound) {time : Duration}
    (steps : life.stepInTime? (.passes time) = some next) :
    Tick position timeout deadline inside life (.passes time) next := by
  obtain ⟨seen, stands, unseen⟩ := pends.stands
  obtain ⟨idles, rfl⟩ := passes_of_stepInTime? steps
  obtain ⟨call, member, standing⟩ := mem_of_standing? stands
  have early := idles.early call member deadline (by rw [standing]; rfl)
  refine .pends rfl ⟨⟨seen, stands, unseen⟩, early⟩ ?_
  intro raised
  have waiting := idles.waiting call member
  rw [standing] at waiting
  have ready : WaitCall.isReady life.now life.job ⟨timeout, deadline, inside, seen⟩ =
      true := isReady_of_awaited sound unseen raised
  rw [CallStanding.isReady, ready] at waiting
  cases waiting

omit [Timers] in
theorem answer?_of_ne {standing : CallStanding}
    (stands : life.standing? position = some standing) (other : occurrence ≠ .resumes position) :
    life.answer? position occurrence = none := by
  have within := lt_of_standing? stands
  cases occurrence with
  | waits timeout inside => exact if_neg (Nat.ne_of_gt within)
  | resumes index =>
      have apart : index ≠ position := fun same => other (by rw [same])
      unfold answer?
      dsimp only
      split
      · exact if_neg apart
      · rfl
  | _ => rfl

theorem Pends.step (pends : Pends position timeout deadline inside life) (sound : life.Sound)
    (steps : life.stepInTime? occurrence = some next) :
    Tick position timeout deadline inside life occurrence next := by
  have possible := step?_of_stepInTime? steps
  obtain ⟨seen, stands, unseen⟩ := pends.stands
  by_cases own : occurrence = .resumes position
  · subst own
    exact pends.resumes sound possible
  by_cases given_up : occurrence = .abandons position
  · refine .abandoned given_up ?_
    subst given_up
    rw [of_abandons possible]
    exact standing?_setStanding stands .abandoned
  cases occurrence with
  | passes time => exact pends.passes sound steps
  | _ =>
      have proceeds := proceeds_of_step possible
      have now := proceeds.now (by simp)
      refine .pends (answer?_of_ne stands own) ⟨⟨seen, ?_, unseen⟩, ?_⟩ fun _ => now
      · rw [proceeds.stands (lt_of_standing? stands) own given_up]
        exact stands
      · rw [now]
        exact pends.early

omit [Timers] in
theorem tick_of_waits (sound : life.Sound) (timeout : Duration) (inside : Bool) :
    Tick life.calls.length timeout (life.now + timeout.nanos) inside life
      (.waits timeout inside) (life.wait timeout inside) := by
  have stands := standing?_call_length life .wait timeout inside
  have early : life.now ≤ life.now + timeout.nanos := Nat.le_add_right _ _
  unfold wait
  cases begun : WaitCall.begin? life.now timeout inside with
  | none =>
      have beyond : Instant.limit ≤ life.now + timeout.nanos := by
        simpa [WaitCall.begin?, Instant.after?] using begun
      exact .crashed (by simp [answer?, begun]) beyond (stands _)
  | some wait =>
      obtain ⟨_, rfl⟩ : life.now + timeout.nanos < Instant.limit ∧
          ⟨timeout, life.now + timeout.nanos, inside, false⟩ = wait := by
        simpa [WaitCall.begin?, Instant.after?] using begun
      cases result : WaitCall.result? life.now life.job
          ⟨timeout, life.now + timeout.nanos, inside, false⟩ with
      | some answer =>
          have answers : life.answer? life.calls.length (.waits timeout inside) =
              some answer := by
            simp [answer?, begun, result]
          refine .answered answers early (settles_of_result? sound early result) ?_
          simp only [waitStanding, result]
          exact stands _
      | none =>
          refine .pends ?_ ⟨⟨life.job.stopFlag, ?_, ?_⟩, early⟩ fun _ => rfl
          · simp [answer?, begun, result]
          · simp only [waitStanding, result, WaitCall.look, Bool.false_or]
            exact stands _
          · rintro rfl
            exact ((result?_eq_none_iff sound).mp result).1

/-! ## Whole waits -/

/-- An answer that is given in a life `met` on the way from `life` to `final`: the first
moment at which the flag is raised is not before it. -/
structure Answered (position : Nat) (timeout : Duration) (deadline : Instant) (inside : Bool)
    (life : Life) (during : List Occurrence) (final met : Life) (answer : Except Fault Unit) :
    Prop where
  returned : final.standing? position = some (.returned met.now)
  since : life.now ≤ met.now
  until_then : met.now ≤ deadline
  settles : Settles timeout deadline inside met answer
  first : ∀ other, Sees life during other → awaited inside other.job = true →
    met.now ≤ other.now

/-- What becomes of a wait that is given no answer: it was given up, or its deadline is
beyond the clock, or it waits. -/
inductive Unanswered (position : Nat) (timeout : Duration) (deadline : Instant) (inside : Bool)
    (life : Life) (during : List Occurrence) (final : Life) : Prop
  | abandoned (own : .abandons position ∈ during)
      (given_up : final.standing? position = some .abandoned)
  | crashed (beyond : Instant.limit ≤ deadline)
      (broken : final.standing? position = some .crashed)
  | pends (pends : Pends position timeout deadline inside final)
      (still : ∀ other, Sees life during other → awaited inside other.job = true →
        final.now = other.now)

section Runs

variable {rest : List Occurrence} {answer : Except Fault Unit}

omit [Timers] in
theorem Tick.over_or_pends
    (tick : Tick position timeout deadline inside life occurrence next) :
    (∃ standing : CallStanding, standing.IsOver ∧ next.standing? position = some standing) ∨
      Pends position timeout deadline inside next ∧
        (awaited inside life.job = true → next.now = life.now) := by
  cases tick with
  | answered answers early settles returned => exact .inl ⟨.returned life.now, trivial, returned⟩
  | abandoned own given_up => exact .inl ⟨.abandoned, trivial, given_up⟩
  | crashed silent beyond broken => exact .inl ⟨.crashed, trivial, broken⟩
  | pends silent pends still => exact .inr ⟨pends, still⟩

theorem Tick.answers (tick : Tick position timeout deadline inside life occurrence next)
    (sound : life.Sound) (steps : life.stepInTime? occurrence = some next)
    (goes : next.runInTime? rest = some final)
    (answers : Answers position life (occurrence :: rest) met answer)
    (induction : Pends position timeout deadline inside next →
      Answers position next rest met answer →
        Answered position timeout deadline inside next rest final met answer) :
    Answered position timeout deadline inside life (occurrence :: rest) final met answer := by
  rcases answers.cons steps with ⟨rfl, given⟩ | later
  · cases tick with
    | answered answers early settles returned =>
        obtain rfl := Option.some.inj (answers.symm.trans given)
        exact ⟨over_of_run trivial goes returned, Nat.le_refl _, early, settles,
          fun other sees _ => sees.now_le⟩
    | abandoned own given_up =>
        rw [own] at given
        cases given
    | crashed silent | pends silent =>
        rw [silent] at given
        cases given
  · rcases tick.over_or_pends with ⟨standing, isOver, stands⟩ | ⟨pends, still⟩
    · exact absurd later (not_answers_of_over isOver stands)
    · obtain ⟨returned, since, until_then, settles, first⟩ := induction pends later
      have possible := step?_of_stepInTime? steps
      refine ⟨returned, Nat.le_trans (now_le_of_step possible) since, until_then, settles, ?_⟩
      intro other sees raised
      rcases sees.cons steps with rfl | sees
      · have grows := (sound.step possible).grows
        rw [← still raised]
        exact first next (.here next rest) (awaited_grows grows raised)
      · exact first other sees raised

theorem Pends.answers (pends : Pends position timeout deadline inside life)
    (sound : life.Sound) (goes : life.runInTime? during = some final)
    (answers : Answers position life during met answer) :
    Answered position timeout deadline inside life during final met answer := by
  induction during generalizing life with
  | nil => cases answers
  | cons occurrence rest induction =>
      obtain ⟨next, steps, continues⟩ := runInTime?_cons goes
      have later := (sound.step (step?_of_stepInTime? steps)).sound
      exact (pends.step sound steps).answers sound steps continues answers
        fun pending => induction pending later continues

theorem Tick.unanswered (tick : Tick position timeout deadline inside life occurrence next)
    (sound : life.Sound) (steps : life.stepInTime? occurrence = some next)
    (goes : next.runInTime? rest = some final)
    (none : ∀ met answer, ¬ Answers position life (occurrence :: rest) met answer)
    (induction : Pends position timeout deadline inside next →
      (∀ met answer, ¬ Answers position next rest met answer) →
        Unanswered position timeout deadline inside next rest final) :
    Unanswered position timeout deadline inside life (occurrence :: rest) final := by
  cases tick with
  | answered answers => exact absurd (.here answers) (none life _)
  | abandoned own given_up =>
      exact .abandoned (by simp [own]) (over_of_run trivial goes given_up)
  | crashed silent beyond broken => exact .crashed beyond (over_of_run trivial goes broken)
  | pends silent pends still =>
      have later := induction pends fun met answer answers =>
        none met answer (.later steps answers)
      cases later with
      | abandoned own given_up => exact .abandoned (List.mem_cons_of_mem _ own) given_up
      | crashed beyond broken => exact .crashed beyond broken
      | pends waits clock =>
          refine .pends waits ?_
          intro other sees raised
          rcases sees.cons steps with rfl | sees
          · have grows := (sound.step (step?_of_stepInTime? steps)).grows
            rw [← still raised]
            exact clock next (.here next rest) (awaited_grows grows raised)
          · exact clock other sees raised

theorem Pends.unanswered (pends : Pends position timeout deadline inside life)
    (sound : life.Sound) (goes : life.runInTime? during = some final)
    (none : ∀ met answer, ¬ Answers position life during met answer) :
    Unanswered position timeout deadline inside life during final := by
  induction during generalizing life with
  | nil =>
      cases goes
      refine .pends pends ?_
      intro other sees _
      cases sees
      rfl
  | cons occurrence rest induction =>
      obtain ⟨next, steps, continues⟩ := runInTime?_cons goes
      have later := (sound.step (step?_of_stepInTime? steps)).sound
      exact (pends.step sound steps).unanswered sound steps continues none
        fun pending => induction pending later continues

end Runs

/-! ## What a wait leaves alone -/

theorem not_stops_of_sees (sees : Sees life during met) (sound : life.Sound)
    (pends : Pends position timeout deadline inside life ∨
      ∃ standing : CallStanding, standing.IsOver ∧ life.standing? position = some standing)
    (stop : StopCall) : met.standing? position ≠ some (.stops stop) := by
  induction sees with
  | here =>
      rcases pends with ⟨⟨seen, stands, _⟩, _⟩ | ⟨standing, isOver, stands⟩
      · simp [stands]
      · rw [stands]
        rintro ⟨⟩
        exact isOver
  | later steps _ induction =>
      have possible := step?_of_stepInTime? steps
      apply induction (sound.step possible).sound
      rcases pends with pends | ⟨standing, isOver, stands⟩
      · rcases (pends.step sound steps).over_or_pends with isOver | ⟨pends, _⟩
        · exact .inr isOver
        · exact .inl pends
      · exact .inr ⟨standing, isOver, over_of_step isOver possible stands⟩

omit [Timers] in
theorem onlyCall_wait (life : Life) (timeout : Duration) (inside : Bool) :
    OnlyCall life.calls.length life (life.wait timeout inside) :=
  ⟨rfl, fun _ other => getElem?_call_of_ne other .wait timeout inside _⟩

theorem onlyCall_of_resumes (steps : life.step? (.resumes position) = some next)
    (no_stop : ∀ stop, life.standing? position ≠ some (.stops stop)) :
    OnlyCall position life next := by
  obtain ⟨call, found, ⟨stop, stands, rfl⟩ | ⟨wait, stands, rfl⟩⟩ := of_resumes steps
  · exact absurd (by simp [standing?, found, stands]) (no_stop stop)
  · exact ⟨rfl, fun index other => getElem?_setStanding_of_ne other _⟩

theorem Pends.due (pends : Pends position timeout deadline inside life) (sound : life.Sound)
    (due : awaited inside life.job = true ∨ life.now = deadline) :
    ∃ next answer, life.stepInTime? (.resumes position) = some next ∧
      life.answer? position (.resumes position) = some answer := by
  obtain ⟨seen, stands, _⟩ := pends.stands
  have answers : life.answer? position (.resumes position) =
      WaitCall.result? life.now life.job ⟨timeout, deadline, inside, seen⟩ := by
    simp [answer?, stands]
  refine ⟨life.setStanding position (waitStanding life.now life.job
    ⟨timeout, deadline, inside, seen⟩), ?_⟩
  cases result : WaitCall.result? life.now life.job ⟨timeout, deadline, inside, seen⟩ with
  | some answer =>
      refine ⟨answer, ?_, answers.trans result⟩
      simp [stepInTime?, allows, step?, resume?, stands]
  | none =>
      obtain ⟨lowered, early⟩ := (result?_eq_none_iff sound).mp result
      rcases due with raised | here
      · rw [lowered] at raised
        cases raised
      · exact absurd here (Nat.ne_of_lt early)

/-- A wait from the moment at which it is called, whatever happens meanwhile.

An answer comes at the latest when the timeout is over: success at the first moment at which
the flag is raised that the wait is about, and otherwise its own fault at the deadline.  A
wait without an answer was given up, or its deadline is beyond the clock, or it waits: then
the clock has not passed the deadline, has stood still since that flag was raised, and stays
until the answer is given that is due.  Whenever the wait runs, it changes nothing but its
own standing. -/
theorem wait_until_due {name : String} {killGrace timeout : Duration} {inside : Bool}
    {before during : List Occurrence} {met final : Life}
    (lives : (fresh name killGrace).runInTime? before = some met)
    (goes : met.runInTime? (.waits timeout inside :: during) = some final) :
    let position := met.calls.length
    let deadline := met.now + timeout.nanos
    let occurrences := Occurrence.waits timeout inside :: during
    (∀ answered answer, Answers position met occurrences answered answer →
      final.standing? position = some (.returned answered.now) ∧
        met.now ≤ answered.now ∧ answered.now ≤ deadline ∧
        (if awaited inside answered.job then answer = .ok ()
          else answer = .error (.timeout "wait_stop" timeout) ∧ answered.now = deadline) ∧
        ∀ other, Sees met occurrences other → awaited inside other.job = true →
          answered.now ≤ other.now) ∧
    ((∀ answered answer, ¬ Answers position met occurrences answered answer) →
      .abandons position ∈ during ∧ final.standing? position = some .abandoned ∨
      Instant.limit ≤ deadline ∧ final.standing? position = some .crashed ∨
      final.now ≤ deadline ∧
        (∀ other, Sees met occurrences other → awaited inside other.job = true →
          final.now = other.now) ∧
        (awaited inside final.job = true ∨ final.now = deadline →
          ∃ next answer, final.stepInTime? (.resumes position) = some next ∧
            final.answer? position (.resumes position) = some answer)) ∧
    ∀ seen next occurrence, Sees met occurrences seen →
      (seen = met ∧ occurrence = .waits timeout inside ∨ occurrence = .resumes position) →
        seen.stepInTime? occurrence = some next → OnlyCall position seen next := by
  intro position deadline occurrences
  obtain ⟨sound, _⟩ := (sound_fresh name killGrace).run (run?_of_runInTime? lives)
  obtain ⟨next, steps, continues⟩ := runInTime?_cons goes
  have called : met.wait timeout inside = next := Option.some.inj steps
  have tick : Tick position timeout deadline inside met (.waits timeout inside) next := by
    rw [← called]
    exact tick_of_waits sound timeout inside
  have later := (sound.step (step?_of_stepInTime? steps)).sound
  refine ⟨?_, ?_, ?_⟩
  · intro answered answer answers
    obtain ⟨returned, since, until_then, settles, first⟩ :=
      tick.answers sound steps continues answers fun pends => pends.answers later continues
    exact ⟨returned, since, until_then, settles, first⟩
  · intro none
    have outcome := tick.unanswered sound steps continues none fun pends =>
      pends.unanswered later continues
    cases outcome with
    | abandoned own given_up =>
        exact .inl ⟨(List.mem_cons.mp own).resolve_left Occurrence.noConfusion, given_up⟩
    | crashed beyond broken => exact .inr (.inl ⟨beyond, broken⟩)
    | pends pends still =>
        have settled := run?_of_runInTime? continues
        exact .inr (.inr ⟨pends.early, still, pends.due (later.run settled).1⟩)
  · intro seen after occurrence sees own goes_on
    rcases own with ⟨rfl, rfl⟩ | rfl
    · rw [← Option.some.inj goes_on]
      exact onlyCall_wait seen timeout inside
    · apply onlyCall_of_resumes (step?_of_stepInTime? goes_on)
      rcases sees.cons steps with rfl | sees
      · simp [standing?, position]
      · exact not_stops_of_sees sees later (tick.over_or_pends.symm.imp_left And.left)

end Life

/-- A body is asked to stop at ten and ends at forty, when a wait of fifty from outside is
told so. -/
theorem Life.wait_until_due_of_slow_body :
    let before : List Occurrence := [.starts, .enters]
    let during : List Occurrence := [.passes { nanos := 10 }, .stops { nanos := 90 } false,
      .resumes 0, .passes { nanos := 30 }, .finishes, .resumes 1, .resumes 0]
    ∃ met final answered,
      (fresh "unit" { nanos := 1000 }).runInTime? before = some met ∧
        met.runInTime? (.waits { nanos := 50 } false :: during) = some final ∧
        Answers 0 met (.waits { nanos := 50 } false :: during) answered (.ok ()) ∧
        answered.now = 40 := by
  intro before during
  let start := fresh "unit" { nanos := 1000 }
  have facts : (start.runInTime? before).bind (fun met =>
      (met.runInTime? (.waits { nanos := 50 } false :: during)).map fun final =>
        (met.now, met.calls.length, final.standing? 0,
          (final.stepInTime? (.resumes 0)).isNone, final.job.exitFlag)) =
      some (0, 0, some (.returned 40), true, true) := by decide +kernel
  obtain ⟨met, lives, facts⟩ := Option.bind_eq_some_iff.mp facts
  obtain ⟨final, goes, facts⟩ := Option.map_eq_some_iff.mp facts
  simp only [Prod.mk.injEq, Option.isNone_iff_eq_none] at facts
  obtain ⟨now, first, returned, isOver, exited⟩ := facts
  obtain ⟨answers, unanswered, _⟩ := wait_until_due lives goes
  rw [now, first] at answers unanswered
  by_cases told : ∃ answered answer,
      Answers 0 met (.waits { nanos := 50 } false :: during) answered answer
  · obtain ⟨answered, answer, given⟩ := told
    obtain ⟨at_forty, _, _, settles, _⟩ := answers answered answer given
    rw [returned] at at_forty
    have same : answered.now = 40 := by simpa using at_forty.symm
    have ok : answer = .ok () := by
      split at settles
      · exact settles
      · rw [same] at settles
        cases settles.2
    exact ⟨met, final, answered, lives, goes, ok ▸ given, same⟩
  · have none := unanswered fun answered answer given => told ⟨answered, answer, given⟩
    rw [returned, isOver] at none
    simp [exited, awaited] at none

/-- A unit has exited, and yet a wait for its end with the longest timeout crashes. -/
theorem Life.wait_crashes_with_longest_timeout :
    ((fresh "unit" { nanos := 1000 }).runInTime?
        [.starts, .enters, .finishes, .waits longestTimeout false]).map
        (fun life => (life.job.exitFlag, life.standing? 0)) =
      some (true, some .crashed) := by
  decide +kernel

end Overseer
