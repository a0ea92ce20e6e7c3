import Overseer.Proofs.Supervision.Journal
import Overseer.Proofs.Supervision.Orphans
import Overseer.Proofs.Supervision.Renewal

/-!
# The verdict on the last round

The outcome of a run is settled by the evaluation of its last round: by what is on record
about that round, and by whether somebody had asked for a stop or a kill.  Until then the run
has returned nothing, and from then on it only closes its gate and returns.

`Rules` says what a turn of a run makes of its outcome, `Ruling` what a happening makes of
it, and both keep to the code that was awarded.
-/

namespace Overseer

/-- What a run returns whose last round ended like this, as far as that is known. -/
def ExitStatus.outcome (stopped : Bool) : Option ExitStatus → Option Int
  | some (.exited code) => some code
  | some (.signalled signal) => if stopped then some 0 else some (128 + signal)
  | none => if stopped then some 0 else none

theorem Verdict.code_of_ends {restartMark stopRequested : Bool}
    {status : Option ExitStatus} {code : Option Int}
    (ends : Verdict.of restartMark stopRequested status = .ends code) :
    code = ExitStatus.outcome stopRequested status := by
  unfold Verdict.of at ends
  cases stopRequested with
  | true =>
      rw [Bool.not_true, Bool.and_false, if_neg Bool.false_ne_true] at ends
      cases status with
      | none =>
          cases ends
          rfl
      | some status => cases status <;> cases ends <;> rfl
  | false =>
      split at ends
      · cases ends
      · cases status with
        | none =>
            cases ends
            rfl
        | some status => cases status <;> cases ends <;> rfl

namespace Site

variable {round gate : Nat} {site before after : Site} {supervisor : Supervisor}
  {code : Option Int} {waits : Option RunStage}

/-- These are the results of the runs. -/
def HasResults (site : Site) (results : List RunResult) : Prop :=
  ∃ supervisor, site.supervisor? 0 = some supervisor ∧ supervisor.results = results

/-- The run returns this code, at once or when its gate is closed. -/
inductive Awards (code : Option Int) (after : Site) : Option RunStage → Prop where
  | closing (gate : Nat) (call : StopCall) : Awards code after (some (.closing code gate call))
  | returned {results : List RunResult}
      (has : after.HasResults (results ++ [.returned (.ok code)])) : Awards code after none

/-! ## The end of a run -/

theorem hasResults_finishRun (held : site.supervisor? 0 = some supervisor)
    (result : RunResult) :
    (site.finishRun 0 result).HasResults (supervisor.results ++ [result]) :=
  ⟨_, supervisor?_finishRun held result, rfl⟩

theorem hasResults_crashRun (held : site.supervisor? 0 = some supervisor) :
    (site.crashRun 0 supervisor).site.HasResults (supervisor.results ++ [.crashed]) := by
  obtain ⟨_, supervisors⟩ := calm_abandonChannel site supervisor.channel
  have kept := supervisor?_of_supervisors supervisors held
  exact hasResults_finishRun (supervisor?_setSupervisor kept (closed supervisor)) .crashed

theorem awards_awaitGate (held : site.supervisor? 0 = some supervisor) (gate : Nat)
    (code : Option Int) (standing : StopCall.Standing) :
    Awards code (site.awaitGate 0 supervisor gate code standing).site
      (site.awaitGate 0 supervisor gate code standing).waits := by
  have ends : Awards code (site.endRun 0 supervisor gate code).site none := by
    obtain ⟨_, supervisors⟩ := calm_clearChannel site supervisor.channel.path gate
    have kept := supervisor?_of_supervisors supervisors held
    unfold endRun
    dsimp only
    generalize site.clearChannel supervisor.channel.path gate = cleared at kept ⊢
    have shut := supervisor?_setSupervisor kept (closed supervisor)
    have told : ((cleared.setSupervisor 0 (closed supervisor)).postEvent 0
        .supervisorStopped).supervisor? 0 = some (closed supervisor) := shut
    exact .returned (hasResults_finishRun told (.returned (.ok code)))
  cases standing with
  | waits call => exact .closing gate call
  | returned | crashed => exact ends

theorem awards_closeRun (held : site.supervisor? 0 = some supervisor) (code : Option Int) :
    Awards code (site.closeRun 0 supervisor code).site
      (site.closeRun 0 supervisor code).waits := by
  unfold closeRun
  split
  · have told : (site.postEvent 0 .supervisorStopped).supervisor? 0 = some supervisor := held
    exact .returned (hasResults_finishRun told (.returned (.ok code)))
  · exact awards_awaitGate (supervisor?_commit held _ _) _ code _

/-! ## Rounds that are judged -/

/-- The run listens to the round that was opened last. -/
inductive Attends (results : List RunResult) (after : Site) : Option RunStage → Prop where
  | listens {round : Nat} {deadline : Instant} (latest : after.rounds.getLast? = some round)
      (has : after.HasResults results) :
      Attends results after (some (.listening round deadline))

theorem Embarks.attends {results : List RunResult} {posted : List Event}
    (embarks : Embarks site results gate posted round after waits) :
    Attends results after waits := by
  obtain ⟨⟨deadline, listens⟩, _, _, rounds, _, next, kept, _, same⟩ := embarks
  rw [listens]
  refine .listens ?_ ⟨next, kept, same⟩
  rw [rounds, List.getLast?_concat]

def exitOf (site : Site) (round : Nat) : Event :=
  .applicationExited ((site.record? round).map ExitStatus.code)

/-- What becomes of a run that evaluates a round, with the rounds that it opened in the same
turn. -/
inductive Judged (site : Site) (supervisor : Supervisor) (round : Nat) (opened : List Nat)
    (after : Site) (waits : Option RunStage) : Prop where
  | renews (wanted : supervisor.stopRequested = false)
      (attends : Attends supervisor.results after waits)
  | concludes
      (closes : Closes site supervisor.results [site.exitOf round] opened after waits)
      (awards : Awards (ExitStatus.outcome supervisor.stopRequested (site.record? round))
        after waits)
  | crashes (ended : waits = none)
      (has : after.HasResults (supervisor.results ++ [.crashed]))

theorem judged_concludeRound (held : site.supervisor? 0 = some supervisor)
    (isOpen : supervisor.channel.gate = some gate) (guarded : site.charter? gate = some none)
    (round : Nat) :
    Judged site supervisor round [] (site.concludeRound 0 supervisor round).site
      (site.concludeRound 0 supervisor round).waits := by
  let idle := { supervisor with current := none }
  have exits : Extends [site.exitOf round] (fun _ => []) site
      ((site.setSupervisor 0 idle).postEvent 0 (site.exitOf round)) :=
    (leaves_setSupervisor held (rfl : idle.channel = _) rfl).trans (extends_postEvent _ 0 _)
  have kept : ((site.setSupervisor 0 idle).postEvent 0 (site.exitOf round)).supervisor? 0 =
      some idle := supervisor?_setSupervisor held idle
  unfold concludeRound
  dsimp only
  split
  · rename_i again
    have still : (((site.setSupervisor 0 idle).postEvent 0 (site.exitOf round)).postEvent 0
        .restartScheduled).supervisor? 0 = some idle := kept
    exact .renews (Verdict.wanted_of_again again) (embarks_launchRound still isOpen).attends
  · rename_i code ends
    have still : ∀ other, supervisor.channel.gate = some other →
        ((site.setSupervisor 0 idle).postEvent 0 (site.exitOf round)).charter? other =
          some none := by
      intro other same
      rw [exits.charter, ← Option.some.inj (isOpen.symm.trans same)]
      exact guarded
    have rounds : ((site.setSupervisor 0 idle).postEvent 0 (site.exitOf round)).rounds =
        site.rounds ++ [] :=
      exits.rounds.trans (List.append_nil _).symm
    have closes := Closes.following exits.log rounds (closes_closeRun kept still code)
    have awards := awards_closeRun kept code
    have same := Verdict.code_of_ends ends
    subst same
    exact .concludes closes awards

theorem Judged.following {opened added : List Nat} {current : Supervisor}
    (log : before.log = site.log) (rounds : before.rounds = site.rounds ++ opened)
    (remembers : Remembers site before)
    (judged : Judged before current round added after waits)
    (results : current.results = supervisor.results)
    (stopRequested : current.stopRequested = supervisor.stopRequested) :
    Judged site supervisor round (opened ++ added) after waits := by
  have known : before.record? round = site.record? round := remembers round
  have text : before.log = site.log ++ [] := log.trans (List.append_nil _).symm
  cases judged with
  | renews wanted attends =>
      rw [results] at attends
      exact .renews (stopRequested.symm.trans wanted) attends
  | crashes ended has =>
      rw [results] at has
      exact .crashes ended has
  | concludes closes awards =>
      rw [results] at closes
      rw [stopRequested] at awards
      have exits : before.exitOf round = site.exitOf round := by
        unfold exitOf
        rw [known]
      have whole := Closes.following text rounds closes
      rw [exits] at whole
      rw [known] at awards
      exact .concludes whole awards

/-- The stop of a round that has ended, and what follows it. -/
theorem judged_settleRound (held : site.supervisor? 0 = some supervisor)
    (isOpen : supervisor.channel.gate = some gate) (guarded : site.charter? gate = some none)
    (exited : (site.job round).exitFlag = true) :
    Judged site supervisor round [] (site.settleRound 0 supervisor round).site
      (site.settleRound 0 supervisor round).waits := by
  obtain ⟨standing, begins, answers⟩ := StopCall.begin_of_exited exited site.now
    supervisor.settings.stopTimeout false
  let claimed := { site.job round with stopClaimed := true }
  have claims : Leaves site (site.setJob round claimed) := leaves_setJob id
  have kept : (site.setJob round claimed).supervisor? 0 = some supervisor := held
  have still : (site.setJob round claimed).charter? gate = some none :=
    (claims.charter gate).trans guarded
  unfold settleRound beginStop
  dsimp only
  rw [begins]
  have remembers := remembers_setJob site round claimed
  have rounds := claims.rounds.trans (List.append_nil _).symm
  refine Judged.following (claims.log.trans (List.append_nil _)) rounds remembers ?_ rfl rfl
  cases standing with
  | waits call => exact absurd rfl (answers call)
  | crashed => exact .crashes rfl (hasResults_crashRun kept)
  | returned => exact judged_concludeRound kept isOpen still round

theorem judged_beginRound (holds : site.Holds 0 supervisor)
    (isOpen : supervisor.channel.gate = some gate)
    (stopRequested : supervisor.stopRequested = true) :
    Judged site supervisor site.posts.size [site.posts.size]
        (site.beginRound 0 supervisor).site (site.beginRound 0 supervisor).waits ∧
      ((site.beginRound 0 supervisor).site.job site.posts.size).exitFlag = true := by
  obtain ⟨log, rounds, _, _⟩ := readies_openRound holds.held
  have opens := opens_openRound holds
  have exited := exited_of_withdrawn site supervisor supervisor.settings.stopTimeout
  have stops := leaves_beginStop (site.openRound 0 supervisor).1 site.posts.size
    supervisor.settings.stopTimeout
  have bears := (carries_beginStop (site.openRound 0 supervisor).1 0 site.posts.size
    supervisor.settings.stopTimeout).bears
  have withdrawn := opens.holds.bears bears (supervisors_commit _ site.posts.size _)
  have opened : Remembers site (site.openRound 0 supervisor).1 :=
    remembers_openRound site supervisor
  have remembers := opened.trans
    (remembers_beginStop _ site.posts.size supervisor.settings.stopTimeout)
  have same : site.beginRound 0 supervisor =
      ((site.openRound 0 supervisor).1.beginStop site.posts.size
        supervisor.settings.stopTimeout).1.settleRound 0
          { supervisor with current := some site.posts.size } site.posts.size := by
    unfold beginRound
    rw [if_pos stopRequested]
    rfl
  rw [same]
  generalize ((site.openRound 0 supervisor).1.beginStop site.posts.size
    supervisor.settings.stopTimeout).1 = stopped at *
  have judged := judged_settleRound withdrawn.held isOpen
    (withdrawn.owns.gates gate isOpen) exited
  have told : stopped.log = site.log :=
    (stops.log.trans (List.append_nil _)).trans log
  refine ⟨?_, exited_of_deeds (proceeds_settleRound withdrawn exited).deeds exited⟩
  exact Judged.following told (stops.rounds.trans rounds) remembers judged rfl rfl

/-! ## Turns -/

/-- The round that a run evaluates in its turn, and which rounds it opened before. -/
inductive Evaluates : RunStage → (round : Nat) → (opened : List Nat) → Prop where
  | listening (round : Nat) (deadline : Instant) :
      Evaluates (.listening round deadline) round []
  | withdrawn (round : Nat) : Evaluates .called round [round]

/-- A run that has evaluated no round for the last time. -/
def IsUndecided : RunStage → Prop
  | .called | .listening _ _ => True
  | .settling _ _ | .closing _ _ _ => False

/-- What a turn of a run makes of the outcome. -/
inductive Rules (site : Site) (supervisor : Supervisor) :
    RunStage → Site → Option RunStage → Prop where
  | listens {round : Nat} {deadline later : Instant} {after : Site}
      (rounds : after.rounds = site.rounds) (has : after.HasResults supervisor.results) :
      Rules site supervisor (.listening round deadline) after
        (some (.listening round later))
  | attends {stage : RunStage} {after : Site} {waits : Option RunStage}
      (undecided : IsUndecided stage) (attends : Attends supervisor.results after waits) :
      Rules site supervisor stage after waits
  | evaluates {stage : RunStage} {round : Nat} {opened : List Nat} {after : Site}
      {waits : Option RunStage} (evaluates : Evaluates stage round opened)
      (exited : (after.job round).exitFlag = true)
      (closes : Closes site supervisor.results [site.exitOf round] opened after waits)
      (awards : Awards (ExitStatus.outcome supervisor.stopRequested (site.record? round))
        after waits) :
      Rules site supervisor stage after waits
  | closes {code : Option Int} {gate : Nat} {call : StopCall} {after : Site}
      {waits : Option RunStage} (closes : Closes site supervisor.results [] [] after waits)
      (awards : Awards code after waits) :
      Rules site supervisor (.closing code gate call) after waits
  /-- The channel cannot be opened. -/
  | refuses {after : Site} (fault : Fault)
      (has : after.HasResults (supervisor.results ++ [.returned (.error fault)])) :
      Rules site supervisor .called after none
  | crashes {stage : RunStage} {after : Site} (undecided : IsUndecided stage)
      (has : after.HasResults (supervisor.results ++ [.crashed])) :
      Rules site supervisor stage after none

theorem Judged.rules {stage : RunStage} {opened : List Nat}
    (judged : Judged site supervisor round opened after waits)
    (evaluates : Evaluates stage round opened) (exited : (after.job round).exitFlag = true) :
    Rules site supervisor stage after waits := by
  have undecided : IsUndecided stage := by
    cases evaluates with
    | listening _ _ | withdrawn _ => trivial
  cases judged with
  | renews _ attends => exact .attends undecided attends
  | concludes closes awards => exact .evaluates evaluates exited closes awards
  | crashes ended has =>
      rw [ended]
      exact .crashes undecided has

theorem rules_dispatch {command : Command} {taken : Site} {deadline : Instant}
    (held : site.supervisor? 0 = some supervisor)
    (takes : supervisor.channel.gate.bind site.takeCommand? = some (taken, command)) :
    Rules site supervisor (.listening round deadline)
      (taken.dispatch 0 supervisor round command).site
      (taken.dispatch 0 supervisor round command).waits := by
  obtain ⟨gate, guard, rest, _, guarded, _, is⟩ := exists_of_takeCommand? takes
  rw [is]
  have takes := notes_setGate guarded { guard with queue := rest }
  have posts := extends_postEvent (site.setGate gate { guard with queue := rest }) 0
    (.commandReceived command.name)
  exact .listens (takes.trans posts.toNotes).rounds ⟨supervisor, held, rfl⟩

theorem rules_listen (holds : site.Holds 0 supervisor)
    (started : (site.job round).phase ≠ .created)
    (isOpen : supervisor.channel.gate = some gate) (deadline : Instant) :
    Rules site supervisor (.listening round deadline)
      (site.listen 0 supervisor round deadline).site
      (site.listen 0 supervisor round deadline).waits := by
  unfold listen
  split
  · rename_i ended
    have exited : (site.job round).exitFlag = true := by
      simpa [Job.isAlive, started] using ended
    have judged := judged_settleRound holds.held isOpen (holds.owns.gates gate isOpen) exited
    exact judged.rules (.listening round deadline)
      (exited_of_deeds (proceeds_settleRound holds exited).deeds exited)
  · split
    · rename_i taken command takes
      exact rules_dispatch holds.held takes
    · exact .listens rfl ⟨supervisor, holds.held, rfl⟩

theorem rules_beginRound {current : Supervisor} (holds : before.Holds 0 current)
    (isOpen : current.channel.gate = some gate) (readies : Readies [] site before)
    (remembers : Remembers site before) (results : current.results = supervisor.results)
    (same : current.stopRequested = supervisor.stopRequested) :
    Rules site supervisor .called (before.beginRound 0 current).site
      (before.beginRound 0 current).waits := by
  cases stopRequested : current.stopRequested with
  | true =>
      obtain ⟨judged, exited⟩ := judged_beginRound holds isOpen stopRequested
      have rounds : before.rounds = site.rounds ++ [] :=
        readies.rounds.trans (List.append_nil _).symm
      have told := readies.log.trans (List.append_nil _)
      have whole := Judged.following told rounds remembers judged results same
      exact whole.rules (.withdrawn before.posts.size) exited
  | false =>
      have attends := (embarks_launchRound holds.held isOpen).attends
      rw [results] at attends
      unfold beginRound
      rw [stopRequested]
      exact .attends trivial attends

theorem rules_openRun (holds : site.Holds 0 supervisor)
    (closed : supervisor.channel.gate = none) :
    Rules site supervisor .called (site.openRun 0 supervisor).site
      (site.openRun 0 supervisor).waits := by
  unfold openRun
  split
  · rename_i after fault fails
    obtain ⟨_, supervisors⟩ := readies_of_openChannel_error closed fails
    have kept := supervisor?_of_supervisors supervisors holds.held
    exact .refuses fault (hasResults_finishRun kept _)
  · rename_i after channel post opens
    obtain ⟨readies, isOpen⟩ := readies_of_openChannel closed opens
    have opensGate : OpensGate 0 site after channel post :=
      opensGate_of_openChannel holds.owns.gates opens
    have kept := holds.bears (bears_of_deeds opensGate.deeds) opensGate.supervisors
    have owns : after.Owns { supervisor with channel := channel } :=
      ⟨opensGate.guarded, kept.owns.rounds⟩
    have opened := kept.set owns
    have readied : Readies [] site
        (after.setSupervisor 0 { supervisor with channel := channel }) :=
      ⟨readies.log, readies.rounds, readies.absent, readies.queue⟩
    have ready := remembers_openChannel site supervisor.channel
    rw [opens] at ready
    exact rules_beginRound opened isOpen readied ready rfl rfl

theorem rules_continueRun (holds : site.Holds 0 supervisor) {stage : RunStage}
    (stands : site.Stands stage) (minds : supervisor.Minds (some stage)) :
    Rules site supervisor stage (site.continueRun 0 supervisor stage).site
      (site.continueRun 0 supervisor stage).waits := by
  cases stage with
  | called => exact rules_openRun holds (minds.shut (.inr rfl))
  | listening round deadline =>
      obtain ⟨gate, isOpen⟩ := minds.isOpen round deadline rfl
      exact rules_listen holds stands isOpen deadline
  | settling round call => exact absurd stands id
  | closing code gate call =>
      have closes := closes_stopGate holds.held stands
        (StopCall.endures_resume site.now (site.job gate) call) code
      have kept := supervisor?_commit holds.held gate (call.resume site.now (site.job gate))
      exact .closes closes (awards_awaitGate kept gate code _)

theorem Advances.rules {stage : RunStage} {step : RunStep}
    (advances : site.Advances supervisor stage step) (holds : site.Holds 0 supervisor)
    (stands : site.Stands stage) (minds : supervisor.Minds (some stage)) :
    Rules site supervisor stage step.site step.waits := by
  cases advances with
  | turns stage => exact rules_continueRun holds stands minds
  | overtakes takes => exact rules_dispatch holds.held takes

end Site

namespace Annals

open Chronicle (Happening)

variable {settings : Settings} {before annals next final : Annals} {happening : Happening}
  {happenings : List Happening} {waits : Option RunStage} {result : RunResult}
  {text : List Event} {rounds : List Nat} {code : Option Int}

theorem results_of_has {results : List RunResult} (has : annals.site.HasResults results) :
    annals.results = results := by
  obtain ⟨supervisor, held, same⟩ := has
  exact (results_of_held held).trans same

/-! ## What is recorded -/

theorem recorded_of_step (sound : annals.Sound settings)
    (recorded : annals.chronicle.IsRecorded) (steps : annals.step? happening = some next) :
    next.chronicle.IsRecorded := by
  obtain ⟨chronicle, happens, is⟩ := Option.map_eq_some_iff.mp steps
  rw [← is]
  exact Chronicle.recorded_step sound.chronicle recorded happens

instance (course : Course) : Decidable course.WasStopped :=
  inferInstanceAs
    (Decidable (∃ one ∈ course.asked, one.demand = .stop ∨ one.demand = .kill))

theorem stopRequested_eq (recorded : annals.chronicle.IsRecorded) {supervisor : Supervisor}
    (held : annals.site.supervisor? 0 = some supervisor) :
    supervisor.stopRequested = decide annals.course.WasStopped := by
  rw [Bool.eq_iff_iff, decide_eq_true_iff, ← recorded.stopped]
  constructor
  · exact fun requested => ⟨supervisor, held, requested⟩
  · intro stopping
    obtain ⟨other, also, requested⟩ := stopping
    cases held.symm.trans also
    exact requested

/-! ## Turns of the run -/

/-- A step of the run, and what it makes of the outcome. -/
structure Ruling (annals next : Annals) (supervisor : Supervisor) (stage : RunStage)
    (waits : Option RunStage) : Prop where
  waited : annals.course.IsAt (some stage)
  held : annals.site.supervisor? 0 = some supervisor
  rules : Site.Rules annals.site supervisor stage next.site waits
  isAt : next.course.IsAt waits
  remembers : Site.Remembers annals.site next.site

theorem GoesOn.ruling {position : Nat} {stage : RunStage} {supervisor : Supervisor}
    {step : RunStep} (goesOn : annals.GoesOn next position stage supervisor step)
    (sound : annals.Sound settings) : Ruling annals next supervisor stage step.waits := by
  have rules := goesOn.advances.rules goesOn.holds goesOn.stands (goesOn.minds sound)
  have remembers := goesOn.advances.remembers
  rw [← goesOn.site] at rules remembers
  exact ⟨goesOn.waited sound, goesOn.holds.held, rules, goesOn.isAt sound, remembers⟩

theorem stays_or_rules (sound : annals.Sound settings) (other : happening ≠ call)
    (steps : annals.step? happening = some next) :
    (∃ births, Chronicle.Lasts births annals.chronicle next.chronicle ∧ ∀ stage,
      .run 0 stage ∈ next.course.tasks ↔ .run 0 stage ∈ annals.course.tasks) ∨
      ∃ supervisor stage waits, Ruling annals next supervisor stage waits := by
  by_cases ofRun : annals.chronicle.IsOfRun happening
  · obtain ⟨_, stage, supervisor, step, goesOn⟩ := goesOn_of_step sound other ofRun steps
    exact .inr ⟨supervisor, stage, step.waits, goesOn.ruling sound⟩
  · obtain ⟨chronicle, happens, is⟩ := Option.map_eq_some_iff.mp steps
    obtain ⟨births, lasts⟩ := Chronicle.lasts_of_step sound.chronicle happens ofRun
    rw [← is]
    exact .inl ⟨births, lasts, Chronicle.stays_of_step sound.chronicle happens ofRun⟩

/-! ## Where the outcome stands -/

/-- The run has returned nothing, and may still open a round. -/
inductive Undecided (before annals : Annals) : Prop where
  | called (isAt : annals.course.IsAt (some .called)) (results : annals.results = before.results)
  | listens {round : Nat} {deadline : Instant}
      (isAt : annals.course.IsAt (some (.listening round deadline)))
      (latest : annals.site.rounds.getLast? = some round)
      (results : annals.results = before.results)

/-- The run returns this code: so much has been told by then, and these rounds were opened. -/
inductive Decided (before : Annals) (text : List Event) (rounds : List Nat)
    (code : Option Int) (annals : Annals) : Prop where
  | closes {gate : Nat} {call : StopCall}
      (isAt : annals.course.IsAt (some (.closing code gate call)))
      (log : annals.site.log = text) (rounds : annals.site.rounds = rounds)
      (results : annals.results = before.results)
  | returned (isAt : annals.course.IsAt none)
      (log : annals.site.log = text ++ [.supervisorStopped])
      (rounds : annals.site.rounds = rounds)
      (results : annals.results = before.results ++ [.returned (.ok code)])

/-- The run is over, with this result. -/
structure Over (before : Annals) (result : RunResult) (annals : Annals) : Prop where
  isAt : annals.course.IsAt none
  results : annals.results = before.results ++ [result]

/-- A happening that evaluates the last round. -/
structure Evaluation (before eve after : Annals) (round : Nat) : Prop where
  latest : after.site.rounds.getLast? = some round
  exited : (after.site.job round).exitFlag = true
  known : after.site.record? round = eve.site.record? round
  tells : eve.site.log ++ [eve.site.exitOf round] <+: after.site.log
  decided : Decided before (eve.site.log ++ [eve.site.exitOf round]) after.site.rounds
    (ExitStatus.outcome (decide eve.course.WasStopped) (eve.site.record? round)) after

/-- What becomes of the outcome in a happening. -/
inductive Turnout (before annals next : Annals) : Prop where
  | goesOn (undecided : Undecided before next)
      (still : next.course.IsAt (some .called) → annals.course.IsAt (some .called))
  | evaluates {round : Nat} (evaluation : Evaluation before annals next round)
  | refuses (isAt : annals.course.IsAt (some .called)) (fault : Fault)
      (past : Over before (.returned (.error fault)) next)
  | crashes (past : Over before .crashed next)

theorem decided_of_closes {site : Site} {posted : List Event} {opened : List Nat}
    (closes : Site.Closes site before.results posted opened next.site waits)
    (awards : Site.Awards code next.site waits) (isAt : next.course.IsAt waits) :
    Decided before (site.log ++ posted) next.site.rounds code next := by
  cases closes with
  | closing _ gate call closing log rounds supervised =>
      rw [closing] at awards isAt
      cases awards with
      | closing gate call =>
          obtain ⟨supervisor, kept, same⟩ := supervised
          exact .closes isAt log rfl ((results_of_held kept).trans same)
  | returns other ended log rounds supervised =>
      rw [ended] at awards isAt
      obtain ⟨supervisor, kept, _, same⟩ := supervised
      have results := (results_of_held kept).trans same
      cases awards with
      | returned has =>
          have also := results_of_has has
          rw [results] at also
          have last := congrArg List.getLast? also
          rw [List.getLast?_concat, List.getLast?_concat] at last
          cases last
          rw [← List.append_assoc] at log
          exact .returned isAt log rfl results

theorem Undecided.stays {births : List Offspring} (undecided : Undecided before annals)
    (sound : annals.Sound settings)
    (lasts : Chronicle.Lasts births annals.chronicle next.chronicle)
    (same : ∀ stage,
      .run 0 stage ∈ next.course.tasks ↔ .run 0 stage ∈ annals.course.tasks) :
    Turnout before annals next := by
  have results := (results_of_lasts sound lasts).1
  have still : next.course.IsAt (some .called) → annals.course.IsAt (some .called) :=
    fun isAt stage => (same stage).symm.trans (isAt stage)
  cases undecided with
  | called isAt known =>
      exact .goesOn (.called (fun stage => (same stage).trans (isAt stage))
        (results.trans known)) still
  | listens isAt latest known =>
      have rounds : next.site.rounds = annals.site.rounds := lasts.written.rounds
      exact .goesOn (.listens (fun stage => (same stage).trans (isAt stage))
        (rounds ▸ latest) (results.trans known)) still

theorem Undecided.results (undecided : Undecided before annals) :
    annals.results = before.results := by
  cases undecided with
  | called _ results | listens _ _ results => exact results

theorem rounds_of_closes {site : Site} {results : List RunResult} {posted : List Event}
    {opened : List Nat} (closes : Site.Closes site results posted opened next.site waits) :
    next.site.rounds = site.rounds ++ opened := by
  cases closes with
  | closing _ _ _ _ _ rounds _ | returns _ _ _ rounds _ => exact rounds

theorem log_of_closes {site : Site} {results : List RunResult} {posted : List Event}
    {opened : List Nat} (closes : Site.Closes site results posted opened next.site waits) :
    site.log ++ posted <+: next.site.log := by
  cases closes with
  | closing _ _ _ _ log _ _ => exact log ▸ List.prefix_rfl
  | returns _ _ log _ _ =>
      rw [log, ← List.append_assoc]
      exact List.prefix_append _ _

theorem Undecided.latest {stage : RunStage} {round : Nat} {opened : List Nat}
    (undecided : Undecided before annals) (waited : annals.course.IsAt (some stage))
    (evaluates : Site.Evaluates stage round opened)
    (rounds : next.site.rounds = annals.site.rounds ++ opened) :
    next.site.rounds.getLast? = some round := by
  rw [rounds]
  cases evaluates with
  | withdrawn round => exact List.getLast?_concat
  | listening round deadline =>
      rw [List.append_nil]
      cases undecided with
      | called isAt _ => cases isAt.unique waited
      | listens isAt latest _ =>
          cases isAt.unique waited
          exact latest

theorem Undecided.turns {supervisor : Supervisor} {stage : RunStage}
    (undecided : Undecided before annals) (recorded : annals.chronicle.IsRecorded)
    (ruling : Ruling annals next supervisor stage waits) : Turnout before annals next := by
  obtain ⟨waited, held, rules, isAt, remembers⟩ := ruling
  have results : supervisor.results = before.results :=
    (results_of_held held).symm.trans undecided.results
  have listening : ∀ {round deadline}, next.course.IsAt (some (.listening round deadline)) →
      next.course.IsAt (some .called) → annals.course.IsAt (some .called) :=
    fun isAt called => nomatch isAt.unique called
  cases rules with
  | @listens round deadline later _ rounds has =>
      rw [results] at has
      cases undecided with
      | called called _ => cases called.unique waited
      | listens listens latest _ =>
          cases listens.unique waited
          exact .goesOn (.listens isAt (rounds ▸ latest) (results_of_has has)) (listening isAt)
  | attends _ attends =>
      rw [results] at attends
      cases attends with
      | listens latest has =>
          exact .goesOn (.listens isAt latest (results_of_has has)) (listening isAt)
  | @evaluates _ round opened _ _ evaluates exited closes awards =>
      rw [results] at closes
      rw [stopRequested_eq recorded held] at awards
      exact .evaluates ⟨undecided.latest waited evaluates (rounds_of_closes closes), exited,
        remembers round, log_of_closes closes, decided_of_closes closes awards isAt⟩
  | closes _ _ =>
      cases undecided with
      | called isAt _ | listens isAt _ _ => cases isAt.unique waited
  | refuses fault has =>
      rw [results] at has
      exact .refuses waited fault ⟨isAt, results_of_has has⟩
  | crashes _ has =>
      rw [results] at has
      exact .crashes ⟨isAt, results_of_has has⟩

theorem Undecided.step (undecided : Undecided before annals) (sound : annals.Sound settings)
    (recorded : annals.chronicle.IsRecorded) (other : happening ≠ call)
    (steps : annals.step? happening = some next) : Turnout before annals next := by
  rcases stays_or_rules sound other steps with ⟨births, lasts, same⟩ | turned
  · exact undecided.stays sound lasts same
  · obtain ⟨supervisor, stage, waits, ruling⟩ := turned
    exact undecided.turns recorded ruling

theorem Decided.stays {births : List Offspring} (decided : Decided before text rounds code annals)
    (sound : annals.Sound settings)
    (lasts : Chronicle.Lasts births annals.chronicle next.chronicle)
    (same : ∀ stage,
      .run 0 stage ∈ next.course.tasks ↔ .run 0 stage ∈ annals.course.tasks) :
    Decided before text rounds code next := by
  have results := (results_of_lasts sound lasts).1
  have opened : next.site.rounds = annals.site.rounds := lasts.written.rounds
  have silent : ∀ {waits}, annals.course.IsAt waits →
      (∀ round deadline, waits ≠ some (.listening round deadline)) →
        next.site.log = annals.site.log :=
    fun isAt elsewhere =>
      (lasts_nil sound lasts isAt elsewhere).written.log.trans (List.append_nil _)
  cases decided with
  | closes isAt log known still =>
      exact .closes (fun stage => (same stage).trans (isAt stage))
        ((silent isAt fun _ _ same => nomatch same).trans log) (opened.trans known)
        (results.trans still)
  | returned isAt log known still =>
      exact .returned (fun stage => (same stage).trans (isAt stage))
        ((silent isAt fun _ _ same => nomatch same).trans log) (opened.trans known)
        (results.trans still)

theorem Decided.turns {supervisor : Supervisor} {stage : RunStage}
    (decided : Decided before text rounds code annals)
    (ruling : Ruling annals next supervisor stage waits) :
    Decided before text rounds code next := by
  obtain ⟨waited, held, rules, isAt, _⟩ := ruling
  cases decided with
  | returned idle _ _ _ => cases idle.unique waited
  | closes closing log known still =>
      cases closing.unique waited
      cases rules with
      | attends undecided _ | crashes undecided _ => exact undecided.elim
      | evaluates evaluates _ _ _ => cases evaluates
      | closes closes awards =>
          rw [← results_of_held held, still] at closes
          have decided := decided_of_closes closes awards isAt
          rw [rounds_of_closes closes, List.append_nil, List.append_nil, log, known] at decided
          exact decided

/-- A code that was awarded is returned. -/
theorem Decided.step (decided : Decided before text rounds code annals)
    (sound : annals.Sound settings) (other : happening ≠ call)
    (steps : annals.step? happening = some next) : Decided before text rounds code next := by
  rcases stays_or_rules sound other steps with ⟨births, lasts, same⟩ | turned
  · exact decided.stays sound lasts same
  · obtain ⟨supervisor, stage, waits, ruling⟩ := turned
    exact decided.turns ruling

theorem Over.step (past : Over before result annals) (sound : annals.Sound settings)
    (other : happening ≠ call) (steps : annals.step? happening = some next) :
    Over before result next := by
  rcases stays_or_rules sound other steps with ⟨births, lasts, same⟩ | turned
  · exact ⟨fun stage => (same stage).trans (past.isAt stage),
      (results_of_lasts sound lasts).1.trans past.results⟩
  · obtain ⟨supervisor, stage, waits, ruling⟩ := turned
    cases past.isAt.unique ruling.waited

/-! ## Runs -/

theorem Decided.run (decided : Decided before text rounds code annals)
    (sound : annals.Sound settings) (meanwhile : call ∉ happenings)
    (runs : annals.run? happenings = some final) : Decided before text rounds code final :=
  (keeps_run (Decided before text rounds code) sound decided
    (fun sound decided member steps =>
      decided.step sound (fun same => meanwhile (same ▸ member)) steps) runs).2

theorem Over.run (past : Over before result annals) (sound : annals.Sound settings)
    (meanwhile : call ∉ happenings) (runs : annals.run? happenings = some final) :
    final.Sound settings ∧ Over before result final :=
  keeps_run (Over before result) sound past
    (fun sound past member steps =>
      past.step sound (fun same => meanwhile (same ▸ member)) steps) runs

/-- A run that has returned by then returned the code that was awarded. -/
theorem Decided.returns (decided : Decided before text rounds code final)
    (ended : final.results = before.results ++ [result]) :
    result = .returned (.ok code) ∧ final.site.log = text ++ [.supervisorStopped] ∧
      final.site.rounds = rounds := by
  cases decided with
  | closes _ _ _ results =>
      rw [results] at ended
      exact absurd ended (by simp)
  | returned _ log rounds results =>
      rw [results] at ended
      cases List.append_cancel_left ended
      exact ⟨rfl, log, rounds⟩

theorem Over.returns (past : Over before result annals) {other : RunResult}
    (ended : annals.results = before.results ++ [other]) : other = result := by
  rw [past.results] at ended
  cases List.append_cancel_left ended
  rfl

/-- The channel is open at some moment. -/
def Opens (annals : Annals) (happenings : List Happening) : Prop :=
  ∃ first rest moment gate, happenings = first ++ rest ∧ annals.run? first = some moment ∧
    moment.gate? = some gate

theorem opens_of_prefix {gate : Nat} (first rest : List Happening)
    (isOpen : (annals.run? first).bind Annals.gate? = some gate) :
    Opens annals (first ++ rest) := by
  obtain ⟨moment, goes, isOpen⟩ := Option.bind_eq_some_iff.mp isOpen
  exact ⟨first, rest, moment, gate, rfl, goes, isOpen⟩

theorem gate?_of_shut (sound : annals.Sound settings) (isAt : annals.course.IsAt waits)
    (shut : waits = none ∨ waits = some .called) : annals.gate? = none := by
  obtain ⟨supervisor, holds, _⟩ := sound.chronicle.course.supervised
  rw [gate?_of_held holds.held]
  exact (sound.minds supervisor waits holds.held isAt).shut shut

theorem Opens.tail {rest : List Happening} (opens : Opens annals (happening :: rest))
    (shut : annals.gate? = none) (steps : annals.step? happening = some next) :
    Opens next rest := by
  obtain ⟨first, later, moment, gate, split, goes, isOpen⟩ := opens
  cases first with
  | nil =>
      cases goes
      rw [shut] at isOpen
      cases isOpen
  | cons head first =>
      obtain ⟨same, remains⟩ := List.cons.inj split
      rw [← same] at goes
      obtain ⟨after, steps', goes⟩ := run?_cons goes
      cases steps.symm.trans steps'
      exact ⟨first, later, moment, gate, remains, goes, isOpen⟩

/-- A run that is over has closed its channel. -/
theorem Over.not_opens (past : Over before result annals) (sound : annals.Sound settings)
    (meanwhile : call ∉ happenings) : ¬ Opens annals happenings := by
  intro opens
  obtain ⟨first, rest, moment, gate, split, goes, isOpen⟩ := opens
  have uncalled : call ∉ first := by
    intro member
    apply meanwhile
    rw [split]
    exact List.mem_append_left _ member
  obtain ⟨sound, past⟩ := past.run sound uncalled goes
  rw [gate?_of_shut sound past.isAt (.inl rfl)] at isOpen
  cases isOpen

/-- A run whose channel was open has crashed, or it has evaluated its last round. -/
theorem evaluated_of_run (undecided : Undecided before annals) (sound : annals.Sound settings)
    (recorded : annals.chronicle.IsRecorded)
    (opens : annals.course.IsAt (some .called) → Opens annals happenings)
    (meanwhile : call ∉ happenings) (runs : annals.run? happenings = some final)
    (ended : final.results = before.results ++ [result]) :
    result = .crashed ∨ ∃ (moment : Moment annals final happenings) (round : Nat),
      Evaluation before moment.eve moment.next round := by
  induction happenings generalizing annals with
  | nil =>
      cases runs
      rw [undecided.results] at ended
      exact absurd ended (by simp)
  | cons happening rest induction =>
      obtain ⟨next, first, continues⟩ := run?_cons runs
      have sound' := sound_step sound first
      have later : call ∉ rest := fun member => meanwhile (List.mem_cons_of_mem _ member)
      have other : happening ≠ call := by
        intro same
        apply meanwhile
        rw [same]
        exact List.mem_cons_self
      cases undecided.step sound recorded other first with
      | crashes past => exact .inl ((past.run sound' later continues).2.returns ended)
      | evaluates evaluation => exact .inr ⟨.now first continues, _, evaluation⟩
      | refuses isAt fault past =>
          -- The channel was shut before and is shut for good, so it was never open.
          have shut := gate?_of_shut sound isAt (.inr rfl)
          exact absurd ((opens isAt).tail shut first) (past.not_opens sound' later)
      | goesOn undecided still =>
          -- A run that was only called has its channel opened later, if at all.
          have opens' : next.course.IsAt (some .called) → Opens next rest := by
            intro called
            have isAt := still called
            exact (opens isAt).tail (gate?_of_shut sound isAt (.inr rfl)) first
          rcases induction undecided sound' (recorded_of_step sound recorded first) opens'
            later continues with crashed | evaluated
          · exact .inl crashed
          · obtain ⟨moment, round, evaluation⟩ := evaluated
            exact .inr ⟨moment.later first, round, evaluation⟩

/-! ## The last round -/

theorem called_of_call {called : Annals} (sound : before.Sound settings)
    (calls : before.step? call = some called) :
    called.course.IsAt (some .called) ∧ called.site = before.site := by
  have goes := goes_of_step sound calls
  generalize same : call = happening at goes
  cases goes with
  | stays other _ _ => exact absurd same.symm other
  | turns other _ _ _ _ _ _ => exact absurd same.symm other
  | calls _ isAt site _ => exact ⟨isAt, site⟩

theorem exists_journal {called : Annals} (sound : before.Sound settings)
    (calls : before.step? call = some called) (meanwhile : call ∉ happenings)
    (runs : called.run? happenings = some final)
    (returned : final.results = before.results ++ [.returned (.ok code)]) :
    ∃ passages last, Journal before final (passages ++ [last]) := by
  obtain ⟨sound, moment, standing⟩ := standing_of_run sound calls meanwhile runs
  obtain ⟨passages, journal⟩ := standing.journal sound returned
  refine ⟨passages.dropLast, passages.getLast journal.some, ?_⟩
  rw [List.dropLast_append_getLast]
  exact journal

theorem Journal.last {passages : List Passage} {last : Passage} {round : Nat}
    {told : List Event} (journal : Journal before final (passages ++ [last]))
    (latest : final.site.rounds.getLast? = .some round)
    (log : final.site.log = told ++ [.applicationExited code, .supervisorStopped]) :
    last.round = round ∧ last.code = code := by
  constructor
  · have rounds := journal.rounds
    rw [List.map_append, List.map_singleton, ← List.append_assoc] at rounds
    rw [rounds, List.getLast?_concat] at latest
    exact Option.some.inj latest
  · have whole := journal.log
    rw [Passage.script_concat, Passage.text, log] at whole
    have split : told ++ [.applicationExited code, .supervisorStopped] =
        (told ++ [.applicationExited code]) ++ [Event.supervisorStopped] := by simp
    rw [split] at whole
    simp only [← List.append_assoc] at whole
    have exits := List.append_cancel_right whole
    have same := congrArg List.getLast? exits
    rw [List.getLast?_concat, List.getLast?_concat] at same
    cases same
    rfl

/-- The last round was opened in the run. -/
theorem Journal.unopened {passages : List Passage} {last : Passage}
    (journal : Journal before final (passages ++ [last])) :
    last.round ∉ before.site.rounds := by
  have distinct := final.site.nodup_rounds
  rw [journal.rounds, List.map_append, ← List.append_assoc] at distinct
  intro opened
  exact List.disjoint_of_nodup_append distinct (List.mem_append_left _ opened)
    (List.mem_singleton.mpr rfl)

/-- The last round of a run that has returned, which was evaluated at this moment: its
passage, and what is known of the end of its child. -/
structure Epilogue (before : Annals) {called final : Annals} {during : List Happening}
    (moment : Moment called final during) (last : Passage) (status : Option ExitStatus) :
    Prop where
  journal : ∃ passages, Journal before final (passages ++ [last])
  /-- The exit of the round is told at that moment, and it is the last one. -/
  tells : moment.eve.site.log ++ [.applicationExited last.code] <+: moment.next.site.log
  log : final.site.log =
    moment.eve.site.log ++ [.applicationExited last.code, .supervisorStopped]
  /-- The status is what the body of this round wrote about the child that it had spawned. -/
  written : ∀ known, status = some known ↔ ∃ child,
    ⟨last.round, child⟩ ∈ final.chronicle.spawned ∧
      ⟨⟨last.round, child⟩, known⟩ ∈ called.obituaries during
  /-- If there is none, every child that the round spawned was forsaken: its body was told
  to end before it was reaped, or it could not be waited for. -/
  unknown : status = none → ∀ child, ⟨last.round, child⟩ ∈ final.chronicle.spawned →
    called.Forsaken final during ⟨last.round, child⟩
  code : last.code = status.map ExitStatus.code

/-- What is known of the last round is known by the end of the run. -/
theorem epilogue_of_evaluation {called : Annals} {during : List Happening}
    {moment : Moment called final during} {passages : List Passage} {last : Passage}
    (sound : called.Sound settings) (owns : called.chronicle.Owns) (borne : called.HasBorne)
    (runs : called.run? during = some final)
    (evaluation : Evaluation before moment.eve moment.next last.round)
    (unopened : last.round ∉ called.site.rounds)
    (journal : Journal before final (passages ++ [last]))
    (code : last.code = (moment.eve.site.record? last.round).map ExitStatus.code)
    (log : final.site.log = moment.eve.site.log ++
      [moment.eve.site.exitOf last.round, .supervisorStopped]) :
    Epilogue before moment last (moment.eve.site.record? last.round) := by
  have kept := (record?_of_exited (moment.sound_next sound) evaluation.exited
    moment.continues).1
  rw [evaluation.known] at kept
  have exited := (journal.faithful last List.mem_concat_self).exited
  have tells := evaluation.tells
  unfold Site.exitOf at tells log
  rw [← code] at tells log
  refine ⟨⟨passages, journal⟩, tells, log, ?_, ?_, code⟩
  · intro known
    rw [← kept]
    exact record?_iff_written sound owns unopened runs
  · intro unknown child spawned
    exact forsaken_of_unknown sound borne unopened runs exited (kept.trans unknown) spawned

theorem epilogue_of_run {host : Host} {settings : Settings}
    {inherited : List (String × List UInt8)} {earlier during : List Happening}
    {before called final : Annals} {result : RunResult}
    (reaches : (fresh host (Supervisor.fresh settings inherited)).run? earlier = some before)
    (calls : before.step? call = some called) (runs : called.run? during = some final)
    (meanwhile : call ∉ during) (opens : Opens called during)
    (ended : final.results = before.results ++ [result]) :
    result = .crashed ∨ ∃ (moment : Moment called final during) (last : Passage)
      (status : Option ExitStatus), Epilogue before moment last status ∧
        result = .returned (.ok
          (ExitStatus.outcome (decide moment.eve.course.WasStopped) status)) := by
  obtain ⟨sound, recorded⟩ := keeps_run (fun annals => annals.chronicle.IsRecorded)
    (sound_fresh host settings inherited)
    (Chronicle.recorded_fresh host settings inherited)
    (fun sound recorded _ steps => recorded_of_step sound recorded steps) reaches
  obtain ⟨owns, borne⟩ := borne_of_run reaches
  have sound' := sound_step sound calls
  obtain ⟨isAt, site⟩ := called_of_call sound calls
  have undecided : Undecided before called := by
    refine .called isAt ?_
    unfold results
    rw [site]
  rcases evaluated_of_run undecided sound' (recorded_of_step sound recorded calls)
    (fun _ => opens) meanwhile runs ended with crashed | ⟨moment, round, evaluation⟩
  · exact .inl crashed
  right
  have later : call ∉ moment.rest := fun member => meanwhile (moment.mem_of_rest member)
  have decided := evaluation.decided.run (moment.sound_next sound') later moment.continues
  obtain ⟨returned, log, rounds⟩ := decided.returns ended
  subst returned
  -- The last passage of the journal is that of the round that was evaluated.
  obtain ⟨passages, last, journal⟩ := exists_journal sound calls meanwhile runs ended
  have latest := evaluation.latest
  rw [← rounds] at latest
  rw [List.append_assoc] at log
  obtain ⟨own, code⟩ := journal.last latest log
  subst own
  have unopened : last.round ∉ called.site.rounds := by
    rw [site]
    exact journal.unopened
  exact ⟨moment, last, _, epilogue_of_evaluation sound' (owns_of_step sound owns calls)
    (hasBorne_step sound borne calls) runs evaluation unopened journal code log, rfl⟩

/-- A run whose channel was open, and which has returned, has returned what its last round
came to: its exit code, or 128 more than the signal that ended it, or nothing if its child was
never spawned or not waited for to its end; but success instead of a signal or of nothing, if a
stop or a kill was asked for before the round was evaluated.  The last exit that was told is
that of the round, whatever was asked for. -/
theorem outcome_of_last_round {host : Host} {settings : Settings}
    {inherited : List (String × List UInt8)} {earlier during : List Happening}
    {before called final : Annals} {outcome : Except Fault (Option Int)}
    (reaches : (fresh host (Supervisor.fresh settings inherited)).run? earlier = some before)
    (calls : before.step? call = some called) (runs : called.run? during = some final)
    (meanwhile : call ∉ during) (opens : Opens called during)
    (returned : final.results = before.results ++ [.returned outcome]) :
    ∃ (moment : Moment called final during) (last : Passage) (status : Option ExitStatus),
      Epilogue before moment last status ∧
        outcome = .ok (ExitStatus.outcome (decide moment.eve.course.WasStopped) status) := by
  rcases epilogue_of_run reaches calls runs meanwhile opens returned with
    crashed | ⟨moment, last, status, epilogue, same⟩
  · cases crashed
  · cases same
    exact ⟨moment, last, status, epilogue, rfl⟩

/-- The second round died of a signal, after a stop had been asked for: the run returns
success, though another exit was told. -/
theorem outcome_of_overtaken_end :
    ∃ called final : Annals, plain.step? call = some called ∧
      called.run? overtaken = some final ∧ call ∉ overtaken ∧ Opens called overtaken ∧
      final.results = plain.results ++ [.returned (.ok (some 0))] ∧
      ∃ (moment : Moment called final overtaken) (last : Passage)
        (status : Option ExitStatus), Epilogue plain moment last status ∧
          (.ok (some 0) : Except Fault (Option Int)) =
            .ok (ExitStatus.outcome (decide moment.eve.course.WasStopped) status) := by
  have ran : ((plain.step? call).bind fun called => (called.run? overtaken).map fun final =>
      final.results) = some [.returned (.ok (some 0))] := by
    decide +kernel
  have opened : ((plain.step? call).bind fun called =>
      (called.run? [turn 0]).bind Annals.gate?) = some 0 := by
    decide +kernel
  obtain ⟨called, calls, rest⟩ := Option.bind_eq_some_iff.mp ran
  obtain ⟨final, runs, results⟩ := Option.map_eq_some_iff.mp rest
  have reaches : plain.run? [] = some plain := rfl
  have meanwhile : call ∉ overtaken := by
    simp [call, overtaken, turn, sends, Course.reacts]
  have returned : final.results = plain.results ++ [.returned (.ok (some 0))] := results
  rw [calls] at opened
  have opens : Opens called overtaken := opens_of_prefix [turn 0] overtaken.tail opened
  exact ⟨called, final, calls, runs, meanwhile, opens, returned,
    outcome_of_last_round reaches calls runs meanwhile opens returned⟩

end Annals

end Overseer
