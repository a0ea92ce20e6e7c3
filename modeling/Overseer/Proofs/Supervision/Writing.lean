import Overseer.Proofs.Channel.Partings
import Overseer.Proofs.Supervision.Bookkeeping

/-!
# What a run writes

A turn of a run polls, takes a command, launches a round, or comes to its end.  `Writes`
says what each of these posts, which rounds it opens, and what it leaves in the queue of the
gate.  An exit is posted when the job of the round has exited, and never otherwise.
-/

namespace Overseer

/-- The channel of the supervisor is open while its run listens, and only from the first
turn of the run to its return. -/
structure Supervisor.Minds (supervisor : Supervisor) (waits : Option RunStage) : Prop where
  shut : waits = none ∨ waits = some .called → supervisor.channel.gate = none
  isOpen : ∀ round deadline, waits = some (.listening round deadline) →
    ∃ gate, supervisor.channel.gate = some gate

namespace Site

variable {round gate : Nat} {posted later : List Event} {opened added : List Nat}
  {site before after final : Site} {supervisor : Supervisor} {results : List RunResult}
  {waits : Option RunStage}

/-! ## Exit flags -/

/-- A job that has exited stays so, whatever a run does. -/
theorem exited_of_deeds {index post : Nat} (deeds : Deeds index before after)
    (exited : (before.job post).exitFlag = true) : (after.job post).exitFlag = true := by
  -- A job that is set is the one that was there, or a fresh one, which has not exited.
  have set : ∀ {site : Site} {round : Nat} {job : Job},
      ((site.job round).exitFlag = true → job.exitFlag = true) →
        (site.job post).exitFlag = true → ((site.setJob round job).job post).exitFlag = true :=
    fun kept => (leaves_setJob kept).exited post
  have added : ∀ {site : Site} {added : Post}, (site.job post).exitFlag = true →
      ((site.addPost added).1.job post).exitFlag = true := by
    intro site added was
    have apart : post ≠ site.posts.size := by
      intro newest
      rw [newest, job_size] at was
      cases was
    rw [job_addPost, if_neg apart]
    exact was
  induction deeds with
  | refl => exact exited
  | tail _ deed induction =>
      cases deed with
      | beside _ posts _ _ _ =>
          rw [job_of_posts posts]
          exact induction
      | posts _ | schedules _ _ | updates _ _ _ _ => exact induction
      | opensGate _ _ | opensRound _ => exact added induction
      | claims _ _ => exact set id induction
      | serves guarded tends endures =>
          rename_i gate
          by_cases own : post = gate
          · rw [own] at induction ⊢
            exact endures.exited induction
          · rw [tends.job post own]
            exact induction
      | launches round _ _ fresh _ =>
          apply set _ induction
          rw [fresh]
          exact fun impossible => nomatch impossible
      | withdraws round _ fresh =>
          apply (leaves_commit _).exited post induction
          rw [fresh]
          exact fun impossible => nomatch impossible

/-! ## What a turn may come to -/

/-- The run posts these events and listens to a round that it launched. -/
structure Embarks (site : Site) (results : List RunResult) (gate : Nat)
    (posted : List Event) (round : Nat) (after : Site) (waits : Option RunStage) :
    Prop where
  listens : ∃ deadline, waits = some (.listening round deadline)
  absent : site.charter? round = none
  log : after.log = site.log ++ posted
  rounds : after.rounds = site.rounds ++ [round]
  queue : after.queue gate = site.queue gate
  supervised : ∃ next, after.supervisor? 0 = some next ∧ next.channel.gate = some gate ∧
    next.results = results

/-- The run posts these events and closes its gate, or returns. -/
inductive Closes (site : Site) (results : List RunResult) (posted : List Event)
    (opened : List Nat) (after : Site) (waits : Option RunStage) : Prop where
  | closing (code : Option Int) (gate : Nat) (call : StopCall)
      (closing : waits = some (.closing code gate call))
      (log : after.log = site.log ++ posted) (rounds : after.rounds = site.rounds ++ opened)
      (supervised : ∃ next, after.supervisor? 0 = some next ∧
        next.results = results)
  | returns (code : Option Int) (ended : waits = none)
      (log : after.log = site.log ++ (posted ++ [.supervisorStopped]))
      (rounds : after.rounds = site.rounds ++ opened)
      (supervised : ∃ next, after.supervisor? 0 = some next ∧ next.channel.gate = none ∧
        next.results = results ++ [.returned (.ok code)])

/-- The run is over and has posted nothing: it could not open its channel, or it
crashed. -/
structure Breaks (site : Site) (results : List RunResult) (opened : List Nat)
    (after : Site) (waits : Option RunStage) : Prop where
  ended : waits = none
  log : after.log = site.log
  rounds : after.rounds = site.rounds ++ opened
  supervised : ∃ next result, after.supervisor? 0 = some next ∧ next.channel.gate = none ∧
    next.results = results ++ [result] ∧ ∀ code, result ≠ .returned (.ok code)

/-- What a turn of a run writes. -/
inductive Writes (site : Site) (supervisor : Supervisor) :
    RunStage → Site → Option RunStage → Prop where
  | polls {round : Nat} {deadline : Instant} {after : Site} (later : Instant)
      (same : after = site) :
      Writes site supervisor (.listening round deadline) after
        (some (.listening round later))
  /-- The oldest command of the queue is taken. -/
  | takes {round gate : Nat} {deadline : Instant} {command : Command} {rest : List Command}
      {after : Site} (later : Instant) (isOpen : supervisor.channel.gate = some gate)
      (queue : site.queue gate = command :: rest) (left : after.queue gate = rest)
      (log : after.log = site.log ++ [.commandReceived command.name])
      (rounds : after.rounds = site.rounds)
      (held : after.supervisor? 0 = some supervisor) :
      Writes site supervisor (.listening round deadline) after
        (some (.listening round later))
  | begins {gate round : Nat} {after : Site} {waits : Option RunStage}
      (absent : site.charter? gate = none)
      (embarks : Embarks site supervisor.results gate [] round after waits) :
      Writes site supervisor .called after waits
  /-- A round is opened, withdrawn and evaluated in one turn. -/
  | withdraws {round : Nat} {after : Site} {waits : Option RunStage} (code : Option Int)
      (absent : site.charter? round = none) (exited : (after.job round).exitFlag = true)
      (closes : Closes site supervisor.results [.applicationExited code] [round] after waits) :
      Writes site supervisor .called after waits
  | renews {round gate fresh : Nat} {deadline : Instant} {after : Site}
      {waits : Option RunStage} (code : Option Int)
      (exited : (site.job round).exitFlag = true)
      (isOpen : supervisor.channel.gate = some gate)
      (embarks : Embarks site supervisor.results gate [.applicationExited code, .restartScheduled]
        fresh after waits) :
      Writes site supervisor (.listening round deadline) after waits
  | concludes {round : Nat} {deadline : Instant} {after : Site} {waits : Option RunStage}
      (code : Option Int) (exited : (site.job round).exitFlag = true)
      (closes : Closes site supervisor.results [.applicationExited code] [] after waits) :
      Writes site supervisor (.listening round deadline) after waits
  | closes {code : Option Int} {gate : Nat} {call : StopCall} {after : Site}
      {waits : Option RunStage} (closes : Closes site supervisor.results [] [] after waits) :
      Writes site supervisor (.closing code gate call) after waits
  | breaks {stage : RunStage} {opened : List Nat} {after : Site} {waits : Option RunStage}
      (breaks : Breaks site supervisor.results opened after waits) :
      Writes site supervisor stage after waits

/-- What is done before a turn comes to something: these events are posted. -/
structure Readies (posted : List Event) (before after : Site) : Prop where
  log : after.log = before.log ++ posted
  rounds : after.rounds = before.rounds
  absent : ∀ post, after.charter? post = none → before.charter? post = none
  queue : ∀ gate, after.queue gate = before.queue gate

theorem Extends.readies (written : Extends posted (fun _ => []) before after) :
    Readies posted before after := by
  refine ⟨written.log, written.rounds, ?_, ?_⟩
  · intro post absent
    rw [← written.charter]
    exact absent
  · intro gate
    rw [written.queue, List.append_nil]

theorem Readies.trans (first : Readies posted before after)
    (second : Readies later after final) : Readies (posted ++ later) before final := by
  constructor
  · rw [second.log, first.log, List.append_assoc]
  · exact second.rounds.trans first.rounds
  · exact fun post absent => first.absent post (second.absent post absent)
  · exact fun gate => (second.queue gate).trans (first.queue gate)

theorem Embarks.following (readies : Readies posted before after)
    (embarks : Embarks after results gate later round final waits) :
    Embarks before results gate (posted ++ later) round final waits := by
  refine ⟨embarks.listens, readies.absent round embarks.absent, ?_, ?_, ?_,
    embarks.supervised⟩
  · rw [embarks.log, readies.log, List.append_assoc]
  · rw [embarks.rounds, readies.rounds]
  · rw [embarks.queue, readies.queue]

theorem Closes.following (log : after.log = before.log ++ posted)
    (rounds : after.rounds = before.rounds ++ opened)
    (closes : Closes after results later added final waits) :
    Closes before results (posted ++ later) (opened ++ added) final waits := by
  cases closes with
  | closing code gate call closing written known supervised =>
      refine .closing code gate call closing ?_ ?_ supervised
      · rw [written, log, List.append_assoc]
      · rw [known, rounds, List.append_assoc]
  | returns code ended written known supervised =>
      refine .returns code ended ?_ ?_ supervised
      · simp only [written, log, List.append_assoc]
      · rw [known, rounds, List.append_assoc]

theorem Breaks.following (log : after.log = before.log)
    (rounds : after.rounds = before.rounds ++ opened)
    (breaks : Breaks after results added final waits) :
    Breaks before results (opened ++ added) final waits := by
  refine ⟨breaks.ended, breaks.log.trans log, ?_, breaks.supervised⟩
  rw [breaks.rounds, rounds, List.append_assoc]

/-! ## The end of a run -/

theorem log_finishRun (site : Site) (result : RunResult) :
    (site.finishRun 0 result).log = site.log :=
  log_of_same (events_finishRun site 0 result)

theorem rounds_of_posts (posts : after.posts = before.posts) : after.rounds = before.rounds := by
  unfold rounds application?
  rw [posts]

theorem closes_return (held : after.supervisor? 0 = some supervisor)
    (shut : supervisor.channel.gate = none) (log : after.log = before.log ++ posted)
    (rounds : after.rounds = before.rounds ++ opened) (code : Option Int) :
    Closes before supervisor.results posted opened
      ((after.postEvent 0 .supervisorStopped).finishRun 0 (.returned (.ok code))) none := by
  have told : (after.postEvent 0 .supervisorStopped).supervisor? 0 = some supervisor := held
  refine .returns code rfl ?_ ?_
    ⟨_, supervisor?_finishRun told (.returned (.ok code)), shut, rfl⟩
  · rw [log_finishRun, (extends_postEvent after 0 .supervisorStopped).log, log,
      List.append_assoc]
  · rw [rounds_of_posts (posts_finishRun _ 0 _)]
    exact rounds

theorem notes_setGate {guard : Gate} (guarded : site.gate? gate = some guard) (next : Gate) :
    Notes [] site (site.setGate gate next) := by
  refine ⟨(List.append_nil _).symm, by simp [setGate],
    (tends_setGate guarded (fun _ => True) next).charter, ?_, ?_⟩
  · intro post exited
    rw [job_setGate]
    exact exited
  · exact fun supervisor held => ⟨supervisor, held, rfl, rfl⟩

theorem notes_clearChannel {guard : Gate} (guarded : site.gate? gate = some guard)
    (path : String) : Notes [] site (site.clearChannel path gate) := by
  obtain ⟨tree, failure, newer, _, cleared, _⟩ := clearChannel_eq guarded path
  rw [cleared]
  exact (notes_setGate guarded { guard with queue := [] }).trans (notes_of_posts rfl rfl rfl)

theorem closes_endRun (held : site.supervisor? 0 = some supervisor)
    (guarded : site.charter? gate = some none) (code : Option Int) :
    Closes site supervisor.results [] [] (site.endRun 0 supervisor gate code).site
      (site.endRun 0 supervisor gate code).waits := by
  obtain ⟨guard, guarded⟩ := gate?_of_charter guarded
  have cleared := notes_clearChannel guarded supervisor.channel.path
  obtain ⟨_, supervisors⟩ := calm_clearChannel site supervisor.channel.path gate
  have kept := supervisor?_of_supervisors supervisors held
  have shut := supervisor?_setSupervisor kept (closed supervisor)
  have rounds := cleared.rounds.trans (List.append_nil _).symm
  unfold endRun
  dsimp only
  exact closes_return shut rfl cleared.log rounds code

theorem closes_awaitGate (held : site.supervisor? 0 = some supervisor)
    (guarded : site.charter? gate = some none) (code : Option Int)
    (standing : StopCall.Standing) :
    Closes site supervisor.results [] []
      (site.awaitGate 0 supervisor gate code standing).site
      (site.awaitGate 0 supervisor gate code standing).waits := by
  cases standing with
  | waits call =>
      exact .closing code gate call rfl (List.append_nil _).symm (List.append_nil _).symm
        ⟨supervisor, held, rfl⟩
  | returned | crashed => exact closes_endRun held guarded code

theorem closes_stopGate (held : site.supervisor? 0 = some supervisor)
    (guarded : site.charter? gate = some none) {stop : StopCall.Step}
    (endures : (site.job gate).Endures stop.job) (code : Option Int) :
    Closes site supervisor.results [] []
      ((site.commit gate stop).awaitGate 0 supervisor gate code stop.standing).site
      ((site.commit gate stop).awaitGate 0 supervisor gate code stop.standing).waits := by
  have stops : Leaves site (site.commit gate stop) := leaves_commit endures.exited
  have still : (site.commit gate stop).charter? gate = some none :=
    (stops.charter gate).trans guarded
  have rounds := stops.rounds.trans (List.append_nil _).symm
  exact Closes.following stops.log rounds
    (closes_awaitGate (supervisor?_commit held gate stop) still code stop.standing)

theorem closes_closeRun (held : site.supervisor? 0 = some supervisor)
    (guarded : ∀ gate, supervisor.channel.gate = some gate → site.charter? gate = some none)
    (code : Option Int) :
    Closes site supervisor.results [] [] (site.closeRun 0 supervisor code).site
      (site.closeRun 0 supervisor code).waits := by
  unfold closeRun
  split
  · rename_i shut
    exact closes_return held shut (List.append_nil _).symm (List.append_nil _).symm code
  · rename_i gate isOpen
    exact closes_stopGate held (guarded gate isOpen)
      (StopCall.endures_begin site.now (site.job gate) Channel.closeTimeout false) code

theorem notes_abandonChannel (site : Site) (channel : Channel) :
    Notes [] site (site.abandonChannel channel) := by
  unfold abandonChannel
  split
  · exact notes_of_posts rfl rfl rfl
  · rename_i gate _
    obtain ⟨host, removed⟩ := removeRendezvous_eq
      (site.setJob gate (site.job gate).abort) channel.path
    have aborts : Leaves site (site.setJob gate (site.job gate).abort) :=
      leaves_setJob (Job.endures_abort _).exited
    dsimp only
    rw [removed]
    exact aborts.toNotes.trans (notes_of_posts rfl rfl rfl)

theorem breaks_finishRun (held : after.supervisor? 0 = some supervisor)
    (shut : supervisor.channel.gate = none) (log : after.log = before.log)
    (rounds : after.rounds = before.rounds) {result : RunResult}
    (other : ∀ code, result ≠ .returned (.ok code)) :
    Breaks before supervisor.results [] (after.finishRun 0 result) none := by
  refine ⟨rfl, (log_finishRun after result).trans log, ?_, _, result,
    supervisor?_finishRun held result, shut, rfl, other⟩
  rw [rounds_of_posts (posts_finishRun after 0 result), List.append_nil]
  exact rounds

theorem breaks_crashRun (held : site.supervisor? 0 = some supervisor) :
    Breaks site supervisor.results [] (site.crashRun 0 supervisor).site
      (site.crashRun 0 supervisor).waits := by
  have abandons := notes_abandonChannel site supervisor.channel
  obtain ⟨_, supervisors⟩ := calm_abandonChannel site supervisor.channel
  have kept := supervisor?_of_supervisors supervisors held
  have shut := supervisor?_setSupervisor kept (closed supervisor)
  refine breaks_finishRun shut rfl ?_ ?_ fun _ same => nomatch same
  · exact (log_of_same rfl).trans (abandons.log.trans (List.append_nil _))
  · exact (rounds_of_posts rfl).trans abandons.rounds

/-! ## Rounds -/

theorem queue_addPost (site : Site) (post : Post) (idle : ∀ gate, post.duty = .gate gate →
    gate.queue = []) (gate : Nat) : (site.addPost post).1.queue gate = site.queue gate := by
  by_cases newest : gate = site.posts.size
  · have absent : site.charter? gate ≠ some none := by
      rw [newest, charter?_size]
      exact fun same => nomatch same
    rw [queue_of_other absent, newest]
    unfold queue gate? addPost
    rw [Array.getElem?_push, if_pos rfl]
    cases duty : post.duty with
    | gate guard => simp [duty, idle guard duty]
    | application _ _ => simp [duty]
  · apply queue_congr
    unfold gate? addPost
    rw [Array.getElem?_push, if_neg newest]

theorem readies_openRound (held : site.supervisor? 0 = some supervisor) :
    (site.openRound 0 supervisor).1.log = site.log ∧
      (site.openRound 0 supervisor).1.rounds = site.rounds ++ [site.posts.size] ∧
      (∀ gate, (site.openRound 0 supervisor).1.queue gate = site.queue gate) ∧
      (site.openRound 0 supervisor).1.supervisor? 0 =
        some { supervisor with current := some site.posts.size } := by
  let post : Post := ⟨supervisor.job, .application supervisor.application 0⟩
  have added : (site.addPost post).1.supervisor? 0 = some supervisor := held
  have idle : ∀ guard, post.duty = .gate guard → guard.queue = [] := by
    intro guard duty
    cases duty
  refine ⟨rfl, ?_, ?_, supervisor?_setSupervisor added _⟩
  · exact (rounds_of_posts rfl).trans (site.rounds_addPost post)
  · intro gate
    exact (queue_congr rfl).trans (site.queue_addPost post idle gate)

theorem embarks_launchRound (held : site.supervisor? 0 = some supervisor)
    (isOpen : supervisor.channel.gate = some gate) :
    Embarks site supervisor.results gate [] site.posts.size (site.launchRound 0 supervisor).site
      (site.launchRound 0 supervisor).waits := by
  obtain ⟨log, rounds, queue, current⟩ := readies_openRound held
  have fresh : (site.openRound 0 supervisor).1.job site.posts.size = supervisor.job :=
    (job_addPost site _ _).trans (if_pos rfl)
  have round : (site.openRound 0 supervisor).2 = site.posts.size := rfl
  obtain ⟨job, starts, _, _⟩ := start_fresh "application" supervisor.settings.killGrace
  unfold launchRound
  dsimp only
  rw [round, fresh, show supervisor.job.start = .ok job from starts]
  generalize (site.openRound 0 supervisor).1 = opened at *
  have launched : Leaves opened (opened.setJob site.posts.size job) := by
    apply leaves_setJob
    rw [fresh]
    exact fun impossible => nomatch impossible
  refine ⟨⟨_, rfl⟩, site.charter?_size, ?_, ?_, ?_, _, current, isOpen, rfl⟩
  · exact launched.log.trans (congrArg (· ++ []) log)
  · exact launched.rounds.trans rounds
  · rw [launched.queue, List.append_nil]
    exact queue gate

/-- What an evaluation comes to. -/
inductive Evaluated (site : Site) (supervisor : Supervisor) (gate : Nat) (after : Site)
    (waits : Option RunStage) : Prop where
  | renews (code : Option Int) (fresh : Nat)
      (wanted : supervisor.stopRequested = false)
      (embarks : Embarks site supervisor.results gate [.applicationExited code, .restartScheduled]
        fresh after waits)
  | concludes (code : Option Int)
      (closes : Closes site supervisor.results [.applicationExited code] [] after waits)
  | breaks (breaks : Breaks site supervisor.results [] after waits)

theorem evaluated_concludeRound (held : site.supervisor? 0 = some supervisor)
    (isOpen : supervisor.channel.gate = some gate) (guarded : site.charter? gate = some none)
    (round : Nat) :
    Evaluated site supervisor gate (site.concludeRound 0 supervisor round).site
      (site.concludeRound 0 supervisor round).waits := by
  unfold concludeRound
  dsimp only
  generalize (site.application? round).bind Application.status = status
  let idle := { supervisor with current := none }
  let event := Event.applicationExited (status.map ExitStatus.code)
  have exits : Extends [event] (fun _ => []) site
      ((site.setSupervisor 0 idle).postEvent 0 event) :=
    (leaves_setSupervisor held (rfl : idle.channel = _) rfl).trans (extends_postEvent _ 0 event)
  have kept : ((site.setSupervisor 0 idle).postEvent 0 event).supervisor? 0 = some idle :=
    supervisor?_setSupervisor held idle
  split
  · rename_i again
    have schedules := extends_postEvent ((site.setSupervisor 0 idle).postEvent 0 event) 0
      .restartScheduled
    have still : (((site.setSupervisor 0 idle).postEvent 0 event).postEvent 0
        .restartScheduled).supervisor? 0 = some idle := kept
    have embarks := embarks_launchRound still isOpen
    exact .renews _ _ (Verdict.wanted_of_again again)
      (Embarks.following (exits.readies.trans schedules.readies) embarks)
  · rename_i code _
    have still : ∀ other, supervisor.channel.gate = some other →
        ((site.setSupervisor 0 idle).postEvent 0 event).charter? other = some none := by
      intro other same
      rw [exits.charter, ← Option.some.inj (isOpen.symm.trans same)]
      exact guarded
    have closes := closes_closeRun kept still code
    have rounds : ((site.setSupervisor 0 idle).postEvent 0 event).rounds = site.rounds ++ [] :=
      exits.rounds.trans (List.append_nil _).symm
    exact .concludes (status.map ExitStatus.code) (Closes.following exits.log rounds closes)

/-- The stop of a round that has ended, and what follows it. -/
theorem evaluated_settleRound (held : site.supervisor? 0 = some supervisor)
    (isOpen : supervisor.channel.gate = some gate) (guarded : site.charter? gate = some none)
    (exited : (site.job round).exitFlag = true) :
    Evaluated site supervisor gate (site.settleRound 0 supervisor round).site
      (site.settleRound 0 supervisor round).waits := by
  obtain ⟨standing, begins, answers⟩ := StopCall.begin_of_exited exited site.now
    supervisor.settings.stopTimeout false
  let claimed := { site.job round with stopClaimed := true }
  have claims : Leaves site (site.setJob round claimed) := leaves_setJob id
  have kept : (site.setJob round claimed).supervisor? 0 = some supervisor := held
  have still : (site.setJob round claimed).charter? gate = some none :=
    (claims.charter gate).trans guarded
  have same : (site.setJob round claimed).rounds = site.rounds ++ [] :=
    claims.rounds.trans (List.append_nil _).symm
  unfold settleRound beginStop
  dsimp only
  rw [begins]
  cases standing with
  | waits call => exact absurd rfl (answers call)
  | crashed =>
      exact .breaks (Breaks.following (claims.log.trans (List.append_nil _)) same
        (breaks_crashRun kept))
  | returned =>
      have evaluated := evaluated_concludeRound kept isOpen still round
      show Evaluated site supervisor gate
        ((site.setJob round claimed).concludeRound 0 supervisor round).site
        ((site.setJob round claimed).concludeRound 0 supervisor round).waits
      generalize (site.setJob round claimed).concludeRound 0 supervisor round = step at *
      cases evaluated with
      | renews code fresh wanted embarks =>
          exact .renews code fresh wanted (Embarks.following claims.readies embarks)
      | concludes code closes =>
          exact .concludes code (Closes.following claims.log same closes)
      | breaks breaks =>
          exact .breaks (Breaks.following (claims.log.trans (List.append_nil _)) same breaks)

theorem exited_of_withdrawn (site : Site) (supervisor : Supervisor) (timeout : Duration) :
    (((site.openRound 0 supervisor).1.beginStop site.posts.size timeout).1.job
      site.posts.size).exitFlag = true := by
  have fresh : (site.openRound 0 supervisor).1.job site.posts.size = supervisor.job :=
    (job_addPost site _ _).trans (if_pos rfl)
  have known := charter?_openRound site 0 supervisor
  change (site.openRound 0 supervisor).1.charter? site.posts.size = _ at known
  generalize (site.openRound 0 supervisor).1 = opened at *
  have begins := StopCall.begin_of_fresh "application" supervisor.settings.killGrace
    opened.now timeout
  unfold beginStop
  dsimp only
  rw [fresh, show StopCall.begin opened.now supervisor.job timeout false = _ from begins]
  obtain ⟨host, notices, signals, same⟩ := commit_eq opened site.posts.size _
  rw [same]
  show ((opened.setJob site.posts.size _).job site.posts.size).exitFlag = true
  rw [job_setJob_of_charter known]
  rfl

/-! ## Turns -/

/-- What the first round of a run comes to: it is launched, or withdrawn at once. -/
inductive Begins (site : Site) (supervisor : Supervisor) (gate : Nat) (after : Site)
    (waits : Option RunStage) : Prop where
  | embarks (embarks : Embarks site supervisor.results gate [] site.posts.size after waits)
  | withdraws (code : Option Int) (exited : (after.job site.posts.size).exitFlag = true)
      (closes : Closes site supervisor.results [.applicationExited code] [site.posts.size]
        after waits)
  | breaks (breaks : Breaks site supervisor.results [site.posts.size] after waits)

theorem begins_of_stopRequested (holds : site.Holds 0 supervisor)
    (isOpen : supervisor.channel.gate = some gate)
    (stopRequested : supervisor.stopRequested = true) :
    Begins site supervisor gate (site.beginRound 0 supervisor).site
      (site.beginRound 0 supervisor).waits := by
  obtain ⟨log, rounds, _, _⟩ := readies_openRound holds.held
  have opens := opens_openRound holds
  have exited := exited_of_withdrawn site supervisor supervisor.settings.stopTimeout
  have stops := leaves_beginStop (site.openRound 0 supervisor).1 site.posts.size
    supervisor.settings.stopTimeout
  have bears := (carries_beginStop (site.openRound 0 supervisor).1 0 site.posts.size
    supervisor.settings.stopTimeout).bears
  have withdrawn := opens.holds.bears bears (supervisors_commit _ site.posts.size _)
  have same : site.beginRound 0 supervisor =
      ((site.openRound 0 supervisor).1.beginStop site.posts.size
        supervisor.settings.stopTimeout).1.settleRound 0
          { supervisor with current := some site.posts.size } site.posts.size := by
    unfold beginRound
    rw [if_pos stopRequested]
    rfl
  rw [same]
  generalize ((site.openRound 0 supervisor).1.beginStop site.posts.size
    supervisor.settings.stopTimeout).1 = stopped at *
  have told : stopped.log = site.log ++ [] := stops.log.trans (congrArg (· ++ []) log)
  have known : stopped.rounds = site.rounds ++ [site.posts.size] := stops.rounds.trans rounds
  have proceeds := proceeds_settleRound withdrawn exited
  have evaluated := evaluated_settleRound withdrawn.held isOpen
    (withdrawn.owns.gates gate isOpen) exited
  cases evaluated with
  | renews code fresh wanted embarks =>
      rw [stopRequested] at wanted
      cases wanted
  | concludes code closes =>
      exact .withdraws code (exited_of_deeds proceeds.deeds exited)
        (Closes.following told known closes)
  | breaks breaks =>
      exact .breaks (Breaks.following (told.trans (List.append_nil _)) known breaks)

theorem begins_beginRound (holds : site.Holds 0 supervisor)
    (isOpen : supervisor.channel.gate = some gate) :
    Begins site supervisor gate (site.beginRound 0 supervisor).site
      (site.beginRound 0 supervisor).waits := by
  cases stopRequested : supervisor.stopRequested with
  | true => exact begins_of_stopRequested holds isOpen stopRequested
  | false =>
      unfold beginRound
      rw [stopRequested]
      exact .embarks (embarks_launchRound holds.held isOpen)

theorem readies_addGate (site : Site) (job : Job) {gate : Gate} (idle : gate.queue = []) :
    Readies [] site (site.addPost ⟨job, .gate gate⟩).1 := by
  refine ⟨(List.append_nil _).symm, ?_, ?_, ?_⟩
  · rw [rounds_addPost]
    exact List.append_nil _
  · intro post absent
    rw [charter?_addPost] at absent
    split at absent
    · cases absent
    · exact absent
  · apply queue_addPost
    intro other same
    cases same
    exact idle

theorem readies_of_openChannel_error {channel : Channel} {fault : Fault}
    (closed : channel.gate = none) (fails : site.openChannel channel = (after, .error fault)) :
    Readies [] site after ∧ after.supervisors = site.supervisors := by
  have opening := opening_openChannel closed site
  rw [fails] at opening
  cases opening with
  | fails tree error refused =>
      have beside : Leaves site { site with host := { site.host with tree := tree } } :=
        leaves_of_posts rfl rfl rfl
      exact ⟨beside.readies, rfl⟩

theorem readies_of_openChannel {channel found : Channel} {post : Option Nat}
    (closed : channel.gate = none)
    (opens : site.openChannel channel = (after, .ok (found, post))) :
    Readies [] site after ∧ found.gate = some site.posts.size := by
  have opening := opening_openChannel closed site
  rw [opens] at opening
  cases opening with
  | opens tree listens =>
      let host : Host := { site.host with tree := tree, sockets := site.host.sockets.listen.1 }
      let gate : Gate := ⟨site.host.sockets.listen.2, channel.connectionTimeout, []⟩
      have beside : Leaves site { site with host := host } := leaves_of_posts rfl rfl rfl
      have adds : Readies [] { site with host := host }
          ({ site with host := host }.addPost ⟨gateJob, .gate gate⟩).1 :=
        readies_addGate _ gateJob rfl
      exact ⟨beside.readies.trans adds, rfl⟩

theorem writes_openRun (holds : site.Holds 0 supervisor)
    (closed : supervisor.channel.gate = none) :
    Writes site supervisor .called (site.openRun 0 supervisor).site
      (site.openRun 0 supervisor).waits := by
  unfold openRun
  split
  · rename_i after fault fails
    obtain ⟨readies, supervisors⟩ := readies_of_openChannel_error closed fails
    have kept := supervisor?_of_supervisors supervisors holds.held
    exact .breaks (breaks_finishRun kept closed (readies.log.trans (List.append_nil _))
      readies.rounds fun _ same => nomatch same)
  · rename_i after channel post opens
    obtain ⟨readies, isOpen⟩ := readies_of_openChannel closed opens
    have opensGate : OpensGate 0 site after channel post :=
      opensGate_of_openChannel holds.owns.gates opens
    have kept := holds.bears (bears_of_deeds opensGate.deeds) opensGate.supervisors
    have owns : after.Owns { supervisor with channel := channel } :=
      ⟨opensGate.guarded, kept.owns.rounds⟩
    have opened := kept.set owns
    have readied : Readies [] site
        (after.setSupervisor 0 { supervisor with channel := channel }) :=
      ⟨readies.log, readies.rounds, readies.absent, readies.queue⟩
    have fresh := (after.setSupervisor 0 { supervisor with channel := channel }).charter?_size
    have begins := begins_beginRound opened isOpen
    dsimp only
    generalize after.setSupervisor 0 { supervisor with channel := channel } = ready at *
    generalize ready.beginRound 0 { supervisor with channel := channel } = step at begins ⊢
    have rounds : ready.rounds = site.rounds ++ [] :=
      readied.rounds.trans (List.append_nil _).symm
    cases begins with
    | embarks embarks =>
        exact .begins site.charter?_size (Embarks.following readied embarks)
    | withdraws code exited closes =>
        exact .withdraws code (readied.absent _ fresh) exited
          (Closes.following readied.log rounds closes)
    | breaks breaks =>
        exact .breaks (Breaks.following (readied.log.trans (List.append_nil _)) rounds breaks)

theorem writes_dispatch {command : Command} {taken : Site} {deadline : Instant}
    (held : site.supervisor? 0 = some supervisor)
    (takes : supervisor.channel.gate.bind site.takeCommand? = some (taken, command)) :
    Writes site supervisor (.listening round deadline)
      (taken.dispatch 0 supervisor round command).site
      (taken.dispatch 0 supervisor round command).waits := by
  obtain ⟨gate, guard, rest, isOpen, guarded, queue, is⟩ := exists_of_takeCommand? takes
  rw [is]
  have takes := notes_setGate guarded { guard with queue := rest }
  have posts := extends_postEvent (site.setGate gate { guard with queue := rest }) 0
    (.commandReceived command.name)
  have written := takes.trans posts.toNotes
  refine .takes _ isOpen ((queue_of_gate? guarded).trans queue) ?_ written.log
    written.rounds held
  exact queue_of_gate? (gate?_setGate guarded { guard with queue := rest })

theorem writes_listen (holds : site.Holds 0 supervisor)
    (started : (site.job round).phase ≠ .created)
    (isOpen : supervisor.channel.gate = some gate) (deadline : Instant) :
    Writes site supervisor (.listening round deadline)
      (site.listen 0 supervisor round deadline).site
      (site.listen 0 supervisor round deadline).waits := by
  unfold listen
  split
  · rename_i ended
    have exited : (site.job round).exitFlag = true := by
      simpa [Job.isAlive, started] using ended
    have evaluated := evaluated_settleRound holds.held isOpen (holds.owns.gates gate isOpen)
      exited
    generalize site.settleRound 0 supervisor round = step at evaluated ⊢
    cases evaluated with
    | renews code fresh wanted embarks => exact .renews code exited isOpen embarks
    | concludes code closes => exact .concludes code exited closes
    | breaks breaks => exact .breaks breaks
  · split
    · rename_i taken command takes
      exact writes_dispatch holds.held takes
    · exact .polls _ rfl

theorem Closes.minds (closes : Closes site results posted opened after waits)
    (held : after.supervisor? 0 = some supervisor) : supervisor.Minds waits := by
  cases closes with
  | closing code gate call closing log rounds supervised =>
      rw [closing]
      exact ⟨fun ended => (by simp at ended), fun _ _ same => nomatch same⟩
  | returns code ended log rounds supervised =>
      obtain ⟨next, kept, shut, _⟩ := supervised
      cases kept.symm.trans held
      rw [ended]
      exact ⟨fun _ => shut, fun _ _ same => nomatch same⟩

theorem Embarks.minds (embarks : Embarks site results gate posted round after waits)
    (held : after.supervisor? 0 = some supervisor) : supervisor.Minds waits := by
  obtain ⟨next, kept, isOpen, _⟩ := embarks.supervised
  obtain ⟨deadline, listens⟩ := embarks.listens
  cases kept.symm.trans held
  rw [listens]
  exact ⟨fun ended => (by simp at ended), fun _ _ _ => ⟨gate, isOpen⟩⟩

/-- A turn of a run leaves the channel open or closed, as befits where it then waits. -/
theorem Writes.minds {stage : RunStage} {next : Supervisor}
    (writes : Writes site supervisor stage after waits)
    (held : site.supervisor? 0 = some supervisor) (minds : supervisor.Minds (some stage))
    (kept : after.supervisor? 0 = some next) : next.Minds waits := by
  cases writes with
  | @polls round deadline after later same =>
      rw [same] at kept
      cases held.symm.trans kept
      exact ⟨fun ended => (by simp at ended), fun _ _ _ => minds.isOpen round deadline rfl⟩
  | takes later isOpen queue left log rounds still =>
      cases still.symm.trans kept
      exact ⟨fun ended => (by simp at ended), fun _ _ _ => ⟨_, isOpen⟩⟩
  | begins absent embarks => exact embarks.minds kept
  | renews code exited isOpen embarks => exact embarks.minds kept
  | withdraws code absent exited closes => exact closes.minds kept
  | concludes code exited closes => exact closes.minds kept
  | closes closes => exact closes.minds kept
  | breaks breaks =>
      obtain ⟨last, _, holds, shut, _⟩ := breaks.supervised
      cases holds.symm.trans kept
      rw [breaks.ended]
      exact ⟨fun _ => shut, fun _ _ same => nomatch same⟩

theorem writes_continueRun (holds : site.Holds 0 supervisor) {stage : RunStage}
    (stands : site.Stands stage) (minds : supervisor.Minds (some stage)) :
    Writes site supervisor stage (site.continueRun 0 supervisor stage).site
      (site.continueRun 0 supervisor stage).waits := by
  cases stage with
  | called => exact writes_openRun holds (minds.shut (.inr rfl))
  | listening round deadline =>
      obtain ⟨gate, isOpen⟩ := minds.isOpen round deadline rfl
      exact writes_listen holds stands isOpen deadline
  | settling round call => exact absurd stands id
  | closing code gate call =>
      exact .closes (closes_stopGate holds.held stands
        (StopCall.endures_resume site.now (site.job gate) call) code)

theorem Advances.writes {stage : RunStage} {step : RunStep}
    (advances : site.Advances supervisor stage step) (holds : site.Holds 0 supervisor)
    (stands : site.Stands stage) (minds : supervisor.Minds (some stage)) :
    Writes site supervisor stage step.site step.waits := by
  cases advances with
  | turns stage => exact writes_continueRun holds stands minds
  | overtakes takes => exact writes_dispatch holds.held takes

end Site

end Overseer
