import Overseer.Proofs.Supervision.Deeds

/-!
# The turns of a run

Each part of a run is a sequence of deeds.  `Proceeds` is what a turn comes to: its
deeds, where the run then waits, and the tasks that it began.
-/

namespace Overseer

theorem Verdict.wanted_of_again {restartMark stopRequested : Bool}
    {status : Option ExitStatus}
    (again : Verdict.of restartMark stopRequested status = .again) :
    stopRequested = false := by
  unfold of at again
  split at again
  · rename_i marked
    simp only [Bool.and_eq_true, Bool.not_eq_true'] at marked
    exact marked.2
  · split at again
    · cases again
    · cases again

namespace Site

/-- What holds where a run waits. -/
def Stands (site : Site) : RunStage → Prop
  | .called => True
  | .listening round _ => (site.job round).phase ≠ .created
  | .settling _ _ => False
  | .closing _ gate _ => site.charter? gate = some none

/-- What holds of a task that a run began. -/
inductive Begun (index : Nat) (before after : Site) : Activity → Prop where
  | enter (post : Nat) (absent : before.charter? post = none)
      (tended : (after.job post).IsTended) : Begun index before after (.enter post)
  | execute (command : Command) : Begun index before after (.execute index command)

/-- A turn of a run. -/
structure Proceeds (index : Nat) (site : Site) (step : RunStep) : Prop where
  deeds : Deeds index site step.site
  waits : ∀ stage, step.waits = some stage → step.site.Stands stage
  begun : ∀ task ∈ step.begun, Begun index site step.site task
  distinct : (step.begun.filterMap Activity.body?).Nodup

/-- The supervisor at a position, with what it owns. -/
structure Holds (site : Site) (index : Nat) (supervisor : Supervisor) : Prop where
  held : site.supervisor? index = some supervisor
  owns : site.Owns supervisor

variable {index : Nat} {site before after : Site} {supervisor : Supervisor}

theorem supervisor?_setSupervisor {old : Supervisor}
    (held : site.supervisor? index = some old) (new : Supervisor) :
    (site.setSupervisor index new).supervisor? index = some new := by
  obtain ⟨known, _⟩ := Array.getElem?_eq_some_iff.mp held
  simp [supervisor?, setSupervisor, known]

theorem supervisor?_of_supervisors (same : after.supervisors = before.supervisors)
    (held : before.supervisor? index = some supervisor) :
    after.supervisor? index = some supervisor := by
  unfold supervisor?
  rw [same]
  exact held

theorem Holds.bears (holds : before.Holds index supervisor)
    (bears : Bears before after) (supervisors : after.supervisors = before.supervisors) :
    after.Holds index supervisor :=
  ⟨supervisor?_of_supervisors supervisors holds.held, holds.owns.bears bears⟩

theorem Holds.set (holds : site.Holds index supervisor) {new : Supervisor}
    (owns : site.Owns new) : (site.setSupervisor index new).Holds index new :=
  ⟨supervisor?_setSupervisor holds.held new, ⟨owns.gates, owns.rounds⟩⟩

theorem Proceeds.following {step : RunStep} (deeds : Deeds index before after)
    (proceeds : Proceeds index after step) : Proceeds index before step := by
  refine ⟨deeds.trans proceeds.deeds, proceeds.waits, ?_, proceeds.distinct⟩
  intro task member
  cases proceeds.begun task member with
  | enter post absent tended =>
      apply Begun.enter post _ tended
      cases held : before.charter? post with
      | none => rfl
      | some charter =>
          rw [(bears_of_deeds deeds).charter held] at absent
          cases absent
  | execute command => exact .execute command

/-- A turn that begins no task and after which the run does not wait. -/
theorem proceeds_of_deeds (deeds : Deeds index before after) :
    Proceeds index before ⟨after, none, []⟩ :=
  ⟨deeds, by simp, by simp, by simp⟩

/-! ## The end of a run -/

theorem deeds_finishRun (holds : site.Holds index supervisor) (result : RunResult) :
    Deeds index site (site.finishRun index result) := by
  unfold finishRun
  rw [holds.held]
  exact .single
    (.updates holds.held rfl rfl ⟨holds.owns.gates, holds.owns.rounds⟩)

theorem deeds_setSupervisor (holds : site.Holds index supervisor) {new : Supervisor}
    (owns : site.Owns new) (settings : new.settings = supervisor.settings)
    (stopRequested : new.stopRequested = supervisor.stopRequested) :
    Deeds index site (site.setSupervisor index new) :=
  .single (.updates holds.held settings stopRequested owns)

theorem deed_host (site : Site) (index : Nat) (host : Host) :
    Deed index site { site with host := host } :=
  .beside rfl rfl rfl rfl rfl

theorem deed_report (site : Site) (index : Nat) (notice : Notice) :
    Deed index site (site.report notice) :=
  .beside rfl rfl rfl rfl rfl

theorem removeRendezvous_eq (site : Site) (path : String) :
    ∃ host, (site.removeRendezvous path).1 = { site with host := host } := by
  unfold removeRendezvous
  split
  · exact ⟨site.host, rfl⟩
  · exact ⟨_, rfl⟩

theorem deeds_abandonChannel (holds : site.Holds index supervisor) :
    Deeds index site (site.abandonChannel supervisor.channel) ∧
      (site.abandonChannel supervisor.channel).supervisors = site.supervisors := by
  unfold abandonChannel
  split
  · exact ⟨.refl, rfl⟩
  · rename_i gate opened
    dsimp only
    obtain ⟨host, removed⟩ := removeRendezvous_eq
      (site.setJob gate (site.job gate).abort) supervisor.channel.path
    have aborts : Deed index site (site.setJob gate (site.job gate).abort) :=
      .serves (holds.owns.gates gate opened) (tends_setJob site gate _ _)
        (endures_setJob (Job.endures_abort _))
    rw [removed]
    exact ⟨(Relation.ReflTransGen.single aborts).tail (deed_host _ index host), rfl⟩

def closed (supervisor : Supervisor) : Supervisor :=
  { supervisor with channel := { supervisor.channel with gate := none } }

theorem Owns.closed (owns : site.Owns supervisor) :
    site.Owns (Site.closed supervisor) := by
  constructor
  · intro gate opened
    cases opened
  · exact owns.rounds

theorem proceeds_crashRun (holds : site.Holds index supervisor) :
    Proceeds index site (site.crashRun index supervisor) := by
  unfold crashRun
  dsimp only
  obtain ⟨deeds, supervisors⟩ := deeds_abandonChannel holds
  have abandoned := holds.bears (bears_of_deeds deeds) supervisors
  have none := abandoned.owns.closed
  have shut := deeds_setSupervisor abandoned none rfl rfl
  have ended := deeds_finishRun (abandoned.set none) .crashed
  exact proceeds_of_deeds (deeds.trans (shut.trans ended))

theorem charter?_of_gate {gate : Nat} {guard : Gate}
    (guarded : site.gate? gate = some guard) : site.charter? gate = some none := by
  unfold gate? at guarded
  unfold charter?
  cases held : site.posts[gate]? with
  | none => simp [held] at guarded
  | some post =>
      cases duty : post.duty with
      | gate guard => simp [duty, Duty.graces?]
      | application application sink => simp [held, duty] at guarded

theorem deed_setGate (index : Nat) {gate : Nat} {guard : Gate}
    (guarded : site.gate? gate = some guard) (next : Gate) :
    Deed index site (site.setGate gate next) := by
  refine .serves (charter?_of_gate guarded) (tends_setGate guarded _ next) ?_
  rw [job_setGate]
  exact .refl _

theorem deeds_clearChannel (site : Site) (index : Nat) (path : String) (gate : Nat) :
    Deeds index site (site.clearChannel path gate) ∧
      (site.clearChannel path gate).supervisors = site.supervisors := by
  obtain ⟨host, removed⟩ := removeRendezvous_eq site path
  unfold clearChannel
  cases result : (site.removeRendezvous path).2 with
  | ok _ | error _ =>
      simp only [result, removed]
      split
      · exact ⟨.single (.beside rfl rfl rfl rfl rfl), rfl⟩
      · rename_i guard guarded
        have emptied := deed_setGate index guarded { guard with queue := [] }
        split
        · refine ⟨.tail (.single ?_) emptied, rfl⟩
          exact .beside rfl rfl rfl rfl rfl
        · refine ⟨.tail (.tail (.single ?_) emptied) (deed_report _ index _), rfl⟩
          exact .beside rfl rfl rfl rfl rfl

theorem proceeds_endRun (holds : site.Holds index supervisor) (gate : Nat)
    (code : Option Int) :
    Proceeds index site (site.endRun index supervisor gate code) := by
  unfold endRun
  dsimp only
  obtain ⟨deeds, supervisors⟩ :=
    deeds_clearChannel site index supervisor.channel.path gate
  have cleared := holds.bears (bears_of_deeds deeds) supervisors
  have none := cleared.owns.closed
  have shut := deeds_setSupervisor cleared none rfl rfl
  have stopped : Deed index
      ((site.clearChannel supervisor.channel.path gate).setSupervisor index
        (closed supervisor))
      (((site.clearChannel supervisor.channel.path gate).setSupervisor index
        (closed supervisor)).postEvent index .supervisorStopped) :=
    .posts Event.noConfusion
  have kept := (cleared.set none).bears stopped.bears rfl
  exact proceeds_of_deeds
    (deeds.trans ((shut.tail stopped).trans (deeds_finishRun kept _)))

theorem proceeds_awaitGate (holds : site.Holds index supervisor) {gate : Nat}
    (guarded : site.charter? gate = some none) (code : Option Int)
    (standing : StopCall.Standing) :
    Proceeds index site (site.awaitGate index supervisor gate code standing) := by
  cases standing with
  | waits call =>
      refine ⟨.refl, ?_, by simp [awaitGate], by simp [awaitGate]⟩
      intro stage waits
      cases waits
      exact guarded
  | returned | crashed => exact proceeds_endRun holds gate code

theorem deed_commit (index : Nat) {gate : Nat} (guarded : site.charter? gate = some none)
    {step : StopCall.Step} (endures : (site.job gate).Endures step.job) :
    Deed index site (site.commit gate step) := by
  refine .serves guarded (tends_commit site gate step ?_) ?_
  · intro hook member graces held
    rw [guarded] at held
    cases held
  · rcases job_commit_or site gate step with set | same
    · rw [set]
      exact endures
    · rw [same]
      exact .refl _

theorem supervisors_commit (site : Site) (post : Nat) (step : StopCall.Step) :
    (site.commit post step).supervisors = site.supervisors := by
  obtain ⟨_, _, _, same⟩ := commit_eq site post step
  rw [same]
  rfl

theorem now_commit (site : Site) (post : Nat) (step : StopCall.Step) :
    (site.commit post step).now = site.now := by
  obtain ⟨_, _, _, same⟩ := commit_eq site post step
  rw [same]
  rfl

theorem proceeds_stopGate (holds : site.Holds index supervisor) {gate : Nat}
    (guarded : site.charter? gate = some none) {step : StopCall.Step}
    (endures : (site.job gate).Endures step.job) (code : Option Int) :
    Proceeds index site
      ((site.commit gate step).awaitGate index supervisor gate code
        step.standing) := by
  have stops := deed_commit index guarded endures
  apply Proceeds.following (.single stops)
  apply proceeds_awaitGate
  · exact holds.bears stops.bears (supervisors_commit site gate step)
  · exact stops.bears.charter guarded

theorem proceeds_closeRun [Timers] (holds : site.Holds index supervisor)
    (code : Option Int) : Proceeds index site (site.closeRun index supervisor code) := by
  unfold closeRun
  split
  · have stopped : Deed index site (site.postEvent index .supervisorStopped) :=
      .posts Event.noConfusion
    have kept := holds.bears stopped.bears rfl
    exact proceeds_of_deeds (.head stopped (deeds_finishRun kept _))
  · rename_i gate opened
    exact proceeds_stopGate holds (holds.owns.gates gate opened)
      (StopCall.endures_begin site.now (site.job gate) Channel.closeTimeout false) code

/-! ## Rounds -/

theorem start_fresh (name : String) (killGrace : Duration) :
    ∃ job, (Job.fresh name killGrace).start = .ok job ∧ job.IsTended ∧
      job.phase ≠ .created := by
  refine ⟨_, rfl, ⟨rfl, rfl⟩, ?_⟩
  exact Phase.noConfusion

/-- A round that was opened just now. -/
structure Opens (index : Nat) (supervisor : Supervisor) (site opened : Site)
    (round : Nat) : Prop where
  deeds : Deeds index site opened
  holds : opened.Holds index { supervisor with current := some round }
  fresh : opened.job round = supervisor.job
  absent : site.charter? round = none

theorem opens_openRound (holds : site.Holds index supervisor) :
    Opens index supervisor site (site.openRound index supervisor).1
      (site.openRound index supervisor).2 := by
  have adds : Deed index site (site.addPost
      ⟨supervisor.job, .application supervisor.application index⟩).1 :=
    .opensRound holds.held
  have added := holds.bears adds.bears rfl
  have owns : (site.addPost
      ⟨supervisor.job, .application supervisor.application index⟩).1.Owns
        { supervisor with current := some site.posts.size } := by
    refine ⟨added.owns.gates, ?_⟩
    intro round current
    cases current
    exact ⟨_, (charter?_addPost site _ _).trans (if_pos rfl)⟩
  have updates := deeds_setSupervisor added owns rfl rfl
  refine ⟨.head adds updates, added.set owns, ?_, site.charter?_size⟩
  exact (job_addPost site _ _).trans (if_pos rfl)

theorem job_setJob_of_charter {post : Nat} {charter : Option (Duration × Duration)}
    (known : site.charter? post = some charter) (job : Job) :
    (site.setJob post job).job post = job := by
  apply job_setJob
  unfold charter? at known
  cases held : site.posts[post]? with
  | none => simp [held] at known
  | some post => exact (Array.getElem?_eq_some_iff.mp held).1

theorem charter?_openRound (site : Site) (index : Nat) (supervisor : Supervisor) :
    (site.openRound index supervisor).1.charter?
        (site.openRound index supervisor).2 =
      some (some (supervisor.application.exitGrace,
        supervisor.application.killGrace)) :=
  (charter?_addPost site _ _).trans (if_pos rfl)

theorem hasBody_of_openRound (bodies : Body → Prop) {other : Nat}
    (apart : other ≠ site.posts.size)
    (has : (site.openRound index supervisor).1.HasBody bodies other) :
    site.HasBody bodies other :=
  hasBody_of_addPost_of_ne bodies apart (hasBody_of_posts bodies rfl has)

theorem proceeds_launchRound [Timers] (holds : site.Holds index supervisor)
    (wanted : supervisor.stopRequested = false) :
    Proceeds index site (site.launchRound index supervisor) := by
  have opens := opens_openRound holds
  have known := charter?_openRound site index supervisor
  unfold launchRound
  dsimp only
  generalize site.openRound index supervisor = result at opens known ⊢
  obtain ⟨opened, round⟩ := result
  obtain ⟨job, starts, tended, started⟩ :=
    start_fresh "application" supervisor.settings.killGrace
  have launches : Deed index opened (opened.setJob round job) :=
    .launches round opens.holds.held wanted opens.fresh starts
  have set := job_setJob_of_charter known job
  rw [opens.fresh, show supervisor.job.start = .ok job from starts]
  refine ⟨opens.deeds.tail launches, ?_, ?_, by simp [Activity.body?]⟩
  · intro stage waits
    cases waits
    show ((opened.setJob round job).job round).phase ≠ .created
    rw [set]
    exact started
  · intro task member
    rw [List.mem_singleton.mp member]
    apply Begun.enter round opens.absent
    show ((opened.setJob round job).job round).IsTended
    rw [set]
    exact tended

theorem proceeds_concludeRound [Timers] (holds : site.Holds index supervisor) (round : Nat) :
    Proceeds index site (site.concludeRound index supervisor round) := by
  unfold concludeRound
  dsimp only
  generalize (site.application? round).bind Application.status = status
  have owns : site.Owns { supervisor with current := none } := by
    refine ⟨holds.owns.gates, ?_⟩
    intro round current
    cases current
  have idles := deeds_setSupervisor holds owns rfl rfl
  have idle := holds.set owns
  have exits : Deed index
      (site.setSupervisor index { supervisor with current := none })
      ((site.setSupervisor index { supervisor with current := none }).postEvent index
        (.applicationExited (status.map ExitStatus.code))) :=
    .posts Event.noConfusion
  have posted := idle.bears exits.bears rfl
  have deeds := idles.tail exits
  split
  · rename_i again
    have wanted := Verdict.wanted_of_again again
    have schedules : Deed index
        ((site.setSupervisor index { supervisor with current := none }).postEvent index
          (.applicationExited (status.map ExitStatus.code))) _ :=
      .schedules posted.held wanted
    have scheduled := posted.bears schedules.bears rfl
    exact (proceeds_launchRound scheduled wanted).following (deeds.tail schedules)
  · exact (proceeds_closeRun posted _).following deeds

/-- The stop of a round that has ended, and what follows it. -/
theorem proceeds_settleRound [Timers] (holds : site.Holds index supervisor) {round : Nat}
    (exited : (site.job round).exitFlag = true) :
    Proceeds index site (site.settleRound index supervisor round) := by
  obtain ⟨standing, begins, answers⟩ := StopCall.begin_of_exited exited site.now
    supervisor.settings.stopTimeout false
  have claims : Deed index site
      (site.setJob round { site.job round with stopClaimed := true }) :=
    .claims round exited
  have claimed := holds.bears claims.bears rfl
  unfold settleRound beginStop
  dsimp only
  rw [begins]
  apply Proceeds.following (.single claims)
  cases standing with
  | waits call => exact absurd rfl (answers call)
  | returned => exact proceeds_concludeRound claimed round
  | crashed => exact proceeds_crashRun claimed

/-- A round that was opened and withdrawn at once. -/
structure Withdraws (index : Nat) (supervisor : Supervisor) (site withdrawn : Site)
    (round : Nat) : Prop where
  absent : site.charter? round = none
  deeds : Deeds index site withdrawn
  holds : withdrawn.Holds index { supervisor with current := some round }
  exited : (withdrawn.job round).exitFlag = true
  events : withdrawn.events = site.events
  opened : ∀ other, withdrawn.IsOpen other → site.IsOpen other

theorem beginRound_of_stopRequested [Timers] (holds : site.Holds index supervisor)
    (stopRequested : supervisor.stopRequested = true) :
    ∃ withdrawn round, Withdraws index supervisor site withdrawn round ∧
      site.beginRound index supervisor =
        withdrawn.settleRound index { supervisor with current := some round }
          round := by
  have opens := opens_openRound holds
  have known := charter?_openRound site index supervisor
  have events : (site.openRound index supervisor).1.events = site.events := rfl
  have others : ∀ other, other ≠ (site.openRound index supervisor).2 →
      (site.openRound index supervisor).1.IsOpen other → site.IsOpen other :=
    fun _ => hasBody_of_openRound (· = .unlaunched)
  unfold beginRound
  rw [if_pos stopRequested]
  dsimp only
  generalize site.openRound index supervisor = result at opens known events others ⊢
  obtain ⟨opened, round⟩ := result
  dsimp only at opens known events others ⊢
  have begins : StopCall.begin opened.now supervisor.job
      supervisor.settings.stopTimeout false =
        withdrawal { supervisor with current := some round } :=
    StopCall.begin_of_fresh _ _ _ _
  have withdraws : Deed index opened
      (opened.commit round
        (withdrawal { supervisor with current := some round })) :=
    .withdraws round opens.holds.held opens.fresh
  unfold beginStop
  dsimp only
  rw [opens.fresh, begins]
  obtain ⟨host, notices, signals, same⟩ :=
    commit_eq opened round (withdrawal { supervisor with current := some round })
  refine ⟨_, round, ⟨opens.absent, opens.deeds.tail withdraws, ?_, ?_, ?_, ?_⟩, rfl⟩
  · exact opens.holds.bears withdraws.bears (supervisors_commit opened round _)
  · rw [same]
    show ((opened.setJob round _).job round).exitFlag = true
    rw [job_setJob_of_charter known]
    rfl
  · rw [same]
    exact events
  · rw [same]
    intro other left
    have set : (opened.setJob round _).IsOpen other := hasBody_of_posts _ rfl left
    by_cases own : other = round
    · obtain ⟨_, unlaunched⟩ := set
      rw [own, job_setJob_of_charter known] at unlaunched
      cases unlaunched
    · exact others other own
        ((tends_setJob opened round (fun _ => True) _).hasBody_of_ne _ own set)

theorem proceeds_beginRound [Timers] (holds : site.Holds index supervisor) :
    Proceeds index site (site.beginRound index supervisor) := by
  cases stopRequested : supervisor.stopRequested with
  | true =>
      obtain ⟨withdrawn, round, withdraws, same⟩ :=
        beginRound_of_stopRequested holds stopRequested
      rw [same]
      exact (proceeds_settleRound withdraws.holds withdraws.exited).following withdraws.deeds
  | false =>
      unfold beginRound
      rw [stopRequested]
      exact proceeds_launchRound holds stopRequested

/-! ## Turns -/

theorem exists_of_takeCommand? {taken : Site} {post : Option Nat} {command : Command}
    (takes : post.bind site.takeCommand? = some (taken, command)) :
    ∃ index gate rest, post = some index ∧ site.gate? index = some gate ∧
      gate.queue = command :: rest ∧
      taken = site.setGate index { gate with queue := rest } := by
  obtain ⟨index, isOpen, took⟩ := Option.bind_eq_some_iff.mp takes
  unfold takeCommand? at took
  split at took
  · cases took
  · rename_i gate guarded
    split at took
    · cases took
    · rename_i rest queue
      cases took
      exact ⟨index, gate, rest, isOpen, guarded, queue, rfl⟩

theorem proceeds_dispatch [Timers] {round : Nat} (started : (site.job round).phase ≠ .created)
    {taken : Site} {command : Command}
    (takes : supervisor.channel.gate.bind site.takeCommand? = some (taken, command)) :
    Proceeds index site (taken.dispatch index supervisor round command) := by
  obtain ⟨gate, guard, rest, _, guarded, _, is⟩ := exists_of_takeCommand? takes
  have takes := deed_setGate index guarded { guard with queue := rest }
  rw [← is] at takes
  have posts : Deed index taken
      (taken.postEvent index (.commandReceived command.name)) :=
    .posts Event.noConfusion
  refine ⟨.tail (.single takes) posts, ?_, ?_, List.nodup_nil⟩
  · intro stage waits
    cases waits
    exact posts.bears.started (takes.bears.started started)
  · intro task member
    rw [List.mem_singleton.mp member]
    exact .execute command

theorem proceeds_listen [Timers] (holds : site.Holds index supervisor) {round : Nat}
    (started : (site.job round).phase ≠ .created) (deadline : Instant) :
    Proceeds index site (site.listen index supervisor round deadline) := by
  unfold listen
  split
  · rename_i ended
    apply proceeds_settleRound holds
    simpa [Job.isAlive, started] using ended
  · split
    · rename_i taken command takes
      exact proceeds_dispatch started takes
    · refine ⟨.refl, ?_, by simp, by simp⟩
      intro stage waits
      cases waits
      exact started

/-- A channel that was opened, and the post of its gate if it is new. -/
structure OpensGate (index : Nat) (site opened : Site) (channel : Channel)
    (gate : Option Nat) : Prop where
  deeds : Deeds index site opened
  supervisors : opened.supervisors = site.supervisors
  guarded : ∀ post, channel.gate = some post → opened.charter? post = some none
  added : ∀ post, gate = some post → site.charter? post = none ∧
    opened.charter? post = some none ∧ (opened.job post).IsTended

theorem deeds_of_openChannel_error {channel : Channel} {fault : Fault}
    (fails : site.openChannel channel = (after, .error fault)) :
    Deeds index site after ∧ after.supervisors = site.supervisors := by
  unfold openChannel at fails
  split at fails
  · cases fails
  · split at fails
    · cases fails
      exact ⟨.single (deed_host site index _), rfl⟩
    · dsimp only at fails
      split at fails
      · cases fails
      · cases fails

theorem opensGate_of_openChannel {channel opened : Channel} {gate : Option Nat}
    (guarded : ∀ post, channel.gate = some post → site.charter? post = some none)
    (opens : site.openChannel channel = (after, .ok (opened, gate))) :
    OpensGate index site after opened gate := by
  unfold openChannel at opens
  split at opens
  · cases opens
    exact ⟨.refl, rfl, guarded, by simp⟩
  · split at opens
    · cases opens
    · rename_i host listener _
      dsimp only at opens
      have moves := deed_host site index host
      obtain ⟨job, starts, tended, _⟩ := start_fresh "command-stream" defaultKillGrace
      rw [starts] at opens
      cases opens
      let guard : Gate :=
        { listener := listener
          connectionTimeout := channel.connectionTimeout
          queue := [] }
      have adds : Deed index { site with host := host }
          ({ site with host := host }.addPost ⟨job, .gate guard⟩).1 :=
        .opensGate guard tended
      have newest := (job_addPost { site with host := host } ⟨job, .gate guard⟩
        site.posts.size).trans (if_pos rfl)
      refine ⟨.tail (.single moves) adds, rfl, ?_, ?_⟩
      · intro post same
        cases same
        exact (charter?_addPost _ _ _).trans (if_pos rfl)
      · intro post same
        cases same
        refine ⟨site.charter?_size, ?_, (congrArg Job.IsTended newest).mpr tended⟩
        exact (charter?_addPost _ _ _).trans (if_pos rfl)

/-- A run that goes on with a gate that was opened just now, if it was. -/
theorem Proceeds.withGate {gate : Option Nat} {step : RunStep}
    (proceeds : Proceeds index after step) (deeds : Deeds index before after)
    (added : ∀ post, gate = some post → before.charter? post = none ∧
      after.charter? post = some none ∧ (after.job post).IsTended) :
    Proceeds index before
      { step with begun := gate.toList.map .enter ++ step.begun } := by
  have proceeded := proceeds.following deeds
  cases gate with
  | none => exact proceeded
  | some post =>
      obtain ⟨absent, guarded, running⟩ := added post rfl
      refine ⟨proceeded.deeds, proceeded.waits, ?_, ?_⟩
      · intro task member
        rcases List.mem_cons.mp member with first | other
        · rw [first]
          exact .enter post absent ((bears_of_deeds proceeds.deeds).tended running)
        · exact proceeded.begun task other
      · apply List.nodup_cons.mpr
        refine ⟨?_, proceeds.distinct⟩
        intro again
        obtain ⟨task, member, same⟩ := List.mem_filterMap.mp again
        cases proceeds.begun task member with
        | enter other missing _ =>
            cases same
            rw [guarded] at missing
            cases missing
        | execute command => cases same

theorem proceeds_openRun [Timers] (holds : site.Holds index supervisor) :
    Proceeds index site (site.openRun index supervisor) := by
  unfold openRun
  split
  · rename_i after fault fails
    obtain ⟨deeds, supervisors⟩ :
        Deeds index site after ∧ after.supervisors = site.supervisors :=
      deeds_of_openChannel_error fails
    have kept := holds.bears (bears_of_deeds deeds) supervisors
    exact proceeds_of_deeds (deeds.trans (deeds_finishRun kept _))
  · rename_i after channel gate opens
    have opensGate : OpensGate index site after channel gate :=
      opensGate_of_openChannel holds.owns.gates opens
    have kept := holds.bears (bears_of_deeds opensGate.deeds) opensGate.supervisors
    have owns : after.Owns { supervisor with channel := channel } :=
      ⟨opensGate.guarded, kept.owns.rounds⟩
    have updates := deeds_setSupervisor kept owns rfl rfl
    have opened := kept.set owns
    exact (proceeds_beginRound opened).withGate (opensGate.deeds.trans updates)
      opensGate.added

theorem proceeds_continueRun [Timers] (holds : site.Holds index supervisor) {stage : RunStage}
    (stands : site.Stands stage) :
    Proceeds index site (site.continueRun index supervisor stage) := by
  cases stage with
  | called => exact proceeds_openRun holds
  | listening round deadline => exact proceeds_listen holds stands deadline
  | settling round call => exact absurd stands id
  | closing code gate call =>
      exact proceeds_stopGate holds stands
        (StopCall.endures_resume site.now (site.job gate) call) code

end Site

end Overseer
