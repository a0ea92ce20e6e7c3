import Overseer.Proofs.Supervision.Rounds

/-!
# From one round to the next

A turn of a run goes on listening to its round, settles the round that has ended, or
launches nothing any more.  A round is settled once: another one is launched in its place
if it was marked and no stop was requested, and otherwise the run comes to its end.
-/

namespace Overseer

/-- There is no current round, unless a run crashed and none has returned a code since. -/
structure Supervisor.IsVacant (supervisor : Supervisor) : Prop where
  uncrashed : .crashed ∉ supervisor.results → supervisor.current = none
  returned : ∀ code, supervisor.results.getLast? = some (.returned (.ok code)) →
    supervisor.current = none

/-- The current round, as a run knows it where it waits. -/
def Supervisor.Expects (supervisor : Supervisor) : RunStage → Prop
  | .called => supervisor.IsVacant
  | .listening round _ => supervisor.current = some round
  | .settling _ _ => True
  | .closing _ _ _ => supervisor.current = none

theorem Supervisor.isVacant_of_idle {supervisor : Supervisor}
    (idle : supervisor.current = none) : supervisor.IsVacant :=
  ⟨fun _ => idle, fun _ _ => idle⟩

def Supervisor.withResult (supervisor : Supervisor) (result : RunResult) : Supervisor :=
  { supervisor with results := supervisor.results ++ [result] }

theorem Supervisor.isVacant_of_crash (supervisor : Supervisor) :
    (supervisor.withResult .crashed).IsVacant := by
  constructor
  · intro uncrashed
    simp [withResult] at uncrashed
  · intro code returned
    simp [withResult] at returned

theorem Supervisor.IsVacant.fails {supervisor : Supervisor}
    (vacant : supervisor.IsVacant) (fault : Fault) :
    (supervisor.withResult (.returned (.error fault))).IsVacant := by
  constructor
  · intro uncrashed
    apply vacant.uncrashed
    intro crashed
    exact uncrashed (List.mem_append_left _ crashed)
  · intro code returned
    simp [withResult] at returned

namespace Site

variable {index round : Nat} {site before after : Site} {supervisor : Supervisor}
  {step : RunStep}

/-! ## What a turn may come to -/

/-- The run listens to a round that it launched in this turn, and launches no other. -/
structure Launches (index : Nat) (site : Site) (step : RunStep) (round : Nat) :
    Prop where
  absent : site.charter? round = none
  waits : ∃ deadline, step.waits = some (.listening round deadline)
  begins : ∀ post, .enter post ∈ step.begun →
    post = round ∨ step.site.charter? post = some none
  launched : step.site.HasLaunched round
  others : ∀ other, step.site.HasLaunched other →
    other = round ∨ site.HasLaunched other
  opened : ∀ other, step.site.IsOpen other → site.IsOpen other
  current : ∃ supervisor, step.site.supervisor? index = some supervisor ∧
    supervisor.current = some round

/-- The run launches nothing; it is over, or waits for its gate to close. -/
structure Retires (index : Nat) (site : Site) (step : RunStep) : Prop where
  waits : ∀ stage, step.waits = some stage →
    ∃ code gate call, stage = .closing code gate call
  begins : ∀ post, .enter post ∈ step.begun → step.site.charter? post = some none
  quiet : Quiet site step.site
  vacant : ∃ supervisor, step.site.supervisor? index = some supervisor ∧
    supervisor.IsVacant ∧ (step.waits.isSome → supervisor.current = none)

/-- What becomes of a run that settles a round which is to be renewed, or not. -/
inductive Settles (index : Nat) (site : Site) (renewed : Prop) (step : RunStep) :
    Prop where
  | renews (fresh : Nat) (code : Option Int) (again : renewed)
      (launches : Launches index site step fresh)
      (events : step.site.events = (index, .restartScheduled) ::
        (index, .applicationExited code) :: site.events)
  | concludes (code : Option Int) (settled : ¬ renewed) (retires : Retires index site step)
      (returns : step.Returns index)
      (events : ∃ newer, step.site.events =
        newer ++ (index, .applicationExited code) :: site.events ∧
          ∀ entry ∈ newer, entry.2.IsAside)
  /-- A deadline cannot be computed; the round is not evaluated. -/
  | crashes (retires : Retires index site step)
      (events : Tells Event.IsAside site step.site)

/-- A round is renewed if it was marked and no stop was requested. -/
def IsRenewed (site : Site) (supervisor : Supervisor) (round : Nat) : Prop :=
  (site.job round).restartMark = true ∧ supervisor.stopRequested = false

/-- Where a turn of a run leads. -/
inductive Leads (index : Nat) (site : Site) (supervisor : Supervisor) :
    RunStage → RunStep → Prop where
  | listens {round : Nat} {deadline : Instant} {step : RunStep}
      (waits : ∃ later, step.waits = some (.listening round later))
      (begins : ∀ post, .enter post ∉ step.begun) (calm : Calm site step.site)
      (held : step.site.supervisor? index = some supervisor) :
      Leads index site supervisor (.listening round deadline) step
  | settles {round : Nat} {deadline : Instant} {step : RunStep}
      (exited : (site.job round).exitFlag = true)
      (settles : Settles index site (site.IsRenewed supervisor round) step) :
      Leads index site supervisor (.listening round deadline) step
  | begins {step : RunStep} (round : Nat) (wanted : supervisor.stopRequested = false)
      (launches : Launches index site step round)
      (events : step.site.events = site.events) :
      Leads index site supervisor .called step
  /-- A round is withdrawn and settled at once. -/
  | withdraws {step : RunStep} (round : Nat)
      (stopRequested : supervisor.stopRequested = true)
      (absent : site.charter? round = none)
      (opened : step.site.charter? round ≠ none)
      (settles : Settles index site False step) :
      Leads index site supervisor .called step
  /-- A run that cannot open its channel, or whose gate is closed. -/
  | retires {stage : RunStage} {step : RunStep}
      (unheard : ∀ round deadline, stage ≠ .listening round deadline)
      (retires : Retires index site step)
      (events : Tells Event.IsAside site step.site) :
      Leads index site supervisor stage step

/-- What a run does before it moves on: posts stay, and nothing is launched. -/
structure Prepares (before after : Site) : Prop where
  charter : ∀ {post charter}, before.charter? post = some charter →
    after.charter? post = some charter
  quiet : Quiet before after

theorem Prepares.trans {third : Site} (first : Prepares before after)
    (second : Prepares after third) : Prepares before third :=
  ⟨fun held => second.charter (first.charter held), first.quiet.trans second.quiet⟩

theorem prepares_of_posts (posts : after.posts = before.posts) :
    Prepares before after :=
  ⟨(bears_of_posts posts).charter, quiet_of_posts posts⟩

theorem prepares_addGate (site : Site) {post : Post} (gate : post.duty.graces? = none) :
    Prepares site (site.addPost post).1 :=
  ⟨(bears_addPost site post).charter, quiet_addGate site gate⟩

/-- What was not there after some preparations was not there before. -/
theorem Prepares.absent (prepares : Prepares before after)
    (absent : after.charter? round = none) : before.charter? round = none := by
  cases held : before.charter? round with
  | none => rfl
  | some known =>
      rw [prepares.charter held] at absent
      cases absent

theorem Launches.following (prepares : Prepares before after)
    (launches : Launches index after step round) : Launches index before step round := by
  refine ⟨prepares.absent launches.absent, launches.waits,
    launches.begins, launches.launched, ?_, ?_, launches.current⟩
  · intro other launched
    exact (launches.others other launched).imp id (prepares.quiet.launched other)
  · exact fun other left => prepares.quiet.opened other (launches.opened other left)

theorem Retires.following (quiet : Quiet before after)
    (retires : Retires index after step) : Retires index before step :=
  ⟨retires.waits, retires.begins, quiet.trans retires.quiet, retires.vacant⟩

theorem Settles.following {renewed : Prop} (prepares : Prepares before after)
    (told : after.events = before.events)
    (settles : Settles index after renewed step) :
    Settles index before renewed step := by
  cases settles with
  | renews fresh code again launches events =>
      rw [told] at events
      exact .renews fresh code again (launches.following prepares) events
  | concludes code settled retires returns events =>
      rw [told] at events
      exact .concludes code settled (retires.following prepares.quiet) returns events
  | crashes retires events =>
      exact .crashes (retires.following prepares.quiet)
        ((tells_of_eq _ told).trans events)

/-! ## The end of a run -/

theorem supervisor?_finishRun (held : site.supervisor? index = some supervisor)
    (result : RunResult) :
    (site.finishRun index result).supervisor? index =
      some (supervisor.withResult result) := by
  unfold finishRun
  rw [held]
  exact supervisor?_setSupervisor held _

theorem posts_finishRun (site : Site) (index : Nat) (result : RunResult) :
    (site.finishRun index result).posts = site.posts := by
  unfold finishRun
  split <;> rfl

theorem retires_finishRun {result : RunResult}
    (quiet : Quiet before after) (held : after.supervisor? index = some supervisor)
    (vacant : (supervisor.withResult result).IsVacant) :
    Retires index before ⟨after.finishRun index result, none, []⟩ := by
  refine ⟨by simp, by simp, ?_, _, supervisor?_finishRun held result, vacant, by simp⟩
  exact quiet.trans (quiet_of_posts (posts_finishRun after index result))

theorem tends_removal (site : Site) (path : String) (post : Nat) :
    Tends post (fun _ => True) site (site.removeRendezvous path).1 := by
  obtain ⟨host, removed⟩ := removeRendezvous_eq site path
  rw [removed]
  exact .of_posts post _ rfl rfl rfl rfl rfl

theorem calm_abandonChannel (site : Site) (channel : Channel) :
    Calm site (site.abandonChannel channel) ∧
      (site.abandonChannel channel).supervisors = site.supervisors := by
  unfold abandonChannel
  split
  · exact ⟨.refl site, rfl⟩
  · rename_i gate _
    have aborts : Calm site (site.setJob gate (site.job gate).abort) :=
      calm_setJob (Job.endures_abort _)
    have removes := tends_removal (site.setJob gate (site.job gate).abort)
      channel.path gate
    obtain ⟨host, removed⟩ := removeRendezvous_eq
      (site.setJob gate (site.job gate).abort) channel.path
    refine ⟨aborts.trans (removes.calm ?_), removes.supervisors⟩
    rw [removed]
    exact .refl _

theorem calm_clearChannel (site : Site) (path : String) (gate : Nat) :
    Calm site (site.clearChannel path gate) ∧
      (site.clearChannel path gate).supervisors = site.supervisors := by
  obtain ⟨host, removed⟩ := removeRendezvous_eq site path
  have told : ∀ notices, Tends gate (fun _ => True) site
      { site with host := host, notices := notices } :=
    fun _ => .of_posts gate _ rfl rfl rfl rfl rfl
  unfold clearChannel
  cases result : (site.removeRendezvous path).2 with
  | ok _ | error _ =>
      simp only [result, removed]
      split
      · exact ⟨(told _).calm (.refl _), rfl⟩
      · rename_i guard guarded
        have emptied := (told _).trans
          (tends_setGate guarded (fun _ => True) { guard with queue := [] })
        split
        · exact ⟨emptied.calm (by rw [job_setGate]; exact .refl _), rfl⟩
        · have reported := emptied.trans (tends_report _ gate (fun _ => True)
            (.commandsDiscarded guard.queue.length))
          refine ⟨reported.calm ?_, rfl⟩
          show (_ : Job).Rests ((setGate _ gate _).job gate)
          rw [job_setGate]
          exact .refl _

theorem retires_crashRun (held : site.supervisor? index = some supervisor) :
    Retires index site (site.crashRun index supervisor) ∧
      Tells Event.IsAside site (site.crashRun index supervisor).site := by
  obtain ⟨calm, supervisors⟩ := calm_abandonChannel site supervisor.channel
  have abandoned := supervisor?_of_supervisors supervisors held
  constructor
  · apply retires_finishRun _ (supervisor?_setSupervisor abandoned _)
      (Supervisor.isVacant_of_crash _)
    exact calm.quiet.trans (quiet_of_posts rfl)
  · exact tells_of_eq _ (events_crashRun site index supervisor)

theorem retires_return (calm : Calm before after)
    (held : after.supervisor? index = some supervisor)
    (idle : supervisor.current = none) (result : RunResult) :
    Retires index before
        ⟨(after.postEvent index .supervisorStopped).finishRun index result, none, []⟩ ∧
      Tells Event.IsAside before
        ((after.postEvent index .supervisorStopped).finishRun index result) := by
  have told : (after.postEvent index .supervisorStopped).supervisor? index =
      some supervisor := held
  have stopped : Calm before (after.postEvent index .supervisorStopped) :=
    calm.trans (calm_postEvent after index Event.IsAside.supervisorStopped)
  constructor
  · exact retires_finishRun stopped.quiet told (Supervisor.isVacant_of_idle idle)
  · exact stopped.events.trans (tells_of_eq _ (events_finishRun _ index result))

theorem retires_endRun (held : site.supervisor? index = some supervisor)
    (idle : supervisor.current = none) (gate : Nat) (code : Option Int) :
    Retires index site (site.endRun index supervisor gate code) ∧
      Tells Event.IsAside site (site.endRun index supervisor gate code).site := by
  obtain ⟨calm, supervisors⟩ := calm_clearChannel site supervisor.channel.path gate
  have cleared := supervisor?_of_supervisors supervisors held
  have closes := calm_setSupervisor (site.clearChannel supervisor.channel.path gate)
    index (closed supervisor)
  unfold endRun
  dsimp only
  exact retires_return (calm.trans closes) (supervisor?_setSupervisor cleared _) idle _

theorem retires_awaitGate (held : site.supervisor? index = some supervisor)
    (idle : supervisor.current = none) (gate : Nat) (code : Option Int)
    (standing : StopCall.Standing) :
    Retires index site (site.awaitGate index supervisor gate code standing) ∧
      Tells Event.IsAside site
        (site.awaitGate index supervisor gate code standing).site := by
  cases standing with
  | waits call =>
      refine ⟨⟨?_, by simp [awaitGate], .refl site, supervisor, held,
        Supervisor.isVacant_of_idle idle, fun _ => idle⟩, tells_of_eq _ rfl⟩
      intro stage waits
      cases waits
      exact ⟨code, gate, call, rfl⟩
  | returned | crashed => exact retires_endRun held idle gate code

theorem retires_stopGate (held : site.supervisor? index = some supervisor)
    (idle : supervisor.current = none) {gate : Nat} {stop : StopCall.Step}
    (endures : (site.job gate).Endures stop.job) (code : Option Int) :
    Retires index site
        ((site.commit gate stop).awaitGate index supervisor gate code stop.standing) ∧
      Tells Event.IsAside site
        ((site.commit gate stop).awaitGate index supervisor gate code
          stop.standing).site := by
  have stops := calm_commit endures
  obtain ⟨retires, events⟩ := retires_awaitGate (supervisor?_commit held gate stop) idle
    gate code stop.standing
  exact ⟨retires.following stops.quiet, stops.events.trans events⟩

theorem retires_closeRun [Timers] (held : site.supervisor? index = some supervisor)
    (idle : supervisor.current = none) (code : Option Int) :
    Retires index site (site.closeRun index supervisor code) ∧
      Tells Event.IsAside site (site.closeRun index supervisor code).site := by
  unfold closeRun
  split
  · exact retires_return (.refl site) held idle _
  · exact retires_stopGate held idle
      (StopCall.endures_begin site.now (site.job _) Channel.closeTimeout false) code

/-! ## A round that is launched -/

theorem launches_launchRound [Timers] (held : site.supervisor? index = some supervisor) :
    Launches index site (site.launchRound index supervisor) site.posts.size ∧
      (site.launchRound index supervisor).site.events = site.events := by
  have known := charter?_openRound site index supervisor
  have fresh : (site.openRound index supervisor).1.job site.posts.size =
      supervisor.job :=
    (job_addPost site _ _).trans (if_pos rfl)
  have untouched : ∀ bodies other, other ≠ site.posts.size →
      (site.openRound index supervisor).1.HasBody bodies other →
        site.HasBody bodies other :=
    fun bodies _ => hasBody_of_openRound bodies
  have events : (site.openRound index supervisor).1.events = site.events := rfl
  obtain ⟨job, starts, tended, _⟩ :=
    start_fresh "application" supervisor.settings.killGrace
  have added : (site.addPost
      ⟨supervisor.job, .application supervisor.application index⟩).1.supervisor? index =
        some supervisor := held
  have current := supervisor?_setSupervisor added
    { supervisor with current := some site.posts.size }
  change (site.openRound index supervisor).1.supervisor? index = _ at current
  have round : (site.openRound index supervisor).2 = site.posts.size := rfl
  unfold launchRound
  dsimp only
  rw [round] at known ⊢
  generalize (site.openRound index supervisor).1 = opened at *
  have set := job_setJob_of_charter known job
  have tends := tends_setJob_any opened site.posts.size job
  rw [fresh, show supervisor.job.start = .ok job from starts]
  dsimp only
  refine ⟨⟨site.charter?_size, ⟨_, rfl⟩, ?_, ⟨⟨_, (tends.charter _).trans known⟩, ?_⟩,
    ?_, ?_, ⟨_, current, rfl⟩⟩, events⟩
  · intro post member
    cases List.mem_singleton.mp member
    exact .inl rfl
  · show ((opened.setJob site.posts.size job).job site.posts.size).body.IsLaunched
    rw [set]
    exact Body.launched_of_hasTask tended.1
  · intro other launched
    by_cases newest : other = site.posts.size
    · exact .inl newest
    · right
      apply untouched Body.IsLaunched other newest
      exact tends.hasBody_of_ne Body.IsLaunched newest launched
  · intro other left
    by_cases newest : other = site.posts.size
    · obtain ⟨_, unlaunched⟩ := left
      change ((opened.setJob site.posts.size job).job other).body = _ at unlaunched
      rw [newest, set] at unlaunched
      have hasTask := tended.1
      rw [unlaunched] at hasTask
      cases hasTask
    · apply untouched (· = .unlaunched) other newest
      exact tends.hasBody_of_ne (· = .unlaunched) newest left

/-! ## A round that is settled -/

theorem verdict_again {restartMark stopRequested : Bool} {status : Option ExitStatus} :
    Verdict.of restartMark stopRequested status = .again ↔
      restartMark = true ∧ stopRequested = false := by
  unfold Verdict.of
  constructor
  · intro again
    split at again
    · rename_i marked
      simpa using marked
    · split at again
      · cases again
      · cases again
  · intro marked
    obtain ⟨marked, wanted⟩ := marked
    simp [marked, wanted]

theorem settles_concludeRound [Timers] (held : site.supervisor? index = some supervisor)
    (round : Nat) :
    Settles index site (site.IsRenewed supervisor round)
      (site.concludeRound index supervisor round) := by
  unfold concludeRound
  dsimp only
  generalize (site.application? round).bind Application.status = status
  let idle := { supervisor with current := none }
  have idles := supervisor?_setSupervisor held idle
  have exits : ((site.setSupervisor index idle).postEvent index
      (.applicationExited (status.map ExitStatus.code))).supervisor? index =
        some idle := idles
  have posted : ∀ newer, Prepares site
      { site.setSupervisor index idle with events := newer } := fun _ => prepares_of_posts rfl
  split
  · rename_i again
    have schedules : (((site.setSupervisor index idle).postEvent index
        (.applicationExited (status.map ExitStatus.code))).postEvent index
          .restartScheduled).supervisor? index = some idle := idles
    obtain ⟨launches, told⟩ := launches_launchRound schedules
    exact .renews _ (status.map ExitStatus.code) (verdict_again.mp again)
      (launches.following (posted _)) told
  · rename_i code ends
    obtain ⟨retires, events⟩ := retires_closeRun exits rfl code
    refine .concludes (status.map ExitStatus.code) ?_
      (retires.following (posted _).quiet) (returns_closeRun exits code) events
    intro renewed
    rw [verdict_again.mpr renewed] at ends
    cases ends

/-- The stop of a round that has ended, and what follows it. -/
theorem settles_settleRound [Timers] (held : site.supervisor? index = some supervisor)
    (exited : (site.job round).exitFlag = true) :
    Settles index site (site.IsRenewed supervisor round)
      (site.settleRound index supervisor round) := by
  obtain ⟨standing, begins, answers⟩ := StopCall.begin_of_exited exited site.now
    supervisor.settings.stopTimeout false
  let claimed := { site.job round with stopClaimed := true }
  have tends := tends_setJob_any site round claimed
  have kept : (site.setJob round claimed).supervisor? index = some supervisor := held
  have prepares : Prepares site (site.setJob round claimed) :=
    ⟨fun known => (tends.charter _).trans known,
      (calm_setJob (Job.endures_claim _)).quiet⟩
  have renewed : (site.setJob round claimed).IsRenewed supervisor round ↔
      site.IsRenewed supervisor round := by
    have mark : ((site.setJob round claimed).job round).restartMark =
        (site.job round).restartMark := mark_setJob site rfl
    unfold IsRenewed
    rw [mark]
  unfold settleRound beginStop
  dsimp only
  rw [begins, ← renewed]
  apply Settles.following prepares rfl
  cases standing with
  | waits call => exact absurd rfl (answers call)
  | returned => exact settles_concludeRound kept round
  | crashed =>
      obtain ⟨retires, events⟩ := retires_crashRun kept
      exact .crashes retires events

/-! ## Turns -/

theorem prepares_openChannel (site : Site) (channel : Channel) :
    Prepares site (site.openChannel channel).1 ∧
      (site.openChannel channel).1.events = site.events := by
  unfold openChannel
  split
  · exact ⟨prepares_of_posts rfl, rfl⟩
  · split
    · exact ⟨prepares_of_posts rfl, rfl⟩
    · rename_i host _ _
      dsimp only
      split
      · exact ⟨prepares_of_posts rfl, rfl⟩
      · refine ⟨?_, rfl⟩
        apply Prepares.trans (prepares_of_posts rfl : Prepares site
          { site with host := host })
        exact prepares_addGate _ rfl

/-- The gate that was opened is no round. -/
theorem begins_withGate (allowed : Nat → Prop) {gate : Option Nat}
    {begun : List Activity}
    (added : ∀ post, gate = some post → after.charter? post = some none)
    (begins : ∀ post, .enter post ∈ begun →
      allowed post ∨ after.charter? post = some none) :
    ∀ post, .enter post ∈ gate.toList.map Activity.enter ++ begun →
      allowed post ∨ after.charter? post = some none := by
  intro post member
  rcases List.mem_append.mp member with first | other
  · obtain ⟨_, opened, is⟩ := List.mem_map.mp first
    cases is
    exact .inr (added post (Option.mem_toList.mp opened))
  · exact begins post other

theorem Launches.withGate {gate : Option Nat} (launches : Launches index site step round)
    (added : ∀ post, gate = some post → step.site.charter? post = some none) :
    Launches index site { step with begun := gate.toList.map .enter ++ step.begun }
      round :=
  ⟨launches.absent, launches.waits, begins_withGate _ added launches.begins,
    launches.launched, launches.others, launches.opened, launches.current⟩

theorem Retires.withGate {gate : Option Nat} (retires : Retires index site step)
    (added : ∀ post, gate = some post → step.site.charter? post = some none) :
    Retires index site { step with begun := gate.toList.map .enter ++ step.begun } := by
  refine ⟨retires.waits, ?_, retires.quiet, retires.vacant⟩
  intro post member
  have begins := begins_withGate (fun _ => False) added
    (fun post member => .inr (retires.begins post member)) post member
  exact begins.resolve_left id

theorem Settles.withGate {gate : Option Nat} {renewed : Prop}
    (settles : Settles index site renewed step)
    (added : ∀ post, gate = some post → step.site.charter? post = some none) :
    Settles index site renewed
      { step with begun := gate.toList.map .enter ++ step.begun } := by
  cases settles with
  | renews fresh code again launches events =>
      exact .renews fresh code again (launches.withGate added) events
  | concludes code settled retires returns events =>
      exact .concludes code settled (retires.withGate added) returns events
  | crashes retires events => exact .crashes (retires.withGate added) events

theorem settles_beginRound [Timers] (holds : site.Holds index supervisor)
    (stopRequested : supervisor.stopRequested = true) :
    ∃ round, site.charter? round = none ∧
      (site.beginRound index supervisor).site.charter? round ≠ none ∧
      Settles index site False (site.beginRound index supervisor) := by
  obtain ⟨withdrawn, round, withdraws, same⟩ :=
    beginRound_of_stopRequested holds stopRequested
  have yields := yields_of_deeds withdraws.deeds ⟨supervisor, holds.held, stopRequested⟩
  obtain ⟨graces, opened⟩ := withdraws.holds.owns.rounds round rfl
  have settled := settles_settleRound withdraws.holds.held withdraws.exited
  have never : ¬ withdrawn.IsRenewed { supervisor with current := some round } round := by
    intro renewed
    rw [stopRequested] at renewed
    cases renewed.2
  have proceeds := proceeds_settleRound withdraws.holds withdraws.exited
  rw [same]
  refine ⟨round, withdraws.absent, ?_, ?_⟩
  · rw [(bears_of_deeds proceeds.deeds).charter opened]
    exact Option.some_ne_none _
  · rw [eq_false never] at settled
    exact settled.following ⟨(bears_of_deeds withdraws.deeds).charter,
      yields.launched, withdraws.opened⟩ withdraws.events

/-- The first round of a run whose channel was opened just now. -/
theorem leads_beginRound [Timers] {caller : Supervisor} {gate : Option Nat}
    (holds : after.Holds index supervisor)
    (same : supervisor.stopRequested = caller.stopRequested)
    (prepares : Prepares before after) (told : after.events = before.events)
    (added : ∀ post, gate = some post → after.charter? post = some none) :
    Leads index before caller .called
      { after.beginRound index supervisor with
        begun := gate.toList.map .enter ++ (after.beginRound index supervisor).begun } := by
  have guarded : ∀ post, gate = some post →
      (after.beginRound index supervisor).site.charter? post = some none := by
    intro post opened
    exact (bears_of_deeds (proceeds_beginRound holds).deeds).charter (added post opened)
  cases stopRequested : supervisor.stopRequested with
  | true =>
      obtain ⟨round, absent, begun, settles⟩ := settles_beginRound holds stopRequested
      exact .withdraws round (same.symm.trans stopRequested) (prepares.absent absent) begun
        ((settles.following prepares told).withGate guarded)
  | false =>
      have begins : after.beginRound index supervisor =
          after.launchRound index supervisor := by
        unfold beginRound
        rw [stopRequested]
        rfl
      obtain ⟨launches, events⟩ := launches_launchRound holds.held
      rw [begins] at guarded ⊢
      exact .begins _ (same.symm.trans stopRequested)
        ((launches.following prepares).withGate guarded) (events.trans told)

theorem leads_openRun [Timers] (holds : site.Holds index supervisor)
    (vacant : supervisor.IsVacant) :
    Leads index site supervisor .called (site.openRun index supervisor) := by
  obtain ⟨prepares, told⟩ := prepares_openChannel site supervisor.channel
  unfold openRun
  split
  · rename_i after fault fails
    rw [fails] at prepares told
    obtain ⟨_, supervisors⟩ :
        Deeds index site after ∧ after.supervisors = site.supervisors :=
      deeds_of_openChannel_error fails
    have kept := supervisor?_of_supervisors supervisors holds.held
    refine .retires (fun _ _ => RunStage.noConfusion)
      (retires_finishRun prepares.quiet kept (vacant.fails fault)) (tells_of_eq _ ?_)
    exact (events_finishRun after index _).trans told
  · rename_i after channel gate opens
    rw [opens] at prepares told
    have opensGate : OpensGate index site after channel gate :=
      opensGate_of_openChannel holds.owns.gates opens
    have kept := holds.bears (bears_of_deeds opensGate.deeds) opensGate.supervisors
    have owns : after.Owns { supervisor with channel := channel } :=
      ⟨opensGate.guarded, kept.owns.rounds⟩
    have opened := kept.set owns
    have ready := prepares.trans (prepares_of_posts rfl : Prepares after
      (after.setSupervisor index { supervisor with channel := channel }))
    exact leads_beginRound opened rfl ready told fun post added =>
      (opensGate.added post added).2.1

theorem leads_dispatch [Timers] (held : site.supervisor? index = some supervisor)
    {taken : Site} {command : Command} {deadline : Instant}
    (takes : supervisor.channel.gate.bind site.takeCommand? = some (taken, command)) :
    Leads index site supervisor (.listening round deadline)
      (taken.dispatch index supervisor round command) := by
  obtain ⟨gate, guard, rest, _, guarded, _, is⟩ := exists_of_takeCommand? takes
  rw [is]
  have takes := tends_setGate guarded (fun _ => True) { guard with queue := rest }
  refine .listens ⟨_, rfl⟩ ?_ ?_ held
  · intro post member
    cases List.mem_singleton.mp member
  · have taken := takes.calm (by rw [job_setGate]; exact .refl _)
    exact taken.trans (calm_postEvent _ index
      (Event.IsAside.commandReceived command.name))

theorem leads_listen [Timers] (held : site.supervisor? index = some supervisor)
    (started : (site.job round).phase ≠ .created) (deadline : Instant) :
    Leads index site supervisor (.listening round deadline)
      (site.listen index supervisor round deadline) := by
  unfold listen
  split
  · rename_i ended
    have exited : (site.job round).exitFlag = true := by
      simpa [Job.isAlive, started] using ended
    exact .settles exited (settles_settleRound held exited)
  · split
    · rename_i taken command takes
      exact leads_dispatch held takes
    · exact .listens ⟨_, rfl⟩ (by simp) (.refl site) held

/-- Every turn of a run that knows its round. -/
theorem leads_continueRun [Timers] (holds : site.Holds index supervisor) {stage : RunStage}
    (stands : site.Stands stage) (expects : supervisor.Expects stage) :
    Leads index site supervisor stage (site.continueRun index supervisor stage) := by
  cases stage with
  | called => exact leads_openRun holds expects
  | listening round deadline => exact leads_listen holds.held stands deadline
  | settling round call => exact absurd stands id
  | closing code gate call =>
      obtain ⟨retires, events⟩ := retires_stopGate holds.held expects
        (StopCall.endures_resume site.now (site.job gate) call) code
      exact .retires (fun _ _ => RunStage.noConfusion) retires events

theorem Advances.leads [Timers] {stage : RunStage} {step : RunStep}
    (advances : site.Advances supervisor stage step) (holds : site.Holds 0 supervisor)
    (stands : site.Stands stage) (expects : supervisor.Expects stage) :
    Leads 0 site supervisor stage step := by
  cases advances with
  | turns stage => exact leads_continueRun holds stands expects
  | overtakes takes => exact leads_dispatch holds.held takes

theorem not_listens_of_retires {deadline : Instant} (retires : Retires index site step) :
    step.waits ≠ some (.listening round deadline) := by
  intro listens
  obtain ⟨code, gate, call, closes⟩ := retires.waits _ listens
  cases closes

theorem Launches.listens {launched : Nat} {deadline : Instant}
    (launches : Launches index site step launched)
    (listens : step.waits = some (.listening round deadline)) : round = launched := by
  obtain ⟨_, waits⟩ := launches.waits
  cases waits.symm.trans listens
  rfl

theorem Leads.listens_or {stage : RunStage} {deadline : Instant}
    (leads : Leads index site supervisor stage step)
    (listens : step.waits = some (.listening round deadline)) :
    (∃ before, stage = .listening round before) ∨ site.charter? round = none := by
  have launched : ∀ {fresh}, Launches index site step fresh →
      site.charter? round = none := by
    intro fresh launches
    rw [launches.listens listens]
    exact launches.absent
  have settled : ∀ {renewed}, Settles index site renewed step →
      site.charter? round = none := by
    intro renewed settles
    cases settles with
    | renews _ _ _ launches _ => exact launched launches
    | concludes _ _ retires _ _ | crashes retires _ =>
        exact absurd listens (not_listens_of_retires retires)
  cases leads with
  | listens waits begins calm held =>
      obtain ⟨later, same⟩ := waits
      cases same.symm.trans listens
      exact .inl ⟨_, rfl⟩
  | settles _ settles => exact .inr (settled settles)
  | begins _ _ launches _ => exact .inr (launched launches)
  | withdraws _ _ _ _ settles => exact .inr (settled settles)
  | retires _ retires _ => exact absurd listens (not_listens_of_retires retires)

/-- The body that a run begins in its turn is of a gate, or of the round that it then
listens to. -/
theorem Leads.begins_or {stage : RunStage} {post : Nat}
    (leads : Leads index site supervisor stage step) (begun : .enter post ∈ step.begun) :
    (∃ deadline, step.waits = some (.listening post deadline)) ∨
      step.site.charter? post = some none := by
  have launched : ∀ {fresh}, Launches index site step fresh →
      (∃ deadline, step.waits = some (.listening post deadline)) ∨
        step.site.charter? post = some none := by
    intro fresh launches
    rcases launches.begins post begun with newest | gate
    · rw [newest]
      exact .inl launches.waits
    · exact .inr gate
  have settled : ∀ {renewed}, Settles index site renewed step →
      (∃ deadline, step.waits = some (.listening post deadline)) ∨
        step.site.charter? post = some none := by
    intro renewed settles
    cases settles with
    | renews _ _ _ launches _ => exact launched launches
    | concludes _ _ retires _ _ | crashes retires _ => exact .inr (retires.begins post begun)
  cases leads with
  | listens _ begins _ _ => exact absurd begun (begins post)
  | settles _ settles => exact settled settles
  | begins _ _ launches _ => exact launched launches
  | withdraws _ _ _ _ settles => exact settled settles
  | retires _ retires _ => exact .inr (retires.begins post begun)

/-- Whatever a run does, no round is left that could be started. -/
theorem Leads.opened {stage : RunStage} (leads : Leads index site supervisor stage step)
    (round : Nat) (left : step.site.IsOpen round) : site.IsOpen round := by
  have settled : ∀ {renewed}, Settles index site renewed step → site.IsOpen round := by
    intro renewed settles
    cases settles with
    | renews _ _ _ launches _ => exact launches.opened round left
    | concludes _ _ retires _ _ | crashes retires _ =>
        exact retires.quiet.opened round left
  cases leads with
  | listens _ _ calm _ => exact calm.quiet.opened round left
  | settles _ settles => exact settled settles
  | begins _ _ launches _ => exact launches.opened round left
  | withdraws _ _ _ _ settles => exact settled settles
  | retires _ retires _ => exact retires.quiet.opened round left

/-- A run that listened to a round whose job goes on listens to it still. -/
theorem Leads.still_listens {deadline : Instant}
    (leads : Leads index site supervisor (.listening round deadline) step)
    (running : (site.job round).exitFlag = false) :
    ∃ later, step.waits = some (.listening round later) := by
  cases leads with
  | listens waits _ _ _ => exact waits
  | settles exited _ =>
      rw [running] at exited
      cases exited
  | retires unheard _ _ => exact absurd rfl (unheard round deadline)

end Site

end Overseer
