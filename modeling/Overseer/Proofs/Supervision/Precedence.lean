import Overseer.Proofs.Supervision.Course

/-!
# A stop wins over a restart

Once a stop or a kill was asked for, the supervisor is stopping and stays so.  From then
on no round is launched and no restart is scheduled, and the run that evaluates an
application which has ended returns.  It does not matter which restarts were asked for,
before or after, and whether a round was current.
-/

namespace Overseer

def Body.IsLaunched : Body → Prop
  | .unlaunched | .withdrawn => False
  | .scheduled | .underway | .gone => True

theorem Body.launched_of_hasTask {body : Body} (hasTask : body.hasTask = true) :
    body.IsLaunched := by
  cases body with
  | unlaunched | withdrawn | gone => cases hasTask
  | scheduled | underway => trivial

theorem Job.Endures.launched_of {first second : Job}
    (endures : first.Endures second) (launched : second.body.IsLaunched) :
    first.body.IsLaunched := by
  by_cases unlaunched : first.body = .unlaunched
  · rcases endures.unlaunched unlaunched with same | withdrawn
    · rw [same] at launched
      exact launched.elim
    · rw [withdrawn] at launched
      exact launched.elim
  · rw [← (endures.launched unlaunched).1]
    exact launched

/-- The events that come from no evaluation. -/
def Event.IsBeside (event : Event) : Prop :=
  ∀ code, event ≠ .applicationExited code

/-- A run that has returned, or only waits for its gate to close. -/
def RunStep.Returns (index : Nat) (step : RunStep) : Prop :=
  ∃ code, (∃ gate call, step.waits = some (.closing code gate call)) ∨
    step.waits = none ∧ ∃ supervisor, step.site.supervisor? index = some supervisor ∧
      supervisor.results.getLast? = some (.returned (.ok code))

namespace Site

/-- Whether there is a round at a position whose job was started. -/
def HasLaunched (site : Site) (round : Nat) : Prop :=
  (∃ graces, site.charter? round = some (some graces)) ∧
    (site.job round).body.IsLaunched

/-- A stop or a kill was requested. -/
def IsStopping (index : Nat) (site : Site) : Prop :=
  ∃ supervisor, site.supervisor? index = some supervisor ∧
    supervisor.stopRequested = true

/-- What a supervisor that is stopping does. -/
structure Yields (index : Nat) (before after : Site) : Prop where
  stopping : after.IsStopping index
  launched : ∀ round, after.HasLaunched round → before.HasLaunched round
  events : Tells (· ≠ .restartScheduled) before after

variable {index : Nat} {site before after third : Site} {supervisor : Supervisor}

theorem Yields.refl (stopping : site.IsStopping index) : Yields index site site :=
  ⟨stopping, fun _ => id, tells_of_eq _ rfl⟩

theorem Yields.trans (first : Yields index before after)
    (second : Yields index after third) : Yields index before third :=
  ⟨second.stopping, fun round launched => first.launched round
    (second.launched round launched), first.events.trans second.events⟩

theorem yields_of_posts (stopping : before.IsStopping index)
    (posts : after.posts = before.posts)
    (supervisors : after.supervisors = before.supervisors)
    (events : Tells (· ≠ .restartScheduled) before after) :
    Yields index before after := by
  refine ⟨?_, fun _ => hasBody_of_posts Body.IsLaunched posts, events⟩
  unfold IsStopping supervisor?
  rw [supervisors]
  exact stopping

theorem Tends.yields {post : Nat} {sent : Signal → Prop}
    (tends : Tends post sent before after) (stopping : before.IsStopping index)
    (launched : (after.job post).body.IsLaunched →
      (before.job post).body.IsLaunched) : Yields index before after := by
  refine ⟨?_, ?_, ?_⟩
  · unfold IsStopping supervisor?
    rw [tends.supervisors]
    exact stopping
  · exact fun _ => tends.hasBody Body.IsLaunched launched
  · apply tends.events.mono
    intro event started again
    obtain ⟨child, is⟩ := started
    rw [is] at again
    cases again

theorem Tends.yields_of_endures {post : Nat} {sent : Signal → Prop}
    (tends : Tends post sent before after) (stopping : before.IsStopping index)
    (endures : (before.job post).Endures (after.job post)) :
    Yields index before after :=
  tends.yields stopping endures.launched_of

theorem yields_addPost (stopping : site.IsStopping index) (post : Post)
    (idle : post.duty.graces? = none ∨ ¬ post.job.body.IsLaunched) :
    Yields index site (site.addPost post).1 :=
  ⟨stopping, fun _ => hasBody_of_addPost Body.IsLaunched idle, tells_of_eq _ rfl⟩

theorem yields_setSupervisor (held : site.supervisor? index = some supervisor)
    {new : Supervisor} (stopRequested : new.stopRequested = true) :
    Yields index site (site.setSupervisor index new) :=
  ⟨⟨new, supervisor?_setSupervisor held new, stopRequested⟩, fun _ => id,
    tells_of_eq _ rfl⟩

theorem yields_setJob (stopping : site.IsStopping index) {round : Nat} {job : Job}
    (endures : (site.job round).Endures job) :
    Yields index site (site.setJob round job) :=
  (tends_setJob site round (fun _ => True) job).yields_of_endures stopping
    (endures_setJob endures)

theorem yields_commit (stopping : site.IsStopping index) {post : Nat}
    {step : StopCall.Step} (endures : (site.job post).Endures step.job) :
    Yields index site (site.commit post step) :=
  (tends_commit site post step fun _ _ _ _ => trivial :
    Tends post (fun _ => True) site _).yields_of_endures stopping
      (endures_commit endures)

/-! ## Deeds -/

/-- A supervisor that is stopping neither schedules a restart nor launches a round. -/
theorem Deed.yields (deed : Deed index before after)
    (stopping : before.IsStopping index) : Yields index before after := by
  obtain ⟨supervisor, current, stopRequested⟩ := id stopping
  cases deed with
  | beside now posts supervisors events signals =>
      exact yields_of_posts stopping posts supervisors (tells_of_eq _ events)
  | posts other =>
      exact yields_of_posts stopping rfl rfl
        ⟨[_], rfl, fun entry member => by rw [List.mem_singleton.mp member]; exact other⟩
  | schedules held wanted =>
      cases held.symm.trans current
      rw [stopRequested] at wanted
      cases wanted
  | updates held settings same owns =>
      cases held.symm.trans current
      exact yields_setSupervisor held (same.trans stopRequested)
  | opensGate gate tended => exact yields_addPost stopping _ (.inl rfl)
  | serves guarded tends endures => exact tends.yields_of_endures stopping endures
  | opensRound held => exact yields_addPost stopping _ (.inr id)
  | launches round held wanted fresh starts =>
      cases held.symm.trans current
      rw [stopRequested] at wanted
      cases wanted
  | withdraws round held fresh =>
      apply yields_commit stopping
      rw [fresh]
      exact ((Job.endures_claim _).trans (Job.endures_requestStop _)).trans
        (Job.endures_withdraw rfl)
  | claims round exited => exact yields_setJob stopping (Job.endures_claim _)

theorem yields_of_deeds (deeds : Deeds index before after)
    (stopping : before.IsStopping index) : Yields index before after := by
  induction deeds with
  | refl => exact .refl stopping
  | tail _ deed induction => exact induction.trans (deed.yields induction.stopping)

/-! ## Requests -/

theorem yields_beginStop [Timers] (stopping : site.IsStopping index) (round : Nat)
    (timeout : Duration) : Yields index site (site.beginStop round timeout).1 :=
  yields_commit stopping
    (StopCall.endures_begin site.now (site.job round) timeout false)

theorem yields_report (stopping : site.IsStopping index) (notice : Notice) :
    Yields index site (site.report notice) :=
  yields_of_posts stopping rfl rfl (tells_of_eq _ rfl)

theorem yields_requestStop [Timers] (held : site.supervisor? index = some supervisor) :
    Yields index site (site.requestStop index).1 := by
  have requested : Yields index site
      (site.setSupervisor index { supervisor with stopRequested := true }) :=
    yields_setSupervisor held rfl
  unfold requestStop
  rw [held]
  dsimp only
  split
  · exact requested
  · exact requested.trans (yields_beginStop requested.stopping _ _)

theorem yields_requestKill (held : site.supervisor? index = some supervisor) :
    Yields index site (site.requestKill index) := by
  have requested : Yields index site
      (site.setSupervisor index { supervisor with stopRequested := true }) :=
    yields_setSupervisor held rfl
  unfold requestKill
  rw [held]
  dsimp only
  split
  · exact requested
  · have told := requested.trans (yields_report requested.stopping .applicationKilled)
    exact told.trans (yields_setJob told.stopping (Job.endures_abort _))

theorem yields_requestRestart [Timers] (stopping : site.IsStopping index) :
    Yields index site (site.requestRestart index).1 := by
  unfold requestRestart
  split
  · exact .refl stopping
  · dsimp only
    split
    · exact yields_report stopping _
    · rename_i round _
      have marked := yields_setJob stopping
        (Job.endures_markForRestart (site.job round))
      exact marked.trans (yields_beginStop marked.stopping _ _)

theorem yields_takeSignal (stopping : site.IsStopping index) :
    Yields index site (site.takeSignal index).1 := by
  obtain ⟨supervisor, held, stopRequested⟩ := stopping
  have counted : Yields index site
      (site.setSupervisor index { supervisor with signals := supervisor.signals + 1 }) :=
    yields_setSupervisor held stopRequested
  unfold takeSignal
  rw [held]
  dsimp only
  split
  · exact counted
  · exact counted.trans (yields_requestKill (supervisor?_setSupervisor held _))

/-! ## The evaluation of a round -/

theorem returns_of_finishRun (held : site.supervisor? index = some supervisor)
    (code : Option Int) :
    RunStep.Returns index
      ⟨site.finishRun index (.returned (.ok code)), none, []⟩ := by
  refine ⟨code, .inr ⟨rfl, ?_⟩⟩
  unfold finishRun
  rw [held]
  exact ⟨_, supervisor?_setSupervisor held _, by simp⟩

theorem supervisor?_postEvent (site : Site) (sink : Nat) (event : Event)
    (index : Nat) : (site.postEvent sink event).supervisor? index =
      site.supervisor? index :=
  rfl

theorem returns_endRun (held : site.supervisor? index = some supervisor)
    (gate : Nat) (code : Option Int) :
    (site.endRun index supervisor gate code).Returns index := by
  obtain ⟨_, supervisors⟩ := deeds_clearChannel site index supervisor.channel.path gate
  unfold endRun
  apply returns_of_finishRun
  rw [supervisor?_postEvent]
  exact supervisor?_setSupervisor (supervisor?_of_supervisors supervisors held) _

theorem returns_awaitGate (held : site.supervisor? index = some supervisor)
    (gate : Nat) (code : Option Int) (standing : StopCall.Standing) :
    (site.awaitGate index supervisor gate code standing).Returns index := by
  cases standing with
  | waits call => exact ⟨code, .inl ⟨gate, call, rfl⟩⟩
  | returned | crashed => exact returns_endRun held gate code

theorem supervisor?_commit (held : site.supervisor? index = some supervisor)
    (post : Nat) (step : StopCall.Step) :
    (site.commit post step).supervisor? index = some supervisor :=
  supervisor?_of_supervisors (supervisors_commit site post step) held

theorem returns_closeRun [Timers] (held : site.supervisor? index = some supervisor)
    (code : Option Int) : (site.closeRun index supervisor code).Returns index := by
  unfold closeRun
  split
  · apply returns_of_finishRun
    rw [supervisor?_postEvent]
    exact held
  · exact returns_awaitGate (supervisor?_commit held _ _) _ code _

/-- The run of a supervisor that is stopping returns when it evaluates a round. -/
theorem returns_concludeRound [Timers] (held : site.supervisor? index = some supervisor)
    (stopRequested : supervisor.stopRequested = true) (round : Nat) :
    (site.concludeRound index supervisor round).Returns index := by
  unfold concludeRound
  dsimp only
  split
  · rename_i again
    rw [Verdict.wanted_of_again again] at stopRequested
    cases stopRequested
  · apply returns_closeRun
    rw [supervisor?_postEvent]
    exact supervisor?_setSupervisor held _

theorem events_abandonChannel (site : Site) (channel : Channel) :
    (site.abandonChannel channel).events = site.events := by
  unfold abandonChannel
  split
  · rfl
  · rename_i gate _
    obtain ⟨host, removed⟩ := removeRendezvous_eq
      (site.setJob gate (site.job gate).abort) channel.path
    dsimp only
    rw [removed]
    rfl

theorem events_finishRun (site : Site) (index : Nat) (result : RunResult) :
    (site.finishRun index result).events = site.events := by
  unfold finishRun
  split <;> rfl

theorem events_crashRun (site : Site) (index : Nat) (supervisor : Supervisor) :
    (site.crashRun index supervisor).site.events = site.events := by
  unfold crashRun
  rw [events_finishRun]
  exact events_abandonChannel site supervisor.channel

/-- A stopping supervisor settles a round and returns, unless it crashes first. -/
theorem returns_settleRound [Timers] (held : site.supervisor? index = some supervisor)
    (stopRequested : supervisor.stopRequested = true) {round : Nat}
    (exited : (site.job round).exitFlag = true) :
    (site.settleRound index supervisor round).Returns index ∨
      Tells Event.IsBeside site (site.settleRound index supervisor round).site := by
  obtain ⟨standing, begins, answers⟩ := StopCall.begin_of_exited exited site.now
    supervisor.settings.stopTimeout false
  unfold settleRound beginStop
  dsimp only
  rw [begins]
  cases standing with
  | waits call => exact absurd rfl (answers call)
  | returned =>
      exact .inl (returns_concludeRound (supervisor?_commit held _ _) stopRequested round)
  | crashed =>
      right
      apply tells_of_eq
      exact events_crashRun _ index supervisor

theorem returns_beginRound [Timers] (holds : site.Holds index supervisor)
    (stopRequested : supervisor.stopRequested = true) :
    (site.beginRound index supervisor).Returns index ∨
      Tells Event.IsBeside site (site.beginRound index supervisor).site := by
  obtain ⟨withdrawn, round, withdraws, same⟩ :=
    beginRound_of_stopRequested holds stopRequested
  rw [same]
  rcases returns_settleRound withdraws.holds.held stopRequested withdraws.exited with
    returns | tells
  · exact .inl returns
  · exact .inr ((tells_of_eq _ withdraws.events).trans tells)

theorem returns_openRun [Timers] (holds : site.Holds index supervisor)
    (stopRequested : supervisor.stopRequested = true) :
    (site.openRun index supervisor).Returns index ∨
      Tells Event.IsBeside site (site.openRun index supervisor).site := by
  have events : (site.openChannel supervisor.channel).1.events = site.events := by
    unfold openChannel
    split
    · rfl
    · split
      · rfl
      · dsimp only
        split
        · rfl
        · rfl
  unfold openRun
  split
  · rename_i opened fault fails
    right
    apply tells_of_eq
    rw [events_finishRun]
    rw [fails] at events
    exact events
  · rename_i opened channel gate opens
    have opensGate : OpensGate index site opened channel gate :=
      opensGate_of_openChannel holds.owns.gates opens
    have kept := holds.bears (bears_of_deeds opensGate.deeds) opensGate.supervisors
    have owns : opened.Owns { supervisor with channel := channel } :=
      ⟨opensGate.guarded, kept.owns.rounds⟩
    have begins := returns_beginRound (kept.set owns) stopRequested
    rw [opens] at events
    rcases begins with ⟨code, waits | ends⟩ | tells
    · exact .inl ⟨code, .inl waits⟩
    · exact .inl ⟨code, .inr ends⟩
    · exact .inr ((tells_of_eq _ events).trans tells)

theorem tells_of_taken {taken : Site} {command : Command}
    (takes : supervisor.channel.gate.bind site.takeCommand? = some (taken, command)) :
    Tells Event.IsBeside site
      (taken.postEvent index (.commandReceived command.name)) := by
  obtain ⟨_, _, _, _, _, _, is⟩ := exists_of_takeCommand? takes
  refine ⟨[(index, .commandReceived command.name)], by rw [is]; rfl, ?_⟩
  intro entry member code again
  rw [List.mem_singleton.mp member] at again
  cases again

theorem returns_listen [Timers] (held : site.supervisor? index = some supervisor)
    (stopRequested : supervisor.stopRequested = true) {round : Nat}
    (started : (site.job round).phase ≠ .created) (deadline : Instant) :
    (site.listen index supervisor round deadline).Returns index ∨
      Tells Event.IsBeside site (site.listen index supervisor round deadline).site := by
  unfold listen
  split
  · rename_i ended
    apply returns_settleRound held stopRequested
    simpa [Job.isAlive, started] using ended
  · right
    split
    · rename_i takes
      exact tells_of_taken takes
    · exact tells_of_eq _ rfl

/-- A turn of a run in which a stopping supervisor evaluates a round returns. -/
theorem returns_continueRun [Timers] (holds : site.Holds index supervisor)
    (stopRequested : supervisor.stopRequested = true) {stage : RunStage}
    (stands : site.Stands stage) :
    (site.continueRun index supervisor stage).Returns index ∨
      Tells Event.IsBeside site (site.continueRun index supervisor stage).site := by
  cases stage with
  | called => exact returns_openRun holds stopRequested
  | listening round deadline =>
      exact returns_listen holds.held stopRequested stands deadline
  | settling round call => exact absurd stands id
  | closing code gate call =>
      exact .inl (returns_awaitGate (supervisor?_commit holds.held gate _) gate code _)

end Site

namespace Course

variable {course next final : Course} {settings : Settings} {occurrence : Occurrence}

/-- Somebody asked for a stop or a kill. -/
def WasStopped (course : Course) : Prop :=
  ∃ asked ∈ course.asked, asked.demand = .stop ∨ asked.demand = .kill

/-- An application that has ended is evaluated. -/
def Evaluates (course next : Course) : Prop :=
  ∃ newer code sink, next.site.events = newer ++ course.site.events ∧
    (sink, .applicationExited code) ∈ newer

/-- There is no run but one that has returned or only waits for its gate to close. -/
def Returns (course : Course) : Prop :=
  ∃ code, (∃ gate call,
      course.tasks.filter Activity.isRun = [.run 0 (.closing code gate call)]) ∨
    course.tasks.filter Activity.isRun = [] ∧
      ∃ supervisor, course.site.supervisor? 0 = some supervisor ∧
        supervisor.results.getLast? = some (.returned (.ok code))

theorem not_evaluates (tells : Site.Tells Event.IsBeside course.site next.site) :
    ¬ Evaluates course next := by
  intro evaluates
  obtain ⟨newer, code, sink, posted, member⟩ := evaluates
  obtain ⟨beside, posts, allowed⟩ := tells
  have same := List.append_cancel_right (posted.symm.trans posts)
  rw [same] at member
  exact allowed _ member code rfl

/-! ## Occurrences -/

theorem Sound.yields_turns [Timers] {position : Nat} {task : Activity}
    (sound : Sound settings course) (taken : course.tasks[position]? = some task)
    (stopping : course.site.IsStopping 0) :
    Site.Yields 0 course.site (course.site.turn task).world := by
  have serves := sound.serves task (List.mem_of_getElem? taken)
  obtain ⟨supervisor, holds, _⟩ := sound.supervised
  cases own : task.body? with
  | some post =>
      apply (course.site.worksOn_turn own).tends.yields stopping
      exact fun _ => Body.launched_of_hasTask (serves.tended own).1
  | none =>
      have turned := Site.turned_of_turn holds serves own
      generalize (course.site.turn task).world = after at turned ⊢
      cases turned with
      | stop post call counted openStops =>
          have commits := Site.yields_commit stopping
            (StopCall.endures_resume course.site.now (course.site.job post) call)
          exact commits.trans
            (Site.yields_of_posts commits.stopping rfl rfl (Site.tells_of_eq _ rfl))
      | stops => exact Site.yields_requestStop holds.held
      | restarts => exact Site.yields_requestRestart stopping
      | run stage proceeds => exact Site.yields_of_deeds proceeds.deeds stopping

/-- A stopping supervisor launches no round and schedules no restart, whatever
happens. -/
theorem Sound.yields [Timers] (sound : Sound settings course)
    (stopping : course.site.IsStopping 0)
    (steps : course.step? occurrence = some next) :
    Site.Yields 0 course.site next.site := by
  obtain ⟨supervisor, held, _⟩ := id stopping
  cases step_of_step? steps with
  | runs | abandons _ => exact .refl stopping
  | turns taken => exact sound.yields_turns taken stopping
  | overtakes listens _ takes =>
      exact Site.yields_of_deeds
        (Site.proceeds_dispatch (sound.started_of_listens listens) takes).deeds stopping
  | stops => exact Site.yields_requestStop held
  | restarts => exact Site.yields_requestRestart stopping
  | kills => exact Site.yields_requestKill held
  | signals => exact Site.yields_takeSignal stopping
  | acts _ | passes _ =>
      exact Site.yields_of_posts stopping rfl rfl (Site.tells_of_eq _ rfl)

theorem Sound.yields_run [Timers] {occurrences : List Occurrence}
    (sound : Sound settings course) (stopping : course.site.IsStopping 0)
    (runs : course.run? occurrences = some final) :
    Site.Yields 0 course.site final.site := by
  have start : Site.Yields 0 course.site course.site := .refl stopping
  apply sound.keeps start _ runs
  intro course next occurrence sound yields steps
  exact yields.trans (sound.yields yields.stopping steps)

/-! ## From a demand on -/

/-- A supervisor that was asked to stop or to end is stopping. -/
def Heeds (course : Course) : Prop :=
  course.WasStopped → course.site.IsStopping 0

theorem heeds_of_asked (heeds : course.Heeds)
    (yields : course.site.IsStopping 0 → Site.Yields 0 course.site next.site)
    {more : List Asked} (asked : next.asked = course.asked ++ more)
    (stops : (∃ asked ∈ more, asked.demand = .stop ∨ asked.demand = .kill) →
      next.site.IsStopping 0) : next.Heeds := by
  intro stopped
  obtain ⟨one, member, demand⟩ := stopped
  rw [asked] at member
  rcases List.mem_append.mp member with old | new
  · exact (yields (heeds ⟨one, old, demand⟩)).stopping
  · exact stops ⟨one, new, demand⟩

theorem Sound.heeds_turns [Timers] {position : Nat} {task : Activity}
    (sound : Sound settings course) (heeds : course.Heeds)
    (taken : course.tasks[position]? = some task) :
    (course.turn position task).Heeds := by
  apply heeds_of_asked heeds (sound.yields_turns taken) rfl
  intro asks
  obtain ⟨one, member, demand⟩ := asks
  obtain ⟨was, demanded, is⟩ := List.mem_map.mp member
  subst is
  cases task with
  | execute index command =>
      have first : index = 0 := sound.serves _ (List.mem_of_getElem? taken)
      subst first
      obtain ⟨supervisor, holds, _⟩ := sound.supervised
      cases command with
      | stop => exact (Site.yields_requestStop holds.held).stopping
      | restart =>
          cases List.mem_singleton.mp demanded
          rcases demand with stop | kill
          · cases stop
          · cases kill
  | enter _ | guard _ _ | attend _ _ | stop _ _ _ | run _ _ => cases demanded

theorem Sound.heeds_step [Timers] (sound : Sound settings course) (heeds : course.Heeds)
    (steps : course.step? occurrence = some next) : next.Heeds := by
  obtain ⟨supervisor, holds, _⟩ := sound.supervised
  have yields : course.site.IsStopping 0 → Site.Yields 0 course.site next.site :=
    fun stopping => sound.yields stopping steps
  cases step_of_step? steps with
  | runs | overtakes _ _ _ | abandons _ | acts _ | passes _ =>
      exact fun stopped => (yields (heeds stopped)).stopping
  | turns taken => exact sound.heeds_turns heeds taken
  | stops => exact fun _ => (Site.yields_requestStop holds.held).stopping
  | kills => exact fun _ => (Site.yields_requestKill holds.held).stopping
  | restarts =>
      apply heeds_of_asked heeds yields rfl
      intro asks
      obtain ⟨one, member, demand⟩ := asks
      cases List.mem_singleton.mp member
      rcases demand with stop | kill
      · cases stop
      · cases kill
  | signals =>
      -- The first signal asks for nothing yet: its stop gets a task of its own.
      apply heeds_of_asked heeds yields rfl
      intro asks
      obtain ⟨one, member, _⟩ := asks
      unfold Site.takeSignal at member
      unfold Course.signal Site.takeSignal
      rw [holds.held] at member ⊢
      dsimp only at member ⊢
      split at member
      · simp at member
      · rename_i later
        rw [if_neg later]
        exact (Site.yields_requestKill
          (Site.supervisor?_setSupervisor holds.held _)).stopping

theorem Sound.heeds_run [Timers] {occurrences : List Occurrence}
    (sound : Sound settings course) (heeds : course.Heeds)
    (runs : course.run? occurrences = some final) : final.Heeds :=
  sound.keeps heeds Sound.heeds_step runs

/-! ## The evaluation of a round -/

theorem events_beginStop [Timers] (site : Site) (round : Nat) (timeout : Duration) :
    (site.beginStop round timeout).1.events = site.events := by
  obtain ⟨_, _, _, same⟩ := Site.commit_eq site round
    (StopCall.begin site.now (site.job round) timeout false)
  unfold Site.beginStop
  dsimp only
  rw [same]
  rfl

theorem events_requestStop [Timers] (site : Site) (index : Nat) :
    (site.requestStop index).1.events = site.events := by
  unfold Site.requestStop
  split
  · rfl
  · dsimp only
    split
    · rfl
    · exact events_beginStop _ _ _

theorem events_requestRestart [Timers] (site : Site) (index : Nat) :
    (site.requestRestart index).1.events = site.events := by
  unfold Site.requestRestart
  split
  · rfl
  · dsimp only
    split
    · rfl
    · exact events_beginStop _ _ _

theorem events_requestKill (site : Site) (index : Nat) :
    (site.requestKill index).events = site.events := by
  unfold Site.requestKill
  split
  · rfl
  · dsimp only
    split <;> rfl

theorem events_takeSignal (site : Site) (index : Nat) :
    (site.takeSignal index).1.events = site.events := by
  unfold Site.takeSignal
  split
  · rfl
  · dsimp only
    split
    · rfl
    · exact events_requestKill _ index

theorem Sound.returns_of_proceed {position : Nat} {stage : RunStage} {step : RunStep}
    (sound : Sound settings course)
    (taken : course.tasks[position]? = some (.run 0 stage))
    (proceeds : Site.Proceeds 0 course.site step) (returns : step.Returns 0) :
    (course.proceed position step).Returns := by
  have runs := sound.filter_proceed taken proceeds
  obtain ⟨code, ⟨gate, call, waits⟩ | ⟨ends, results⟩⟩ := returns
  · rw [waits] at runs
    exact ⟨code, .inl ⟨gate, call, runs⟩⟩
  · rw [ends] at runs
    exact ⟨code, .inr ⟨runs, results⟩⟩

theorem Sound.evaluates_turns [Timers] {position : Nat} {task : Activity}
    (sound : Sound settings course) (stopping : course.site.IsStopping 0)
    (taken : course.tasks[position]? = some task)
    (evaluates : Evaluates course (course.turn position task)) :
    (course.turn position task).Returns := by
  have serves := sound.serves task (List.mem_of_getElem? taken)
  cases task with
  | enter post | guard post _ | attend post _ =>
      refine absurd evaluates (not_evaluates ?_)
      apply (course.site.worksOn_turn rfl).tends.events.mono
      intro event started code again
      obtain ⟨child, is⟩ := started
      rw [is] at again
      cases again
  | stop post task counted =>
      refine absurd evaluates (not_evaluates (Site.tells_of_eq _ ?_))
      obtain ⟨call, waits⟩ := serves
      subst waits
      obtain ⟨⟨openStops, world⟩, _, _⟩ :=
        Site.stopTurn_cases course.site post call counted
      obtain ⟨_, _, _, same⟩ := Site.commit_eq course.site post
        (call.resume course.site.now (course.site.job post))
      show (course.site.stopTurn post (.waits call) counted).world.events = _
      rw [world, same]
      rfl
  | execute index command =>
      refine absurd evaluates (not_evaluates (Site.tells_of_eq _ ?_))
      cases command with
      | stop => exact events_requestStop course.site index
      | restart => exact events_requestRestart course.site index
  | run index stage =>
      obtain ⟨first, stands⟩ := serves
      subst first
      obtain ⟨supervisor, holds, _⟩ := sound.supervised
      obtain ⟨other, held, stopRequested⟩ := stopping
      cases held.symm.trans holds.held
      rw [turn_run held] at evaluates ⊢
      rcases Site.returns_continueRun holds stopRequested stands with returns | tells
      · exact sound.returns_of_proceed taken (Site.proceeds_continueRun holds stands)
          returns
      · exact absurd evaluates (not_evaluates tells)

/-- The run of a stopping supervisor that evaluates a round returns. -/
theorem Sound.evaluates [Timers] (sound : Sound settings course)
    (stopping : course.site.IsStopping 0)
    (steps : course.step? occurrence = some next)
    (evaluates : Evaluates course next) : next.Returns := by
  have silent (same : next.site.events = course.site.events) : next.Returns :=
    absurd evaluates (not_evaluates (Site.tells_of_eq _ same))
  cases step_of_step? steps with
  | turns taken => exact sound.evaluates_turns stopping taken evaluates
  | overtakes _ _ takes => exact absurd evaluates (not_evaluates (Site.tells_of_taken takes))
  | runs | abandons _ | acts _ | passes _ => exact silent rfl
  | stops => exact silent (events_requestStop _ 0)
  | restarts => exact silent (events_requestRestart _ 0)
  | kills => exact silent (events_requestKill _ 0)
  | signals => exact silent (events_takeSignal _ 0)

/-- From the first request to stop or to end on, which may come before any run and with
no round at all, no round is launched and no restart is scheduled, whichever restarts
were asked for; and the next time that the run evaluates an application which has ended
it returns. -/
theorem stop_wins [Timers] {host : Host} {settings : Settings}
    {inherited : List (String × List UInt8)} {before after : List Occurrence}
    (starts : (fresh host (Supervisor.fresh settings inherited)).run? before =
      some course)
    (stopped : course.WasStopped) (runs : course.run? after = some final) :
    (∀ round, final.site.HasLaunched round → course.site.HasLaunched round) ∧
      course.site.Tells (· ≠ .restartScheduled) final.site ∧
      ∀ occurrence next, final.step? occurrence = some next →
        Evaluates final next → next.Returns := by
  have begun := sound_fresh host settings inherited
  have unasked : (fresh host (Supervisor.fresh settings inherited)).Heeds := by
    intro asked
    obtain ⟨one, member, _⟩ := asked
    cases member
  have sound := begun.runs starts
  have stopping := begun.heeds_run unasked starts stopped
  have yields := sound.yields_run stopping runs
  refine ⟨yields.launched, yields.events, ?_⟩
  intro occurrence next steps evaluates
  exact (sound.runs runs).evaluates yields.stopping steps evaluates

end Course

/-- A round is restarted and stopped while it runs; its program ends by the interrupt,
and the run returns. -/
theorem Course.stop_wins_of_restarted_round :
    ∃ course final next : Course,
      (fresh (plainHost []) (Supervisor.fresh
          (plainSettings (Duration.ofSeconds 10) (Duration.ofSeconds 5)) [])).run?
        [.runs, .turns 0, .turns 2, reacts, .restarts, .stops] = some course ∧
      course.WasStopped ∧ course.run? [reacts, .turns 2] = some final ∧
      (∀ round, final.site.HasLaunched round → course.site.HasLaunched round) ∧
      final.step? (.turns 0) = some next ∧ Evaluates final next ∧ next.Returns := by
  let before : List Occurrence :=
    [.runs, .turns 0, .turns 2, reacts, .restarts, .stops]
  let after : List Occurrence := [reacts, .turns 2]
  let start := fresh (plainHost []) (Supervisor.fresh
    (plainSettings (Duration.ofSeconds 10) (Duration.ofSeconds 5)) [])
  have asked : (start.run? before).map (·.asked) =
      some [⟨0, .restart, some 1⟩, ⟨0, .stop, some 1⟩] := by
    decide +kernel
  obtain ⟨course, starts, demands⟩ := Option.map_eq_some_iff.mp asked
  have stopped : course.WasStopped := by
    refine ⟨⟨0, .stop, some 1⟩, ?_, .inl rfl⟩
    rw [demands]
    exact List.mem_cons_of_mem _ (List.mem_singleton.mpr rfl)
  have ran : ((start.run? before).bind (·.run? after)).map (·.site.events) =
      some [(0, .applicationStarted (Host.numberOf 0))] := by
    decide +kernel
  rw [starts, Option.bind_some] at ran
  obtain ⟨final, runs, earlier⟩ := Option.map_eq_some_iff.mp ran
  have stepped : ((start.run? before).bind fun course =>
      (course.run? after).bind (·.step? (.turns 0))).map (·.site.events) =
        some [(0, .applicationExited (some 130)),
          (0, .applicationStarted (Host.numberOf 0))] := by
    decide +kernel
  rw [starts, Option.bind_some, runs, Option.bind_some] at stepped
  obtain ⟨next, steps, later⟩ := Option.map_eq_some_iff.mp stepped
  have evaluates : Evaluates final next := by
    refine ⟨[(0, .applicationExited (some 130))], some 130, 0, ?_, by simp⟩
    rw [later, earlier]
    rfl
  obtain ⟨launched, _, returns⟩ := stop_wins starts stopped runs
  exact ⟨course, final, next, starts, stopped, runs, launched, steps, evaluates,
    returns (.turns 0) next steps evaluates⟩

end Overseer
