import Overseer.Proofs.Supervision.Patience

/-!
# How long a child is left in peace

A child that was asked to stop is left to itself until the shorter of the two waits
is over, whichever task escalates its stop.  Once it has gone and the jobs of all
rounds have exited, nobody terminates or kills anything any more.
-/

namespace Overseer

namespace Site

variable {index : Nat} {site before after : Site} {supervisor : Supervisor}

/-- The jobs of all rounds have exited. -/
def IsDeserted (site : Site) : Prop :=
  ∀ round graces, site.charter? round = some (some graces) →
    (site.job round).exitFlag = true

/-- It is enough to look at every post. -/
theorem isDeserted_of_all (exited : site.posts.all
    fun post => post.duty.graces?.isNone || post.job.exitFlag) : site.IsDeserted := by
  intro round graces held
  obtain ⟨post, there, same⟩ := Option.map_eq_some_iff.mp held
  obtain ⟨known, is⟩ := Array.getElem?_eq_some_iff.mp there
  have checked := Array.all_eq_true.mp exited round known
  rw [is, same] at checked
  simpa [Site.job, there] using checked

/-- Nobody is sent anything but an interrupt. -/
abbrev Spares (before after : Site) : Prop :=
  Sends (fun _ signal => signal = .interrupt) before after

theorem Tends.spares {post : Nat} (tends : Tends post (· = .interrupt) before after) :
    Spares before after :=
  tends.signals.mono fun _ _ sends => sends.2

theorem Deed.spares (deed : Deed index before after) :
    after.now = before.now ∧ Spares before after := by
  cases deed with
  | beside now posts supervisors events signals => exact ⟨now, sends_of_eq _ signals⟩
  | serves guarded tends endures =>
      exact ⟨tends.now, tends.signals.mono fun _ _ sends => sends.2.elim⟩
  | @withdraws supervisor round held fresh =>
      have tends : Tends round (· = .interrupt) before
          (before.commit round (withdrawal supervisor)) := by
        apply tends_commit
        intro hook member _ _
        have stop : hook = .stop := by simpa [withdrawal] using member
        rw [stop]
        rfl
      exact ⟨tends.now, tends.spares⟩
  | posts | schedules | updates | opensGate | opensRound | launches | claims =>
      exact ⟨rfl, sends_of_eq _ rfl⟩

/-- A run terminates and kills no child. -/
theorem spares_of_deeds (deeds : Deeds index before after) :
    after.now = before.now ∧ Spares before after := by
  induction deeds with
  | refl => exact ⟨rfl, sends_of_eq _ rfl⟩
  | tail _ deed induction =>
      obtain ⟨now, spares⟩ := induction
      obtain ⟨same, last⟩ := deed.spares
      exact ⟨same.trans now, spares.trans now last⟩

theorem spares_commit {post : Nat} {step : StopCall.Step}
    (silent : ∀ graces, site.charter? post = some (some graces) → step.effects = []) :
    Spares site (site.commit post step) := by
  have tends : Tends post (· = .interrupt) site (site.commit post step) := by
    apply tends_commit
    intro hook member graces held
    rw [silent graces held] at member
    cases member
  exact tends.spares

theorem spares_beginStop [Timers] {round : Nat} (exited : (site.job round).exitFlag = true)
    (timeout : Duration) : Spares site (site.beginStop round timeout).1 := by
  apply spares_commit
  intro _ _
  exact StopCall.effects_begin_of_exited exited site.now timeout false

theorem spares_requestStop [Timers] (deserted : site.IsDeserted)
    (holds : site.Holds index supervisor) :
    Spares site (site.requestStop index).1 := by
  unfold requestStop
  rw [holds.held]
  dsimp only
  split
  · exact sends_of_eq _ rfl
  · rename_i round current
    obtain ⟨graces, held⟩ := holds.owns.rounds round current
    have exited := deserted round graces held
    have requested : Spares site
        (site.setSupervisor index { supervisor with stopRequested := true }) :=
      sends_of_eq _ rfl
    apply requested.trans rfl
    apply spares_beginStop
    exact exited

theorem spares_requestRestart [Timers] (deserted : site.IsDeserted)
    (holds : site.Holds index supervisor) :
    Spares site (site.requestRestart index).1 := by
  unfold requestRestart
  rw [holds.held]
  dsimp only
  split
  · exact sends_of_eq _ rfl
  · rename_i round current
    obtain ⟨graces, held⟩ := holds.owns.rounds round current
    have exited := deserted round graces held
    have marked : Spares site
        (site.setJob round (site.job round).markForRestart) :=
      sends_of_eq _ rfl
    apply marked.trans rfl
    apply spares_beginStop
    rcases job_setJob_or site round (site.job round).markForRestart with set | same
    · rw [set]
      exact exited
    · rw [same]
      exact exited

theorem spares_requestKill (site : Site) (index : Nat) :
    Spares site (site.requestKill index) := by
  unfold requestKill
  split
  · exact sends_of_eq _ rfl
  · dsimp only
    split
    · exact sends_of_eq _ rfl
    · exact sends_of_eq _ rfl

theorem spares_takeSignal (site : Site) (index : Nat) :
    Spares site (site.takeSignal index).1 := by
  unfold takeSignal
  split
  · exact sends_of_eq _ rfl
  · dsimp only
    split
    · exact sends_of_eq _ rfl
    · exact spares_requestKill _ index

end Site

/-! ## Courses -/

namespace Course

variable {settings : Settings}
variable {course next final : Course} {occurrence : Occurrence}

/-- The demands stand in the order in which they were made. -/
structure IsOrdered (course : Course) : Prop where
  ordered : course.asked.Pairwise (·.time ≤ ·.time)
  past : ∀ one ∈ course.asked, one.time ≤ course.site.now

theorem Sound.ordered_step [Timers] (sound : Sound settings course)
    (ordered : course.IsOrdered)
    (steps : course.step? occurrence = some next) : next.IsOrdered := by
  obtain ⟨more, asked, now⟩ := asked_of_step steps
  have remains := sound.remains steps
  have asks : ∀ one ∈ more, one.time = course.site.now := by
    intro one member
    obtain ⟨demand, is⟩ := now one member
    rw [is]
    rfl
  constructor
  · rw [asked]
    apply List.pairwise_append.mpr
    refine ⟨ordered.ordered, ?_, ?_⟩
    · apply List.pairwise_of_forall_mem_list
      intro one member other also
      exact Nat.le_of_eq ((asks one member).trans (asks other also).symm)
    · intro one member other also
      rw [asks other also]
      exact ordered.past one member
  · intro one member
    rw [asked] at member
    rcases List.mem_append.mp member with old | new
    · exact Nat.le_trans (ordered.past one old) remains.now
    · rw [asks one new]
      exact remains.now

/-- The site and the tasks of a course escalate no stop before its time. -/
structure IsPatient (settings : Settings) (course : Course) : Prop where
  site : course.site.IsPatient course.asked settings
  tasks : ∀ task ∈ course.tasks, task.IsPatient course.asked settings course.site

theorem since_ask {supervisor : Supervisor} (holds : course.site.Holds 0 supervisor)
    (demand : Demand) (round : Nat) (current : supervisor.current = some round) :
    Since (demandsOn (course.asked ++ [course.ask demand]) round) 0
      course.site.now := by
  refine ⟨course.ask demand, ?_, Nat.le_refl _⟩
  apply List.mem_filter.mpr
  refine ⟨by simp, ?_⟩
  unfold ask
  rw [holds.held]
  simpa using current

/-- Tasks that go on and tasks that begin, when a demand was made or none. -/
theorem IsPatient.continues {after : Site} {kept added : List Activity}
    {more : List Asked} (patient : course.IsPatient settings)
    (remains : course.site.Remains after) (remain : kept ⊆ course.tasks)
    (site : after.IsPatient (course.asked ++ more) settings)
    (begun : ∀ task ∈ added, task.IsPatient (course.asked ++ more) settings after) :
    IsPatient settings ⟨after, kept ++ added, course.asked ++ more⟩ := by
  refine ⟨site, ?_⟩
  intro task member
  rcases List.mem_append.mp member with old | new
  · exact ((patient.tasks task (remain old)).remains remains).asks more
  · exact begun task new

theorem Sound.worksOn_patiently [Timers] (neverEarly : Timers.NeverEarly)
    {task : Activity} {post : Nat} (sound : Sound settings course)
    (patient : course.IsPatient settings)
    (member : task ∈ course.tasks) (own : task.body? = some post) :
    Site.WorksOn post (·.IsDue (demandsOn course.asked post) settings course.site.now)
      (·.IsPatient (demandsOn course.asked post) settings) course.site
        (course.site.turn task) := by
  have serves := sound.serves task member
  have waiting := patient.tasks task member
  have round : ∀ application, course.site.application? post = some application →
      (application.exitGrace = Application.defaultExitGrace ∧
        application.killGrace = settings.killGrace) ∧
      (course.site.job post).IsPatient (demandsOn course.asked post) settings
        course.site.now := by
    intro application attended
    obtain ⟨graces, job⟩ :=
      patient.site.rounds (Site.charter?_of_application attended)
    exact ⟨Prod.mk.inj graces, job⟩
  have raised : (course.site.job post).IsTended →
      (course.site.job post).IsPatient (demandsOn course.asked post) settings
        course.site.now → (course.site.job post).stopFlag = true →
          Since (demandsOn course.asked post) 0 course.site.now := by
    intro tended job flag
    rcases job.stopFlag flag with exited | since
    · rw [tended.2] at exited
      cases exited
    · exact since
  cases task with
  | enter post =>
      cases own
      apply Site.worksOn_enterTurn
      intro application attended child status
      obtain ⟨⟨exitGrace, killGrace⟩, job⟩ := round application attended
      apply Application.permits_attend neverEarly _ _ (raised serves job) status
      · trivial
      · exact exitGrace
      · exact killGrace
  | guard post watch =>
      cases own
      exact Site.worksOn_guardTurn _ post _ _ watch
  | attend post attendance =>
      cases own
      apply Site.worksOn_attendTurn
      · intro application attended told
        exact ((round application attended).2.aborted told).later
          (Nat.add_le_add_right (Nat.min_le_left _ _) _) (Nat.le_refl _)
      · intro application attended
        obtain ⟨⟨exitGrace, killGrace⟩, job⟩ := round application attended
        exact Application.permits_attend neverEarly exitGrace killGrace
          (raised serves job) _ waiting
  | stop _ _ _ | execute _ _ | run _ _ => cases own

theorem Sound.patient_body [Timers] (neverEarly : Timers.NeverEarly)
    {position post : Nat} {task : Activity} (sound : Sound settings course)
    (patient : course.IsPatient settings)
    (taken : course.tasks[position]? = some task) (own : task.body? = some post) :
    (course.turn position task).IsPatient settings := by
  have member := List.mem_of_getElem? taken
  have works := sound.worksOn_patiently neverEarly patient member own
  apply patient.continues works.tends.remains
    (List.eraseIdx_sublist course.tasks position).subset
  · exact (works.patient patient.site).asks _
  · intro next begun
    rw [works.begun, List.append_nil, Option.mem_toList] at begun
    rcases works.rest next begun with ⟨watch, is⟩ | ⟨attendance, is, waits⟩
    · rw [is]
      trivial
    · rw [is]
      exact Attendance.IsPatient.mono waits (demandsOn_subset _ _ post)

theorem Sound.patient_stop [Timers] (neverEarly : Timers.NeverEarly)
    {position post : Nat} {task : StopTask} {counted : Bool} (sound : Sound settings course)
    (patient : course.IsPatient settings)
    (taken : course.tasks[position]? = some (.stop post task counted)) :
    (course.turn position (.stop post task counted)).IsPatient settings := by
  have member := List.mem_of_getElem? taken
  have remains := sound.remains_turn member
  obtain ⟨call, waits⟩ := sound.serves _ member
  subst waits
  obtain ⟨⟨graces, held⟩, waiting⟩ := patient.tasks _ member
  have stops : (call.resume course.site.now (course.site.job post)).IsPatient
      (demandsOn course.asked post) settings course.site.now (course.site.job post) :=
    StopCall.isPatient_resume neverEarly waiting (patient.site.rounds held).2.killGrace
  obtain ⟨⟨openStops, world⟩, begun, rest⟩ :=
    Site.stopTurn_cases course.site post call counted
  apply patient.continues remains
    (List.eraseIdx_sublist course.tasks position).subset
  · have commits := Site.patient_commit patient.site
      (StopCall.endures_resume course.site.now (course.site.job post) call)
      fun _ _ => stops
    show (course.site.stopTurn post (.waits call) counted).world.IsPatient _ settings
    rw [world]
    apply Site.IsPatient.asks
    exact commits.of_posts (Nat.le_refl _) rfl rfl
  · intro next member
    change next ∈ (course.site.stopTurn post (.waits call) counted).rest.toList ++
      (course.site.stopTurn post (.waits call) counted).begun at member
    rw [begun, List.append_nil, Option.mem_toList] at member
    obtain ⟨later, standing, is⟩ := (rest next).mp member
    rw [is]
    exact ⟨⟨graces, remains.charter held⟩,
      (stops.waits later standing).mono (demandsOn_subset _ _ post)⟩

/-- A run that goes on leaves the children alone. -/
theorem Sound.patient_proceed {step : RunStep} (sound : Sound settings course)
    (patient : course.IsPatient settings) (position : Nat)
    (proceeds : Site.Proceeds 0 course.site step) :
    (course.proceed position step).IsPatient settings := by
  obtain ⟨supervisor, holds, same⟩ := sound.supervised
  have remains := (Site.carries_of_deeds proceeds.deeds).remains
  refine ⟨Site.patient_of_deeds proceeds.deeds patient.site holds same, ?_⟩
  intro task member
  rcases List.mem_append.mp member with old | new
  · exact (patient.tasks task (List.mem_of_mem_eraseIdx old)).remains remains
  rcases List.mem_append.mp new with waits | begun
  · obtain ⟨stage, _, is⟩ := Option.map_eq_some_iff.mp (Option.mem_toList.mp waits)
    rw [← is]
    trivial
  · cases proceeds.begun task begun with
    | enter _ _ _ | execute _ => trivial

theorem Sound.patient_run [Timers] {position index : Nat} {stage : RunStage}
    (sound : Sound settings course) (patient : course.IsPatient settings)
    (taken : course.tasks[position]? = some (.run index stage)) :
    (course.turn position (.run index stage)).IsPatient settings := by
  obtain ⟨supervisor, holds, _⟩ := sound.supervised
  obtain ⟨first, stands⟩ := sound.serves _ (List.mem_of_getElem? taken)
  subst first
  rw [turn_run holds.held]
  exact sound.patient_proceed patient position (Site.proceeds_continueRun holds stands)

/-- A demand that is made now and meets a round begins a stop that waits from now. -/
theorem IsPatient.answers {after : Site × Option (Nat × StopCall.Standing)}
    {kept : List Activity} {more : List Asked} (patient : course.IsPatient settings)
    (remains : course.site.Remains after.1) (remain : kept ⊆ course.tasks)
    (answers : Site.AnswersPatiently (course.asked ++ more) settings after) :
    IsPatient settings
      ⟨after.1, kept ++ (Site.stopActivity after.2).toList, course.asked ++ more⟩ := by
  apply patient.continues remains remain answers.1
  intro task begun
  exact answers.2 task (Option.mem_toList.mp begun)

theorem Sound.patient_execute [Timers] (neverEarly : Timers.NeverEarly)
    {position index : Nat} {command : Command} (sound : Sound settings course)
    (patient : course.IsPatient settings)
    (taken : course.tasks[position]? = some (.execute index command)) :
    (course.turn position (.execute index command)).IsPatient settings := by
  have member := List.mem_of_getElem? taken
  obtain ⟨supervisor, holds, same⟩ := sound.supervised
  have first : index = 0 := sound.serves _ member
  subst first
  have site (demand : Demand) := patient.site.asks [course.ask demand]
  have answers : Site.AnswersPatiently
      (course.turn position (.execute 0 command)).asked settings
        (command.execute (Site.commandTarget 0) course.site) := by
    cases command with
    | stop =>
        exact Site.answersPatiently_requestStop neverEarly (site .stop) holds same
          (since_ask holds .stop)
    | restart =>
        exact Site.answersPatiently_requestRestart neverEarly (site .restart) holds same
          (since_ask holds .restart)
  have goes := patient.answers (sound.remains_turn member)
    (List.eraseIdx_sublist course.tasks position).subset answers
  rw [← List.append_nil (Site.stopActivity _).toList] at goes
  exact goes

theorem Sound.patient_turn [Timers] (neverEarly : Timers.NeverEarly)
    {position : Nat} {task : Activity} (sound : Sound settings course)
    (patient : course.IsPatient settings)
    (taken : course.tasks[position]? = some task) :
    (course.turn position task).IsPatient settings := by
  cases task with
  | enter _ | guard _ _ | attend _ _ =>
      exact sound.patient_body neverEarly patient taken rfl
  | stop _ _ _ => exact sound.patient_stop neverEarly patient taken
  | execute _ _ => exact sound.patient_execute neverEarly patient taken
  | run _ _ => exact sound.patient_run patient taken

/-- Nobody has asked for a kill so far. -/
def IsSpared (course : Course) : Prop :=
  ∀ one ∈ course.asked, one.demand ≠ .kill

/-- The first signal asks for nothing yet; a later one asks for a kill. -/
theorem Sound.patient_signal (sound : Sound settings course)
    (patient : course.IsPatient settings) (remains : course.site.Remains course.signal.site)
    (spared : course.signal.IsSpared) : course.signal.IsPatient settings := by
  obtain ⟨supervisor, holds, _⟩ := sound.supervised
  unfold Course.signal at spared remains ⊢
  by_cases early : supervisor.signals = 0
  · have first : course.site.takeSignal 0 =
        (course.site.setSupervisor 0
          { supervisor with signals := supervisor.signals + 1 },
          [.execute 0 .stop]) := by
      unfold Site.takeSignal
      rw [holds.held]
      exact if_pos early
    rw [first] at remains ⊢
    apply patient.continues remains (List.Subset.refl _)
    · apply Site.IsPatient.asks
      exact patient.site.of_posts (Nat.le_refl _) rfl rfl
    · intro task begun
      rw [List.mem_singleton.mp begun]
      trivial
  · have later : (course.site.takeSignal 0).2 = [] := by
      unfold Site.takeSignal
      rw [holds.held]
      exact congrArg Prod.snd (if_neg early)
    apply absurd rfl (spared (course.ask .kill) _)
    simp [later]

/-- As long as nobody asks for a kill, whatever happens keeps a course patient. -/
theorem Sound.patient_step [Timers] (neverEarly : Timers.NeverEarly)
    (sound : Sound settings course) (patient : course.IsPatient settings)
    (steps : course.step? occurrence = some next)
    (spared : next.IsSpared) : next.IsPatient settings := by
  have remains := sound.remains steps
  obtain ⟨supervisor, holds, same⟩ := sound.supervised
  have whole : course.tasks ⊆ course.tasks := List.Subset.refl _
  cases step_of_step? steps with
  | runs idle =>
      refine ⟨patient.site, ?_⟩
      intro task member
      rcases List.mem_append.mp member with old | new
      · exact patient.tasks task old
      · rw [List.mem_singleton.mp new]
        trivial
  | turns taken => exact sound.patient_turn neverEarly patient taken
  | overtakes listens _ takes =>
      exact sound.patient_proceed patient _
        (Site.proceeds_dispatch (sound.started_of_listens listens) takes)
  | stops =>
      apply patient.answers remains whole
      exact Site.answersPatiently_requestStop neverEarly (patient.site.asks _) holds
        same (since_ask holds .stop)
  | restarts =>
      apply patient.answers remains whole
      exact Site.answersPatiently_requestRestart neverEarly (patient.site.asks _) holds
        same (since_ask holds .restart)
  | kills => exact absurd rfl (spared (course.ask .kill) (by simp [answer]))
  | signals => exact sound.patient_signal patient remains spared
  | abandons position =>
      refine ⟨patient.site, ?_⟩
      intro task member
      exact patient.tasks task (List.mem_of_mem_eraseIdx member)
  | acts change =>
      refine ⟨patient.site.of_posts remains.now rfl rfl, ?_⟩
      exact fun task member => (patient.tasks task member).remains remains
  | passes time =>
      refine ⟨patient.site.of_posts remains.now rfl rfl, ?_⟩
      exact fun task member => (patient.tasks task member).remains remains

theorem isSpared_of_step [Timers] (steps : course.step? occurrence = some next)
    (spared : next.IsSpared) : course.IsSpared := by
  obtain ⟨more, asked, _⟩ := asked_of_step steps
  intro one member
  apply spared one
  rw [asked]
  exact List.mem_append_left more member

theorem Sound.patient_runs [Timers] (neverEarly : Timers.NeverEarly)
    {occurrences : List Occurrence} (sound : Sound settings course)
    (patient : course.IsPatient settings)
    (ordered : course.IsOrdered) (runs : course.run? occurrences = some final)
    (spared : final.IsSpared) : final.IsPatient settings ∧ final.IsOrdered := by
  have keeps : final.IsSpared → final.IsPatient settings := by
    have start : course.IsSpared → course.IsPatient settings := fun _ => patient
    apply sound.keeps start _ runs
    intro course next occurrence sound patient steps spared
    exact sound.patient_step neverEarly (patient (isSpared_of_step steps spared)) steps
      spared
  exact ⟨keeps spared, sound.keeps ordered Sound.ordered_step runs⟩

theorem isPatient_fresh (host : Host) (settings : Settings)
    (inherited : List (String × List UInt8)) :
    (fresh host (Supervisor.fresh settings inherited)).IsPatient settings := by
  refine ⟨⟨?_, ?_⟩, ?_⟩
  · intro round graces held
    cases held
  · intro entry member
    cases member
  · intro task member
    cases member

theorem isOrdered_fresh (host : Host) (supervisor : Supervisor) :
    (fresh host supervisor).IsOrdered := by
  refine ⟨List.Pairwise.nil, ?_⟩
  intro one member
  cases member

/-! ## Deserted rounds -/

theorem Sound.spares_body [Timers] {task : Activity} {post : Nat}
    (sound : Sound settings course) (deserted : course.site.IsDeserted)
    (member : task ∈ course.tasks) (own : task.body? = some post) :
    course.site.Spares (course.site.turn task).world := by
  have serves := sound.serves task member
  -- A body that takes a turn has not exited, so it can only be that of a gate.
  have absent : (course.site.job post).IsTended → ∀ application,
      course.site.application? post ≠ some application := by
    intro tended application attended
    have exited := deserted post _ (Site.charter?_of_application attended)
    rw [tended.2] at exited
    cases exited
  have works : Site.WorksOn post (· = .interrupt) (fun _ => True) course.site
      (course.site.turn task) := by
    cases task with
    | enter post =>
        cases own
        apply Site.worksOn_enterTurn
        exact fun application attended => absurd attended (absent serves application)
    | guard post watch =>
        cases own
        exact Site.worksOn_guardTurn _ post _ _ watch
    | attend post attendance =>
        cases own
        apply Site.worksOn_attendTurn
        · exact fun application attended => absurd attended (absent serves application)
        · exact fun application attended => absurd attended (absent serves application)
    | stop _ _ _ | execute _ _ | run _ _ => cases own
  exact works.tends.spares

theorem Sound.spares_turn [Timers] {task : Activity} (sound : Sound settings course)
    (patient : course.IsPatient settings) (deserted : course.site.IsDeserted)
    (member : task ∈ course.tasks) :
    course.site.Spares (course.site.turn task).world := by
  obtain ⟨supervisor, holds, _⟩ := sound.supervised
  cases own : task.body? with
  | some post => exact sound.spares_body deserted member own
  | none =>
      have turned := Site.turned_of_turn holds (sound.serves task member) own
      generalize (course.site.turn task).world = after at turned ⊢
      cases turned with
      | stop post call counted openStops =>
          have spares : course.site.Spares (course.site.commit post
              (call.resume course.site.now (course.site.job post))) := by
            apply Site.spares_commit
            intro graces held
            have exited := deserted post graces held
            exact StopCall.effects_resume_of_exited exited
              ((patient.site.rounds held).2.told exited) course.site.now call
          exact spares
      | stops => exact Site.spares_requestStop deserted holds
      | restarts => exact Site.spares_requestRestart deserted holds
      | run stage proceeds => exact (Site.spares_of_deeds proceeds.deeds).2

/-- Whatever happens once the jobs of all rounds have exited, nobody is terminated or
killed by it. -/
theorem Sound.spares_step [Timers] (sound : Sound settings course)
    (patient : course.IsPatient settings) (deserted : course.site.IsDeserted)
    (steps : course.step? occurrence = some next) :
    course.site.Spares next.site := by
  obtain ⟨supervisor, holds, _⟩ := sound.supervised
  cases step_of_step? steps with
  | turns taken =>
      exact sound.spares_turn patient deserted (List.mem_of_getElem? taken)
  | overtakes listens _ takes =>
      exact (Site.spares_of_deeds
        (Site.proceeds_dispatch (sound.started_of_listens listens) takes).deeds).2
  | stops => exact Site.spares_requestStop deserted holds
  | restarts => exact Site.spares_requestRestart deserted holds
  | kills => exact Site.spares_requestKill course.site 0
  | signals => exact Site.spares_takeSignal course.site 0
  | runs | abandons _ | acts _ | passes _ => exact Site.sends_of_eq _ rfl

/-- As long as nobody asks for a kill and no timer fires early, no child is terminated
before the shorter one of the stop timeout and the exit grace has passed since the first
demand that met its round, and none is killed before the kill grace has passed as well;
and once the jobs of all rounds have exited, nothing is terminated or killed any more. -/
theorem spares_until_due [Timers] (neverEarly : Timers.NeverEarly) {host : Host}
    {settings : Settings} {inherited : List (String × List UInt8)}
    {occurrences : List Occurrence}
    (runs : (fresh host (Supervisor.fresh settings inherited)).run? occurrences =
      some final)
    (spared : ∀ one ∈ final.asked, one.demand ≠ .kill) :
    (∀ sent ∈ final.site.signals,
      (sent.call.signal = some .terminate →
        ∃ first, final.asked.find? (·.round = some sent.post) = some first ∧
          first.time + settings.patience ≤ sent.time) ∧
      (sent.call.signal = some .kill →
        ∃ first, final.asked.find? (·.round = some sent.post) = some first ∧
          first.time + (settings.patience + settings.killGrace.nanos) ≤ sent.time)) ∧
      (final.site.IsDeserted → ∀ occurrence next,
        final.step? occurrence = some next → final.site.Spares next.site) := by
  have begun := sound_fresh host settings inherited
  obtain ⟨patient, ordered⟩ := begun.patient_runs neverEarly
    (isPatient_fresh host settings inherited) (isOrdered_fresh host _) runs spared
  constructor
  · intro sent member
    constructor
    · intro terminated
      exact (patient.site.signals sent member .terminate terminated).first
        ordered.ordered
    · intro killed
      exact (patient.site.signals sent member .kill killed).first ordered.ordered
  · intro deserted occurrence next steps
    exact (begun.runs runs).spares_step patient deserted steps

/-- A child that takes no notice is terminated after two seconds and killed after one
more; then its round is deserted. -/
theorem spares_until_due_of_deaf_child :
    ∃ final : Course,
      (fresh (plainHost [⟨.ignores, .ignores, .ownNumber, .runsOn⟩]) (Supervisor.fresh
          (plainSettings (Duration.ofSeconds 2) (Duration.ofSeconds 1)) [])).run?
        [.runs, .turns 0, .turns 2, reacts, .stops, .passes (Duration.ofSeconds 2),
          .turns 3, .passes (Duration.ofSeconds 1), .turns 3, reacts, .turns 2] =
        some final ∧
      final.site.signals =
        [⟨3000000000, 1, ⟨1900000001, some .kill⟩⟩,
          ⟨2000000000, 1, ⟨1900000001, some .terminate⟩⟩,
          ⟨0, 1, ⟨1900000001, some .interrupt⟩⟩] ∧
      (∀ one ∈ final.asked, one.demand ≠ .kill) ∧
      (∃ first, final.asked.find? (·.round = some 1) = some first ∧
        first.time + 3000000000 ≤ 3000000000) ∧
      ∀ occurrence next, final.step? occurrence = some next →
        final.site.Spares next.site := by
  let start := fresh (plainHost [⟨.ignores, .ignores, .ownNumber, .runsOn⟩])
    (Supervisor.fresh (plainSettings (Duration.ofSeconds 2) (Duration.ofSeconds 1)) [])
  let occurrences : List Occurrence :=
    [.runs, .turns 0, .turns 2, reacts, .stops, .passes (Duration.ofSeconds 2),
      .turns 3, .passes (Duration.ofSeconds 1), .turns 3, reacts, .turns 2]
  have ran : (start.run? occurrences).map (fun course =>
      (course.asked, course.site.signals, course.site.posts.all
        fun post => post.duty.graces?.isNone || post.job.exitFlag)) =
      some ([⟨0, .stop, some 1⟩],
        [⟨3000000000, 1, ⟨1900000001, some .kill⟩⟩,
          ⟨2000000000, 1, ⟨1900000001, some .terminate⟩⟩,
          ⟨0, 1, ⟨1900000001, some .interrupt⟩⟩], true) := by
    decide +kernel
  obtain ⟨final, runs, came⟩ := Option.map_eq_some_iff.mp ran
  simp only [Prod.mk.injEq] at came
  obtain ⟨asked, signals, exited⟩ := came
  have spared : ∀ one ∈ final.asked, one.demand ≠ .kill := by
    rw [asked]
    decide
  obtain ⟨due, quiet⟩ := spares_until_due Timers.onTime_exact.neverEarly runs spared
  have killed : ⟨3000000000, 1, ⟨1900000001, some .kill⟩⟩ ∈ final.site.signals := by
    rw [signals]
    exact List.mem_cons_self
  obtain ⟨first, found, early⟩ := (due _ killed).2 rfl
  exact ⟨final, runs, signals, spared, ⟨first, found, early⟩,
    quiet (Site.isDeserted_of_all exited)⟩

/-- With a stop timeout of a minute a child is terminated five seconds after the first
demand: the body of its job waits for the exit grace only. -/
theorem terminates_before_stop_timeout :
    ∃ final : Course,
      (fresh (plainHost [⟨.ignores, .dies, .ownNumber, .runsOn⟩]) (Supervisor.fresh
          (plainSettings (Duration.ofSeconds 60) (Duration.ofSeconds 5)) [])).run?
        [.runs, .turns 0, .turns 2, reacts, .stops, .turns 2,
          .passes (Duration.ofSeconds 5), .turns 3] = some final ∧
      final.asked = [⟨0, .stop, some 1⟩] ∧
      ∃ sent ∈ final.site.signals, sent.post = 1 ∧
        sent.call.signal = some .terminate ∧
          sent.time < 0 + (Duration.ofSeconds 60).nanos := by
  have ran : ((fresh (plainHost [⟨.ignores, .dies, .ownNumber, .runsOn⟩])
      (Supervisor.fresh (plainSettings (Duration.ofSeconds 60) (Duration.ofSeconds 5))
        [])).run? [.runs, .turns 0, .turns 2, reacts, .stops, .turns 2,
          .passes (Duration.ofSeconds 5), .turns 3]).map (fun course =>
      (course.asked, course.site.signals)) =
      some ([⟨0, .stop, some 1⟩],
        [⟨5000000000, 1, ⟨1900000001, some .terminate⟩⟩,
          ⟨0, 1, ⟨1900000001, some .interrupt⟩⟩]) := by
    decide +kernel
  obtain ⟨final, runs, came⟩ := Option.map_eq_some_iff.mp ran
  obtain ⟨asked, signals⟩ := Prod.mk.inj came
  refine ⟨final, runs, asked, ⟨5000000000, 1, ⟨1900000001, some .terminate⟩⟩, ?_, rfl,
    rfl, ?_⟩
  · rw [signals]
    exact List.mem_cons_self
  · decide

end Course

end Overseer
