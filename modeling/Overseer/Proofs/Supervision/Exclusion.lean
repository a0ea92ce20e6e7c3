import Overseer.Proofs.Supervision.Chronicle

/-!
# Never two applications at once

The body of a round attends to the child that it spawned until that child is reaped or
killed, and the run listens to the round for as long.  So when another child is spawned,
or no run is under way, every earlier child is done with.
-/

namespace Overseer

namespace Application

/-- A body whose child has not ended goes on to attend to it. -/
theorem waits_attend [Timers] (application : Application) (now : Instant) (stopFlag : Bool)
    (attendance : Attendance) :
    ∃ next, (application.attend now stopFlag none attendance).waits = some next ∧
      next.child = attendance.child := by
  cases attendance with
  | running child =>
      unfold attend
      dsimp only
      split
      · unfold awaitExit
        split
        · unfold awaitTermination killChild
          split <;> exact ⟨_, rfl, rfl⟩
        · exact ⟨_, rfl, rfl⟩
      · exact ⟨_, rfl, rfl⟩
  | exiting child deadline =>
      unfold attend awaitExit
      dsimp only
      split
      · unfold awaitTermination killChild
        split <;> exact ⟨_, rfl, rfl⟩
      · exact ⟨_, rfl, rfl⟩
  | terminating child deadline =>
      unfold attend awaitTermination killChild
      dsimp only
      split <;> exact ⟨_, rfl, rfl⟩
  | killing child => exact ⟨_, rfl, rfl⟩

end Application

/-- A child with a number that the system gives to processes. -/
def Offspring.IsProcess (offspring : Offspring) : Prop :=
  0 < offspring.child.toNat ∧ offspring.child.toNat < UInt32.size / 2

namespace Site

variable {site : Site} {post : Nat} {application : Application}
  {attendance : Attendance}

/-- The child was sent SIGKILL on behalf of its round. -/
def HasKilled (site : Site) (offspring : Offspring) : Prop :=
  ∃ dispatch ∈ site.signals, dispatch.post = offspring.round ∧
    dispatch.call = { target := offspring.child.toNat, signal := some .kill }

theorem application?_of_charter {graces : Duration × Duration}
    (held : site.charter? post = some (some graces)) :
    ∃ application, site.application? post = some application := by
  unfold charter? at held
  unfold application?
  cases known : site.posts[post]? with
  | none => simp [known] at held
  | some post =>
      cases duty : post.duty with
      | gate gate => simp [known, duty, Duty.graces?] at held
      | application application sink => exact ⟨application, by simp [duty]⟩

/-! ## What becomes of a child -/

theorem attend_waits [Timers] (attendance : Attendance)
    (running : site.childStatus attendance = none) (post : Nat)
    (application : Application) :
    ∃ next, (site.attend post application attendance).2 = some next ∧
      next.child = attendance.child := by
  obtain ⟨next, waits, child⟩ := application.waits_attend site.now
    (site.job post).stopFlag attendance
  unfold attend
  dsimp only
  rw [running, waits]
  exact ⟨next, rfl, child⟩

theorem hasKilled_letGo (running : site.childStatus attendance = none)
    (isProcess : (Offspring.mk post attendance.child).IsProcess) :
    (site.letGo post attendance).HasKilled ⟨post, attendance.child⟩ := by
  have called : SignalCall.toProcess? attendance.child (some .kill) =
      some { target := attendance.child.toNat, signal := some .kill } :=
    if_pos isProcess
  unfold letGo
  rw [running]
  unfold Site.signal
  rw [called]
  exact ⟨_, List.mem_cons_self, rfl, rfl⟩

theorem HasKilled.grows {before after : Site} {offspring : Offspring}
    (killed : before.HasKilled offspring) (signals : before.signals ⊆ after.signals) :
    after.HasKilled offspring := by
  obtain ⟨dispatch, member, sent⟩ := killed
  exact ⟨dispatch, signals member, sent⟩

theorem signals_closeListener (site : Site) (post : Nat) :
    (site.closeListener post).signals = site.signals := by
  unfold closeListener
  split <;> rfl

theorem signals_dropBody (site : Site) (post : Nat) :
    (site.dropBody post).signals = site.signals :=
  site.signals_closeListener post

theorem signals_failBody (site : Site) (post : Nat) (fault : Fault) :
    (site.failBody post fault).signals = site.signals :=
  (site.report (.bodyFailed fault)).signals_closeListener post

theorem reapedOf?_of_ended (attended : site.application? post = some application)
    {status : ExitStatus} (ended : site.childStatus attendance = some status) :
    site.reapedOf? post attendance = some ⟨post, attendance.child⟩ := by
  unfold reapedOf?
  rw [attended, ended]
  rfl

/-- What becomes of the child of a body in a turn: it is reaped, killed, or attended to
from now on. -/
inductive Follows (site : Site) (task : Activity) (offspring : Offspring)
    (turn : Turn Site Activity) : Prop where
  | reaped (ends : site.reaped? task = some offspring)
  | killed (kills : offspring.IsProcess → turn.world.HasKilled offspring)
  | attended {next : Attendance}
      (goesOn : turn.rest = some (.attend offspring.round next))
      (same : next.child = offspring.child)

theorem follows_attendTurn [Timers] (attended : site.application? post = some application)
    (attendance : Attendance) :
    site.Follows (.attend post attendance) ⟨post, attendance.child⟩
      (site.attendTurn post attendance) := by
  cases ended : site.childStatus attendance with
  | some status => exact .reaped (reapedOf?_of_ended attended ended)
  | none =>
      unfold attendTurn
      rw [attended]
      dsimp only
      split
      · apply Follows.killed
        intro isProcess
        apply (hasKilled_letGo ended isProcess).grows
        unfold dropApplication
        rw [signals_dropBody]
        exact List.Subset.refl _
      · obtain ⟨next, waits, child⟩ := attend_waits _ ended post application
        exact .attended (by rw [waits]; rfl) child

theorem host_postFrom (site : Site) (post : Nat) (event : Event) :
    (site.postFrom post event).host = site.host := by
  unfold postFrom
  split <;> rfl

theorem launch_waits [Timers] {spawned : Host × ProcessNumber}
    (spawns : site.host.spawn application.program application.report = .ok spawned)
    (running : spawned.1.status? spawned.2 = none) (post : Nat) :
    ∃ next, (site.launch post application).2 = some next ∧ next.child = spawned.2 := by
  obtain ⟨host, child⟩ := spawned
  unfold launch
  rw [spawns]
  apply attend_waits (.running child)
  unfold childStatus
  rw [host_postFrom]
  exact running

theorem enterTurn_of_application [Timers]
    (attended : site.application? post = some application)
    (told : (site.job post).aborted = false) :
    site.enterTurn post =
      ⟨((site.setJob post (site.job post).enter).launch post application).1,
        ((site.setJob post (site.job post).enter).launch post application).2.map
          (.attend post), []⟩ := by
  unfold application? at attended
  unfold enterTurn
  rw [told]
  dsimp only
  rw [duty_setJob]
  cases held : (site.posts[post]?).map Post.duty with
  | none => simp [held] at attended
  | some duty =>
      cases duty with
      | gate gate => simp [held] at attended
      | application other sink =>
          rw [held] at attended
          cases attended
          rfl

/-- A body that spawns a child is of an application and was not told to end. -/
theorem exists_of_spawn? {spawned : Host × ProcessNumber}
    (spawns : site.spawn? post = some spawned) :
    (site.job post).aborted = false ∧ ∃ application,
      site.application? post = some application ∧
        site.host.spawn application.program application.report = .ok spawned := by
  unfold spawn? at spawns
  split at spawns
  · cases spawns
  · rename_i told
    obtain ⟨application, attended, launches⟩ := Option.bind_eq_some_iff.mp spawns
    refine ⟨Bool.eq_false_iff.mpr told, application, attended, ?_⟩
    cases spawning : site.host.spawn application.program application.report with
    | error error =>
        rw [spawning] at launches
        cases launches
    | ok both =>
        rw [spawning] at launches
        cases launches
        rfl

/-- The child that is spawned is attended to, unless it ends at once. -/
theorem follows_enterTurn [Timers] {spawned : Host × ProcessNumber}
    (spawns : site.spawn? post = some spawned) :
    site.Follows (.enter post) ⟨post, spawned.2⟩ (site.enterTurn post) := by
  obtain ⟨told, application, attended, spawning⟩ := exists_of_spawn? spawns
  cases ended : spawned.1.status? spawned.2 with
  | some status =>
      apply Follows.reaped
      have reaps : { site with host := spawned.1 }.reapedOf? post
          (.running spawned.2) = some ⟨post, spawned.2⟩ :=
        reapedOf?_of_ended attended ended
      unfold reaped?
      dsimp only
      rw [spawns]
      exact reaps
  | none =>
      have entered : (site.setJob post (site.job post).enter).host.spawn
          application.program application.report = .ok spawned := spawning
      obtain ⟨next, waits, child⟩ := launch_waits entered ended post
      rw [enterTurn_of_application attended told]
      exact .attended (by rw [waits]; rfl) child

/-! ## What is reported of a child -/

theorem events_signals (site : Site) (post : Nat) (number : ProcessNumber)
    (signals : List Signal) :
    (signals.foldl (fun site signal => site.signal post number signal) site).events =
      site.events := by
  induction signals generalizing site with
  | nil => rfl
  | cons signal signals induction =>
      rw [List.foldl_cons, induction]
      unfold Site.signal
      split <;> rfl

theorem events_reportAll (site : Site) (notices : List Notice) :
    (site.reportAll notices).events = site.events := by
  obtain ⟨reported, same⟩ := reportAll_eq site notices
  rw [same]

theorem events_closeListener (site : Site) (post : Nat) :
    (site.closeListener post).events = site.events := by
  unfold closeListener
  split <;> rfl

theorem events_attend [Timers] (site : Site) (post : Nat) (application : Application)
    (attendance : Attendance) :
    (site.attend post application attendance).1.events = site.events := by
  have stepped : ∀ (attended : Application.Attended),
      (((attended.signals.foldl (fun site signal =>
        site.signal post attendance.child signal) site).setApplication post
          attended.application).reportAll attended.notices).events = site.events := by
    intro attended
    rw [events_reportAll]
    exact events_signals site post attendance.child attended.signals
  unfold attend
  dsimp only
  split
  · exact (events_closeListener _ post).trans (stepped _)
  · exact stepped _

theorem events_guard (site : Site) (post : Nat) (gate : Gate) (watch : Gate.Watch) :
    (site.guard post gate watch).1.events = site.events := by
  unfold guard
  dsimp only
  split
  · exact (events_closeListener _ post).trans (events_reportAll _ _)
  · exact events_reportAll _ _

theorem events_letGo (site : Site) (post : Nat) (attendance : Attendance) :
    (site.letGo post attendance).events = site.events := by
  unfold letGo
  split
  · rfl
  · exact site.events_signals post attendance.child [.kill]

theorem events_attendTurn [Timers] (site : Site) (post : Nat) (attendance : Attendance) :
    (site.attendTurn post attendance).world.events = site.events := by
  unfold attendTurn
  split
  · rfl
  · split
    · exact (events_closeListener _ post).trans (events_letGo site post attendance)
    · exact events_attend site post _ attendance

theorem events_guardTurn (site : Site) (post : Nat) (watch : Gate.Watch) :
    (site.guardTurn post watch).world.events = site.events := by
  unfold guardTurn
  split
  · rfl
  · split
    · exact events_closeListener _ post
    · exact events_guard site post _ watch

/-- The event of a child that was spawned. -/
def startedEvents (sink : Nat) (offspring : Option Offspring) : List (Nat × Event) :=
  (offspring.map fun offspring => (sink, .applicationStarted offspring.child)).toList

theorem events_postFrom (attended : site.application? post = some application)
    (event : Event) :
    ∃ sink, (site.postFrom post event).events = (sink, event) :: site.events := by
  unfold application? at attended
  unfold postFrom
  cases held : (site.posts[post]?).map Post.duty with
  | none => simp [held] at attended
  | some duty =>
      cases duty with
      | gate gate => simp [held] at attended
      | application other sink => exact ⟨sink, rfl⟩

theorem spawned?_enter (attended : site.application? post = some application)
    (told : (site.job post).aborted = false) :
    site.spawned? (.enter post) =
      (site.host.spawn application.program application.report).toOption.map
        fun spawned => ⟨post, spawned.2⟩ := by
  unfold spawned? spawn?
  dsimp only
  rw [told, attended]
  rfl

theorem events_launch [Timers] (attended : site.application? post = some application)
    (told : (site.job post).aborted = false) :
    ∃ sink, ((site.setJob post (site.job post).enter).launch post application).1.events =
      startedEvents sink (site.spawned? (.enter post)) ++ site.events := by
  have entered : (site.setJob post (site.job post).enter).application? post =
      some application := by
    unfold application?
    rw [duty_setJob]
    exact attended
  have host : (site.setJob post (site.job post).enter).host = site.host := rfl
  rw [spawned?_enter attended told]
  unfold launch
  rw [host]
  cases site.host.spawn application.program application.report with
  | error error => exact ⟨0, events_closeListener _ post⟩
  | ok both =>
      obtain ⟨grown, child⟩ := both
      let hosted : Site := { site.setJob post (site.job post).enter with host := grown }
      have manned : (hosted.setApplication post (application.withChild child)).application?
          post = some (application.withChild child) :=
        application?_setApplication entered (application.withChild child)
      obtain ⟨sink, started⟩ := events_postFrom manned (.applicationStarted child)
      exact ⟨sink, (events_attend _ post _ _).trans started⟩

/-- The first turn of a body reports the child that it spawns. -/
theorem events_enterTurn [Timers] (site : Site) (post : Nat) :
    ∃ sink, (site.enterTurn post).world.events =
      startedEvents sink (site.spawned? (.enter post)) ++ site.events := by
  cases told : (site.job post).aborted with
  | true =>
      have none : site.spawned? (.enter post) = none := by
        unfold spawned? spawn?
        dsimp only
        rw [told]
        rfl
      refine ⟨0, ?_⟩
      unfold enterTurn
      rw [none, told]
      exact events_closeListener site post
  | false =>
      cases attended : site.application? post with
      | some application =>
          rw [enterTurn_of_application attended told]
          exact events_launch attended told
      | none =>
          have none : site.spawned? (.enter post) = none := by
            unfold spawned? spawn?
            dsimp only
            rw [told, attended]
            rfl
          refine ⟨0, ?_⟩
          unfold application? at attended
          unfold enterTurn
          rw [none, told]
          dsimp only
          rw [duty_setJob]
          cases held : (site.posts[post]?).map Post.duty with
          | none => rfl
          | some duty =>
              cases duty with
              | gate gate => exact events_guard _ post gate .accepting
              | application application sink => simp [held] at attended

theorem started_of_body [Timers] {task : Activity} (own : task.body? = some post) :
    ∃ sink, (site.turn task).world.events =
      startedEvents sink (site.spawned? task) ++ site.events := by
  cases task with
  | enter _ => exact events_enterTurn site _
  | guard post watch => exact ⟨0, events_guardTurn site post watch⟩
  | attend post attendance => exact ⟨0, events_attendTurn site post attendance⟩
  | stop _ _ _ | execute _ _ | run _ _ => cases own

end Site

namespace Chronicle

variable {settings : Settings} {chronicle next final : Chronicle}
  {happening : Happening} {course : Course} {offspring : Offspring}

/-- A child that was reaped or killed. -/
def IsSettled (chronicle : Chronicle) (offspring : Offspring) : Prop :=
  offspring ∈ chronicle.reaped ∨ chronicle.course.site.HasKilled offspring

/-- The body of every round is there only while the run listens to that round. -/
def IsHeard (course : Course) : Prop :=
  ∀ task ∈ course.tasks, ∀ post graces, task.body? = some post →
    course.site.charter? post = some (some graces) →
      ∃ deadline, .run 0 (.listening post deadline) ∈ course.tasks

/-- Every child that was spawned is settled, or its round attends to it. -/
structure IsKept (chronicle : Chronicle) (offspring : Offspring) : Prop where
  round : ∃ graces, chronicle.course.site.charter? offspring.round = some (some graces)
  kept : (offspring.IsProcess → chronicle.IsSettled offspring) ∨
    ∃ attendance, .attend offspring.round attendance ∈ chronicle.course.tasks ∧
      attendance.child = offspring.child

/-! ## The run listens to the round of every body -/

theorem run_unique (sound : course.Sound settings) {first second : RunStage}
    (one : .run 0 first ∈ course.tasks) (other : .run 0 second ∈ course.tasks) :
    first = second := by
  obtain ⟨position, taken⟩ := List.mem_iff_getElem?.mp one
  rcases List.mem_cons.mp ((Course.perm_of_taken taken).mem_iff.mpr other) with
    same | elsewhere
  · cases same
    rfl
  · have still := sound.only_run taken rfl elsewhere
    cases still

theorem still_heard [Timers] (sound : chronicle.Sound settings)
    (steps : chronicle.step? happening = some next)
    {round : Nat} {deadline : Instant}
    (listens : .run 0 (.listening round deadline) ∈ chronicle.course.tasks)
    (running : (chronicle.course.site.job round).exitFlag = false) :
    ∃ deadline, .run 0 (.listening round deadline) ∈ next.course.tasks := by
  cases runs_of_moves sound.course (moves_of_step sound steps) with
  | stays defers same => exact ⟨deadline, (same _ rfl).mpr listens⟩
  | calls idle site called => cases idle _ listens
  | goesOn taken holds stands advances _ site waits =>
      have member := List.mem_of_getElem? taken
      cases run_unique sound.course listens member
      have leads := advances.leads holds stands
        (sound.placed.expects _ holds.held _ member)
      obtain ⟨later, standing⟩ := leads.still_listens running
      exact ⟨later, (run_mem_iff waits rfl).mpr ⟨_, standing, rfl⟩⟩

/-- After a turn of the run at a position it listens to the round of every body. -/
theorem heard_of_leads (sound : course.Sound settings) (heard : IsHeard course)
    {position : Nat} {stage : RunStage} {supervisor : Supervisor} {step : RunStep}
    (taken : course.tasks[position]? = some (.run 0 stage))
    (leads : Site.Leads 0 course.site supervisor stage step)
    (proceeds : Site.Proceeds 0 course.site step) :
    IsHeard (course.proceed position step) := by
  have listens : ∀ {round : Nat},
      (∃ deadline, step.waits = some (.listening round deadline)) →
        ∃ deadline,
          .run 0 (.listening round deadline) ∈ (course.proceed position step).tasks := by
    intro round waits
    obtain ⟨deadline, standing⟩ := waits
    refine ⟨deadline, ?_⟩
    unfold Course.proceed
    rw [standing]
    exact List.mem_append_right _ (List.mem_append_left _ (List.mem_singleton.mpr rfl))
  intro task member post graces own held
  change step.site.charter? post = some (some graces) at held
  rcases List.mem_append.mp member with stays | fresh
  · -- A body that was there has not exited, so the run goes on listening to its round.
    have was := List.mem_of_mem_eraseIdx stays
    have tended := (sound.serves task was).tended own
    cases known : course.site.charter? post with
    | none => exact absurd tended (Site.not_tended_of_absent known)
    | some charter =>
        cases ((Site.bears_of_deeds proceeds.deeds).charter known).symm.trans held
        obtain ⟨deadline, also⟩ := heard task was post graces own known
        cases run_unique sound also (List.mem_of_getElem? taken)
        exact listens (leads.still_listens tended.2)
  rcases List.mem_append.mp fresh with waits | begun
  · obtain ⟨_, _, is⟩ := Option.map_eq_some_iff.mp (Option.mem_toList.mp waits)
    rw [← is] at own
    cases own
  · cases proceeds.begun task begun with
    | execute command => cases own
    | enter other _ _ =>
        cases own
        rcases leads.begins_or begun with listening | gate
        · exact listens listening
        · rw [gate] at held
          cases held

theorem heard_step [Timers] (sound : chronicle.Sound settings)
    (heard : IsHeard chronicle.course) (steps : chronicle.step? happening = some next) :
    IsHeard next.course := by
  intro task member post graces own held
  -- A body that was there has not exited, so the run goes on listening to its round.
  have old : ∀ other ∈ chronicle.course.tasks, other.body? = some post →
      ∃ deadline, .run 0 (.listening post deadline) ∈ next.course.tasks := by
    intro other was also
    have tended := (sound.course.serves other was).tended also
    cases known : chronicle.course.site.charter? post with
    | none => exact absurd tended (Site.not_tended_of_absent known)
    | some charter =>
        cases ((remains_step sound steps).charter known).symm.trans held
        obtain ⟨deadline, listens⟩ := heard other was post graces also known
        exact still_heard sound steps listens tended.2
  cases moves_of_step sound steps with
  | beside defers tasks =>
      exact old task ((tasks task (.inl (by simp [own]))).mp member) own
  | @works _ position worked taking turn taken also works site tasks =>
      rw [tasks] at member
      rcases List.mem_append.mp member with stays | rest
      · exact old task (List.mem_of_mem_eraseIdx stays) own
      · apply old taking (List.mem_of_getElem? taken)
        rcases works.rest task (Option.mem_toList.mp rest) with
          ⟨watch, is⟩ | ⟨attendance, is, _⟩
        · rw [is] at own
          cases own
          exact also
        · rw [is] at own
          cases own
          exact also
  | calls idle site tasks =>
      rw [tasks] at member
      rcases List.mem_append.mp member with stays | called
      · exact old task stays own
      · rw [List.mem_singleton.mp called] at own
        cases own
  | runs taken holds stands advances _ proceed =>
      have leads := advances.leads holds stands
        (sound.placed.expects _ holds.held _ (List.mem_of_getElem? taken))
      rw [proceed] at member held ⊢
      exact heard_of_leads sound.course heard taken leads (advances.proceeds holds stands)
        task member post graces own held

/-! ## What becomes of the children -/

theorem mem_eraseIdx_or {position : Nat} {taken other : Activity}
    (held : course.tasks[position]? = some taken) (member : other ∈ course.tasks) :
    other = taken ∨ other ∈ course.tasks.eraseIdx position :=
  List.mem_cons.mp ((Course.perm_of_taken held).mem_iff.mpr member)

/-- A body that attends to its child waits on, unless the task itself goes on. -/
theorem attends_or [Timers] (sound : chronicle.Sound settings)
    (steps : chronicle.step? happening = some next) {post : Nat} {attendance : Attendance}
    (member : .attend post attendance ∈ chronicle.course.tasks) :
    .attend post attendance ∈ next.course.tasks ∨
      (∃ position, happening = .occurs (.turns position) ∧
        chronicle.course.tasks[position]? = some (.attend post attendance)) ∨
      ∃ position fault, happening = .fails position fault ∧
        chronicle.course.tasks[position]? = some (.attend post attendance) := by
  cases step_of_step? sound steps with
  | marks _ | aborts _ | starts _ => exact .inl member
  | stops _ _ => exact .inl (List.mem_append_left _ member)
  | @fails position _ _ _ taken _ fault =>
      rcases mem_eraseIdx_or taken member with same | stays
      · rw [← same] at taken
        exact .inr (.inr ⟨position, fault, rfl, taken⟩)
      · exact .inl stays
  | occurs occurs =>
      cases Course.step_of_step? occurs with
      | acts _ | passes _ => exact .inl member
      | runs _ | stops | restarts | kills | signals =>
          exact .inl (List.mem_append_left _ member)
      | overtakes listens _ _ =>
          rcases mem_eraseIdx_or listens member with same | stays
          · cases same
          · exact .inl (List.mem_append_left _ stays)
      | abandons position taken =>
          rcases mem_eraseIdx_or taken member with same | stays
          · cases same
          · exact .inl stays
      | @turns position task taken =>
          rcases mem_eraseIdx_or taken member with same | stays
          · rw [← same] at taken
            exact .inr (.inl ⟨position, rfl, taken⟩)
          · exact .inl (List.mem_append_left _ stays)

theorem IsSettled.step [Timers] (settled : chronicle.IsSettled offspring)
    (sound : chronicle.Sound settings)
    (steps : chronicle.step? happening = some next) : next.IsSettled offspring := by
  rcases settled with reaped | killed
  · exact .inl ((grows_step sound steps).reaped reaped)
  · obtain ⟨newer, signals⟩ :=
      (records_of_moves sound.course (moves_of_step sound steps)).signals
    refine .inr (killed.grows ?_)
    rw [signals]
    exact List.subset_append_right _ _

theorem turn_of_step? [Timers] {position : Nat} {task : Activity}
    (taken : chronicle.course.tasks[position]? = some task)
    (steps : chronicle.step? (.occurs (.turns position)) = some next) :
    next = { chronicle.turn task with course := chronicle.course.turn position task } := by
  unfold step? Course.step? at steps
  dsimp only at steps
  rw [taken, records_turns taken] at steps
  exact (Option.some.inj steps).symm

/-- What becomes of a child in the turn of the task that takes care of it. -/
theorem kept_of_follows [Timers] {position : Nat} {task : Activity}
    (taken : chronicle.course.tasks[position]? = some task)
    (steps : chronicle.step? (.occurs (.turns position)) = some next)
    (follows : chronicle.course.site.Follows task offspring
      (chronicle.course.site.turn task)) :
    (offspring.IsProcess → next.IsSettled offspring) ∨
      ∃ attendance, .attend offspring.round attendance ∈ next.course.tasks ∧
        attendance.child = offspring.child := by
  rw [turn_of_step? taken steps]
  cases follows with
  | reaped ends =>
      refine .inl fun _ => .inl (List.mem_append_right _ ?_)
      rw [ends]
      exact List.mem_singleton.mpr rfl
  | killed kills => exact .inl fun isProcess => .inr (kills isProcess)
  | attended goesOn same =>
      refine .inr ⟨_, List.mem_append_right _ (List.mem_append_left _ ?_), same⟩
      rw [goesOn]
      exact List.mem_singleton.mpr rfl

/-- A child whose body fails is reaped or killed. -/
theorem settled_of_fails [Timers] (sound : chronicle.Sound settings) {position post : Nat}
    {attendance : Attendance} {fault : Fault}
    (taken : chronicle.course.tasks[position]? = some (.attend post attendance))
    (steps : chronicle.step? (.fails position fault) = some next)
    (isProcess : (Offspring.mk post attendance.child).IsProcess) :
    next.IsSettled ⟨post, attendance.child⟩ := by
  cases step_of_step? sound steps with
  | fails also attended _ =>
      cases also.symm.trans taken
      cases ended : chronicle.course.site.childStatus attendance with
      | some status =>
          refine .inl (List.mem_append_right _ ?_)
          rw [Site.reapedOf?_of_ended attended ended]
          exact List.mem_singleton.mpr rfl
      | none =>
          refine .inr ((Site.hasKilled_letGo ended isProcess).grows ?_)
          show _ ⊆ (Site.failBody _ post fault).signals
          rw [Site.signals_failBody]
          exact List.Subset.refl _

theorem IsKept.step [Timers] (kept : chronicle.IsKept offspring)
    (sound : chronicle.Sound settings)
    (steps : chronicle.step? happening = some next) : next.IsKept offspring := by
  obtain ⟨⟨graces, held⟩, settled | ⟨attendance, member, child⟩⟩ := kept
  · exact ⟨⟨graces, (remains_step sound steps).charter held⟩,
      .inl fun isProcess => (settled isProcess).step sound steps⟩
  · refine ⟨⟨graces, (remains_step sound steps).charter held⟩, ?_⟩
    have same : offspring = ⟨offspring.round, attendance.child⟩ := by rw [child]
    rcases attends_or sound steps member with
      stays | ⟨position, is, taken⟩ | ⟨position, fault, is, taken⟩
    · exact .inr ⟨attendance, stays, child⟩
    · subst is
      obtain ⟨application, attended⟩ := Site.application?_of_charter held
      apply kept_of_follows taken steps
      rw [same]
      exact Site.follows_attendTurn attended attendance
    · subst is
      left
      intro isProcess
      rw [same] at isProcess ⊢
      exact settled_of_fails sound taken steps isProcess

/-- At most one child is spawned, in the first turn of the body of its round. -/
theorem spawned_step [Timers] (sound : chronicle.Sound settings)
    (steps : chronicle.step? happening = some next) :
    next.spawned = chronicle.spawned ∨
      ∃ position post spawned, happening = .occurs (.turns position) ∧
        chronicle.course.tasks[position]? = some (.enter post) ∧
        chronicle.course.site.spawn? post = some spawned ∧
        next.spawned = chronicle.spawned ++ [⟨post, spawned.2⟩] := by
  cases step_of_step? sound steps with
  | marks _ | aborts _ | starts _ | stops _ _ | fails _ _ _ => exact .inl rfl
  | occurs occurs =>
      cases Course.step_of_step? occurs with
      | runs _ | overtakes _ _ _ | stops | restarts | kills | signals | abandons _ _
      | acts _ | passes _ => exact .inl rfl
      | @turns position task taken =>
          rw [records_turns taken]
          cases task with
          | guard _ _ | attend _ _ | stop _ _ _ | execute _ _ | run _ _ =>
              exact .inl (List.append_nil _)
          | enter post =>
              unfold Chronicle.turn Site.spawned?
              dsimp only
              cases spawns : chronicle.course.site.spawn? post with
              | none => exact .inl (List.append_nil _)
              | some spawned => exact .inr ⟨position, post, spawned, rfl, taken, spawns, rfl⟩

/-- What is spawned is spawned by the body of an application. -/
theorem charter?_of_spawn {site : Site} {post : Nat} {spawned : Host × ProcessNumber}
    (spawns : site.spawn? post = some spawned) :
    ∃ graces, site.charter? post = some (some graces) := by
  obtain ⟨_, application, attended, _⟩ := Site.exists_of_spawn? spawns
  exact ⟨_, Site.charter?_of_application attended⟩

theorem kept_step [Timers] (sound : chronicle.Sound settings)
    (kept : ∀ offspring ∈ chronicle.spawned, chronicle.IsKept offspring)
    (steps : chronicle.step? happening = some next) :
    ∀ offspring ∈ next.spawned, next.IsKept offspring := by
  intro offspring member
  rcases spawned_step sound steps with same | ⟨position, post, spawned, is, taken, spawns, grown⟩
  · rw [same] at member
    exact (kept offspring member).step sound steps
  rw [grown] at member
  rcases List.mem_append.mp member with old | new
  · exact (kept offspring old).step sound steps
  · subst is
    rw [List.mem_singleton.mp new]
    obtain ⟨graces, held⟩ := charter?_of_spawn spawns
    exact ⟨⟨graces, (remains_step sound steps).charter held⟩,
      kept_of_follows taken steps (Site.follows_enterTurn spawns)⟩

theorem heard_fresh (host : Host) (supervisor : Supervisor) :
    IsHeard (Course.fresh host supervisor) :=
  fun _ member => absurd member List.not_mem_nil

theorem heard_of_unsettled (heard : IsHeard chronicle.course)
    (kept : chronicle.IsKept offspring) (isProcess : offspring.IsProcess)
    (unsettled : ¬ chronicle.IsSettled offspring) :
    ∃ attendance deadline,
      .attend offspring.round attendance ∈ chronicle.course.tasks ∧
        .run 0 (.listening offspring.round deadline) ∈ chronicle.course.tasks := by
  obtain ⟨⟨graces, held⟩, settled | ⟨attendance, member, _⟩⟩ := kept
  · exact absurd (settled isProcess) unsettled
  · obtain ⟨deadline, listens⟩ := heard _ member offspring.round graces rfl held
    exact ⟨attendance, deadline, member, listens⟩

/-- When another child is spawned, the earlier ones are settled: the run listens to the
round that spawns it, whose body attends to no child. -/
theorem settled_of_spawn (sound : chronicle.Sound settings)
    (heard : IsHeard chronicle.course)
    (kept : ∀ offspring ∈ chronicle.spawned, chronicle.IsKept offspring)
    {position post : Nat} {spawned : Host × ProcessNumber}
    (taken : chronicle.course.tasks[position]? = some (.enter post))
    (spawns : chronicle.course.site.spawn? post = some spawned)
    (member : offspring ∈ chronicle.spawned) (isProcess : offspring.IsProcess) :
    chronicle.IsSettled offspring := by
  by_contra unsettled
  obtain ⟨attendance, deadline, attends, listens⟩ :=
    heard_of_unsettled heard (kept offspring member) isProcess unsettled
  obtain ⟨graces, held⟩ := charter?_of_spawn spawns
  obtain ⟨later, also⟩ :=
    heard (.enter post) (List.mem_of_getElem? taken) post graces rfl held
  -- The one run listens to both rounds, so they are the same.
  cases run_unique sound.course listens also
  rcases mem_eraseIdx_or taken attends with same | elsewhere
  · cases same
  · exact sound.course.apart taken rfl elsewhere rfl

/-- Whatever happens, a child is spawned only when every earlier one was reaped or sent
SIGKILL; and whenever no run is under way, all of them were and there is no current
round. -/
theorem one_child_at_a_time [Timers] {host : Host} {settings : Settings}
    {inherited : List (String × List UInt8)} {happenings : List Happening}
    (reaches : (fresh host (Supervisor.fresh settings inherited)).run? happenings =
      some chronicle) :
    (∀ happening next, chronicle.step? happening = some next →
      next.spawned ≠ chronicle.spawned →
        ∀ offspring ∈ chronicle.spawned, offspring.IsProcess →
          chronicle.IsSettled offspring) ∧
    ((∀ task ∈ chronicle.course.tasks, task.isRun = false) →
      (∀ offspring ∈ chronicle.spawned, offspring.IsProcess →
        chronicle.IsSettled offspring) ∧
      ∀ supervisor, chronicle.course.site.supervisor? 0 = some supervisor →
        supervisor.IsVacant) := by
  have begun := sound_fresh host settings inherited
  have sound := sound_run begun reaches
  have heard := keeps_run (fun chronicle => IsHeard chronicle.course) begun
    (heard_fresh host _) heard_step reaches
  have kept := keeps_run
    (fun chronicle => ∀ offspring ∈ chronicle.spawned, chronicle.IsKept offspring)
    begun (fun _ member => absurd member List.not_mem_nil) kept_step reaches
  constructor
  · intro happening next steps another offspring member isProcess
    rcases spawned_step sound steps with same | ⟨position, post, spawned, _, taken, spawns, _⟩
    · exact absurd same another
    · exact settled_of_spawn sound heard kept taken spawns member isProcess
  · intro idle
    refine ⟨?_, fun supervisor held => sound.placed.vacant supervisor held idle⟩
    intro offspring member isProcess
    by_contra unsettled
    obtain ⟨_, deadline, _, listens⟩ :=
      heard_of_unsettled heard (kept offspring member) isProcess unsettled
    cases idle _ listens

end Chronicle

/-- A round is restarted; its program ends by the interrupt and is reaped before the next
one is spawned. -/
theorem Chronicle.one_child_at_a_time_of_restart :
    ∃ chronicle next : Chronicle,
      (fresh (Course.plainHost []) (Supervisor.fresh
          (Course.plainSettings (Duration.ofSeconds 10) (Duration.ofSeconds 5)) [])).run?
        [.occurs .runs, .occurs (.turns 0), .occurs (.turns 2), .occurs Course.reacts,
          .occurs .restarts, .occurs Course.reacts, .occurs (.turns 2),
          .occurs (.turns 0)] = some chronicle ∧
      chronicle.step? (.occurs (.turns 3)) = some next ∧
      next.spawned = [⟨1, Host.numberOf 0⟩, ⟨2, Host.numberOf 1⟩] ∧
      chronicle.IsSettled ⟨1, Host.numberOf 0⟩ := by
  let happenings : List Happening :=
    [.occurs .runs, .occurs (.turns 0), .occurs (.turns 2), .occurs Course.reacts,
      .occurs .restarts, .occurs Course.reacts, .occurs (.turns 2), .occurs (.turns 0)]
  let start := fresh (Course.plainHost []) (Supervisor.fresh
    (Course.plainSettings (Duration.ofSeconds 10) (Duration.ofSeconds 5)) [])
  have ran : (start.run? happenings).map (·.spawned) =
      some [⟨1, Host.numberOf 0⟩] := by
    decide +kernel
  obtain ⟨chronicle, reaches, first⟩ := Option.map_eq_some_iff.mp ran
  have stepped : ((start.run? happenings).bind
      (·.step? (.occurs (.turns 3)))).map (·.spawned) =
        some [⟨1, Host.numberOf 0⟩, ⟨2, Host.numberOf 1⟩] := by
    decide +kernel
  rw [reaches, Option.bind_some] at stepped
  obtain ⟨next, steps, both⟩ := Option.map_eq_some_iff.mp stepped
  have another : next.spawned ≠ chronicle.spawned := by
    rw [first, both]
    simp
  have isProcess : (Offspring.mk 1 (Host.numberOf 0)).IsProcess := by
    unfold Offspring.IsProcess
    decide
  refine ⟨chronicle, next, reaches, steps, both, ?_⟩
  apply (one_child_at_a_time reaches).1 _ next steps another _ _ isProcess
  rw [first]
  exact List.mem_singleton.mpr rfl

end Overseer
