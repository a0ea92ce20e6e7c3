import Overseer.Proofs.Supervision.Exclusion

/-!
# The log, the rounds and the queues

What steps beside the runs write: `Notes` says which events they post, and that they open
no round and leave the channel of the supervisor alone.  A body posts the child that it
spawns, and a gate may add to its own queue; nobody else posts anything, and nobody but a
run takes from a queue.
-/

namespace Overseer

/-- The event that tells of a child. -/
def Offspring.birth (offspring : Offspring) : Event :=
  .applicationStarted offspring.child

namespace Gate

/-- A gate takes nothing from its queue. -/
theorem exists_queue_step (now : Instant) (stopFlag : Bool) (sockets : Sockets)
    (gate : Gate) (watch : Watch) :
    ∃ more, (gate.step now stopFlag sockets watch).gate.queue = gate.queue ++ more := by
  have kept : ∃ more, gate.queue = gate.queue ++ more := ⟨[], (List.append_nil _).symm⟩
  unfold step
  split
  · cases watch with
    | accepting | reading _ _ _ | offering _ => exact kept
  · cases watch with
    | accepting =>
        dsimp only
        split
        · exact kept
        · exact kept
    | reading connection reader deadline =>
        dsimp only
        unfold read leave expire
        dsimp only
        repeat' split
        all_goals exact kept
    | offering command =>
        dsimp only
        unfold offer
        split
        · exact ⟨[command], rfl⟩
        · exact kept

end Gate

/-- Whoever has exited stays so, whatever a body does. -/
theorem Job.Works.exited {before after : Job} {goesOn : Bool}
    (works : before.Works goesOn after) (exited : before.exitFlag = true) :
    after.exitFlag = true := by
  cases works with
  | stays | enters => exact exited
  | finishes => rfl
  | drops =>
      unfold drop
      split
      · rfl
      · exact exited

namespace Site

/-- The events that were posted, the oldest first. -/
def log (site : Site) : List Event :=
  (site.events.map Prod.snd).reverse

/-- The rounds that were opened, the oldest first. -/
def rounds (site : Site) : List Nat :=
  (List.range site.posts.size).filter fun post => (site.application? post).isSome

def queue (site : Site) (gate : Nat) : List Command :=
  ((site.gate? gate).map Gate.queue).getD []

/-- The commands that were added to the queue of a gate. -/
def gains (before after : Site) (gate : Nat) : List Command :=
  (after.queue gate).drop (before.queue gate).length

variable {post : Nat} {posted : List Event} {queued : Nat → List Command}
  {site before after third : Site} {supervisor : Supervisor}

theorem log_of_events {newer : List (Nat × Event)}
    (events : after.events = newer ++ before.events) :
    after.log = before.log ++ (newer.map Prod.snd).reverse := by
  unfold log
  rw [events, List.map_append, List.reverse_append]

theorem log_of_same (events : after.events = before.events) : after.log = before.log := by
  unfold log
  rw [events]

theorem isSome_application? (site : Site) (post : Nat) :
    (site.application? post).isSome = (site.charter? post).any Option.isSome := by
  unfold application? charter?
  cases site.posts[post]? with
  | none => rfl
  | some held =>
      cases duty : held.duty with
      | gate _ => simp [duty, Duty.graces?]
      | application _ _ => simp [duty, Duty.graces?]

theorem rounds_congr (size : after.posts.size = before.posts.size)
    (charter : ∀ post, after.charter? post = before.charter? post) :
    after.rounds = before.rounds := by
  unfold rounds
  rw [size]
  apply List.filter_congr
  intro post _
  rw [isSome_application?, isSome_application?, charter]

theorem nodup_rounds (site : Site) : site.rounds.Nodup :=
  List.nodup_range.filter _

theorem rounds_addPost (site : Site) (added : Post) :
    (site.addPost added).1.rounds =
      site.rounds ++ if added.duty.graces?.isSome then [site.posts.size] else [] := by
  have size : (site.addPost added).1.posts.size = site.posts.size + 1 :=
    Array.size_push added
  have newest : (site.addPost added).1.charter? site.posts.size = some added.duty.graces? :=
    (charter?_addPost site added _).trans (if_pos rfl)
  unfold rounds
  rw [size, List.range_succ, List.filter_append]
  congr 1
  · apply List.filter_congr
    intro post member
    have apart : post ≠ site.posts.size := Nat.ne_of_lt (List.mem_range.mp member)
    rw [isSome_application?, isSome_application?, charter?_addPost, if_neg apart]
  · simp only [List.filter_cons, List.filter_nil, isSome_application?, newest, Option.any_some]

theorem queue_congr (same : after.gate? post = before.gate? post) :
    after.queue post = before.queue post := by
  unfold queue
  rw [same]

theorem queue_of_gate? {gate : Gate} (guarded : site.gate? post = some gate) :
    site.queue post = gate.queue := by
  unfold queue
  rw [guarded]
  rfl

theorem gate?_of_charter (guarded : site.charter? post = some none) :
    ∃ gate, site.gate? post = some gate := by
  unfold charter? at guarded
  unfold gate?
  cases held : site.posts[post]? with
  | none => simp [held] at guarded
  | some post =>
      cases duty : post.duty with
      | gate gate => exact ⟨gate, by simp [duty]⟩
      | application application sink => simp [held, duty, Duty.graces?] at guarded

theorem gate?_of_other (other : site.charter? post ≠ some none) :
    site.gate? post = none := by
  cases guarded : site.gate? post with
  | none => rfl
  | some gate => exact absurd (charter?_of_gate guarded) other

theorem queue_of_other (other : site.charter? post ≠ some none) : site.queue post = [] := by
  unfold queue
  rw [gate?_of_other other]
  rfl

/-! ## What is written -/

/-- A step that posts these events and opens no round; its supervisor stays at its channel
and gets no result. -/
structure Notes (posted : List Event) (before after : Site) : Prop where
  log : after.log = before.log ++ posted
  size : after.posts.size = before.posts.size
  charter : ∀ post, after.charter? post = before.charter? post
  exited : ∀ post, (before.job post).exitFlag = true → (after.job post).exitFlag = true
  keeps : ∀ supervisor, before.supervisor? 0 = some supervisor →
    ∃ next, after.supervisor? 0 = some next ∧ next.channel = supervisor.channel ∧
      next.results = supervisor.results

/-- What the step adds to the queue of each gate. -/
structure Extends (posted : List Event) (queued : Nat → List Command)
    (before after : Site) : Prop extends Notes posted before after where
  queue : ∀ gate, after.queue gate = before.queue gate ++ queued gate

/-- A step that posts nothing and leaves all queues as they are. -/
abbrev Leaves (before after : Site) : Prop :=
  Extends [] (fun _ => []) before after

theorem Extends.gains_eq (written : Extends posted queued before after) :
    before.gains after = queued := by
  funext gate
  unfold gains
  rw [written.queue, List.drop_left]

theorem Notes.rounds (notes : Notes posted before after) : after.rounds = before.rounds :=
  rounds_congr notes.size notes.charter

theorem Notes.trans {later : List Event} (first : Notes posted before after)
    (second : Notes later after third) : Notes (posted ++ later) before third := by
  constructor
  · rw [second.log, first.log, List.append_assoc]
  · exact second.size.trans first.size
  · exact fun post => (second.charter post).trans (first.charter post)
  · exact fun post exited => second.exited post (first.exited post exited)
  · intro supervisor held
    obtain ⟨next, holds, channel, results⟩ := first.keeps supervisor held
    obtain ⟨last, kept, same, alike⟩ := second.keeps next holds
    exact ⟨last, kept, same.trans channel, alike.trans results⟩

/-- A step that leaves everything, and then another one. -/
theorem Leaves.trans (first : Leaves before after) (second : Extends posted queued after third) :
    Extends posted queued before third := by
  refine ⟨first.toNotes.trans second.toNotes, ?_⟩
  intro gate
  rw [second.queue, first.queue, List.append_nil]

theorem notes_of_posts (events : after.events = before.events)
    (posts : after.posts = before.posts)
    (supervisors : after.supervisors = before.supervisors) : Notes [] before after := by
  constructor
  · rw [log_of_same events, List.append_nil]
  · rw [posts]
  · intro post
    simp only [charter?, posts]
  · intro post exited
    rw [job_of_posts posts]
    exact exited
  · exact fun supervisor held =>
      ⟨supervisor, supervisor?_of_supervisors supervisors held, rfl, rfl⟩

theorem leaves_of_posts (events : after.events = before.events)
    (posts : after.posts = before.posts)
    (supervisors : after.supervisors = before.supervisors) : Leaves before after := by
  refine ⟨notes_of_posts events posts supervisors, ?_⟩
  intro gate
  rw [List.append_nil]
  exact queue_congr (by simp only [gate?, posts])

theorem leaves_setJob {job : Job}
    (exited : (site.job post).exitFlag = true → job.exitFlag = true) :
    Leaves site (site.setJob post job) := by
  have tends := tends_setJob_any site post job
  refine ⟨⟨(List.append_nil _).symm, by simp [setJob], tends.charter, ?_, ?_⟩, ?_⟩
  · intro other was
    by_cases own : other = post
    · rw [own] at was ⊢
      rcases job_setJob_or site post job with set | same
      · rw [set]
        exact exited was
      · rw [same]
        exact was
    · rw [tends.job other own]
      exact was
  · exact fun supervisor held => ⟨supervisor, held, rfl, rfl⟩
  · intro gate
    rw [List.append_nil]
    exact queue_congr (gate?_setJob site post job gate)

theorem leaves_commit {step : StopCall.Step}
    (exited : (site.job post).exitFlag = true → step.job.exitFlag = true) :
    Leaves site (site.commit post step) := by
  obtain ⟨host, notices, signals, same⟩ := commit_eq site post step
  rw [same]
  exact (leaves_setJob exited).trans (leaves_of_posts rfl rfl rfl)

theorem leaves_setSupervisor (held : site.supervisor? 0 = some supervisor)
    {new : Supervisor} (channel : new.channel = supervisor.channel)
    (results : new.results = supervisor.results) :
    Leaves site (site.setSupervisor 0 new) := by
  have written : Notes [] site (site.setSupervisor 0 new) := by
    refine ⟨(List.append_nil _).symm, rfl, fun _ => rfl, fun _ => id, ?_⟩
    intro other known
    cases held.symm.trans known
    exact ⟨new, supervisor?_setSupervisor held new, channel, results⟩
  exact ⟨written, fun _ => (List.append_nil _).symm⟩

theorem extends_postEvent (site : Site) (sink : Nat) (event : Event) :
    Extends [event] (fun _ => []) site (site.postEvent sink event) := by
  have written : Notes [event] site (site.postEvent sink event) := by
    have events : (site.postEvent sink event).events = [(sink, event)] ++ site.events := rfl
    refine ⟨log_of_events events, rfl, fun _ => rfl, fun _ => id, ?_⟩
    exact fun supervisor held => ⟨supervisor, held, rfl, rfl⟩
  exact ⟨written, fun _ => (List.append_nil _).symm⟩

/-! ## Requests -/

theorem leaves_report (site : Site) (notice : Notice) : Leaves site (site.report notice) :=
  leaves_of_posts rfl rfl rfl

theorem leaves_beginStop (site : Site) (round : Nat) (timeout : Duration) :
    Leaves site (site.beginStop round timeout).1 :=
  leaves_commit (StopCall.endures_begin site.now (site.job round) timeout false).exited

theorem leaves_resumeStop (site : Site) (post : Nat) (call : StopCall) :
    Leaves site (site.commit post (call.resume site.now (site.job post))) :=
  leaves_commit (StopCall.endures_resume site.now (site.job post) call).exited

theorem leaves_requestStop (held : site.supervisor? 0 = some supervisor) :
    Leaves site (site.requestStop 0).1 := by
  have requested : Leaves site
      (site.setSupervisor 0 { supervisor with stopRequested := true }) :=
    leaves_setSupervisor held rfl rfl
  unfold requestStop
  rw [held]
  dsimp only
  split
  · exact requested
  · exact requested.trans (leaves_beginStop _ _ _)

theorem leaves_requestRestart (site : Site) : Leaves site (site.requestRestart 0).1 := by
  unfold requestRestart
  split
  · exact leaves_of_posts rfl rfl rfl
  · dsimp only
    split
    · exact leaves_report site _
    · rename_i round _
      have marked : Leaves site (site.setJob round (site.job round).markForRestart) :=
        leaves_setJob id
      exact marked.trans (leaves_beginStop _ _ _)

theorem leaves_requestKill (held : site.supervisor? 0 = some supervisor) :
    Leaves site (site.requestKill 0) := by
  have requested : Leaves site
      (site.setSupervisor 0 { supervisor with stopRequested := true }) :=
    leaves_setSupervisor held rfl rfl
  unfold requestKill
  rw [held]
  dsimp only
  split
  · exact requested
  · apply requested.trans
    apply (leaves_report _ .applicationKilled).trans
    exact leaves_setJob (Job.endures_abort _).exited

theorem leaves_takeSignal (held : site.supervisor? 0 = some supervisor) :
    Leaves site (site.takeSignal 0).1 := by
  have counted : Leaves site
      (site.setSupervisor 0 { supervisor with signals := supervisor.signals + 1 }) :=
    leaves_setSupervisor held rfl rfl
  unfold takeSignal
  rw [held]
  dsimp only
  split
  · exact counted
  · exact counted.trans (leaves_requestKill (supervisor?_setSupervisor held _))

/-! ## Bodies -/

/-- No other post is touched. -/
structure Amends (post : Nat) (before after : Site) : Prop where
  size : after.posts.size = before.posts.size
  others : ∀ other, other ≠ post → after.posts[other]? = before.posts[other]?

theorem Amends.trans (first : Amends post before after) (second : Amends post after third) :
    Amends post before third := by
  refine ⟨second.size.trans first.size, ?_⟩
  intro other apart
  exact (second.others other apart).trans (first.others other apart)

theorem amends_of_posts (posts : after.posts = before.posts) : Amends post before after :=
  ⟨by rw [posts], fun _ _ => by rw [posts]⟩

theorem amends_modify (site : Site) (post : Nat) (change : Post → Post) :
    Amends post site { site with posts := site.posts.modify post change } := by
  refine ⟨by simp, ?_⟩
  intro other apart
  simp only [Array.getElem?_modify, if_neg (Ne.symm apart)]

theorem amends_setSockets (site : Site) (sockets : Sockets) (post : Nat) :
    Amends post site (site.setSockets sockets) :=
  amends_of_posts rfl

theorem amends_setGate (site : Site) (post : Nat) (gate : Gate) :
    Amends post site (site.setGate post gate) :=
  amends_modify site post _

theorem amends_setApplication (site : Site) (post : Nat) (application : Application) :
    Amends post site (site.setApplication post application) :=
  amends_modify site post _

theorem amends_reportAll (site : Site) (notices : List Notice) (post : Nat) :
    Amends post site (site.reportAll notices) :=
  amends_of_posts (reportAll_posts site notices)

theorem amends_left (site : Site) (post : Nat) (job : Job) :
    Amends post site ((site.closeListener post).setJob post job) :=
  (amends_of_posts (posts_closeListener site post)).trans (amends_modify _ post _)

theorem amends_guard (site : Site) (post : Nat) (gate : Gate) (watch : Gate.Watch) :
    Amends post site (site.guard post gate watch).1 := by
  unfold guard
  dsimp only
  generalize gate.step site.now (site.job post).stopFlag site.host.sockets watch = step
  have stepped := (amends_setSockets site step.sockets post).trans
    ((amends_setGate _ post step.gate).trans (amends_reportAll _ step.notices post))
  split
  · exact stepped.trans (amends_left _ post _)
  · exact stepped

theorem amends_attend (site : Site) (post : Nat) (application : Application)
    (attendance : Attendance) :
    Amends post site (site.attend post application attendance).1 := by
  unfold attend
  dsimp only
  generalize application.attend site.now (site.job post).stopFlag
    (site.childStatus attendance) attendance = step
  have signalled : Amends post site
      (step.signals.foldl (fun site signal => site.signal post attendance.child signal) site) :=
    amends_of_posts (posts_signals _ _ _ _)
  have stepped := signalled.trans
    ((amends_setApplication _ post step.application).trans
      (amends_reportAll _ step.notices post))
  split
  · exact stepped.trans (amends_left _ post _)
  · exact stepped

theorem amends_failBody (site : Site) (post : Nat) (fault : Fault) :
    Amends post site (site.failBody post fault) := by
  have told : Amends post site (site.report (.bodyFailed fault)) := amends_of_posts rfl
  exact told.trans (amends_left _ post _)

theorem amends_launch (site : Site) (post : Nat) (application : Application) :
    Amends post site (site.launch post application).1 := by
  unfold launch
  split
  · exact amends_failBody site post _
  · rename_i host child _
    have housed : Amends post site { site with host := host } := amends_of_posts rfl
    have manned := housed.trans (amends_setApplication _ post (application.withChild child))
    have started := manned.trans
      (amends_of_posts (posts_postFrom _ post (.applicationStarted child)))
    exact started.trans (amends_attend _ post _ _)

theorem amends_letGo (site : Site) (post : Nat) (attendance : Attendance) :
    Amends post site (site.letGo post attendance) := by
  unfold letGo
  split
  · exact amends_of_posts rfl
  · exact amends_of_posts (posts_signal _ _ _ _)

theorem amends_turn {task : Activity} (own : task.body? = some post) :
    Amends post site (site.turn task).world := by
  cases task with
  | stop _ _ _ | execute _ _ | run _ _ => cases own
  | guard position watch =>
      cases own
      show Amends post site (site.guardTurn post watch).world
      unfold guardTurn
      split
      · exact amends_of_posts rfl
      · split
        · exact (amends_setSockets site _ post).trans (amends_left _ post _)
        · exact amends_guard site post _ watch
  | attend position attendance =>
      cases own
      show Amends post site (site.attendTurn post attendance).world
      unfold attendTurn
      split
      · exact amends_of_posts rfl
      · split
        · exact (amends_letGo site post attendance).trans (amends_left _ post _)
        · exact amends_attend site post _ attendance
  | enter position =>
      cases own
      show Amends post site (site.enterTurn post).world
      have entered : Amends post site (site.setJob post (site.job post).enter) :=
        amends_modify site post _
      unfold enterTurn
      split
      · exact amends_left site post _
      · dsimp only
        split
        · exact entered
        · exact entered.trans (amends_guard _ post _ .accepting)
        · exact entered.trans (amends_launch _ post _)

theorem gate?_of_amends (amends : Amends post before after) {other : Nat}
    (apart : other ≠ post) : after.gate? other = before.gate? other := by
  unfold gate?
  rw [amends.others other apart]

theorem queue_left (site : Site) (post : Nat) (job : Job) (other : Nat) :
    ((site.closeListener post).setJob post job).queue other = site.queue other := by
  apply queue_congr
  rw [gate?_setJob]
  simp only [gate?, posts_closeListener]

theorem exists_queue_guard {gate : Gate} (guarded : site.gate? post = some gate)
    (watch : Gate.Watch) :
    ∃ more, (site.guard post gate watch).1.queue post = site.queue post ++ more := by
  obtain ⟨more, same⟩ := gate.exists_queue_step site.now (site.job post).stopFlag
    site.host.sockets watch
  unfold guard
  dsimp only
  generalize gate.step site.now (site.job post).stopFlag site.host.sockets watch = step at same ⊢
  have held : (site.setSockets step.sockets).gate? post = some gate := guarded
  have set := gate?_setGate held step.gate
  have stepped : (((site.setSockets step.sockets).setGate post step.gate).reportAll
      step.notices).queue post = site.queue post ++ more := by
    rw [queue_of_gate? guarded, ← same]
    apply queue_of_gate?
    simp only [gate?, reportAll_posts]
    exact set
  split
  · refine ⟨more, ?_⟩
    unfold endBody
    rw [queue_left]
    exact stepped
  · exact ⟨more, stepped⟩

theorem exists_queue_turn {task : Activity} (own : task.body? = some post) :
    ∃ more, (site.turn task).world.queue post = site.queue post ++ more := by
  have charter := (site.worksOn_turn own).tends.charter post
  by_cases guarded : site.charter? post = some none
  · obtain ⟨gate, guarded⟩ := gate?_of_charter guarded
    have kept : ∃ more, site.queue post = site.queue post ++ more :=
      ⟨[], (List.append_nil _).symm⟩
    cases task with
    | stop _ _ _ | execute _ _ | run _ _ => cases own
    | attend position attendance =>
        cases own
        show ∃ more, (site.attendTurn post attendance).world.queue post = _
        unfold attendTurn
        split
        · exact kept
        · rename_i application attended
          have other := charter?_of_application attended
          rw [charter?_of_gate guarded] at other
          cases other
    | guard position watch =>
        cases own
        show ∃ more, (site.guardTurn post watch).world.queue post = _
        unfold guardTurn
        rw [guarded]
        dsimp only
        split
        · unfold dropGate dropBody
          rw [queue_left]
          exact kept
        · exact exists_queue_guard guarded watch
    | enter position =>
        cases own
        show ∃ more, (site.enterTurn post).world.queue post = _
        have entered : (site.setJob post (site.job post).enter).gate? post = some gate :=
          (gate?_setJob site post _ post).trans guarded
        have same := queue_congr (entered.trans guarded.symm)
        unfold enterTurn
        split
        · unfold dropBody
          rw [queue_left]
          exact kept
        · dsimp only
          rw [← same]
          split
          · exact ⟨[], (List.append_nil _).symm⟩
          · rename_i held duty
            apply exists_queue_guard
            unfold gate?
            rw [duty]
          · rename_i duty
            unfold gate? at entered
            rw [duty] at entered
            cases entered
  · refine ⟨[], ?_⟩
    have still : (site.turn task).world.charter? post ≠ some none := by
      rw [charter]
      exact guarded
    rw [queue_of_other still, queue_of_other guarded]
    rfl

/-- What a body writes in its turn, once its events are known. -/
theorem notes_of_works {sent : Signal → Prop} {waits : Attendance → Prop}
    {turn : Turn Site Activity} (works : WorksOn post sent waits site turn)
    (amends : Amends post site turn.world) (log : turn.world.log = site.log ++ posted) :
    Notes posted site turn.world := by
  refine ⟨log, amends.size, works.tends.charter, ?_, ?_⟩
  · intro other was
    by_cases mine : other = post
    · rw [mine] at was ⊢
      exact works.job.exited was
    · rw [works.tends.job other mine]
      exact was
  · exact fun supervisor held =>
      ⟨supervisor, supervisor?_of_supervisors works.tends.supervisors held, rfl, rfl⟩

/-- The turn of a body: the child that it spawns, and what a gate queues. -/
theorem extends_turn {task : Activity} (own : task.body? = some post) :
    Extends ((site.spawned? task).toList.map Offspring.birth)
      (site.gains (site.turn task).world) site (site.turn task).world := by
  have amends : Amends post site (site.turn task).world := amends_turn own
  obtain ⟨sink, events⟩ := site.started_of_body own
  have log : (site.turn task).world.log =
      site.log ++ (site.spawned? task).toList.map Offspring.birth := by
    rw [log_of_events events]
    cases site.spawned? task <;> rfl
  refine ⟨notes_of_works (site.worksOn_turn own) amends log, ?_⟩
  intro gate
  have grows : ∃ more, (site.turn task).world.queue gate = site.queue gate ++ more := by
    by_cases mine : gate = post
    · rw [mine]
      exact exists_queue_turn own
    · exact ⟨[], by rw [List.append_nil]; exact queue_congr (gate?_of_amends amends mine)⟩
  obtain ⟨more, same⟩ := grows
  unfold gains
  rw [same, List.drop_left]

theorem leaves_failApplication {application : Application}
    (attended : site.application? post = some application) (attendance : Attendance)
    (fault : Fault) :
    Leaves site (site.failApplication post application attendance fault) := by
  have works : WorksOn post (fun _ => True) (fun _ => True) site
      ⟨site.failApplication post application attendance fault, none, []⟩ :=
    worksOn_failApplication attended attendance fault trivial
  have charter : (site.failApplication post application attendance fault).charter? post =
      site.charter? post := works.tends.charter post
  have amends : Amends post site
      (site.failApplication post application attendance fault) := by
    have left := (amends_letGo site post attendance).trans
      (amends_setApplication _ post application.withoutChild)
    exact left.trans (amends_failBody _ post fault)
  have events : (site.failApplication post application attendance fault).events =
      site.events := by
    unfold failApplication failBody endBody
    exact (events_closeListener _ post).trans (events_letGo site post attendance)
  refine ⟨notes_of_works works amends ?_, ?_⟩
  · rw [List.append_nil]
    exact log_of_same events
  · intro gate
    rw [List.append_nil]
    by_cases mine : gate = post
    · have other : site.charter? post ≠ some none := by
        rw [charter?_of_application attended]
        intro same
        cases same
      rw [mine, queue_of_other other]
      apply queue_of_other
      rw [charter]
      exact other
    · exact queue_congr (gate?_of_amends amends mine)

end Site

end Overseer
