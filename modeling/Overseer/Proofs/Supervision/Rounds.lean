import Overseer.Proofs.Supervision.Precedence

/-!
# Rounds

What the steps of a site make of its rounds.  Whoever is no run launches none, evaluates
none and leaves the current one as it is.  `Leads` says where a turn of a run leads: it
goes on listening to its round, launches another one, or launches nothing any more.
-/

namespace Overseer

/-- The events that neither come from an evaluation nor follow from one. -/
def Event.IsAside (event : Event) : Prop :=
  event.IsBeside ∧ event ≠ .restartScheduled

theorem Event.IsAside.started (child : ProcessNumber) :
    (Event.applicationStarted child).IsAside :=
  ⟨fun _ => Event.noConfusion, Event.noConfusion⟩

theorem Event.IsAside.commandReceived (name : String) :
    (Event.commandReceived name).IsAside :=
  ⟨fun _ => Event.noConfusion, Event.noConfusion⟩

theorem Event.IsAside.supervisorStopped : Event.supervisorStopped.IsAside :=
  ⟨fun _ => Event.noConfusion, Event.noConfusion⟩

/-! ## The body and the mark of a job -/

namespace Job

/-- A job that was not launched meanwhile, nor turned into one that could be. -/
structure Rests (before after : Job) : Prop where
  launched : after.body.IsLaunched → before.body.IsLaunched
  unlaunched : after.body = .unlaunched → before.body = .unlaunched

theorem Rests.refl (job : Job) : job.Rests job :=
  ⟨id, id⟩

theorem Endures.rests {before after : Job} (endures : before.Endures after) :
    before.Rests after := by
  refine ⟨endures.launched_of, ?_⟩
  intro unlaunched
  by_contra launched
  exact launched ((endures.launched launched).1.symm.trans unlaunched)

/-- The body of a job does not start it. -/
theorem Works.rests {before after : Job} {goesOn : Bool}
    (works : before.Works goesOn after) (tended : before.IsTended) :
    before.Rests after := by
  refine ⟨fun _ => Body.launched_of_hasTask tended.1, ?_⟩
  intro unlaunched
  cases works with
  | stays => exact unlaunched
  | enters | finishes => cases unlaunched
  | drops =>
      unfold drop at unlaunched
      split at unlaunched
      · cases unlaunched
      · cases unlaunched

theorem Works.restartMark {before after : Job} {goesOn : Bool}
    (works : before.Works goesOn after) : after.restartMark = before.restartMark := by
  cases works with
  | stays | enters | finishes => rfl
  | drops =>
      unfold drop
      split <;> rfl

end Job

namespace StopCall

variable {job : Job}

theorem restartMark_resume [Timers] (now : Instant) (job : Job) (call : StopCall) :
    (call.resume now job).job.restartMark = job.restartMark := by
  obtain ⟨_, _, frame⟩ := resume_frame now job call
  rw [frame]

theorem restartMark_requestStop (job : Job) :
    job.requestStop.restartMark = job.restartMark := by
  obtain ⟨_, frame⟩ := job.moveTo_frame .stopRequested
  unfold Job.requestStop
  rw [frame]

/-- A stop neither marks its job nor takes the mark away. -/
theorem restartMark_begin [Timers] (now : Instant) (job : Job) (timeout : Duration)
    (inside : Bool) :
    (begin now job timeout inside).job.restartMark = job.restartMark := by
  unfold begin
  split
  · unfold follow
    split
    · rfl
    · split
      · rfl
      · rw [awaitExit_job]
  · dsimp only
    split
    · rfl
    · have requested := restartMark_requestStop { job with stopClaimed := true }
      unfold perform
      dsimp only
      split
      · exact requested
      · split
        · exact requested
        · split
          · exact requested
          · rename_i wait _
            obtain ⟨_, _, frame⟩ := awaitStop_frame now wait
              { job with stopClaimed := true }.requestStop [.hook .stop]
            rw [frame]
            exact requested

end StopCall

namespace Site

variable {index : Nat} {site before after third : Site} {supervisor : Supervisor}

/-! ## Marks and signals -/

/-- A round that is marked for a fresh start. -/
def IsMarked (site : Site) (round : Nat) : Prop :=
  (∃ graces, site.charter? round = some (some graces)) ∧
    (site.job round).restartMark = true

/-- What a step leaves to be found later.  Only a step that asks for a stop makes the
supervisor stop, and it marks no rounds but some that it asks to restart. -/
structure Records (index : Nat) (stops : Prop) (marks : Nat → Prop)
    (before after : Site) : Prop where
  signals : ∃ newer, after.signals = newer ++ before.signals
  keepsMark : ∀ round, before.IsMarked round → after.IsMarked round
  marks : ∀ round, after.IsMarked round → before.IsMarked round ∨ marks round
  keepsStopping : before.IsStopping index → after.IsStopping index
  stops : after.IsStopping index → before.IsStopping index ∨ stops

variable {stops : Prop} {marks : Nat → Prop}

theorem Records.refl (index : Nat) (stops : Prop) (marks : Nat → Prop) (site : Site) :
    Records index stops marks site site :=
  ⟨⟨[], rfl⟩, fun _ => id, fun _ => .inl, id, .inl⟩

theorem Records.trans (first : Records index stops marks before after)
    (second : Records index stops marks after third) :
    Records index stops marks before third := by
  constructor
  · obtain ⟨newer, sent⟩ := first.signals
    obtain ⟨newest, later⟩ := second.signals
    exact ⟨newest ++ newer, by rw [later, sent, List.append_assoc]⟩
  · exact fun round marked => second.keepsMark round (first.keepsMark round marked)
  · intro round marked
    rcases second.marks round marked with earlier | now
    · exact first.marks round earlier
    · exact .inr now
  · exact fun stopping => second.keepsStopping (first.keepsStopping stopping)
  · intro stopping
    rcases second.stops stopping with earlier | now
    · exact first.stops earlier
    · exact .inr now

theorem isStopping_congr (supervisors : after.supervisors = before.supervisors)
    (index : Nat) : after.IsStopping index ↔ before.IsStopping index := by
  unfold IsStopping supervisor?
  rw [supervisors]

theorem isMarked_of_posts (posts : after.posts = before.posts) (round : Nat) :
    after.IsMarked round ↔ before.IsMarked round := by
  unfold IsMarked charter?
  rw [posts, job_of_posts posts]

theorem records_of_posts (index : Nat) (posts : after.posts = before.posts)
    (supervisors : after.supervisors = before.supervisors)
    (signals : after.signals = before.signals) :
    Records index stops marks before after :=
  ⟨⟨[], signals⟩, fun round => (isMarked_of_posts posts round).mpr,
    fun round marked => .inl ((isMarked_of_posts posts round).mp marked),
    (isStopping_congr supervisors index).mpr,
    fun stopping => .inl ((isStopping_congr supervisors index).mp stopping)⟩

/-- Work on a post, of which only the marks are yet to be known. -/
theorem Tends.records_of_marks {post : Nat} {sent : Signal → Prop}
    (tends : Tends post sent before after)
    (keeps : ∀ round, before.IsMarked round → after.IsMarked round)
    (grants : ∀ round, after.IsMarked round → before.IsMarked round ∨ marks round)
    (index : Nat) : Records index stops marks before after := by
  obtain ⟨newer, sent, _⟩ := tends.signals
  have same := isStopping_congr tends.supervisors index
  exact ⟨⟨newer, sent⟩, keeps, grants, same.mpr, fun stopping => .inl (same.mp stopping)⟩

theorem Tends.isMarked {post : Nat} {sent : Signal → Prop}
    (tends : Tends post sent before after)
    (mark : (after.job post).restartMark = (before.job post).restartMark)
    (round : Nat) : after.IsMarked round ↔ before.IsMarked round := by
  unfold IsMarked
  rw [tends.charter]
  by_cases own : round = post
  · rw [own, mark]
  · rw [tends.job round own]

theorem Tends.records {post : Nat} {sent : Signal → Prop}
    (tends : Tends post sent before after)
    (mark : (after.job post).restartMark = (before.job post).restartMark)
    (index : Nat) : Records index stops marks before after :=
  tends.records_of_marks (fun round => (tends.isMarked mark round).mpr)
    (fun round marked => .inl ((tends.isMarked mark round).mp marked)) index

theorem records_addPost (index : Nat) (post : Post)
    (unmarked : post.duty.graces? = none ∨ post.job.restartMark = false) :
    Records index stops marks site (site.addPost post).1 := by
  refine ⟨⟨[], rfl⟩, ?_, ?_, id, .inl⟩
  · intro round marked
    obtain ⟨⟨graces, held⟩, mark⟩ := marked
    have apart : round ≠ site.posts.size := by
      intro newest
      rw [newest, charter?_size] at held
      cases held
    unfold IsMarked
    rw [charter?_addPost, job_addPost, if_neg apart, if_neg apart]
    exact ⟨⟨graces, held⟩, mark⟩
  · intro round marked
    left
    unfold IsMarked at marked
    rw [charter?_addPost, job_addPost] at marked
    by_cases newest : round = site.posts.size
    · rw [if_pos newest, if_pos newest] at marked
      obtain ⟨⟨graces, held⟩, mark⟩ := marked
      rcases unmarked with gate | unmarked
      · rw [gate] at held
        cases held
      · rw [unmarked] at mark
        cases mark
    · rw [if_neg newest, if_neg newest] at marked
      exact marked

theorem records_setSupervisor (held : site.supervisor? index = some supervisor)
    {new : Supervisor}
    (keeps : supervisor.stopRequested = true → new.stopRequested = true)
    (asks : new.stopRequested = true → supervisor.stopRequested = true ∨ stops) :
    Records index stops marks site (site.setSupervisor index new) := by
  have set := supervisor?_setSupervisor held new
  refine ⟨⟨[], rfl⟩, fun _ => id, fun _ => .inl, ?_, ?_⟩
  · intro stopping
    obtain ⟨other, current, requested⟩ := stopping
    cases held.symm.trans current
    exact ⟨new, set, keeps requested⟩
  · intro stopping
    obtain ⟨other, current, requested⟩ := stopping
    cases set.symm.trans current
    rcases asks requested with before | now
    · exact .inl ⟨supervisor, held, before⟩
    · exact .inr now

theorem mark_setJob (site : Site) {post : Nat} {job : Job}
    (mark : job.restartMark = (site.job post).restartMark) :
    ((site.setJob post job).job post).restartMark = (site.job post).restartMark := by
  rcases job_setJob_or site post job with set | same
  · rw [set, mark]
  · rw [same]

theorem mark_commit (site : Site) {post : Nat} {step : StopCall.Step}
    (mark : step.job.restartMark = (site.job post).restartMark) :
    ((site.commit post step).job post).restartMark = (site.job post).restartMark := by
  rcases job_commit_or site post step with set | same
  · rw [set, mark]
  · rw [same]

theorem tends_setJob_any (site : Site) (post : Nat) (job : Job) :
    Tends post (fun _ => True) site (site.setJob post job) :=
  tends_setJob site post _ job

theorem tends_commit_any (site : Site) (post : Nat) (step : StopCall.Step) :
    Tends post (fun _ => True) site (site.commit post step) :=
  tends_commit site post step fun _ _ _ _ => trivial

theorem Deed.records (deed : Deed index before after) :
    Records index stops marks before after := by
  cases deed with
  | beside now posts supervisors events signals =>
      exact records_of_posts index posts supervisors signals
  | posts other => exact records_of_posts index rfl rfl rfl
  | schedules held wanted => exact records_of_posts index rfl rfl rfl
  | updates held settings stopRequested owns =>
      apply records_setSupervisor held
      · exact stopRequested.trans
      · exact fun requested => .inl (stopRequested.symm.trans requested)
  | opensGate gate tended => exact records_addPost index _ (.inl rfl)
  | opensRound held => exact records_addPost index _ (.inr rfl)
  | claims round exited =>
      apply (tends_setJob_any before round _).records
      exact mark_setJob before rfl
  | withdraws round held fresh =>
      apply (tends_commit_any before round _).records
      apply mark_commit
      rw [fresh]
      rfl
  | launches round held wanted fresh starts =>
      apply (tends_setJob_any before round _).records
      apply mark_setJob
      rw [fresh]
      cases starts
      rfl
  | serves guarded tends endures =>
      -- The mark of a gate counts for nothing.
      rename_i gate
      have kept : ∀ round, after.IsMarked round ↔ before.IsMarked round := by
        intro round
        unfold IsMarked
        rw [tends.charter]
        by_cases own : round = gate
        · rw [own, guarded]
          simp
        · rw [tends.job round own]
      exact tends.records_of_marks (fun round => (kept round).mpr)
        (fun round marked => .inl ((kept round).mp marked)) index

theorem records_of_deeds (deeds : Deeds index before after) :
    Records index stops marks before after := by
  induction deeds with
  | refl => exact .refl index stops marks before
  | tail _ deed induction => exact induction.trans deed.records

/-! ## What launches nothing -/

/-- A step that launches no round, and leaves none that could be launched. -/
structure Quiet (before after : Site) : Prop where
  launched : ∀ round, after.HasLaunched round → before.HasLaunched round
  opened : ∀ round, after.IsOpen round → before.IsOpen round

theorem Quiet.refl (site : Site) : Quiet site site :=
  ⟨fun _ => id, fun _ => id⟩

theorem Quiet.trans (first : Quiet before after) (second : Quiet after third) :
    Quiet before third :=
  ⟨fun round launched => first.launched round (second.launched round launched),
    fun round left => first.opened round (second.opened round left)⟩

theorem quiet_of_posts (posts : after.posts = before.posts) : Quiet before after :=
  ⟨fun _ => hasBody_of_posts Body.IsLaunched posts, fun _ => hasBody_of_posts _ posts⟩

theorem quiet_addGate (site : Site) {post : Post} (gate : post.duty.graces? = none) :
    Quiet site (site.addPost post).1 :=
  ⟨fun _ => hasBody_of_addPost Body.IsLaunched (.inl gate),
    fun _ => hasBody_of_addPost _ (.inl gate)⟩

theorem Tends.quiet {post : Nat} {sent : Signal → Prop}
    (tends : Tends post sent before after)
    (rests : (before.job post).Rests (after.job post)) : Quiet before after :=
  ⟨fun _ => tends.hasBody Body.IsLaunched rests.launched,
    fun _ => tends.hasBody (· = .unlaunched) rests.unlaunched⟩

/-- A step that launches no round and evaluates none. -/
structure Calm (before after : Site) : Prop where
  quiet : Quiet before after
  events : Tells Event.IsAside before after

theorem Calm.refl (site : Site) : Calm site site :=
  ⟨.refl site, tells_of_eq _ rfl⟩

theorem Calm.trans (first : Calm before after) (second : Calm after third) :
    Calm before third :=
  ⟨first.quiet.trans second.quiet, first.events.trans second.events⟩

theorem calm_of_posts (posts : after.posts = before.posts)
    (events : Tells Event.IsAside before after) : Calm before after :=
  ⟨quiet_of_posts posts, events⟩

theorem calm_setSupervisor (site : Site) (index : Nat) (supervisor : Supervisor) :
    Calm site (site.setSupervisor index supervisor) :=
  calm_of_posts rfl (tells_of_eq _ rfl)

theorem calm_postEvent (site : Site) (sink : Nat) {event : Event}
    (aside : event.IsAside) : Calm site (site.postEvent sink event) := by
  have tells : Tells Event.IsAside site (site.postEvent sink event) := by
    refine ⟨[(sink, event)], rfl, ?_⟩
    intro entry member
    rw [List.mem_singleton.mp member]
    exact aside
  exact calm_of_posts rfl tells

theorem Tends.calm {post : Nat} {sent : Signal → Prop}
    (tends : Tends post sent before after)
    (rests : (before.job post).Rests (after.job post)) : Calm before after := by
  refine ⟨tends.quiet rests, ?_⟩
  apply tends.events.mono
  intro event started
  obtain ⟨child, is⟩ := started
  rw [is]
  exact Event.IsAside.started child

theorem calm_commit {post : Nat} {step : StopCall.Step}
    (endures : (site.job post).Endures step.job) : Calm site (site.commit post step) :=
  (tends_commit_any site post step).calm (endures_commit endures).rests

theorem calm_setJob {post : Nat} {job : Job}
    (endures : (site.job post).Endures job) : Calm site (site.setJob post job) :=
  (tends_setJob_any site post job).calm (endures_setJob endures).rests

/-! ## Beside the runs -/

/-- What a step that is no turn of a run does: its supervisor stays at its round and
gets no result. -/
structure Defers (index : Nat) (stops : Prop) (marks : Nat → Prop)
    (before after : Site) : Prop where
  records : Records index stops marks before after
  calm : Calm before after
  keeps : ∀ supervisor, before.supervisor? index = some supervisor →
    ∃ next, after.supervisor? index = some next ∧ next.current = supervisor.current ∧
      next.results = supervisor.results

theorem Defers.refl (index : Nat) (stops : Prop) (marks : Nat → Prop) (site : Site) :
    Defers index stops marks site site :=
  ⟨.refl index stops marks site, .refl site,
    fun supervisor held => ⟨supervisor, held, rfl, rfl⟩⟩

theorem Defers.trans (first : Defers index stops marks before after)
    (second : Defers index stops marks after third) :
    Defers index stops marks before third := by
  refine ⟨first.records.trans second.records, first.calm.trans second.calm, ?_⟩
  intro supervisor held
  obtain ⟨next, kept, current, results⟩ := first.keeps supervisor held
  obtain ⟨last, keeps, also, likewise⟩ := second.keeps next kept
  exact ⟨last, keeps, also.trans current, likewise.trans results⟩

theorem keeps_of_supervisors (supervisors : after.supervisors = before.supervisors)
    (held : before.supervisor? index = some supervisor) :
    ∃ next, after.supervisor? index = some next ∧
      next.current = supervisor.current ∧ next.results = supervisor.results :=
  ⟨supervisor, supervisor?_of_supervisors supervisors held, rfl, rfl⟩

theorem defers_of_posts (index : Nat) (posts : after.posts = before.posts)
    (supervisors : after.supervisors = before.supervisors)
    (signals : after.signals = before.signals) (events : after.events = before.events) :
    Defers index stops marks before after :=
  ⟨records_of_posts index posts supervisors signals,
    calm_of_posts posts (tells_of_eq _ events),
    fun _ => keeps_of_supervisors supervisors⟩

theorem defers_report (site : Site) (index : Nat) (notice : Notice) :
    Defers index stops marks site (site.report notice) :=
  defers_of_posts index rfl rfl rfl rfl

theorem Tends.defers {post : Nat} {sent : Signal → Prop}
    (tends : Tends post sent before after)
    (mark : (after.job post).restartMark = (before.job post).restartMark)
    (rests : (before.job post).Rests (after.job post)) (index : Nat) :
    Defers index stops marks before after :=
  ⟨tends.records mark index, tends.calm rests,
    fun _ => keeps_of_supervisors tends.supervisors⟩

theorem defers_commit {post : Nat} {step : StopCall.Step}
    (endures : (site.job post).Endures step.job)
    (mark : step.job.restartMark = (site.job post).restartMark) (index : Nat) :
    Defers index stops marks site (site.commit post step) :=
  (tends_commit_any site post step).defers (mark_commit site mark)
    (endures_commit endures).rests index

theorem defers_beginStop [Timers] (site : Site) (index round : Nat) (timeout : Duration) :
    Defers index stops marks site (site.beginStop round timeout).1 :=
  defers_commit (StopCall.endures_begin site.now (site.job round) timeout false)
    (StopCall.restartMark_begin site.now (site.job round) timeout false) index

theorem defers_resumeStop [Timers] (site : Site) (index post : Nat) (call : StopCall) :
    Defers index stops marks site
      (site.commit post (call.resume site.now (site.job post))) :=
  defers_commit (StopCall.endures_resume site.now (site.job post) call)
    (StopCall.restartMark_resume site.now (site.job post) call) index

theorem defers_abort (site : Site) (index round : Nat) :
    Defers index stops marks site (site.setJob round (site.job round).abort) := by
  apply (tends_setJob_any site round _).defers
  · apply mark_setJob
    obtain ⟨_, frame⟩ := (site.job round).moveTo_frame .killed
    unfold Job.abort
    rw [frame]
  · exact (endures_setJob (Job.endures_abort _)).rests

theorem defers_setSupervisor (held : site.supervisor? index = some supervisor)
    {new : Supervisor} (current : new.current = supervisor.current)
    (results : new.results = supervisor.results)
    (keeps : supervisor.stopRequested = true → new.stopRequested = true)
    (asks : new.stopRequested = true → supervisor.stopRequested = true ∨ stops) :
    Defers index stops marks site (site.setSupervisor index new) := by
  refine ⟨records_setSupervisor held keeps asks, calm_of_posts rfl (tells_of_eq _ rfl), ?_⟩
  intro other kept
  cases held.symm.trans kept
  exact ⟨new, supervisor?_setSupervisor held new, current, results⟩

/-- The body of a job neither marks it nor starts it. -/
theorem WorksOn.defers {post : Nat} {sent : Signal → Prop} {waits : Attendance → Prop}
    {turn : Turn Site Activity} (works : WorksOn post sent waits site turn)
    (tended : (site.job post).IsTended) (index : Nat) :
    Defers index stops marks site turn.world :=
  works.tends.defers works.job.restartMark (works.job.rests tended) index

/-! ## Requests -/

theorem defers_markForRestart {round : Nat} (site : Site) (index : Nat)
    (wanted : marks round) :
    Defers index stops marks site
      (site.setJob round (site.job round).markForRestart) := by
  have tends := tends_setJob_any site round (site.job round).markForRestart
  refine ⟨tends.records_of_marks ?_ ?_ index, calm_setJob (Job.endures_markForRestart _),
    fun _ => keeps_of_supervisors tends.supervisors⟩
  · intro other marked
    obtain ⟨kind, mark⟩ := marked
    refine ⟨by rw [tends.charter]; exact kind, ?_⟩
    by_cases own : other = round
    · rw [own] at mark ⊢
      rcases job_setJob_or site round (site.job round).markForRestart with set | same
      · rw [set]
        rfl
      · rw [same]
        exact mark
    · rw [tends.job other own]
      exact mark
  · intro other marked
    by_cases own : other = round
    · rw [own]
      exact .inr wanted
    · obtain ⟨kind, mark⟩ := marked
      rw [tends.charter] at kind
      rw [tends.job other own] at mark
      exact .inl ⟨kind, mark⟩

theorem isMarked_markForRestart {round : Nat} {graces : Duration × Duration}
    (held : site.charter? round = some (some graces)) :
    (site.setJob round (site.job round).markForRestart).IsMarked round := by
  refine ⟨⟨graces, ?_⟩, ?_⟩
  · rw [(tends_setJob_any site round _).charter]
    exact held
  · rw [job_setJob_of_charter held]
    rfl

theorem defers_requestStop [Timers] (held : site.supervisor? index = some supervisor)
    (wanted : stops) : Defers index stops marks site (site.requestStop index).1 := by
  have requested : Defers index stops marks site
      (site.setSupervisor index { supervisor with stopRequested := true }) :=
    defers_setSupervisor held rfl rfl (fun _ => rfl) (fun _ => .inr wanted)
  unfold requestStop
  rw [held]
  dsimp only
  split
  · exact requested
  · exact requested.trans (defers_beginStop _ index _ _)

theorem defers_requestRestart [Timers] (held : site.supervisor? index = some supervisor)
    (wanted : ∀ round, supervisor.current = some round → marks round) :
    Defers index stops marks site (site.requestRestart index).1 := by
  unfold requestRestart
  rw [held]
  dsimp only
  split
  · exact defers_report site index .nothingToRestart
  · rename_i round current
    exact (defers_markForRestart site index (wanted round current)).trans
      (defers_beginStop _ index _ _)

theorem defers_requestKill (held : site.supervisor? index = some supervisor)
    (wanted : stops) : Defers index stops marks site (site.requestKill index) := by
  have requested : Defers index stops marks site
      (site.setSupervisor index { supervisor with stopRequested := true }) :=
    defers_setSupervisor held rfl rfl (fun _ => rfl) (fun _ => .inr wanted)
  unfold requestKill
  rw [held]
  dsimp only
  split
  · exact requested
  · rename_i round _
    have told := requested.trans (defers_report _ index .applicationKilled)
    exact told.trans (defers_abort _ index round)

theorem defers_takeSignal (held : site.supervisor? index = some supervisor)
    (wanted : (site.takeSignal index).2 = [] → stops) :
    Defers index stops marks site (site.takeSignal index).1 := by
  have counted : Defers index stops marks site
      (site.setSupervisor index { supervisor with signals := supervisor.signals + 1 }) :=
    defers_setSupervisor held rfl rfl id .inl
  unfold takeSignal at wanted ⊢
  rw [held] at wanted ⊢
  dsimp only at wanted ⊢
  by_cases first : supervisor.signals = 0
  · rw [if_pos first]
    exact counted
  · rw [if_neg first] at wanted ⊢
    have asked : stops := wanted rfl
    exact counted.trans
      (defers_requestKill (supervisor?_setSupervisor held _) asked)

theorem isMarked_requestRestart [Timers] (holds : site.Holds index supervisor) {round : Nat}
    (current : supervisor.current = some round) :
    (site.requestRestart index).1.IsMarked round := by
  obtain ⟨graces, held⟩ := holds.owns.rounds round current
  unfold requestRestart
  rw [holds.held]
  dsimp only
  rw [current]
  dsimp only
  have stops : Defers index False (fun _ => False) _ _ :=
    defers_beginStop (site.setJob round (site.job round).markForRestart) index round
      supervisor.settings.stopTimeout
  exact stops.records.keepsMark round (isMarked_markForRestart held)

end Site

end Overseer
