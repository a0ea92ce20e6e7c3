import Overseer.Proofs.Supervision.Succession

/-!
# Chronicles of a supervisor

A chronicle is a course that is told in full.  Callers may take hold of single rounds, a
child may turn out not to be waited for, and it is written down which children were
spawned and which were reaped.

`Moves` is the one place where the happenings of a chronicle are taken apart: a body works
on its post, a run takes a turn, a run is called, or something happens beside them.
-/

namespace Overseer

/-- A child, and the round whose body spawned it. -/
structure Offspring where
  round : Nat
  child : ProcessNumber
  deriving DecidableEq

namespace Site

/-- What the body at a position spawns when it is entered: the host with one more
process, and its number. -/
def spawn? (site : Site) (post : Nat) : Option (Host × ProcessNumber) :=
  if (site.job post).aborted then none
  else
    (site.application? post).bind fun application =>
      (site.host.spawn application.program application.report).toOption

/-- The child that a task spawns in its turn. -/
def spawned? (site : Site) : Activity → Option Offspring
  | .enter post => (site.spawn? post).map fun spawned => ⟨post, spawned.2⟩
  | _ => none

/-- The child that a body reaps when it is done with it: its end is known then. -/
def reapedOf? (site : Site) (post : Nat) (attendance : Attendance) : Option Offspring :=
  (site.application? post).bind fun _ =>
    (site.childStatus attendance).map fun _ => ⟨post, attendance.child⟩

/-- The child that a task reaps in its turn. -/
def reaped? (site : Site) : Activity → Option Offspring
  | .enter post =>
      (site.spawn? post).bind fun spawned =>
        { site with host := spawned.1 }.reapedOf? post (.running spawned.2)
  | .attend post attendance => site.reapedOf? post attendance
  | _ => none

end Site

/-- A course with the rounds that callers marked and the children of all rounds. -/
structure Chronicle where
  course : Course
  /-- The rounds that were marked by a caller who had hold of them. -/
  marked : List Nat
  /-- The children that were spawned, the oldest first. -/
  spawned : List Offspring
  /-- The children that were waited for until they had ended. -/
  reaped : List Offspring

namespace Chronicle

/-- What can happen in a chronicle. -/
inductive Happening where
  | occurs (occurrence : Course.Occurrence)
  | marks (round : Nat)
  /-- A caller stops a round, which is no demand on the supervisor. -/
  | stops (round : Nat) (timeout : Duration)
  | aborts (round : Nat)
  | starts (round : Nat)
  /-- The child of the body at a position cannot be waited for. -/
  | fails (position : Nat) (fault : Fault)

def fresh (host : Host) (supervisor : Supervisor) : Chronicle :=
  { course := Course.fresh host supervisor
    marked := []
    spawned := []
    reaped := [] }

/-- What the turn of a task makes of children. -/
def turn (chronicle : Chronicle) (task : Activity) : Chronicle :=
  { chronicle with
    spawned := chronicle.spawned ++ (chronicle.course.site.spawned? task).toList
    reaped := chronicle.reaped ++ (chronicle.course.site.reaped? task).toList }

/-- The chronicle before it goes on with an occurrence. -/
def records (chronicle : Chronicle) : Course.Occurrence → Chronicle
  | .turns position =>
      match chronicle.course.tasks[position]? with
      | some task => chronicle.turn task
      | none => chronicle
  | _ => chronicle

/-- A caller who has hold of a round changes its job. -/
def setRound (chronicle : Chronicle) (round : Nat) (job : Job) : Chronicle :=
  { chronicle with
    course := { chronicle.course with
      site := chronicle.course.site.setJob round job } }

/-- The stop of a round by a caller who has hold of it. -/
def stopRound [Timers] (chronicle : Chronicle) (round : Nat) (timeout : Duration) :
    Chronicle :=
  let (stopped, standing) := chronicle.course.site.beginStop round timeout
  { chronicle with
    course := { chronicle.course with
      site := stopped
      tasks := chronicle.course.tasks ++
        (Site.stopActivity (some (round, standing))).toList } }

def report (chronicle : Chronicle) (notice : Notice) : Chronicle :=
  { chronicle with
    course := { chronicle.course with site := chronicle.course.site.report notice } }

/-- The start of a round by a caller who has hold of it. -/
def startRound (chronicle : Chronicle) (round : Nat) : Chronicle :=
  match (chronicle.course.site.job round).start with
  | .ok job =>
      { chronicle with
        course := { chronicle.course with
          site := chronicle.course.site.setJob round job
          tasks := chronicle.course.tasks ++ [.enter round] } }
  | .error notice => chronicle.report notice

/-- The body at a position ends, since its child could not be waited for. -/
def fail (chronicle : Chronicle) (position post : Nat) (application : Application)
    (attendance : Attendance) (fault : Fault) : Chronicle :=
  let site := chronicle.course.site
  { chronicle with
    course := { chronicle.course with
      site := site.failApplication post application attendance fault
      tasks := chronicle.course.tasks.eraseIdx position }
    reaped := chronicle.reaped ++ (site.reapedOf? post attendance).toList }

def step? [Timers] (chronicle : Chronicle) : Happening → Option Chronicle
  | .occurs occurrence =>
      (chronicle.course.step? occurrence).map fun course =>
        { chronicle.records occurrence with course := course }
  | .marks round =>
      (chronicle.course.site.application? round).map fun _ =>
        { chronicle.setRound round (chronicle.course.site.job round).markForRestart with
          marked := chronicle.marked ++ [round] }
  | .stops round timeout =>
      (chronicle.course.site.application? round).map fun _ =>
        chronicle.stopRound round timeout
  | .aborts round =>
      (chronicle.course.site.application? round).map fun _ =>
        chronicle.setRound round (chronicle.course.site.job round).abort
  | .starts round =>
      (chronicle.course.site.application? round).map fun _ => chronicle.startRound round
  | .fails position fault =>
      match chronicle.course.tasks[position]? with
      | some (.attend post attendance) =>
          if (chronicle.course.site.job post).aborted then none
          else
            (chronicle.course.site.application? post).map fun application =>
              chronicle.fail position post application attendance fault
      | _ => none

def run? [Timers] (chronicle : Chronicle) (happenings : List Happening) : Option Chronicle :=
  happenings.foldlM step? chronicle

theorem run?_cons [Timers] {chronicle final : Chronicle} {happening : Happening}
    {rest : List Happening} (runs : chronicle.run? (happening :: rest) = some final) :
    ∃ next, chronicle.step? happening = some next ∧ next.run? rest = some final := by
  unfold run? at runs
  rw [List.foldlM_cons] at runs
  exact Option.bind_eq_some_iff.mp runs

/-- Somebody who asked for a restart, or marked one, found this round. -/
def Found (chronicle : Chronicle) (round : Nat) : Prop :=
  (∃ asked ∈ chronicle.course.asked,
    asked.demand = .restart ∧ asked.round = some round) ∨ round ∈ chronicle.marked

/-! ## The ways in which a course goes on -/

/-- What a happening makes of the course. -/
inductive Moves [Timers] (stops : Prop) (marks : Nat → Prop) (course next : Course) :
    Happening → Prop where
  /-- The bodies and the runs stay as they are. -/
  | beside {happening : Happening}
      (defers : Site.Defers 0 stops marks course.site next.site)
      (tasks : ∀ task, task.body? ≠ none ∨ task.isRun = true →
        (task ∈ next.tasks ↔ task ∈ course.tasks)) :
      Moves stops marks course next happening
  | works {happening : Happening} {position post : Nat} {task : Activity}
      {turn : Turn Site Activity}
      (taken : course.tasks[position]? = some task) (own : task.body? = some post)
      (works : Site.WorksOn post (fun _ => True) (fun _ => True) course.site turn)
      (site : next.site = turn.world)
      (tasks : next.tasks = course.tasks.eraseIdx position ++ turn.rest.toList) :
      Moves stops marks course next happening
  | calls (idle : ∀ task ∈ course.tasks, task.isRun = false)
      (site : next.site = course.site)
      (tasks : next.tasks = course.tasks ++ [.run 0 .called]) :
      Moves stops marks course next (.occurs .runs)
  | runs {happening : Happening} {position : Nat} {stage : RunStage}
      {supervisor : Supervisor} {step : RunStep}
      (taken : course.tasks[position]? = some (.run 0 stage))
      (holds : course.site.Holds 0 supervisor) (stands : course.site.Stands stage)
      (advances : course.site.Advances supervisor stage step)
      (happens : happening = .occurs (.turns position) ∨
        stage ≠ .called ∧ happening = .occurs (.overtakes position))
      (proceed : next = course.proceed position step) :
      Moves stops marks course next happening

variable {settings : Settings} {chronicle next final : Chronicle}
  {happening : Happening} {stops : Prop} {marks : Nat → Prop}

/-- Tasks that are neither bodies nor runs come and go. -/
theorem besides_of_added {kept added tasks : List Activity}
    (remain : kept.Sublist tasks)
    (left : ∀ task ∈ tasks, task ∉ kept → task.body? = none ∧ task.isRun = false)
    (aside : ∀ task ∈ added, task.body? = none ∧ task.isRun = false) :
    ∀ task, task.body? ≠ none ∨ task.isRun = true →
      (task ∈ kept ++ added ↔ task ∈ tasks) := by
  intro task kind
  have absent : ¬ (task.body? = none ∧ task.isRun = false) := by
    intro neither
    rcases kind with body | run
    · exact body neither.1
    · rw [neither.2] at run
      cases run
  rw [List.mem_append]
  constructor
  · intro member
    rcases member with old | new
    · exact remain.subset old
    · exact absurd (aside task new) absent
  · intro member
    by_cases stays : task ∈ kept
    · exact .inl stays
    · exact absurd (left task member stays) absent

theorem left_of_taken {course : Course} {position : Nat} {taken : Activity}
    (held : course.tasks[position]? = some taken) (body : taken.body? = none)
    (run : taken.isRun = false) :
    ∀ task ∈ course.tasks, task ∉ course.tasks.eraseIdx position →
      task.body? = none ∧ task.isRun = false := by
  intro task member gone
  rcases List.mem_cons.mp ((Course.perm_of_taken held).mem_iff.mpr member) with is | stays
  · rw [is]
    exact ⟨body, run⟩
  · exact absurd stays gone

theorem left_none {tasks : List Activity} :
    ∀ task ∈ tasks, task ∉ tasks → task.body? = none ∧ task.isRun = false :=
  fun _ member gone => absurd member gone

theorem moves_of_demand [Timers] {course : Course} {demand : Demand}
    {answered : Site × Option (Nat × StopCall.Standing)}
    (defers : Site.Defers 0 stops marks course.site answered.1) :
    Moves stops marks course (course.answer demand answered) happening :=
  .beside defers (besides_of_added (List.Sublist.refl _) left_none
    (fun task member => (Course.aside_of_stopActivity answered.1 _ task member).2))

/-- The demands of an occurrence account for what it records. -/
structure Accounts (stops : Prop) (marks : Nat → Prop) (course : Course) : Prop where
  stops : ∀ one ∈ course.asked, one.demand = .stop ∨ one.demand = .kill → stops
  marks : ∀ one ∈ course.asked, one.demand = .restart →
    ∀ round, one.round = some round → marks round

variable {course after : Course} {occurrence : Course.Occurrence}

theorem Accounts.restart {supervisor : Supervisor} (accounts : Accounts stops marks after)
    (held : course.site.supervisor? 0 = some supervisor)
    (asked : course.ask .restart ∈ after.asked) (round : Nat)
    (current : supervisor.current = some round) : marks round := by
  apply accounts.marks _ asked rfl
  unfold Course.ask
  rw [held]
  exact current

theorem moves_of_stopTurn [Timers] {position post : Nat} {task : StopTask} {counted : Bool}
    (sound : course.Sound settings)
    (taken : course.tasks[position]? = some (.stop post task counted)) :
    Moves stops marks course (course.turn position (.stop post task counted))
      happening := by
  obtain ⟨call, waits⟩ := sound.serves _ (List.mem_of_getElem? taken)
  subst waits
  obtain ⟨⟨openStops, world⟩, begun, rest⟩ :=
    Site.stopTurn_cases course.site post call counted
  refine .beside ?_ (besides_of_added (List.eraseIdx_sublist course.tasks position)
    (left_of_taken taken rfl rfl) ?_)
  · show Site.Defers 0 stops marks course.site
      (course.site.stopTurn post (.waits call) counted).world
    rw [world]
    exact (Site.defers_resumeStop course.site 0 post call).trans
      (Site.defers_of_posts 0 rfl rfl rfl rfl)
  · intro next member
    change next ∈ (course.site.stopTurn post (.waits call) counted).rest.toList ++
      (course.site.stopTurn post (.waits call) counted).begun at member
    rw [begun, List.append_nil, Option.mem_toList] at member
    obtain ⟨later, _, is⟩ := (rest next).mp member
    rw [is]
    exact ⟨rfl, rfl⟩

theorem moves_of_execute [Timers] {position index : Nat} {command : Command}
    (sound : course.Sound settings)
    (taken : course.tasks[position]? = some (.execute index command))
    (accounts : Accounts stops marks (course.turn position (.execute index command))) :
    Moves stops marks course (course.turn position (.execute index command))
      happening := by
  have first : index = 0 := sound.serves _ (List.mem_of_getElem? taken)
  subst first
  obtain ⟨supervisor, holds, _⟩ := sound.supervised
  refine .beside ?_ (besides_of_added (List.eraseIdx_sublist course.tasks position)
    (left_of_taken taken rfl rfl) ?_)
  · have asked : course.ask (command.execute { stop := .stop, restart := .restart }) ∈
        (course.turn position (.execute 0 command)).asked :=
      List.mem_append_right _ (List.mem_singleton.mpr rfl)
    cases command with
    | stop =>
        apply Site.defers_requestStop holds.held
        exact accounts.stops _ asked (.inl rfl)
    | restart =>
        apply Site.defers_requestRestart holds.held
        exact accounts.restart holds.held asked
  · intro next member
    rcases List.mem_append.mp member with waits | begun
    · exact (Course.aside_of_stopActivity course.site _ next waits).2
    · cases begun

theorem moves_of_turn [Timers] {position : Nat} {task : Activity}
    (sound : course.Sound settings) (taken : course.tasks[position]? = some task)
    (accounts : Accounts stops marks (course.turn position task)) :
    Moves stops marks course (course.turn position task) (.occurs (.turns position)) := by
  have works : ∀ post, task.body? = some post →
      Moves stops marks course (course.turn position task) (.occurs (.turns position)) := by
    intro post own
    have works := course.site.worksOn_turn own
    refine .works taken own works rfl ?_
    show _ ++ (_ ++ (course.site.turn task).begun) = _
    rw [works.begun, List.append_nil]
  cases task with
  | enter post | guard post _ | attend post _ => exact works post rfl
  | stop post task counted => exact moves_of_stopTurn sound taken
  | execute index command => exact moves_of_execute sound taken accounts
  | run index stage =>
      obtain ⟨supervisor, holds, _⟩ := sound.supervised
      obtain ⟨first, stands⟩ := sound.serves _ (List.mem_of_getElem? taken)
      subst first
      exact .runs taken holds stands (.turns stage) (.inl rfl)
        (Course.turn_run holds.held position stage)

theorem moves_of_signal [Timers] (sound : course.Sound settings)
    (accounts : Accounts stops marks course.signal) :
    Moves stops marks course course.signal happening := by
  obtain ⟨supervisor, holds, _⟩ := sound.supervised
  refine .beside (Site.defers_takeSignal holds.held ?_)
    (besides_of_added (List.Sublist.refl _) left_none ?_)
  · intro silent
    apply accounts.stops (course.ask .kill) _ (.inr rfl)
    unfold Course.signal
    dsimp only
    rw [silent]
    exact List.mem_append_right _ (List.mem_singleton.mpr rfl)
  · intro task member
    unfold Site.takeSignal at member
    rw [holds.held] at member
    dsimp only at member
    split at member
    · rw [List.mem_singleton.mp member]
      exact ⟨rfl, rfl⟩
    · cases member

theorem moves_of_occurrence [Timers] (sound : course.Sound settings)
    (steps : course.step? occurrence = some after)
    (accounts : Accounts stops marks after) :
    Moves stops marks course after (.occurs occurrence) := by
  obtain ⟨supervisor, holds, _⟩ := sound.supervised
  cases Course.step_of_step? steps with
  | runs idle => exact .calls idle rfl rfl
  | turns taken => exact moves_of_turn sound taken accounts
  | overtakes listens held takes =>
      cases holds.held.symm.trans held
      exact .runs listens holds (sound.started_of_listens listens) (.overtakes takes)
        (.inr ⟨RunStage.noConfusion, rfl⟩) rfl
  | signals => exact moves_of_signal sound accounts
  | stops =>
      apply moves_of_demand
      apply Site.defers_requestStop holds.held
      exact accounts.stops (course.ask .stop) (by simp [Course.answer]) (.inl rfl)
  | kills =>
      apply moves_of_demand
      apply Site.defers_requestKill holds.held
      exact accounts.stops (course.ask .kill) (by simp [Course.answer]) (.inr rfl)
  | restarts =>
      apply moves_of_demand
      apply Site.defers_requestRestart holds.held
      exact accounts.restart holds.held (by simp [Course.answer])
  | abandons position taken =>
      refine .beside (.refl 0 stops marks _) ?_
      have remain := besides_of_added (List.eraseIdx_sublist course.tasks position)
        (left_of_taken taken rfl rfl)
        (fun _ member => absurd member List.not_mem_nil)
      rw [List.append_nil] at remain
      exact remain
  | acts change | passes time =>
      exact .beside (Site.defers_of_posts 0 rfl rfl rfl rfl) fun _ _ => Iff.rfl

/-! ## Sound chronicles -/

/-- The supervisor is at the round that its run knows. -/
structure IsPlaced (course : Course) : Prop where
  expects : ∀ supervisor, course.site.supervisor? 0 = some supervisor →
    ∀ stage, .run 0 stage ∈ course.tasks → supervisor.Expects stage
  vacant : ∀ supervisor, course.site.supervisor? 0 = some supervisor →
    (∀ task ∈ course.tasks, task.isRun = false) → supervisor.IsVacant

/-- A chronicle whose course is sound and whose rounds were all started or withdrawn. -/
structure Sound (settings : Settings) (chronicle : Chronicle) : Prop where
  course : chronicle.course.Sound settings
  placed : IsPlaced chronicle.course
  started : ∀ round, ¬ chronicle.course.site.IsOpen round

theorem Sound.refuses {round : Nat} {application : Application}
    (sound : chronicle.Sound settings)
    (attended : chronicle.course.site.application? round = some application) :
    (chronicle.course.site.job round).start = .error .alreadyStarted := by
  apply if_neg
  intro unlaunched
  exact sound.started round ⟨⟨_, Site.charter?_of_application attended⟩, unlaunched⟩

/-! ## Happenings -/

/-- The ways in which a chronicle goes on. -/
inductive Step [Timers] (chronicle : Chronicle) : Happening → Chronicle → Prop where
  | occurs {occurrence : Course.Occurrence} {after : Course}
      (occurs : chronicle.course.step? occurrence = some after) :
      Step chronicle (.occurs occurrence)
        { chronicle.records occurrence with course := after }
  | marks {round : Nat} {application : Application}
      (attended : chronicle.course.site.application? round = some application) :
      Step chronicle (.marks round)
        { chronicle.setRound round (chronicle.course.site.job round).markForRestart with
          marked := chronicle.marked ++ [round] }
  | stops (round : Nat) (timeout : Duration) :
      Step chronicle (.stops round timeout) (chronicle.stopRound round timeout)
  | aborts (round : Nat) :
      Step chronicle (.aborts round)
        (chronicle.setRound round (chronicle.course.site.job round).abort)
  | starts (round : Nat) :
      Step chronicle (.starts round) (chronicle.report .alreadyStarted)
  | fails {position post : Nat} {application : Application} {attendance : Attendance}
      (taken : chronicle.course.tasks[position]? = some (.attend post attendance))
      (attended : chronicle.course.site.application? post = some application)
      (fault : Fault) :
      Step chronicle (.fails position fault)
        (chronicle.fail position post application attendance fault)

theorem step_of_step? [Timers] (sound : chronicle.Sound settings)
    (steps : chronicle.step? happening = some next) :
    chronicle.Step happening next := by
  cases happening with
  | occurs occurrence =>
      obtain ⟨after, occurs, is⟩ := Option.map_eq_some_iff.mp steps
      rw [← is]
      exact .occurs occurs
  | marks round =>
      obtain ⟨application, attended, is⟩ := Option.map_eq_some_iff.mp steps
      rw [← is]
      exact .marks attended
  | stops round timeout =>
      obtain ⟨_, _, is⟩ := Option.map_eq_some_iff.mp steps
      rw [← is]
      exact .stops round timeout
  | aborts round =>
      obtain ⟨_, _, is⟩ := Option.map_eq_some_iff.mp steps
      rw [← is]
      exact .aborts round
  | starts round =>
      obtain ⟨application, attended, is⟩ := Option.map_eq_some_iff.mp steps
      rw [← is]
      unfold startRound
      rw [sound.refuses attended]
      exact .starts round
  | fails position fault =>
      unfold step? at steps
      dsimp only at steps
      split at steps
      · rename_i post attendance taken
        split at steps
        · cases steps
        · obtain ⟨application, attended, is⟩ := Option.map_eq_some_iff.mp steps
          rw [← is]
          exact .fails taken attended fault
      · cases steps

theorem worksOn_fail {post : Nat} {application : Application}
    (attended : course.site.application? post = some application)
    (attendance : Attendance) (fault : Fault) :
    Site.WorksOn post (fun _ => True) (fun _ => True) course.site
      ⟨course.site.failApplication post application attendance fault, none, []⟩ :=
  Site.worksOn_failApplication attended attendance fault trivial

theorem course_of_carries {site : Site} (sound : course.Sound settings)
    (carries : Site.Carries 0 course.site site) :
    Course.Sound settings { course with site := site } := by
  have carried := sound.carries carries (List.Sublist.refl course.tasks)
    (fun _ member => absurd member List.not_mem_nil) course.asked
  rw [List.append_nil] at carried
  exact carried

theorem course_setJob {round : Nat} {job : Job} (sound : course.Sound settings)
    (endures : (course.site.job round).Endures job) :
    Course.Sound settings { course with site := course.site.setJob round job } :=
  course_of_carries sound (Site.carries_setJob endures 0)

theorem course_step [Timers] (sound : chronicle.Sound settings)
    (steps : chronicle.step? happening = some next) : next.course.Sound settings := by
  cases step_of_step? sound steps with
  | occurs occurs => exact sound.course.step occurs
  | marks _ => exact course_setJob sound.course (Job.endures_markForRestart _)
  | aborts round => exact course_setJob sound.course (Job.endures_abort _)
  | starts round =>
      exact course_of_carries sound.course
        (Site.carries_report chronicle.course.site 0 .alreadyStarted)
  | stops round timeout =>
      exact sound.course.meets (_, some (round, _))
        (Site.carries_beginStop chronicle.course.site 0 round timeout)
        (List.Sublist.refl _) _
  | @fails position post application attendance taken attended fault =>
      have works := sound.course.works taken rfl (worksOn_fail attended attendance fault)
        chronicle.course.asked
      rw [Option.toList_none, List.append_nil] at works
      exact works

theorem remains_step [Timers] (sound : chronicle.Sound settings)
    (steps : chronicle.step? happening = some next) :
    chronicle.course.site.Remains next.course.site := by
  cases step_of_step? sound steps with
  | occurs occurs => exact sound.course.remains occurs
  | marks _ | aborts _ => exact (Site.tends_setJob_any _ _ _).remains
  | starts round =>
      exact (Site.carries_report chronicle.course.site 0 .alreadyStarted).remains
  | stops round timeout =>
      exact (Site.carries_beginStop chronicle.course.site 0 round timeout).remains
  | fails _ attended fault => exact (worksOn_fail attended _ fault).tends.remains

theorem records_turns {position : Nat} {task : Activity}
    (taken : chronicle.course.tasks[position]? = some task) :
    chronicle.records (.turns position) = chronicle.turn task := by
  unfold records
  dsimp only
  rw [taken]

/-- What was asked, marked and reaped is not forgotten. -/
structure Grows (chronicle next : Chronicle) : Prop where
  asked : chronicle.course.asked ⊆ next.course.asked
  marked : chronicle.marked ⊆ next.marked
  reaped : chronicle.reaped ⊆ next.reaped

theorem grows_records (chronicle : Chronicle) (occurrence : Course.Occurrence) :
    (chronicle.records occurrence).marked = chronicle.marked ∧
      chronicle.reaped ⊆ (chronicle.records occurrence).reaped := by
  unfold records
  split
  · split
    · exact ⟨rfl, List.subset_append_left _ _⟩
    · exact ⟨rfl, List.Subset.refl _⟩
  · exact ⟨rfl, List.Subset.refl _⟩

theorem grows_step [Timers] (sound : chronicle.Sound settings)
    (steps : chronicle.step? happening = some next) :
    Grows chronicle next := by
  cases step_of_step? sound steps with
  | @occurs occurrence after occurs =>
      obtain ⟨more, asked, _⟩ := Course.asked_of_step occurs
      obtain ⟨marked, reaped⟩ := grows_records chronicle occurrence
      refine ⟨?_, ?_, reaped⟩
      · rw [asked]
        exact List.subset_append_left _ _
      · rw [marked]
        exact List.Subset.refl _
  | marks _ =>
      exact ⟨List.Subset.refl _, List.subset_append_left _ _, List.Subset.refl _⟩
  | aborts _ | starts _ | stops _ _ =>
      exact ⟨List.Subset.refl _, List.Subset.refl _, List.Subset.refl _⟩
  | fails _ _ _ =>
      exact ⟨List.Subset.refl _, List.Subset.refl _, List.subset_append_left _ _⟩

theorem Found.grows {round : Nat} (found : chronicle.Found round)
    (grows : Grows chronicle next) : next.Found round := by
  rcases found with ⟨one, member, demand⟩ | found
  · exact .inl ⟨one, grows.asked member, demand⟩
  · exact .inr (grows.marked found)

/-- What happens moves the course; whatever it asks for can be found afterwards. -/
theorem moves_of_step [Timers] (sound : chronicle.Sound settings)
    (steps : chronicle.step? happening = some next) :
    Moves next.course.WasStopped next.Found chronicle.course next.course happening := by
  obtain ⟨supervisor, holds, _⟩ := sound.course.supervised
  cases step_of_step? sound steps with
  | occurs occurs =>
      apply moves_of_occurrence sound.course occurs
      constructor
      · exact fun one member demand => ⟨one, member, demand⟩
      · exact fun one member demand round found => .inl ⟨one, member, demand, found⟩
  | marks _ =>
      refine .beside (Site.defers_markForRestart _ 0 ?_) fun _ _ => Iff.rfl
      exact .inr (List.mem_append_right _ (List.mem_singleton.mpr rfl))
  | aborts round => exact .beside (Site.defers_abort _ 0 round) fun _ _ => Iff.rfl
  | starts round => exact .beside (Site.defers_report _ 0 _) fun _ _ => Iff.rfl
  | stops round timeout =>
      exact .beside (Site.defers_beginStop _ 0 round timeout)
        (besides_of_added (List.Sublist.refl _) left_none
          (fun task member =>
            (Course.aside_of_stopActivity chronicle.course.site _ task member).2))
  | fails taken attended fault =>
      exact .works taken rfl (worksOn_fail attended _ fault) rfl (List.append_nil _).symm

/-! ## Where the run stands -/

/-- What a happening makes of the run. -/
inductive Runs [Timers] (stops : Prop) (marks : Nat → Prop) (course next : Course) :
    Happening → Prop where
  | stays {happening : Happening}
      (defers : Site.Defers 0 stops marks course.site next.site)
      (same : ∀ task, task.isRun = true → (task ∈ next.tasks ↔ task ∈ course.tasks)) :
      Runs stops marks course next happening
  | calls (idle : ∀ task ∈ course.tasks, task.isRun = false)
      (site : next.site = course.site)
      (called : ∀ task, task.isRun = true →
        (task ∈ next.tasks ↔ task = .run 0 .called)) :
      Runs stops marks course next (.occurs .runs)
  | goesOn {happening : Happening} {position : Nat} {stage : RunStage}
      {supervisor : Supervisor} {step : RunStep}
      (taken : course.tasks[position]? = some (.run 0 stage))
      (holds : course.site.Holds 0 supervisor) (stands : course.site.Stands stage)
      (advances : course.site.Advances supervisor stage step)
      (happens : happening = .occurs (.turns position) ∨
        stage ≠ .called ∧ happening = .occurs (.overtakes position))
      (site : next.site = step.site)
      (waits : next.tasks.filter Activity.isRun = (step.waits.map (.run 0)).toList) :
      Runs stops marks course next happening

theorem run_mem_iff {tasks : List Activity} {waits : Option RunStage} {task : Activity}
    (runs : tasks.filter Activity.isRun = (waits.map (.run 0)).toList)
    (run : task.isRun = true) :
    task ∈ tasks ↔ ∃ later, waits = some later ∧ task = .run 0 later := by
  have filtered : task ∈ tasks ↔ task ∈ tasks.filter Activity.isRun := by
    simp [run]
  rw [filtered, runs, Option.mem_toList, Option.map_eq_some_iff]
  simp only [eq_comm]

theorem runs_of_moves [Timers] (sound : course.Sound settings)
    (moves : Moves stops marks course after happening) :
    Runs stops marks course after happening := by
  cases moves with
  | beside defers tasks =>
      exact .stays defers fun task run => tasks task (.inr run)
  | @works _ position post task turn taken own works site tasks =>
      have tended := (sound.serves task (List.mem_of_getElem? taken)).tended own
      refine .stays (by rw [site]; exact works.defers tended 0) ?_
      intro other run
      have apart : other ≠ task := by
        intro is
        rw [is] at run
        cases task with
        | run _ _ => cases own
        | enter _ | guard _ _ | attend _ _ | stop _ _ _ | execute _ _ => cases run
      have rest : other ∉ turn.rest.toList := by
        intro member
        rcases works.rest other (Option.mem_toList.mp member) with
          ⟨watch, is⟩ | ⟨attendance, is, _⟩
        · rw [is] at run
          cases run
        · rw [is] at run
          cases run
      rw [tasks, List.mem_append, or_iff_left rest,
        ← (Course.perm_of_taken taken).mem_iff, List.mem_cons, or_iff_right apart]
  | calls idle site tasks =>
      refine .calls idle site ?_
      intro task run
      have old : task ∉ course.tasks := by
        intro member
        rw [idle task member] at run
        cases run
      rw [tasks, List.mem_append, or_iff_right old, List.mem_singleton]
  | runs taken holds stands advances happens proceed =>
      rw [proceed]
      exact .goesOn taken holds stands advances happens rfl
        (sound.filter_proceed taken (advances.proceeds holds stands))

theorem records_of_moves [Timers] {stops : Prop} {marks : Nat → Prop}
    (sound : course.Sound settings) (moves : Moves stops marks course after happening) :
    Site.Records 0 stops marks course.site after.site := by
  cases runs_of_moves sound moves with
  | stays defers same => exact defers.records
  | calls idle site called =>
      rw [site]
      exact .refl 0 stops marks course.site
  | goesOn _ holds stands advances _ site _ =>
      rw [site]
      exact Site.records_of_deeds (advances.proceeds holds stands).deeds

theorem isVacant_congr {first second : Supervisor}
    (current : second.current = first.current) (results : second.results = first.results)
    (vacant : first.IsVacant) : second.IsVacant := by
  constructor
  · rw [current, results]
    exact vacant.uncrashed
  · rw [current, results]
    exact vacant.returned

theorem expects_congr {first second : Supervisor} {stage : RunStage}
    (current : second.current = first.current) (results : second.results = first.results)
    (expects : first.Expects stage) : second.Expects stage := by
  cases stage with
  | called => exact isVacant_congr current results expects
  | listening round deadline => exact current.trans expects
  | settling round call => trivial
  | closing code gate call => exact current.trans expects

/-- What a supervisor knows of the current round after a turn of its run. -/
def Awaits (supervisor : Supervisor) : Option RunStage → Prop
  | some stage => supervisor.Expects stage
  | none => supervisor.IsVacant

theorem awaits_of_launches {site : Site} {step : RunStep} {round : Nat}
    {supervisor : Supervisor} (launches : Site.Launches 0 site step round)
    (held : step.site.supervisor? 0 = some supervisor) :
    Awaits supervisor step.waits := by
  obtain ⟨deadline, listens⟩ := launches.waits
  obtain ⟨next, kept, current⟩ := launches.current
  cases kept.symm.trans held
  rw [listens]
  exact current

theorem awaits_of_retires {site : Site} {step : RunStep} {supervisor : Supervisor}
    (retires : Site.Retires 0 site step)
    (held : step.site.supervisor? 0 = some supervisor) :
    Awaits supervisor step.waits := by
  obtain ⟨next, kept, vacant, idle⟩ := retires.vacant
  cases kept.symm.trans held
  cases waits : step.waits with
  | none => exact vacant
  | some stage =>
      obtain ⟨code, gate, call, is⟩ := retires.waits stage waits
      rw [is]
      exact idle (by rw [waits]; rfl)

theorem awaits_of_settles {site : Site} {step : RunStep} {supervisor : Supervisor}
    {renewed : Prop} (settles : Site.Settles 0 site renewed step)
    (held : step.site.supervisor? 0 = some supervisor) :
    Awaits supervisor step.waits := by
  cases settles with
  | renews _ _ _ launches _ => exact awaits_of_launches launches held
  | concludes _ _ retires _ _ => exact awaits_of_retires retires held
  | crashes retires _ => exact awaits_of_retires retires held

theorem awaits_of_leads {site : Site} {step : RunStep} {stage : RunStage}
    {before supervisor : Supervisor} (leads : Site.Leads 0 site before stage step)
    (expects : before.Expects stage)
    (held : step.site.supervisor? 0 = some supervisor) :
    Awaits supervisor step.waits := by
  cases leads with
  | listens waits begins calm kept =>
      obtain ⟨later, listens⟩ := waits
      cases kept.symm.trans held
      rw [listens]
      exact expects
  | settles _ settles => exact awaits_of_settles settles held
  | begins _ _ launches _ => exact awaits_of_launches launches held
  | withdraws _ _ _ _ settles => exact awaits_of_settles settles held
  | retires _ retires _ => exact awaits_of_retires retires held

/-- The supervisor is at the round that its run knows after each of its turns. -/
theorem placed_of_leads {step : RunStep} {stage : RunStage} {supervisor : Supervisor}
    (leads : Site.Leads 0 course.site supervisor stage step)
    (expects : supervisor.Expects stage) (site : after.site = step.site)
    (waits : after.tasks.filter Activity.isRun = (step.waits.map (.run 0)).toList) :
    IsPlaced after := by
  constructor
  · intro next kept later member
    rw [site] at kept
    have awaits := awaits_of_leads leads expects kept
    obtain ⟨_, standing, is⟩ := (run_mem_iff waits rfl).mp member
    cases is
    rw [standing] at awaits
    exact awaits
  · intro next kept idle
    rw [site] at kept
    have awaits := awaits_of_leads leads expects kept
    cases standing : step.waits with
    | none =>
        rw [standing] at awaits
        exact awaits
    | some later =>
        have run := idle (.run 0 later) ((run_mem_iff waits rfl).mpr ⟨later, standing, rfl⟩)
        cases run

theorem placed_step [Timers] (sound : chronicle.Sound settings)
    (steps : chronicle.step? happening = some next) : IsPlaced next.course := by
  obtain ⟨supervisor, holds, _⟩ := sound.course.supervised
  cases runs_of_moves sound.course (moves_of_step sound steps) with
  | stays defers same =>
      obtain ⟨after, held, current, results⟩ := defers.keeps supervisor holds.held
      constructor
      · intro other also stage member
        cases held.symm.trans also
        exact expects_congr current results
          (sound.placed.expects supervisor holds.held stage ((same _ rfl).mp member))
      · intro other also idle
        cases held.symm.trans also
        apply isVacant_congr current results
        apply sound.placed.vacant supervisor holds.held
        intro task member
        cases run : task.isRun with
        | false => rfl
        | true => rw [← run, idle task ((same task run).mpr member)]
  | calls idle site called =>
      have vacant := sound.placed.vacant supervisor holds.held idle
      constructor
      · intro other held stage member
        rw [site] at held
        cases holds.held.symm.trans held
        cases (called _ rfl).mp member
        exact vacant
      · intro other held _
        rw [site] at held
        cases holds.held.symm.trans held
        exact vacant
  | goesOn taken held stands advances _ site waits =>
      have expects :=
        sound.placed.expects _ held.held _ (List.mem_of_getElem? taken)
      exact placed_of_leads (advances.leads held stands expects) expects site waits

theorem started_step [Timers] (sound : chronicle.Sound settings)
    (steps : chronicle.step? happening = some next) (round : Nat) :
    ¬ next.course.site.IsOpen round := by
  intro left
  apply sound.started round
  cases runs_of_moves sound.course (moves_of_step sound steps) with
  | stays defers same => exact defers.calm.quiet.opened round left
  | calls idle site called =>
      rw [site] at left
      exact left
  | goesOn taken holds stands advances _ site _ =>
      rw [site] at left
      have expects :=
        sound.placed.expects _ holds.held _ (List.mem_of_getElem? taken)
      exact (advances.leads holds stands expects).opened round left

/-- Whatever happens, a sound chronicle stays sound. -/
theorem sound_step [Timers] (sound : chronicle.Sound settings)
    (steps : chronicle.step? happening = some next) : next.Sound settings :=
  ⟨course_step sound steps, placed_step sound steps, started_step sound steps⟩

theorem sound_fresh (host : Host) (settings : Settings)
    (inherited : List (String × List UInt8)) :
    (fresh host (Supervisor.fresh settings inherited)).Sound settings := by
  refine ⟨Course.sound_fresh host settings inherited, ⟨?_, ?_⟩, ?_⟩
  · intro supervisor held stage member
    cases member
  · intro supervisor held idle
    cases held
    exact Supervisor.isVacant_of_idle rfl
  · intro round left
    obtain ⟨⟨graces, known⟩, _⟩ := left
    cases known

/-- What every step of a chronicle keeps is kept by a run. -/
theorem keeps_run [Timers] (kept : Chronicle → Prop) {happenings : List Happening}
    (sound : chronicle.Sound settings) (start : kept chronicle)
    (steps : ∀ {chronicle next : Chronicle} {happening : Happening},
      chronicle.Sound settings → kept chronicle →
        chronicle.step? happening = some next → kept next)
    (runs : chronicle.run? happenings = some final) : kept final := by
  induction happenings generalizing chronicle with
  | nil =>
      cases runs
      exact start
  | cons happening rest induction =>
      obtain ⟨next, first, continues⟩ := run?_cons runs
      exact induction (sound_step sound first) (steps sound start first) continues

theorem sound_run [Timers] {happenings : List Happening} (sound : chronicle.Sound settings)
    (runs : chronicle.run? happenings = some final) : final.Sound settings :=
  keeps_run (·.Sound settings) sound sound (fun sound _ steps => sound_step sound steps)
    runs

end Chronicle

end Overseer
