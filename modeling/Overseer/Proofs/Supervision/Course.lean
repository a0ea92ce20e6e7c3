import Mathlib.Data.List.Nodup
import Mathlib.Data.List.Perm.Basic
import Overseer.Proofs.Supervision.Runs

/-!
# Courses of a supervisor

A course is a site with one supervisor, the tasks that have not ended, and what was
asked of the supervisor.  An occurrence is one step of it: a task takes a turn, a
caller asks for something, the host changes, or time passes.  Nothing is said about
their order: any task may take its turn at any time, and the host may do anything.

A run that listens may find a command and the end of its round together, and it may take
either of them first.  Its turn takes the end; it overtakes the end if it takes the
command.
-/

namespace Overseer

/-- What is asked of a supervisor. -/
inductive Demand where
  | stop
  | restart
  | kill
  deriving DecidableEq

/-- A demand, when it was made, and the round that was current then. -/
structure Asked where
  time : Instant
  demand : Demand
  round : Option Nat
  deriving DecidableEq

structure Course where
  site : Site
  tasks : List Activity
  /-- What was asked, the oldest first. -/
  asked : List Asked

/-- The demands that a task makes in its turn. -/
def Activity.demands : Activity → List Demand
  | .execute _ command => [command.execute { stop := .stop, restart := .restart }]
  | _ => []

def Activity.isRun : Activity → Bool
  | .run _ _ => true
  | _ => false

namespace Course

/-- What can happen in a course. -/
inductive Occurrence where
  | runs
  | turns (position : Nat)
  /-- The run at a position takes a command, although its round may have ended. -/
  | overtakes (position : Nat)
  | stops
  | restarts
  | kills
  /-- The supervisor is sent a signal. -/
  | signals
  /-- A caller gives up its stop. -/
  | abandons (position : Nat)
  | acts (change : Host → Host)
  | passes (time : Duration)

def fresh (host : Host) (supervisor : Supervisor) : Course :=
  { site := ((Site.fresh host).addSupervisor supervisor).1
    tasks := []
    asked := [] }

/-- A host with one program and a place for its files. -/
def plainHost (conducts : List Conduct) : Host :=
  { tree := ⟨[("run", .directory [])], []⟩
    sockets := Sockets.empty
    programPath := "/bin/app"
    conducts := conducts
    processes := #[]
    bystander := .absent
    told := [] }

/-- A supervisor of that program, with these bounds of its stops. -/
def plainSettings (stopTimeout killGrace : Duration) : Settings :=
  { socketPath := "/run/control"
    pidfilePath := "/run/pid"
    pollTimeout := Duration.ofSeconds 1
    stopTimeout := stopTimeout
    killGrace := killGrace
    connectTimeout := Duration.ofSeconds 1
    program := "/bin/app"
    arguments := [] }

/-- The processes of a host act, if one of them has something to do. -/
def reacts : Occurrence :=
  .acts fun host => host.react.getD host

def ask (course : Course) (demand : Demand) : Asked :=
  { time := course.site.now
    demand := demand
    round := (course.site.supervisor? 0).bind Supervisor.current }

/-- What becomes of a demand by a caller. -/
def answer (course : Course) (demand : Demand)
    (answered : Site × Option (Nat × StopCall.Standing)) : Course :=
  { site := answered.1
    tasks := course.tasks ++ (Site.stopActivity answered.2).toList
    asked := course.asked ++ [course.ask demand] }

def turn [Timers] (course : Course) (position : Nat) (task : Activity) : Course :=
  let turn := course.site.turn task
  { site := turn.world
    tasks := course.tasks.eraseIdx position ++ (turn.rest.toList ++ turn.begun)
    asked := course.asked ++ task.demands.map course.ask }

def proceed (course : Course) (position : Nat) (step : RunStep) : Course :=
  { course with
    site := step.site
    tasks := course.tasks.eraseIdx position ++
      ((step.waits.map (.run 0)).toList ++ step.begun) }

/-- The run at a position, which listens, takes a command that waits. -/
def overtake? [Timers] (course : Course) (position : Nat) : Option Course :=
  match course.tasks[position]? with
  | some (.run 0 (.listening round _)) =>
      (course.site.supervisor? 0).bind fun supervisor =>
        (supervisor.channel.gate.bind course.site.takeCommand?).map fun (taken, command) =>
          course.proceed position (taken.dispatch 0 supervisor round command)
  | _ => none

/-- A signal; the first one makes its demand later. -/
def signal (course : Course) : Course :=
  let taken := course.site.takeSignal 0
  { site := taken.1
    tasks := course.tasks ++ taken.2
    asked := course.asked ++ if taken.2.isEmpty then [course.ask .kill] else [] }

def step? [Timers] (course : Course) : Occurrence → Option Course
  | .runs =>
      if course.tasks.any Activity.isRun then none
      else some { course with tasks := course.tasks ++ [.run 0 .called] }
  | .turns position => (course.tasks[position]?).map (course.turn position)
  | .overtakes position => course.overtake? position
  | .stops => some (course.answer .stop (course.site.requestStop 0))
  | .restarts => some (course.answer .restart (course.site.requestRestart 0))
  | .kills => some (course.answer .kill (course.site.requestKill 0, none))
  | .signals => some course.signal
  | .abandons position =>
      match course.tasks[position]? with
      | some (.stop _ _ _) =>
          some { course with tasks := course.tasks.eraseIdx position }
      | _ => none
  | .acts change =>
      some { course with
        site := { course.site with host := change course.site.host } }
  | .passes time =>
      some { course with
        site := { course.site with now := course.site.now + time.nanos } }

def run? [Timers] (course : Course) (occurrences : List Occurrence) : Option Course :=
  occurrences.foldlM step? course

theorem run?_cons [Timers] {course final : Course} {occurrence : Occurrence}
    {rest : List Occurrence}
    (runs : course.run? (occurrence :: rest) = some final) :
    ∃ next, course.step? occurrence = some next ∧ next.run? rest = some final := by
  unfold run? at runs
  rw [List.foldlM_cons] at runs
  exact Option.bind_eq_some_iff.mp runs

/-- The ways in which a course goes on. -/
inductive Step [Timers] (course : Course) : Occurrence → Course → Prop where
  | runs (idle : ∀ task ∈ course.tasks, task.isRun = false) :
      Step course .runs { course with tasks := course.tasks ++ [.run 0 .called] }
  | turns {position : Nat} {task : Activity}
      (taken : course.tasks[position]? = some task) :
      Step course (.turns position) (course.turn position task)
  | overtakes {position round : Nat} {deadline : Instant} {supervisor : Supervisor}
      {taken : Site} {command : Command}
      (listens : course.tasks[position]? = some (.run 0 (.listening round deadline)))
      (held : course.site.supervisor? 0 = some supervisor)
      (takes : supervisor.channel.gate.bind course.site.takeCommand? =
        some (taken, command)) :
      Step course (.overtakes position)
        (course.proceed position (taken.dispatch 0 supervisor round command))
  | stops : Step course .stops (course.answer .stop (course.site.requestStop 0))
  | restarts :
      Step course .restarts (course.answer .restart (course.site.requestRestart 0))
  | kills :
      Step course .kills (course.answer .kill (course.site.requestKill 0, none))
  | signals : Step course .signals course.signal
  | abandons (position : Nat) {post : Nat} {task : StopTask} {counted : Bool}
      (taken : course.tasks[position]? = some (.stop post task counted)) :
      Step course (.abandons position)
        { course with tasks := course.tasks.eraseIdx position }
  | acts (change : Host → Host) :
      Step course (.acts change)
        { course with
          site := { course.site with host := change course.site.host } }
  | passes (time : Duration) :
      Step course (.passes time)
        { course with
          site := { course.site with now := course.site.now + time.nanos } }

theorem step_of_step? [Timers] {course next : Course} {occurrence : Occurrence}
    (steps : course.step? occurrence = some next) : course.Step occurrence next := by
  cases occurrence with
  | runs =>
      unfold step? at steps
      dsimp only at steps
      split at steps
      · cases steps
      · rename_i idle
        cases steps
        apply Step.runs
        simpa using idle
  | turns position =>
      obtain ⟨task, taken, turned⟩ := Option.map_eq_some_iff.mp steps
      rw [← turned]
      exact .turns taken
  | overtakes position =>
      change course.overtake? position = some next at steps
      unfold overtake? at steps
      split at steps
      · rename_i listens
        obtain ⟨supervisor, held, step⟩ := Option.bind_eq_some_iff.mp steps
        obtain ⟨_, takes, is⟩ := Option.map_eq_some_iff.mp step
        rw [← is]
        exact .overtakes listens held takes
      · cases steps
  | abandons position =>
      unfold step? at steps
      dsimp only at steps
      split at steps
      · rename_i taken
        cases steps
        exact .abandons position taken
      · cases steps
  | stops =>
      cases steps
      exact .stops
  | restarts =>
      cases steps
      exact .restarts
  | kills =>
      cases steps
      exact .kills
  | signals =>
      cases steps
      exact .signals
  | acts change =>
      cases steps
      exact .acts change
  | passes time =>
      cases steps
      exact .passes time

end Course

namespace Site

variable {index : Nat} {site before after : Site} {supervisor : Supervisor}

/-! ## What a step leaves to the others -/

/-- What a task comes to at its next turn relies on this. -/
def Serves (site : Site) : Activity → Prop
  | .enter post | .guard post _ | .attend post _ => (site.job post).IsTended
  | .stop _ task _ => ∃ call, task = .waits call
  | .execute supervisor _ => supervisor = 0
  | .run supervisor stage => supervisor = 0 ∧ site.Stands stage

/-- A step that the tasks which did not take part in it may rely on. -/
structure Carries (index : Nat) (before after : Site) : Prop where
  now : before.now ≤ after.now
  bears : Bears before after
  holds : ∀ {supervisor}, before.Holds index supervisor →
    ∃ next, after.Holds index next ∧ next.settings = supervisor.settings

theorem Carries.refl (index : Nat) (site : Site) : Carries index site site :=
  ⟨Nat.le_refl _, .refl site, fun holds => ⟨_, holds, rfl⟩⟩

theorem Carries.trans {third : Site} (first : Carries index before after)
    (second : Carries index after third) : Carries index before third := by
  refine ⟨Nat.le_trans first.now second.now, first.bears.trans second.bears, ?_⟩
  intro supervisor holds
  obtain ⟨next, held, settings⟩ := first.holds holds
  obtain ⟨last, kept, same⟩ := second.holds held
  exact ⟨last, kept, same.trans settings⟩

theorem Bears.carries (bears : Bears before after) (now : before.now ≤ after.now)
    (supervisors : after.supervisors = before.supervisors) (index : Nat) :
    Carries index before after :=
  ⟨now, bears, fun holds => ⟨_, holds.bears bears supervisors, rfl⟩⟩

theorem carries_of_posts (index : Nat) (now : before.now ≤ after.now)
    (posts : after.posts = before.posts)
    (supervisors : after.supervisors = before.supervisors) :
    Carries index before after :=
  (bears_of_posts posts).carries now supervisors index

theorem carries_setSupervisor (holds : site.Holds index supervisor)
    {new : Supervisor} (owns : site.Owns new)
    (settings : new.settings = supervisor.settings) :
    Carries index site (site.setSupervisor index new) := by
  refine ⟨Nat.le_refl _, bears_of_posts rfl, ?_⟩
  intro other held
  have same : supervisor = other := Option.some.inj (holds.held.symm.trans held.held)
  exact ⟨new, holds.set owns, by rw [settings, same]⟩

theorem Deed.carries (deed : Deed index before after) : Carries index before after := by
  have bears := deed.bears
  cases deed with
  | beside now posts supervisors events signals =>
      exact bears.carries (Nat.le_of_eq now.symm) supervisors index
  | serves guarded tends endures =>
      exact bears.carries (Nat.le_of_eq tends.now.symm) tends.supervisors index
  | withdraws round held fresh =>
      exact bears.carries (Nat.le_of_eq (now_commit before round _).symm)
        (supervisors_commit before round _) index
  | updates held settings stopRequested owns =>
      refine ⟨Nat.le_refl _, bears, ?_⟩
      intro supervisor holds
      cases held.symm.trans holds.held
      exact ⟨_, holds.set owns, settings⟩
  | posts other | schedules held wanted | opensGate gate tended | opensRound held
  | launches round held wanted fresh starts | claims round exited =>
      exact bears.carries (Nat.le_refl _) rfl index

theorem carries_of_deeds (deeds : Deeds index before after) :
    Carries index before after := by
  induction deeds with
  | refl => exact .refl index before
  | tail _ deed induction => exact induction.trans deed.carries

/-- What no step undoes: time passes, and posts stay. -/
structure Remains (before after : Site) : Prop where
  now : before.now ≤ after.now
  charter : ∀ {post charter}, before.charter? post = some charter →
    after.charter? post = some charter

theorem Carries.remains (carries : Carries index before after) :
    Remains before after :=
  ⟨carries.now, carries.bears.charter⟩

theorem Tends.remains {post : Nat} {sent : Signal → Prop}
    (tends : Tends post sent before after) : Remains before after := by
  refine ⟨Nat.le_of_eq tends.now.symm, ?_⟩
  intro other charter held
  rw [tends.charter]
  exact held

theorem remains_of_posts (now : before.now ≤ after.now)
    (posts : after.posts = before.posts) : Remains before after :=
  ⟨now, (bears_of_posts posts).charter⟩

theorem Serves.bears {task : Activity} (serves : before.Serves task)
    (bears : Bears before after) : after.Serves task := by
  cases task with
  | enter post | guard post watch | attend post attendance => exact bears.tended serves
  | stop post task counted => exact serves
  | execute supervisor command => exact serves
  | run supervisor stage =>
      refine ⟨serves.1, ?_⟩
      cases stage with
      | called => trivial
      | listening round deadline => exact bears.started serves.2
      | settling round call => exact serves.2
      | closing code gate call => exact bears.charter serves.2

theorem Serves.tended {task : Activity} {post : Nat} (serves : site.Serves task)
    (own : task.body? = some post) : (site.job post).IsTended := by
  cases task with
  | enter _ | guard _ _ | attend _ _ =>
      cases own
      exact serves
  | stop _ _ _ | execute _ _ | run _ _ => cases own

/-! ## Requests -/

theorem carries_commit {post : Nat} {step : StopCall.Step}
    (endures : (site.job post).Endures step.job) (index : Nat) :
    Carries index site (site.commit post step) := by
  have tends : Tends post (fun _ => True) site (site.commit post step) :=
    tends_commit site post step fun _ _ _ _ => trivial
  exact (tends.bears_of_endures (endures_commit endures)).carries
    (Nat.le_of_eq tends.now.symm) tends.supervisors index

theorem carries_beginStop [Timers] (site : Site) (index round : Nat) (timeout : Duration) :
    Carries index site (site.beginStop round timeout).1 :=
  carries_commit (StopCall.endures_begin site.now (site.job round) timeout false) index

theorem carries_setJob {round : Nat} {job : Job}
    (endures : (site.job round).Endures job) (index : Nat) :
    Carries index site (site.setJob round job) := by
  have tends := tends_setJob site round (fun _ => True) job
  exact (tends.bears_of_endures (endures_setJob endures)).carries
    (Nat.le_of_eq tends.now.symm) tends.supervisors index

theorem carries_report (site : Site) (index : Nat) (notice : Notice) :
    Carries index site (site.report notice) :=
  carries_of_posts index (Nat.le_refl _) rfl rfl

theorem carries_requestStop [Timers] (holds : site.Holds index supervisor) :
    Carries index site (site.requestStop index).1 := by
  have requested : Carries index site
      (site.setSupervisor index { supervisor with stopRequested := true }) :=
    carries_setSupervisor holds ⟨holds.owns.gates, holds.owns.rounds⟩ rfl
  unfold requestStop
  rw [holds.held]
  dsimp only
  split
  · exact requested
  · exact requested.trans (carries_beginStop _ index _ _)

theorem carries_requestRestart [Timers] (site : Site) (index : Nat) :
    Carries index site (site.requestRestart index).1 := by
  unfold requestRestart
  split
  · exact .refl index site
  · dsimp only
    split
    · exact carries_report site index _
    · rename_i round _
      exact (carries_setJob (Job.endures_markForRestart (site.job round)) index).trans
        (carries_beginStop _ index _ _)

theorem carries_requestKill (holds : site.Holds index supervisor) :
    Carries index site (site.requestKill index) := by
  have requested : Carries index site
      (site.setSupervisor index { supervisor with stopRequested := true }) :=
    carries_setSupervisor holds ⟨holds.owns.gates, holds.owns.rounds⟩ rfl
  unfold requestKill
  rw [holds.held]
  dsimp only
  split
  · exact requested
  · apply requested.trans
    apply (carries_report _ index .applicationKilled).trans
    exact carries_setJob (Job.endures_abort _) index

theorem carries_takeSignal (holds : site.Holds index supervisor) :
    Carries index site (site.takeSignal index).1 := by
  have counted : Carries index site
      (site.setSupervisor index { supervisor with signals := supervisor.signals + 1 }) :=
    carries_setSupervisor holds ⟨holds.owns.gates, holds.owns.rounds⟩ rfl
  unfold takeSignal
  rw [holds.held]
  dsimp only
  split
  · exact counted
  · exact counted.trans (carries_requestKill
      (holds.set ⟨holds.owns.gates, holds.owns.rounds⟩))

/-! ## Turns -/

theorem Proceeds.begins_no_run {step : RunStep} (proceeds : Proceeds index site step) :
    step.begun.filter Activity.isRun = [] := by
  apply List.filter_eq_nil_iff.mpr
  intro task begun
  cases proceeds.begun task begun with
  | enter post absent tended => exact Bool.false_ne_true
  | execute command => exact Bool.false_ne_true

theorem turn_run [Timers] (held : site.supervisor? index = some supervisor)
    (stage : RunStage) :
    site.turn (.run index stage) =
      ⟨(site.continueRun index supervisor stage).site,
        (site.continueRun index supervisor stage).waits.map (.run index),
        (site.continueRun index supervisor stage).begun⟩ := by
  show site.runTurn index stage = _
  unfold runTurn
  rw [held]

/-- What the run of a supervisor does when it goes on: it takes its turn, or it listens and
takes a command that waits. -/
inductive Advances [Timers] (site : Site)
    (supervisor : Supervisor) : RunStage → RunStep → Prop where
  | turns (stage : RunStage) :
      Advances site supervisor stage (site.continueRun 0 supervisor stage)
  | overtakes {round : Nat} {deadline : Instant} {taken : Site} {command : Command}
      (takes : supervisor.channel.gate.bind site.takeCommand? = some (taken, command)) :
      Advances site supervisor (.listening round deadline)
        (taken.dispatch 0 supervisor round command)

theorem Advances.proceeds [Timers] {stage : RunStage} {step : RunStep}
    (advances : site.Advances supervisor stage step) (holds : site.Holds 0 supervisor)
    (stands : site.Stands stage) : Proceeds 0 site step := by
  cases advances with
  | turns stage => exact proceeds_continueRun holds stands
  | overtakes takes => exact proceeds_dispatch stands takes

theorem stopTurn_cases [Timers] (site : Site) (post : Nat) (call : StopCall) (counted : Bool) :
    let turn := site.stopTurn post (.waits call) counted
    (∃ openStops, turn.world =
      { site.commit post (call.resume site.now (site.job post)) with
        openStops := openStops }) ∧
    turn.begun = [] ∧
    ∀ next, turn.rest = some next ↔ ∃ later,
      (call.resume site.now (site.job post)).standing = .waits later ∧
        next = .stop post (.waits later) counted := by
  unfold stopTurn StopTask.step
  dsimp only
  cases standing : (call.resume site.now (site.job post)).standing with
  | waits later =>
      refine ⟨⟨_, rfl⟩, rfl, ?_⟩
      intro next
      simp [eq_comm]
  | returned | crashed =>
      refine ⟨?_, rfl, by simp⟩
      cases counted with
      | true => exact ⟨_, rfl⟩
      | false => exact ⟨_, rfl⟩

/-- What the turn of a task that is no body comes to. -/
inductive Turned [Timers] (site : Site) (supervisor : Supervisor) :
    Activity → Site → Prop where
  | stop (post : Nat) (call : StopCall) (counted : Bool) (openStops : Nat) :
      Turned site supervisor (.stop post (.waits call) counted)
        { site.commit post (call.resume site.now (site.job post)) with
          openStops := openStops }
  | stops : Turned site supervisor (.execute 0 .stop) (site.requestStop 0).1
  | restarts : Turned site supervisor (.execute 0 .restart) (site.requestRestart 0).1
  | run (stage : RunStage)
      (proceeds : Proceeds 0 site (site.continueRun 0 supervisor stage)) :
      Turned site supervisor (.run 0 stage) (site.continueRun 0 supervisor stage).site

theorem turned_of_turn [Timers] {task : Activity} (holds : site.Holds 0 supervisor)
    (serves : site.Serves task) (own : task.body? = none) :
    site.Turned supervisor task (site.turn task).world := by
  cases task with
  | enter _ | guard _ _ | attend _ _ => cases own
  | stop post task counted =>
      obtain ⟨call, waits⟩ := serves
      subst waits
      obtain ⟨⟨openStops, world⟩, _, _⟩ := site.stopTurn_cases post call counted
      show site.Turned supervisor _ (site.stopTurn post (.waits call) counted).world
      rw [world]
      exact .stop post call counted openStops
  | execute index command =>
      have first : index = 0 := serves
      subst first
      cases command with
      | stop => exact .stops
      | restart => exact .restarts
  | run index stage =>
      obtain ⟨first, stands⟩ := serves
      subst first
      rw [turn_run holds.held]
      exact .run stage (proceeds_continueRun holds stands)

theorem worksOn_turn [Timers] (site : Site) {task : Activity} {post : Nat}
    (own : task.body? = some post) :
    WorksOn post (fun _ => True) (fun _ => True) site (site.turn task) := by
  cases task with
  | enter post =>
      cases own
      exact worksOn_enterTurn fun _ _ _ _ => ⟨fun _ _ => trivial, fun _ _ => trivial⟩
  | guard post watch =>
      cases own
      exact worksOn_guardTurn site post _ _ watch
  | attend post attendance =>
      cases own
      exact worksOn_attendTurn attendance (fun _ _ _ => trivial)
        fun _ _ => ⟨fun _ _ => trivial, fun _ _ => trivial⟩
  | stop _ _ _ | execute _ _ | run _ _ => cases own

theorem Tends.holds {post : Nat} {sent : Signal → Prop}
    (tends : Tends post sent before after) (holds : before.Holds index supervisor) :
    after.Holds index supervisor := by
  constructor
  · exact supervisor?_of_supervisors tends.supervisors holds.held
  · constructor
    · intro gate opened
      rw [tends.charter]
      exact holds.owns.gates gate opened
    · intro round current
      rw [tends.charter]
      exact holds.owns.rounds round current

/-- The other tasks go on relying on a site while a body works on its post. -/
theorem WorksOn.serves {post : Nat} {sent : Signal → Prop}
    {waits : Attendance → Prop} {turn : Turn Site Activity}
    (works : WorksOn post sent waits site turn) {other : Activity}
    (apart : other.body? ≠ some post) (serves : site.Serves other) :
    turn.world.Serves other := by
  have elsewhere : ∀ own, other.body? = some own →
      turn.world.job own = site.job own := by
    intro own body
    apply works.tends.job
    intro same
    exact apart (by rw [body, same])
  cases other with
  | enter own | guard own watch | attend own attendance =>
      show (turn.world.job own).IsTended
      rw [elsewhere own rfl]
      exact serves
  | stop own task counted => exact serves
  | execute supervisor command => exact serves
  | run supervisor stage =>
      refine ⟨serves.1, ?_⟩
      cases stage with
      | called => trivial
      | settling round call => exact serves.2
      | closing code gate call => exact (works.tends.charter gate).trans serves.2
      | listening round deadline =>
          show (turn.world.job round).phase ≠ .created
          by_cases same : round = post
          · rw [same]
            apply works.job.started
            rw [← same]
            exact serves.2
          · rw [works.tends.job round same]
            exact serves.2

end Site

namespace Course

variable {course next : Course} {settings : Settings}

/-- What holds of a course at any time. -/
structure Sound (settings : Settings) (course : Course) : Prop where
  supervised : ∃ supervisor, course.site.Holds 0 supervisor ∧
    supervisor.settings = settings
  serves : ∀ task ∈ course.tasks, course.site.Serves task
  distinct : (course.tasks.filterMap Activity.body?).Nodup
  alone : (course.tasks.filter Activity.isRun).length ≤ 1

theorem sound_fresh (host : Host) (settings : Settings)
    (inherited : List (String × List UInt8)) :
    Sound settings (fresh host (Supervisor.fresh settings inherited)) := by
  refine ⟨⟨Supervisor.fresh settings inherited, ⟨rfl, ?_, ?_⟩, rfl⟩, by simp [fresh],
    by simp [fresh], by simp [fresh]⟩
  · intro gate opened
    cases opened
  · intro round current
    cases current

theorem perm_of_taken {position : Nat} {task : Activity}
    (taken : course.tasks[position]? = some task) :
    (task :: course.tasks.eraseIdx position).Perm course.tasks := by
  obtain ⟨known, same⟩ := List.getElem?_eq_some_iff.mp taken
  have perm := List.getElem_cons_eraseIdx_perm known
  rw [same] at perm
  exact perm

theorem Sound.apart {position post : Nat} {task other : Activity}
    (sound : Sound settings course) (taken : course.tasks[position]? = some task)
    (own : task.body? = some post) (member : other ∈ course.tasks.eraseIdx position) :
    other.body? ≠ some post := by
  have bodies :=
    ((perm_of_taken taken).filterMap Activity.body?).nodup_iff.mpr sound.distinct
  rw [List.filterMap_cons_some own] at bodies
  intro also
  exact (List.nodup_cons.mp bodies).1 (List.mem_filterMap.mpr ⟨other, member, also⟩)

/-- The run that takes its turn is the only one. -/
theorem Sound.only_run {position : Nat} {task other : Activity}
    (sound : Sound settings course) (taken : course.tasks[position]? = some task)
    (run : task.isRun = true) (member : other ∈ course.tasks.eraseIdx position) :
    other.isRun = false := by
  have alone := sound.alone
  rw [← ((perm_of_taken taken).filter Activity.isRun).length_eq,
    List.filter_cons_of_pos run, List.length_cons] at alone
  have others : (course.tasks.eraseIdx position).filter Activity.isRun = [] :=
    List.eq_nil_of_length_eq_zero (by omega)
  exact Bool.eq_false_iff.mpr (List.filter_eq_nil_iff.mp others other member)

/-- The tasks that remain when one of them took its turn. -/
theorem Sound.replaces {after : Site} {position : Nat} {task : Activity}
    {added : List Activity} {asked : List Asked} (sound : Sound settings course)
    (taken : course.tasks[position]? = some task)
    (supervised : ∃ supervisor, after.Holds 0 supervisor ∧
      supervisor.settings = settings)
    (others : ∀ other, (∀ post, task.body? = some post → other.body? ≠ some post) →
      course.site.Serves other → after.Serves other)
    (serves : ∀ other ∈ added, after.Serves other)
    (distinct : (added.filterMap Activity.body?).Nodup)
    (fresh : ∀ post ∈ added.filterMap Activity.body?,
      task.body? = some post ∨ ¬ (course.site.job post).IsTended)
    (alone : (added.filter Activity.isRun).length ≤
      ([task].filter Activity.isRun).length) :
    Sound settings ⟨after, course.tasks.eraseIdx position ++ added, asked⟩ := by
  have perm := perm_of_taken taken
  -- The others may rely on what the turn left alone.
  have left : ∀ other ∈ course.tasks.eraseIdx position,
      ∀ post, task.body? = some post → other.body? ≠ some post :=
    fun other member post own => sound.apart taken own member
  have remains : ((course.tasks.eraseIdx position).filterMap
      Activity.body?).Nodup := by
    apply List.Nodup.sublist _ sound.distinct
    exact (List.eraseIdx_sublist course.tasks position).filterMap _
  refine ⟨supervised, ?_, ?_, ?_⟩
  · intro other member
    rcases List.mem_append.mp member with old | new
    · exact others other (left other old)
        (sound.serves other (List.mem_of_mem_eraseIdx old))
    · exact serves other new
  · rw [List.filterMap_append]
    apply List.Nodup.append remains distinct
    intro post old new
    obtain ⟨other, member, own⟩ := List.mem_filterMap.mp old
    have tended := (sound.serves other (List.mem_of_mem_eraseIdx member)).tended own
    rcases fresh post new with took | untended
    · exact left other member post took own
    · exact untended tended
  · have lone := (perm.filter Activity.isRun).length_eq
    have total := sound.alone
    rw [← lone, show task :: course.tasks.eraseIdx position =
      [task] ++ course.tasks.eraseIdx position from rfl, List.filter_append,
      List.length_append] at total
    rw [List.filter_append, List.length_append]
    omega

theorem Sound.works {position post : Nat} {task : Activity}
    {turn : Turn Site Activity} (sound : Sound settings course)
    (taken : course.tasks[position]? = some task) (own : task.body? = some post)
    (works : Site.WorksOn post (fun _ => True) (fun _ => True) course.site turn)
    (asked : List Asked) :
    Sound settings
      ⟨turn.world, course.tasks.eraseIdx position ++ turn.rest.toList, asked⟩ := by
  obtain ⟨supervisor, holds, same⟩ := sound.supervised
  have tended := (sound.serves task (List.mem_of_getElem? taken)).tended own
  have others : ∀ other,
      (∀ own, task.body? = some own → other.body? ≠ some own) →
        course.site.Serves other → turn.world.Serves other := by
    intro other apart
    exact works.serves (apart post own)
  have supervised : ∃ supervisor, turn.world.Holds 0 supervisor ∧
      supervisor.settings = settings :=
    ⟨supervisor, works.tends.holds holds, same⟩
  have job := works.job
  cases left : turn.rest with
  | none => apply sound.replaces taken supervised others <;> simp
  | some next =>
      rw [left] at job
      have running := job.tended tended
      have goesOn : next.body? = some post ∧ next.isRun = false ∧
          turn.world.Serves next := by
        rcases works.rest next left with ⟨watch, is⟩ | ⟨attendance, is, _⟩
        · rw [is]
          exact ⟨rfl, rfl, running⟩
        · rw [is]
          exact ⟨rfl, rfl, running⟩
      obtain ⟨body, still, serves⟩ := goesOn
      apply sound.replaces taken supervised others
      · intro other member
        rw [List.mem_singleton.mp member]
        exact serves
      · simp [body]
      · intro other member
        simp only [Option.toList_some, List.filterMap_cons, body, List.filterMap_nil,
          List.mem_singleton] at member
        rw [member]
        exact .inl own
      · simp [still]

theorem Sound.body [Timers] {position post : Nat} {task : Activity}
    (sound : Sound settings course) (taken : course.tasks[position]? = some task)
    (own : task.body? = some post) :
    Sound settings (course.turn position task) := by
  have works := course.site.worksOn_turn own
  have sounds := sound.works taken own works (course.turn position task).asked
  unfold turn
  dsimp only
  rw [works.begun, List.append_nil]
  exact sounds

/-- A task that is neither a body nor a run. -/
def Aside (site : Site) (task : Activity) : Prop :=
  site.Serves task ∧ task.body? = none ∧ task.isRun = false

/-- A step that the remaining tasks may rely on, and that begins no body and no
run. -/
theorem Sound.carries {after : Site} {kept added : List Activity}
    (sound : Sound settings course) (carries : Site.Carries 0 course.site after)
    (remain : kept.Sublist course.tasks) (aside : ∀ task ∈ added, Aside after task)
    (asked : List Asked) : Sound settings ⟨after, kept ++ added, asked⟩ := by
  obtain ⟨supervisor, holds, same⟩ := sound.supervised
  obtain ⟨next, still, settles⟩ := carries.holds holds
  have bodies : added.filterMap Activity.body? = [] :=
    List.filterMap_eq_nil_iff.mpr fun task member => (aside task member).2.1
  have runs : added.filter Activity.isRun = [] := by
    apply List.filter_eq_nil_iff.mpr
    intro task member
    rw [(aside task member).2.2]
    exact Bool.false_ne_true
  refine ⟨⟨next, still, settles.trans same⟩, ?_, ?_, ?_⟩
  · intro task member
    rcases List.mem_append.mp member with old | new
    · exact (sound.serves task (remain.subset old)).bears carries.bears
    · exact (aside task new).1
  · rw [List.filterMap_append, bodies, List.append_nil]
    exact sound.distinct.sublist (remain.filterMap _)
  · rw [List.filter_append, runs, List.append_nil]
    exact Nat.le_trans (remain.filter _).length_le sound.alone

theorem aside_of_stopActivity (site : Site)
    (standing : Option (Nat × StopCall.Standing)) :
    ∀ task ∈ (Site.stopActivity standing).toList, Aside site task := by
  intro task member
  cases standing with
  | none => simp [Site.stopActivity] at member
  | some stop =>
      obtain ⟨round, standing⟩ := stop
      cases standing with
      | waits call =>
          rw [List.mem_singleton.mp member]
          exact ⟨⟨call, rfl⟩, rfl, rfl⟩
      | returned | crashed => simp [Site.stopActivity] at member

theorem Sound.carries_turn [Timers] {task : Activity} (sound : Sound settings course)
    (serves : course.site.Serves task) (own : task.body? = none) :
    Site.Carries 0 course.site (course.site.turn task).world := by
  obtain ⟨supervisor, holds, _⟩ := sound.supervised
  have turned := Site.turned_of_turn holds serves own
  generalize (course.site.turn task).world = after at turned ⊢
  cases turned with
  | stop post call counted openStops =>
      exact (Site.carries_commit (StopCall.endures_resume _ _ call) 0).trans
        (Site.carries_of_posts 0 (Nat.le_refl _) rfl rfl)
  | stops => exact Site.carries_requestStop holds
  | restarts => exact Site.carries_requestRestart course.site 0
  | run stage proceeds => exact Site.carries_of_deeds proceeds.deeds

theorem Sound.stop [Timers] {position post : Nat} {task : StopTask} {counted : Bool}
    (sound : Sound settings course)
    (taken : course.tasks[position]? = some (.stop post task counted)) :
    Sound settings (course.turn position (.stop post task counted)) := by
  have serves := sound.serves _ (List.mem_of_getElem? taken)
  apply sound.carries (sound.carries_turn serves rfl)
    (List.eraseIdx_sublist course.tasks position)
  intro next member
  obtain ⟨call, waits⟩ := serves
  subst waits
  obtain ⟨_, begun, rest⟩ := Site.stopTurn_cases course.site post call counted
  change next ∈ (course.site.stopTurn post (.waits call) counted).rest.toList ++
    (course.site.stopTurn post (.waits call) counted).begun at member
  rw [begun, List.append_nil, Option.mem_toList] at member
  obtain ⟨later, _, is⟩ := (rest next).mp member
  rw [is]
  exact ⟨⟨later, rfl⟩, rfl, rfl⟩

/-- A demand that is met at once, or by a stop in the background. -/
theorem Sound.meets {kept : List Activity} (sound : Sound settings course)
    (answered : Site × Option (Nat × StopCall.Standing))
    (carries : Site.Carries 0 course.site answered.1)
    (remain : kept.Sublist course.tasks) (asked : List Asked) :
    Sound settings
      ⟨answered.1, kept ++ (Site.stopActivity answered.2).toList, asked⟩ :=
  sound.carries carries remain (aside_of_stopActivity _ _) asked

theorem Sound.execute [Timers] {position : Nat} {command : Command} {index : Nat}
    (sound : Sound settings course)
    (taken : course.tasks[position]? = some (.execute index command)) :
    Sound settings (course.turn position (.execute index command)) := by
  have serves := sound.serves _ (List.mem_of_getElem? taken)
  have meets := sound.meets (command.execute (Site.commandTarget index) course.site)
    (sound.carries_turn serves rfl) (List.eraseIdx_sublist course.tasks position)
    (course.turn position (.execute index command)).asked
  rw [← List.append_nil (Site.stopActivity _).toList] at meets
  exact meets

theorem Sound.proceeds {position : Nat} {stage : RunStage} {step : RunStep}
    (sound : Sound settings course)
    (taken : course.tasks[position]? = some (.run 0 stage))
    (proceeds : Site.Proceeds 0 course.site step) (asked : List Asked) :
    Sound settings ⟨step.site, course.tasks.eraseIdx position ++
      ((step.waits.map (.run 0)).toList ++ step.begun), asked⟩ := by
  obtain ⟨supervisor, holds, same⟩ := sound.supervised
  have carries := Site.carries_of_deeds proceeds.deeds
  obtain ⟨next, kept, settles⟩ := carries.holds holds
  have rest : (step.waits.map (Activity.run 0)).toList.filterMap Activity.body? = [] := by
    cases step.waits <;> rfl
  apply sound.replaces taken ⟨next, kept, settles.trans same⟩
  · intro other _ serves
    exact serves.bears carries.bears
  · intro other member
    rcases List.mem_append.mp member with waits | begun
    · obtain ⟨stage, waits, is⟩ := Option.map_eq_some_iff.mp (Option.mem_toList.mp waits)
      rw [← is]
      exact ⟨rfl, proceeds.waits stage waits⟩
    · cases proceeds.begun other begun with
      | enter post absent tended => exact tended
      | execute command => rfl
  · rw [List.filterMap_append, rest]
    exact proceeds.distinct
  · intro post member
    rw [List.filterMap_append, rest] at member
    obtain ⟨task, begun, own⟩ := List.mem_filterMap.mp member
    cases proceeds.begun task begun with
    | execute command => cases own
    | enter other absent tended =>
        cases own
        exact .inr (Site.not_tended_of_absent absent)
  · rw [List.filter_append, proceeds.begins_no_run, List.append_nil]
    cases step.waits with
    | none => exact Nat.zero_le _
    | some stage => exact Nat.le_refl _

theorem turn_run [Timers] {supervisor : Supervisor}
    (held : course.site.supervisor? 0 = some supervisor) (position : Nat)
    (stage : RunStage) :
    course.turn position (.run 0 stage) =
      course.proceed position (course.site.continueRun 0 supervisor stage) := by
  unfold turn proceed
  rw [Site.turn_run held]
  simp only [Activity.demands, List.map_nil, List.append_nil]

theorem Sound.run [Timers] {position index : Nat} {stage : RunStage}
    (sound : Sound settings course)
    (taken : course.tasks[position]? = some (.run index stage)) :
    Sound settings (course.turn position (.run index stage)) := by
  obtain ⟨supervisor, holds, _⟩ := sound.supervised
  obtain ⟨first, stands⟩ := sound.serves _ (List.mem_of_getElem? taken)
  subst first
  rw [turn_run holds.held]
  exact sound.proceeds taken (Site.proceeds_continueRun holds stands) _

theorem Sound.started_of_listens {position round : Nat} {deadline : Instant}
    (sound : Sound settings course)
    (listens : course.tasks[position]? = some (.run 0 (.listening round deadline))) :
    (course.site.job round).phase ≠ .created :=
  (sound.serves _ (List.mem_of_getElem? listens)).2

/-- The run that went on is the only one. -/
theorem Sound.filter_proceed {position : Nat} {stage : RunStage} {step : RunStep}
    (sound : Sound settings course)
    (taken : course.tasks[position]? = some (.run 0 stage))
    (proceeds : Site.Proceeds 0 course.site step) :
    (course.proceed position step).tasks.filter Activity.isRun =
      (step.waits.map (.run 0)).toList := by
  have others : (course.tasks.eraseIdx position).filter Activity.isRun = [] := by
    apply List.filter_eq_nil_iff.mpr
    intro task member
    rw [sound.only_run taken rfl member]
    exact Bool.false_ne_true
  unfold proceed
  rw [List.filter_append, List.filter_append, others, proceeds.begins_no_run]
  cases step.waits <;> rfl

theorem Sound.turns [Timers] {position : Nat} {task : Activity}
    (sound : Sound settings course) (taken : course.tasks[position]? = some task) :
    Sound settings (course.turn position task) := by
  cases task with
  | enter post => exact sound.body taken rfl
  | guard post watch => exact sound.body taken rfl
  | attend post attendance => exact sound.body taken rfl
  | stop post task counted => exact sound.stop taken
  | execute index command => exact sound.execute taken
  | run index stage => exact sound.run taken

theorem Sound.signal (sound : Sound settings course) :
    Sound settings course.signal := by
  obtain ⟨supervisor, holds, _⟩ := sound.supervised
  apply sound.carries (Site.carries_takeSignal holds) (List.Sublist.refl _)
  intro task member
  unfold Site.takeSignal at member
  rw [holds.held] at member
  dsimp only at member
  split at member
  · rw [List.mem_singleton.mp member]
    exact ⟨rfl, rfl, rfl⟩
  · cases member

theorem Sound.beside {after : Site} (sound : Sound settings course)
    (now : course.site.now ≤ after.now) (posts : after.posts = course.site.posts)
    (supervisors : after.supervisors = course.site.supervisors) :
    Sound settings { course with site := after } := by
  have carries : Site.Carries 0 course.site after :=
    Site.carries_of_posts 0 now posts supervisors
  have moved := sound.carries carries (List.Sublist.refl course.tasks)
    (fun _ member => absurd member List.not_mem_nil) course.asked
  rw [List.append_nil] at moved
  exact moved

/-- Whatever happens, a sound course stays sound. -/
theorem Sound.step [Timers] {occurrence : Occurrence} (sound : Sound settings course)
    (steps : course.step? occurrence = some next) : Sound settings next := by
  obtain ⟨supervisor, holds, _⟩ := sound.supervised
  cases step_of_step? steps with
  | runs idle =>
      have none : course.tasks.filter Activity.isRun = [] := by
        apply List.filter_eq_nil_iff.mpr
        intro task member
        rw [idle task member]
        exact Bool.false_ne_true
      refine ⟨sound.supervised, ?_, ?_, ?_⟩
      · intro task member
        rcases List.mem_append.mp member with old | new
        · exact sound.serves task old
        · rw [List.mem_singleton.mp new]
          exact ⟨rfl, trivial⟩
      · rw [List.filterMap_append]
        exact (List.append_nil _).symm ▸ sound.distinct
      · rw [List.filter_append, none]
        exact Nat.le_refl 1
  | turns taken => exact sound.turns taken
  | overtakes listens held takes =>
      exact sound.proceeds listens
        (Site.proceeds_dispatch (sound.started_of_listens listens) takes) course.asked
  | stops =>
      exact sound.meets _ (Site.carries_requestStop holds) (List.Sublist.refl _) _
  | restarts =>
      exact sound.meets _ (Site.carries_requestRestart course.site 0)
        (List.Sublist.refl _) _
  | kills =>
      exact sound.meets (course.site.requestKill 0, none)
        (Site.carries_requestKill holds) (List.Sublist.refl _) _
  | signals => exact sound.signal
  | abandons position =>
      have left := sound.carries (.refl 0 course.site)
        (List.eraseIdx_sublist course.tasks position)
        (fun _ member => absurd member List.not_mem_nil) course.asked
      rw [List.append_nil] at left
      exact left
  | acts change => exact sound.beside (Nat.le_refl _) rfl rfl
  | passes time => exact sound.beside (Nat.le_add_right _ _) rfl rfl

/-- What a step asks is asked now. -/
theorem asked_of_step [Timers] {occurrence : Occurrence}
    (steps : course.step? occurrence = some next) :
    ∃ more, next.asked = course.asked ++ more ∧
      ∀ one ∈ more, ∃ demand, one = course.ask demand := by
  cases step_of_step? steps with
  | runs | overtakes _ _ _ | abandons _ | acts _ | passes _ =>
      exact ⟨[], (List.append_nil _).symm, by simp⟩
  | turns taken =>
      refine ⟨_, rfl, ?_⟩
      intro one member
      obtain ⟨demand, _, is⟩ := List.mem_map.mp member
      exact ⟨demand, is.symm⟩
  | stops | restarts | kills =>
      refine ⟨_, rfl, ?_⟩
      intro one member
      exact ⟨_, List.mem_singleton.mp member⟩
  | signals =>
      refine ⟨_, rfl, ?_⟩
      intro one member
      split at member
      · exact ⟨_, List.mem_singleton.mp member⟩
      · cases member

theorem Sound.remains_turn [Timers] {task : Activity} (sound : Sound settings course)
    (member : task ∈ course.tasks) :
    course.site.Remains (course.site.turn task).world := by
  cases own : task.body? with
  | none => exact (sound.carries_turn (sound.serves task member) own).remains
  | some post => exact (course.site.worksOn_turn own).tends.remains

theorem Sound.remains [Timers] {occurrence : Occurrence} (sound : Sound settings course)
    (steps : course.step? occurrence = some next) :
    course.site.Remains next.site := by
  obtain ⟨supervisor, holds, _⟩ := sound.supervised
  cases step_of_step? steps with
  | runs | abandons _ => exact (Site.Carries.refl 0 course.site).remains
  | turns taken => exact sound.remains_turn (List.mem_of_getElem? taken)
  | overtakes listens _ takes =>
      have proceeds : Site.Proceeds 0 course.site _ :=
        Site.proceeds_dispatch (sound.started_of_listens listens) takes
      exact (Site.carries_of_deeds proceeds.deeds).remains
  | stops => exact (Site.carries_requestStop holds).remains
  | restarts => exact (Site.carries_requestRestart course.site 0).remains
  | kills => exact (Site.carries_requestKill holds).remains
  | signals => exact (Site.carries_takeSignal holds).remains
  | acts change => exact Site.remains_of_posts (Nat.le_refl _) rfl
  | passes time => exact Site.remains_of_posts (Nat.le_add_right _ _) rfl

/-- What every step of a sound course keeps is kept by a run. -/
theorem Sound.keeps [Timers] {kept : Course → Prop} {occurrences : List Occurrence}
    {final : Course} (sound : Sound settings course) (start : kept course)
    (steps : ∀ {course next : Course} {occurrence : Occurrence},
      Sound settings course → kept course → course.step? occurrence = some next →
        kept next)
    (runs : course.run? occurrences = some final) : kept final := by
  induction occurrences generalizing course with
  | nil =>
      cases runs
      exact start
  | cons occurrence rest induction =>
      obtain ⟨next, first, continues⟩ := run?_cons runs
      exact induction (sound.step first) (steps sound start first) continues

theorem Sound.runs [Timers] {occurrences : List Occurrence} {final : Course}
    (sound : Sound settings course) (runs : course.run? occurrences = some final) :
    Sound settings final :=
  sound.keeps sound (fun sound _ steps => sound.step steps) runs

end Course

end Overseer
