import Overseer.Proofs.Lifecycle.Soundness
import Overseer.Proofs.Supervision.Posts
import Overseer.Supervision.Activity

/-!
# Tending to one post

Every task but a run works on one post of its site at a time: the body of a job on
its own post, a stop on the job that it stops.  `Site.Tends` says what such a piece
of work leaves alone and which signals it sends.

What the work makes of the job is told apart: a body enters, goes on or leaves, and
a stop does what `StopCall` says.
-/

namespace Overseer

def Duty.graces? : Duty → Option (Duration × Duration)
  | .gate _ => none
  | .application attended _ => some (attended.exitGrace, attended.killGrace)

/-- A body that attends to its child keeps the graces of its application. -/
theorem Application.attend_graces [Timers] (application : Application) (now : Instant)
    (stopFlag : Bool) (status : Option ExitStatus) (attendance : Attendance) :
    (application.attend now stopFlag status attendance).application.exitGrace =
        application.exitGrace ∧
      (application.attend now stopFlag status attendance).application.killGrace =
        application.killGrace := by
  unfold attend awaitExit awaitTermination killChild
  repeat' split
  all_goals exact ⟨rfl, rfl⟩

def Hook.signal : Hook → Signal
  | .stop => .interrupt
  | .terminate => .terminate
  | .kill => .kill

/-- What the turn of a body makes of its job, as the body goes on or not. -/
inductive Job.Works (before : Job) : (goesOn : Bool) → Job → Prop where
  | stays (goesOn : Bool) : Works before goesOn before
  | enters (goesOn : Bool) : Works before goesOn before.enter
  | finishes : Works before false before.finish
  | drops : Works before false before.drop

namespace Site

/-- Whether there is a post at a position, and the graces of its application if it
has one. -/
def charter? (site : Site) (index : Nat) : Option (Option (Duration × Duration)) :=
  (site.posts[index]?).map fun post => post.duty.graces?

/-- The events that were posted are all of one kind. -/
def Tells (told : Event → Prop) (before after : Site) : Prop :=
  ∃ newer, after.events = newer ++ before.events ∧ ∀ entry ∈ newer, told entry.2

/-- The signals that were sent were sent now, and are all of one kind. -/
def Sends (sent : Nat → Signal → Prop) (before after : Site) : Prop :=
  ∃ newer, after.signals = newer ++ before.signals ∧
    ∀ entry ∈ newer, entry.time = before.now ∧
      ∃ signal, entry.call.signal = some signal ∧ sent entry.post signal

/-- The work on one post, during which some signals may have been sent. -/
structure Tends (index : Nat) (sent : Signal → Prop) (before after : Site) :
    Prop where
  now : after.now = before.now
  supervisors : after.supervisors = before.supervisors
  charter : ∀ other, after.charter? other = before.charter? other
  job : ∀ other, other ≠ index → after.job other = before.job other
  events : Tells (fun event => ∃ child, event = .applicationStarted child) before after
  signals : Sends (fun post signal => post = index ∧ sent signal) before after

variable {index : Nat} {sent : Signal → Prop} {told : Event → Prop}
  {before after third : Site}

theorem tells_of_eq (told : Event → Prop) (same : after.events = before.events) :
    Tells told before after :=
  ⟨[], same, by simp⟩

theorem Tells.trans (first : Tells told before after)
    (second : Tells told after third) : Tells told before third := by
  obtain ⟨events, posted, allowed⟩ := first
  obtain ⟨later, posts, allows⟩ := second
  refine ⟨later ++ events, ?_, ?_⟩
  · rw [posts, posted, List.append_assoc]
  · intro entry member
    rcases List.mem_append.mp member with late | early
    · exact allows entry late
    · exact allowed entry early

theorem Tells.mono {more : Event → Prop} (tells : Tells told before after)
    (included : ∀ event, told event → more event) : Tells more before after := by
  obtain ⟨newer, posted, allowed⟩ := tells
  exact ⟨newer, posted, fun entry member => included _ (allowed entry member)⟩

theorem sends_of_eq (sent : Nat → Signal → Prop) (same : after.signals = before.signals) :
    Sends sent before after :=
  ⟨[], same, by simp⟩

theorem Sends.trans {sent : Nat → Signal → Prop} (first : Sends sent before after)
    (now : after.now = before.now) (second : Sends sent after third) :
    Sends sent before third := by
  obtain ⟨signals, logged, allowed⟩ := first
  obtain ⟨later, logs, allows⟩ := second
  refine ⟨later ++ signals, ?_, ?_⟩
  · rw [logs, logged, List.append_assoc]
  · intro entry member
    rcases List.mem_append.mp member with late | early
    · rw [← now]
      exact allows entry late
    · exact allowed entry early

theorem Sends.mono {sent more : Nat → Signal → Prop} (sends : Sends sent before after)
    (included : ∀ post signal, sent post signal → more post signal) :
    Sends more before after := by
  obtain ⟨newer, logged, allowed⟩ := sends
  refine ⟨newer, logged, ?_⟩
  intro entry member
  obtain ⟨same, signal, called, was⟩ := allowed entry member
  exact ⟨same, signal, called, included entry.post signal was⟩

theorem Tends.refl (index : Nat) (sent : Signal → Prop) (site : Site) :
    Tends index sent site site :=
  ⟨rfl, rfl, fun _ => rfl, fun _ _ => rfl, tells_of_eq _ rfl, sends_of_eq _ rfl⟩

theorem Tends.trans (first : Tends index sent before after)
    (second : Tends index sent after third) : Tends index sent before third := by
  constructor
  · rw [second.now, first.now]
  · rw [second.supervisors, first.supervisors]
  · intro other
    rw [second.charter, first.charter]
  · intro other apart
    rw [second.job other apart, first.job other apart]
  · exact first.events.trans second.events
  · exact first.signals.trans first.now second.signals

theorem Tends.mono {more : Signal → Prop} (tends : Tends index sent before after)
    (included : ∀ signal, sent signal → more signal) :
    Tends index more before after :=
  ⟨tends.now, tends.supervisors, tends.charter, tends.job, tends.events,
    tends.signals.mono fun _ signal sends => ⟨sends.1, included signal sends.2⟩⟩

/-! ## Work on the parts of a site -/

/-- Work beside the posts. -/
theorem Tends.of_posts (index : Nat) (sent : Signal → Prop)
    (now : after.now = before.now) (posts : after.posts = before.posts)
    (supervisors : after.supervisors = before.supervisors)
    (events : after.events = before.events)
    (signals : after.signals = before.signals) : Tends index sent before after := by
  constructor
  · exact now
  · exact supervisors
  · intro other
    simp only [charter?, posts]
  · intro other _
    simp only [Site.job, posts]
  · exact tells_of_eq _ events
  · exact sends_of_eq _ signals

theorem tends_modify (site : Site) (index : Nat) (sent : Signal → Prop)
    (change : Post → Post)
    (keeps : ∀ post, site.posts[index]? = some post →
      (change post).duty.graces? = post.duty.graces?) :
    Tends index sent site
      { site with posts := site.posts.modify index change } := by
  constructor
  · rfl
  · rfl
  · intro other
    simp only [charter?, Array.getElem?_modify]
    split
    · rename_i same
      subst same
      cases held : site.posts[index]? with
      | none => rfl
      | some post => simp [keeps post held]
    · rfl
  · intro other apart
    simp only [Site.job, Array.getElem?_modify, if_neg (Ne.symm apart)]
  · exact tells_of_eq _ rfl
  · exact sends_of_eq _ rfl

theorem tends_setJob (site : Site) (index : Nat) (sent : Signal → Prop) (job : Job) :
    Tends index sent site (site.setJob index job) := by
  apply tends_modify
  intro post _
  rfl

theorem tends_setGate {site : Site} {gate : Gate}
    (guarded : site.gate? index = some gate) (sent : Signal → Prop) (next : Gate) :
    Tends index sent site (site.setGate index next) := by
  apply tends_modify
  intro post held
  unfold gate? at guarded
  rw [held] at guarded
  cases duty : post.duty with
  | gate _ => rfl
  | application application sink => simp [duty] at guarded

theorem tends_setApplication {site : Site} {application : Application}
    (attended : site.application? index = some application) (next : Application)
    (exitGrace : next.exitGrace = application.exitGrace)
    (killGrace : next.killGrace = application.killGrace) (sent : Signal → Prop) :
    Tends index sent site (site.setApplication index next) := by
  apply tends_modify
  intro post held
  unfold application? at attended
  rw [held] at attended
  cases duty : post.duty with
  | gate _ => rfl
  | application held sink =>
      simp only [Option.map_some, duty, Option.some.injEq] at attended
      subst attended
      simp [Duty.withApplication, Duty.graces?, exitGrace, killGrace]

theorem tends_report (site : Site) (index : Nat) (sent : Signal → Prop)
    (notice : Notice) : Tends index sent site (site.report notice) :=
  .of_posts index sent rfl rfl rfl rfl rfl

theorem tends_reportAll (site : Site) (index : Nat) (sent : Signal → Prop)
    (notices : List Notice) : Tends index sent site (site.reportAll notices) := by
  obtain ⟨reported, same⟩ := reportAll_eq site notices
  rw [same]
  exact .of_posts index sent rfl rfl rfl rfl rfl

theorem tends_setSockets (site : Site) (index : Nat) (sent : Signal → Prop)
    (sockets : Sockets) : Tends index sent site (site.setSockets sockets) :=
  .of_posts index sent rfl rfl rfl rfl rfl

theorem tends_signal (site : Site) (index : Nat) {sent : Signal → Prop}
    (number : ProcessNumber) {signal : Signal} (allowed : sent signal) :
    Tends index sent site (site.signal index number signal) := by
  unfold Site.signal
  split
  · exact .refl index sent site
  · rename_i call taken
    have called : call.signal = some signal := by
      unfold SignalCall.toProcess? at taken
      split at taken
      · cases taken
        rfl
      · cases taken
    refine ⟨rfl, rfl, fun _ => rfl, fun _ _ => rfl, tells_of_eq _ rfl,
      ⟨[⟨site.now, index, call⟩], rfl, ?_⟩⟩
    intro entry member
    rw [List.mem_singleton.mp member]
    exact ⟨rfl, signal, called, rfl, allowed⟩

theorem tends_signals (site : Site) (index : Nat) {sent : Signal → Prop}
    (number : ProcessNumber) {signals : List Signal}
    (allowed : ∀ signal ∈ signals, sent signal) :
    Tends index sent site
      (signals.foldl (fun site signal => site.signal index number signal) site) := by
  induction signals generalizing site with
  | nil => exact .refl index sent site
  | cons signal signals induction =>
      have first := tends_signal site index number (allowed signal (by simp))
      apply first.trans
      apply induction
      intro other member
      exact allowed other (List.mem_cons_of_mem _ member)

theorem tends_started (site : Site) (index : Nat) (sent : Signal → Prop)
    (child : ProcessNumber) :
    Tends index sent site (site.postFrom index (.applicationStarted child)) := by
  unfold postFrom
  split
  · rename_i sink _
    refine ⟨rfl, rfl, fun _ => rfl, fun _ _ => rfl,
      ⟨[(sink, .applicationStarted child)], rfl, ?_⟩, sends_of_eq _ rfl⟩
    intro entry member
    rw [List.mem_singleton.mp member]
    exact ⟨child, rfl⟩
  · exact .refl index sent site

/-! ## The job of the post -/

/-- A job that is set is found again, unless there is no post for it. -/
theorem job_setJob_or (site : Site) (index : Nat) (job : Job) :
    (site.setJob index job).job index = job ∨
      (site.setJob index job).job index = site.job index := by
  by_cases known : index < site.posts.size
  · exact .inl (job_setJob known job)
  · right
    simp [Site.job, setJob, known]

theorem job_of_posts {site other : Site} (posts : other.posts = site.posts)
    (index : Nat) : other.job index = site.job index := by
  simp only [Site.job, posts]

theorem job_setApplication (site : Site) (index : Nat) (application : Application)
    (other : Nat) : (site.setApplication index application).job other =
      site.job other := by
  unfold Site.job setApplication
  simp only [Array.getElem?_modify]
  split
  · cases site.posts[other]? <;> rfl
  · rfl

@[simp] theorem posts_signal (site : Site) (index : Nat) (number : ProcessNumber)
    (signal : Signal) : (site.signal index number signal).posts = site.posts := by
  unfold Site.signal
  split <;> rfl

@[simp] theorem posts_signals (site : Site) (index : Nat) (number : ProcessNumber)
    (signals : List Signal) :
    (signals.foldl (fun site signal => site.signal index number signal) site).posts =
      site.posts := by
  induction signals generalizing site with
  | nil => rfl
  | cons signal signals induction =>
      rw [List.foldl_cons, induction, posts_signal]

@[simp] theorem posts_postFrom (site : Site) (index : Nat) (event : Event) :
    (site.postFrom index event).posts = site.posts := by
  unfold postFrom
  split <;> rfl

@[simp] theorem posts_closeListener (site : Site) (index : Nat) :
    (site.closeListener index).posts = site.posts := by
  unfold closeListener
  split <;> rfl

/-! ## Bodies -/

theorem charter?_of_application {site : Site} {application : Application}
    (attended : site.application? index = some application) :
    site.charter? index =
      some (some (application.exitGrace, application.killGrace)) := by
  unfold application? at attended
  unfold charter?
  cases held : site.posts[index]? with
  | none => simp [held] at attended
  | some post =>
      cases duty : post.duty with
      | gate gate => simp [held, duty] at attended
      | application application sink =>
          simp only [held, Option.map_some, duty, Option.some.injEq] at attended
          subst attended
          simp [duty, Duty.graces?]

theorem tends_closeListener (site : Site) (index : Nat) (sent : Signal → Prop)
    (other : Nat) : Tends index sent site (site.closeListener other) := by
  unfold closeListener
  split
  · exact .refl index sent site
  · exact tends_setSockets site index sent _

/-- A body in a turn: the work on its post, and where the body then waits. -/
structure WorksOn (index : Nat) (sent : Signal → Prop) (waits : Attendance → Prop)
    (site : Site) (turn : Turn Site Activity) : Prop where
  tends : Tends index sent site turn.world
  job : (site.job index).Works turn.rest.isSome (turn.world.job index)
  rest : ∀ task ∈ turn.rest, (∃ watch, task = .guard index watch) ∨
    ∃ attendance, task = .attend index attendance ∧ waits attendance
  begun : turn.begun = []

/-- What is allowed to an application that is attended to. -/
def Permits (sent : Signal → Prop) (waits : Attendance → Prop)
    (attended : Application.Attended) : Prop :=
  (∀ signal ∈ attended.signals, sent signal) ∧
    ∀ attendance ∈ attended.waits, waits attendance

variable {site : Site} {waits : Attendance → Prop}

theorem worksOn_leaves {left : Job} (tends : Tends index sent site before)
    (job : before.job index = site.job index)
    (leaves : (site.job index).Works false left) :
    WorksOn index sent waits site
      ⟨(before.closeListener index).setJob index left, none, []⟩ := by
  refine ⟨?_, ?_, by simp, rfl⟩
  · apply tends.trans
    exact (tends_closeListener before index sent index).trans
      (tends_setJob _ index sent left)
  · rcases job_setJob_or (before.closeListener index) index left with set | same
    · rw [set]
      exact leaves
    · rw [same, job_of_posts (posts_closeListener before index), job]
      exact .stays false

theorem worksOn_endBody (tends : Tends index sent site before)
    (job : before.job index = site.job index) :
    WorksOn index sent waits site ⟨before.endBody index, none, []⟩ := by
  unfold endBody
  rw [job]
  exact worksOn_leaves tends job .finishes

theorem worksOn_dropBody (tends : Tends index sent site before)
    (job : before.job index = site.job index) :
    WorksOn index sent waits site ⟨before.dropBody index, none, []⟩ := by
  unfold dropBody
  rw [job]
  exact worksOn_leaves tends job .drops

theorem worksOn_guard {gate : Gate} (guarded : site.gate? index = some gate)
    (watch : Gate.Watch) :
    WorksOn index sent waits site
      ⟨(site.guard index gate watch).1,
        (site.guard index gate watch).2.map (.guard index), []⟩ := by
  unfold guard
  dsimp only
  generalize gate.step site.now (site.job index).stopFlag site.host.sockets watch =
    step
  have stepped : Tends index sent site
      (((site.setSockets step.sockets).setGate index step.gate).reportAll
        step.notices) := by
    have kept : (site.setSockets step.sockets).gate? index = some gate := guarded
    exact (tends_setSockets site index sent step.sockets).trans
      ((tends_setGate kept sent step.gate).trans
        (tends_reportAll _ index sent step.notices))
  have job : (((site.setSockets step.sockets).setGate index step.gate).reportAll
      step.notices).job index = site.job index := by
    rw [job_of_posts (reportAll_posts _ _), job_setGate]
    rfl
  cases step.waits with
  | none => exact worksOn_endBody stepped job
  | some watch =>
      refine ⟨stepped, ?_, ?_, rfl⟩
      · rw [job]
        exact .stays true
      · intro task member
        cases member
        exact .inl ⟨watch, rfl⟩

theorem worksOn_attend [Timers] {application : Application}
    (attended : site.application? index = some application)
    (attendance : Attendance)
    (permits : Permits sent waits
      (application.attend site.now (site.job index).stopFlag
        (site.childStatus attendance) attendance)) :
    WorksOn index sent waits site
      ⟨(site.attend index application attendance).1,
        (site.attend index application attendance).2.map (.attend index), []⟩ := by
  have graces := application.attend_graces site.now (site.job index).stopFlag
    (site.childStatus attendance) attendance
  unfold attend
  dsimp only
  generalize application.attend site.now (site.job index).stopFlag
    (site.childStatus attendance) attendance = step at permits graces
  obtain ⟨allowed, waiting⟩ := permits
  obtain ⟨exitGrace, killGrace⟩ := graces
  have posts := posts_signals site index attendance.child step.signals
  have kept : (step.signals.foldl
      (fun site signal => site.signal index attendance.child signal) site).application?
        index = some application := by
    unfold application?
    rw [posts]
    exact attended
  have stepped := (tends_signals site index attendance.child allowed).trans
    ((tends_setApplication kept _ exitGrace killGrace sent).trans
      (tends_reportAll _ index sent step.notices))
  have job : (((step.signals.foldl
      (fun site signal => site.signal index attendance.child signal) site).setApplication
        index step.application).reportAll step.notices).job index =
      site.job index := by
    rw [job_of_posts (reportAll_posts _ _), job_setApplication, job_of_posts posts]
  cases next : step.waits with
  | none => exact worksOn_endBody stepped job
  | some attendance =>
      refine ⟨stepped, ?_, ?_, rfl⟩
      · rw [job]
        exact .stays true
      · intro task member
        cases member
        exact .inr ⟨attendance, rfl, waiting attendance next⟩

theorem application?_of_posts {site other : Site}
    (posts : other.posts = site.posts) (index : Nat) :
    other.application? index = site.application? index := by
  simp only [application?, posts]

theorem application?_setApplication {application : Application}
    (attended : site.application? index = some application) (next : Application) :
    (site.setApplication index next).application? index = some next := by
  unfold application? at attended ⊢
  unfold setApplication
  simp only [Array.getElem?_modify, if_true]
  cases held : site.posts[index]? with
  | none => simp [held] at attended
  | some post =>
      cases duty : post.duty with
      | gate gate => simp [held, duty] at attended
      | application application sink => simp [duty, Duty.withApplication]

/-- Work after some other work that left the job of the post alone. -/
theorem WorksOn.following {turn : Turn Site Activity}
    (works : WorksOn index sent waits after turn)
    (tends : Tends index sent site after) (job : after.job index = site.job index) :
    WorksOn index sent waits site turn := by
  refine ⟨tends.trans works.tends, ?_, works.rest, works.begun⟩
  rw [← job]
  exact works.job

theorem worksOn_launch [Timers] {application : Application}
    (attended : site.application? index = some application)
    (permits : ∀ child status, Permits sent waits
      ((application.withChild child).attend site.now (site.job index).stopFlag status
        (.running child))) :
    WorksOn index sent waits site
      ⟨(site.launch index application).1,
        (site.launch index application).2.map (.attend index), []⟩ := by
  unfold launch
  split
  · exact worksOn_endBody (tends_report site index sent _) rfl
  · rename_i host child _
    have housed : { site with host := host }.application? index = some application :=
      attended
    have moved : Tends index sent site { site with host := host } :=
      .of_posts index sent rfl rfl rfl rfl rfl
    have manned : Tends index sent { site with host := host }
        ({ site with host := host }.setApplication index
          (application.withChild child)) :=
      tends_setApplication housed (application.withChild child) rfl rfl sent
    have started := moved.trans (manned.trans (tends_started _ index sent child))
    have job : (({ site with host := host }.setApplication index
        (application.withChild child)).postFrom index
          (.applicationStarted child)).job index = site.job index := by
      rw [job_of_posts (posts_postFrom _ _ _), job_setApplication]
      rfl
    refine WorksOn.following (worksOn_attend ?_ (.running child) ?_) started job
    · rw [application?_of_posts (posts_postFrom _ _ _)]
      exact application?_setApplication housed (application.withChild child)
    · rw [job, started.now]
      exact permits child _

theorem posts_letGo (site : Site) (post : Nat) (attendance : Attendance) :
    (site.letGo post attendance).posts = site.posts := by
  unfold letGo
  split
  · rfl
  · exact posts_signal _ _ _ _

theorem tends_letGo (site : Site) (attendance : Attendance) (kills : sent .kill) :
    Tends index sent site (site.letGo index attendance) ∧
      (site.letGo index attendance).posts = site.posts := by
  refine ⟨?_, posts_letGo site index attendance⟩
  unfold letGo
  split
  · exact .refl index sent site
  · exact tends_signal site index attendance.child kills

theorem worksOn_dropApplication (attendance : Attendance) (kills : sent .kill) :
    WorksOn index sent waits site
      ⟨site.dropApplication index attendance, none, []⟩ := by
  obtain ⟨tends, posts⟩ := tends_letGo site attendance kills
  exact worksOn_dropBody tends (job_of_posts posts index)

theorem worksOn_failApplication {application : Application}
    (attended : site.application? index = some application) (attendance : Attendance)
    (fault : Fault) (kills : sent .kill) :
    WorksOn index sent waits site
      ⟨site.failApplication index application attendance fault, none, []⟩ := by
  obtain ⟨tends, posts⟩ := tends_letGo site attendance kills
  have held : (site.letGo index attendance).application? index = some application :=
    (application?_of_posts posts index).trans attended
  have left := tends_setApplication held application.withoutChild rfl rfl sent
  apply worksOn_endBody (tends.trans (left.trans (tends_report _ index sent _)))
  exact (job_setApplication _ index _ index).trans (job_of_posts posts index)

/-! ## Turns of bodies -/

theorem worksOn_idle (site : Site) :
    WorksOn index sent waits site ⟨site, none, []⟩ :=
  ⟨.refl index sent site, .stays false, by simp, rfl⟩

theorem worksOn_guardTurn (site : Site) (index : Nat) (sent : Signal → Prop)
    (waits : Attendance → Prop) (watch : Gate.Watch) :
    WorksOn index sent waits site (site.guardTurn index watch) := by
  unfold guardTurn
  split
  · exact worksOn_idle site
  · rename_i gate guarded
    split
    · unfold dropGate
      exact worksOn_dropBody (tends_setSockets site index sent _) rfl
    · exact worksOn_guard guarded watch

theorem worksOn_attendTurn [Timers] (attendance : Attendance)
    (dropped : ∀ application, site.application? index = some application →
      (site.job index).aborted = true → sent .kill)
    (permits : ∀ application, site.application? index = some application →
      Permits sent waits (application.attend site.now (site.job index).stopFlag
        (site.childStatus attendance) attendance)) :
    WorksOn index sent waits site (site.attendTurn index attendance) := by
  unfold attendTurn
  split
  · exact worksOn_idle site
  · rename_i application attended
    split
    · rename_i aborted
      exact worksOn_dropApplication attendance (dropped application attended aborted)
    · exact worksOn_attend attended attendance (permits application attended)

theorem WorksOn.entered {turn : Turn Site Activity}
    (works : WorksOn index sent waits
      (site.setJob index (site.job index).enter) turn) :
    WorksOn index sent waits site turn := by
  refine ⟨(tends_setJob site index sent _).trans works.tends, ?_, works.rest,
    works.begun⟩
  have job := works.job
  rcases job_setJob_or site index (site.job index).enter with set | same
  · rw [set] at job
    generalize turn.world.job index = left at job
    generalize turn.rest.isSome = goesOn at job ⊢
    cases job with
    | stays => exact .enters _
    | enters => exact .enters _
    | finishes => exact .finishes
    | drops => exact .finishes
  · rw [same] at job
    exact job

theorem worksOn_enterTurn [Timers]
    (permits : ∀ application, site.application? index = some application →
      ∀ child status, Permits sent waits
        ((application.withChild child).attend site.now (site.job index).stopFlag
          status (.running child))) :
    WorksOn index sent waits site (site.enterTurn index) := by
  unfold enterTurn
  split
  · exact worksOn_dropBody (.refl index sent site) rfl
  · apply WorksOn.entered
    have flag : ((site.setJob index (site.job index).enter).job index).stopFlag =
        (site.job index).stopFlag := by
      rcases job_setJob_or site index (site.job index).enter with set | same
      · rw [set]
        rfl
      · rw [same]
    have duties : ((site.setJob index (site.job index).enter).posts[index]?).map
        Post.duty = (site.posts[index]?).map Post.duty := by
      unfold setJob
      simp only [Array.getElem?_modify, if_true]
      cases site.posts[index]? <;> rfl
    dsimp only
    split
    · exact worksOn_idle _
    · rename_i gate held
      apply worksOn_guard
      unfold gate?
      rw [held]
    · rename_i application sink held
      apply worksOn_launch
      · unfold application?
        rw [held]
      · rw [flag]
        apply permits
        unfold application?
        rw [← duties, held]

/-! ## Stops -/

theorem tends_runHook (site : Site) (index : Nat) {hook : Hook}
    (allowed : ∀ graces, site.charter? index = some (some graces) →
      sent hook.signal) :
    Tends index sent site (site.runHook index hook) := by
  unfold runHook
  split
  · exact .refl index sent site
  · rename_i application attended
    dsimp only
    split
    · exact .refl index sent site
    · rename_i number signal called
      have same : signal = hook.signal := by
        cases hook with
        | stop | terminate | kill =>
            unfold Application.hookSignal at called
            obtain ⟨_, _, made⟩ := Option.map_eq_some_iff.mp called
            cases made
            rfl
      apply tends_signal
      rw [same]
      exact allowed _ (charter?_of_application attended)

theorem tends_effects (index : Nat) {effects : List StopEffect}
    (site : Site) (allowed : ∀ hook, .hook hook ∈ effects →
      ∀ graces, site.charter? index = some (some graces) → sent hook.signal) :
    Tends index sent site (effects.foldl (applyEffect index) site) := by
  induction effects generalizing site with
  | nil => exact .refl index sent site
  | cons effect effects induction =>
      have first : Tends index sent site (applyEffect index site effect) := by
        cases effect with
        | hook hook => exact tends_runHook site index (allowed hook (by simp))
        | report notice => exact tends_report site index sent notice
      apply first.trans
      apply induction
      intro hook member graces held
      rw [first.charter] at held
      exact allowed hook (List.mem_cons_of_mem _ member) graces held

/-- What a stop does to a site is work on the post of its job. -/
theorem tends_commit (site : Site) (index : Nat) (step : StopCall.Step)
    (allowed : ∀ hook, .hook hook ∈ step.effects →
      ∀ graces, site.charter? index = some (some graces) → sent hook.signal) :
    Tends index sent site (site.commit index step) := by
  have set := tends_setJob site index sent step.job
  apply set.trans
  apply tends_effects
  intro hook member graces held
  rw [set.charter] at held
  exact allowed hook member graces held

/-- A hook changes the host and nothing else, but for the record of its signal. -/
theorem runHook_eq (site : Site) (index : Nat) (hook : Hook) :
    ∃ host signals, site.runHook index hook =
      { site with host := host, signals := signals } := by
  unfold runHook
  split
  · exact ⟨site.host, site.signals, rfl⟩
  · dsimp only
    split
    · exact ⟨site.host, site.signals, rfl⟩
    · unfold Site.signal
      split
      · exact ⟨site.host, site.signals, rfl⟩
      · exact ⟨_, _, rfl⟩

theorem effects_eq (index : Nat) (effects : List StopEffect) (site : Site) :
    ∃ host notices signals, effects.foldl (applyEffect index) site =
      { site with host := host, notices := notices, signals := signals } := by
  induction effects generalizing site with
  | nil => exact ⟨site.host, site.notices, site.signals, rfl⟩
  | cons effect effects induction =>
      obtain ⟨host, notices, signals, same⟩ := induction (applyEffect index site effect)
      rw [List.foldl_cons, same]
      cases effect with
      | report notice => exact ⟨host, notices, signals, rfl⟩
      | hook hook =>
          obtain ⟨_, _, ran⟩ := runHook_eq site index hook
          rw [show applyEffect index site (.hook hook) = _ from ran]
          exact ⟨host, notices, signals, rfl⟩

/-- A step of a stop sets its job; the rest happens on the host and in reports. -/
theorem commit_eq (site : Site) (index : Nat) (step : StopCall.Step) :
    ∃ host notices signals, site.commit index step =
      { site.setJob index step.job with
        host := host, notices := notices, signals := signals } :=
  effects_eq index step.effects (site.setJob index step.job)

theorem job_commit_or (site : Site) (index : Nat) (step : StopCall.Step) :
    (site.commit index step).job index = step.job ∨
      (site.commit index step).job index = site.job index := by
  obtain ⟨host, notices, signals, same⟩ := commit_eq site index step
  rw [same]
  exact job_setJob_or site index step.job

end Site

end Overseer
