import Overseer.Proofs.Supervision.Exclusion

/-!
# The charge of an application

The body of an application among others.  Whatever others do beside it is allowed, as long
as nobody tells the body to end and nobody takes back a raised stop flag or the end of a
process: they may raise the flag, send signals and change the host at any time.

A charge is that body with what is told about it: which child it spawned, when the stop
flag was raised and when the child ended, which signals the body sent and which events it
posted.  What a stop sends through its hooks is not told, since the body does not send it.
The system lets a body wait for its own child; a body that fails to is not told of here.
-/

namespace Overseer

namespace Host

variable {host : Host} {number : ProcessNumber} {status : ExitStatus}

/-- Whatever keeps the number and the end of each process keeps the end of all. -/
theorem find?_map_of_same {change : Process → Process}
    (numbers : ∀ process, (change process).number = process.number)
    (ends : ∀ process, (change process).status? = process.status?)
    (processes : List Process) (number : ProcessNumber) :
    ((processes.map change).find? (·.number == number)).bind Process.status? =
      (processes.find? (·.number == number)).bind Process.status? := by
  have looks : (fun process : Process => process.number == number) ∘ change =
      fun process => process.number == number := by
    funext process
    exact congrArg (· == number) (numbers process)
  rw [List.find?_map, looks, Option.bind_map]
  congr 1
  funext process
  exact ends process

theorem processes_strikeBystander (host : Host) (signal : Nat) :
    (host.strikeBystander signal).processes = host.processes := by
  unfold strikeBystander
  split <;> rfl

/-- A signal that is sent has not been taken yet. -/
theorem status?_deliver (host : Host) (call : SignalCall) (number : ProcessNumber) :
    (host.deliver call).status? number = host.status? number := by
  unfold deliver
  split
  · rfl
  · rename_i signal _
    have struck : (if call.target = bystanderNumber.toNat then
        host.strikeBystander signal.number else host).processes = host.processes := by
      split
      · exact host.processes_strikeBystander signal.number
      · rfl
    unfold status? process?
    dsimp only
    rw [struck, Array.toList_map]
    apply find?_map_of_same
    · intro process
      split <;> rfl
    · intro process
      split <;> rfl

end Host
namespace Site

variable {site before after : Site} {post sink : Nat} {application : Application}
  {attendance : Attendance}

/-! ## The post of an application -/

/-- The body at a post is that of an application, whose events go to a sink. -/
def Employs (site : Site) (post : Nat) (application : Application) (sink : Nat) : Prop :=
  (site.posts[post]?).map Post.duty = some (.application application sink)

theorem Employs.application? (employs : site.Employs post application sink) :
    site.application? post = some application := by
  unfold Site.application?
  rw [employs]

theorem Employs.lt_size (employs : site.Employs post application sink) :
    post < site.posts.size := by
  obtain ⟨_, held, _⟩ := Option.map_eq_some_iff.mp employs
  exact (Array.getElem?_eq_some_iff.mp held).1

theorem Employs.of_posts (employs : before.Employs post application sink)
    (posts : after.posts = before.posts) : after.Employs post application sink := by
  unfold Employs
  rw [posts]
  exact employs

theorem Employs.setJob (employs : site.Employs post application sink) (job : Job) :
    (site.setJob post job).Employs post application sink :=
  (duty_setJob site post job post).trans employs

theorem Employs.setApplication (employs : site.Employs post application sink)
    (next : Application) : (site.setApplication post next).Employs post next sink := by
  obtain ⟨held, known, duty⟩ := Option.map_eq_some_iff.mp employs
  unfold Employs Site.setApplication
  simp [Array.getElem?_modify, known, duty, Duty.withApplication]

theorem Employs.postFrom (employs : site.Employs post application sink) (event : Event) :
    site.postFrom post event = site.postEvent sink event := by
  unfold Site.postFrom
  rw [employs]

theorem Employs.endBody (employs : site.Employs post application sink) :
    site.endBody post = site.setJob post (site.job post).finish := by
  have gateless : site.gate? post = none := by
    unfold gate?
    rw [employs]
  unfold Site.endBody closeListener
  rw [gateless]

/-! ## What a body does to its site -/

/-- The signals that the body at a post sends to its child, as far as the system takes
them. -/
def dispatches (post : Nat) (child : ProcessNumber) (sent : List (Instant × Signal)) :
    List Dispatch :=
  sent.filterMap fun entry =>
    (SignalCall.toProcess? child (some entry.2)).map fun call => ⟨entry.1, post, call⟩

theorem dispatches_append (post : Nat) (child : ProcessNumber)
    (newer older : List (Instant × Signal)) :
    dispatches post child (newer ++ older) =
      dispatches post child newer ++ dispatches post child older :=
  List.filterMap_append

theorem dispatches_of_isProcess {child : ProcessNumber}
    (isProcess : (Offspring.mk post child).IsProcess) (sent : List (Instant × Signal)) :
    dispatches post child sent =
      sent.map fun entry => ⟨entry.1, post, ⟨child.toNat, some entry.2⟩⟩ := by
  unfold dispatches
  rw [← List.filterMap_eq_map]
  congr 1
  funext entry
  have called : SignalCall.toProcess? child (some entry.2) =
      some ⟨child.toNat, some entry.2⟩ := if_pos isProcess
  rw [called]
  rfl

/-- What the body of an application does to its site while it attends to its child: it
sends signals, of which the oldest is the first here. -/
structure Deals (post : Nat) (child : ProcessNumber) (application : Application)
    (sink : Nat) (signals : List Signal) (before after : Site) : Prop where
  now : after.now = before.now
  employs : after.Employs post application sink
  aborted : (after.job post).aborted = (before.job post).aborted
  signals : after.signals =
    dispatches post child (signals.reverse.map (before.now, ·)) ++ before.signals
  events : after.events = before.events
  status : ∀ number, after.host.status? number = before.host.status? number

theorem deals_signal (employs : site.Employs post application sink)
    (child : ProcessNumber) (signal : Signal) :
    Deals post child application sink [signal] site (site.signal post child signal) := by
  unfold Site.signal
  cases called : SignalCall.toProcess? child (some signal) with
  | none => exact ⟨rfl, employs, rfl, by simp [dispatches, called], rfl, fun _ => rfl⟩
  | some call =>
      exact ⟨rfl, employs, rfl, by simp [dispatches, called], rfl,
        site.host.status?_deliver call⟩

theorem deals_signals (employs : site.Employs post application sink)
    (child : ProcessNumber) (signals : List Signal) :
    Deals post child application sink signals site
      (signals.foldl (fun site signal => site.signal post child signal) site) := by
  induction signals generalizing site with
  | nil => exact ⟨rfl, employs, rfl, rfl, rfl, fun _ => rfl⟩
  | cons signal signals induction =>
      have first := deals_signal employs child signal
      have rest := induction first.employs
      constructor
      · exact rest.now.trans first.now
      · exact rest.employs
      · exact rest.aborted.trans first.aborted
      · rw [List.foldl_cons, rest.signals, first.signals, first.now,
          ← List.append_assoc, ← dispatches_append]
        simp
      · exact rest.events.trans first.events
      · exact fun number => (rest.status number).trans (first.status number)

/-- A body that attends to its child leaves its job alone until it returns. -/
theorem deals_attended (employs : site.Employs post application sink)
    (child : ProcessNumber) (attended : Application.Attended) :
    let stepped :=
      ((attended.signals.foldl (fun site signal => site.signal post child signal)
        site).setApplication post attended.application).reportAll attended.notices
    Deals post child attended.application sink attended.signals site stepped ∧
      stepped.job post = site.job post := by
  intro stepped
  have signalled := deals_signals employs child attended.signals
  have job : stepped.job post = site.job post := by
    rw [job_of_posts (reportAll_posts _ _), job_setApplication,
      job_of_posts (posts_signals _ _ _ _)]
  obtain ⟨reported, same⟩ := reportAll_eq ((attended.signals.foldl
    (fun site signal => site.signal post child signal) site).setApplication post
      attended.application) attended.notices
  refine ⟨⟨?_, ?_, by rw [job], ?_, ?_, ?_⟩, job⟩
  · exact (reportAll_now _ _).trans signalled.now
  · exact (signalled.employs.setApplication attended.application).of_posts
      (reportAll_posts _ _)
  all_goals
    rw [show stepped = _ from same]
  · exact signalled.signals
  · exact signalled.events
  · exact signalled.status

/-- A body whose child has not ended goes on to attend to it. -/
theorem deals_attend [Timers] (employs : site.Employs post application sink)
    (running : site.childStatus attendance = none) {attended : Application.Attended}
    (attends : application.attend site.now (site.job post).stopFlag none attendance =
      attended) {next : Attendance} (waits : attended.waits = some next) :
    (site.attend post application attendance).2 = some next ∧
      Deals post attendance.child attended.application sink attended.signals site
        (site.attend post application attendance).1 ∧
      (site.attend post application attendance).1.job post = site.job post := by
  obtain ⟨deals, job⟩ := deals_attended employs attendance.child attended
  unfold Site.attend
  dsimp only
  rw [running, attends, waits]
  exact ⟨rfl, deals, job⟩

/-- A body whose child has ended takes down its status and returns. -/
theorem attend_of_ended [Timers] (employs : site.Employs post application sink)
    {status : ExitStatus} (ended : site.childStatus attendance = some status) :
    site.attend post application attendance =
      ((site.setApplication post (application.withStatus status)).setJob post
        (site.job post).finish, none) := by
  have left := employs.setApplication (application.withStatus status)
  rw [← job_setApplication site post (application.withStatus status) post,
    ← left.endBody]
  unfold Site.attend
  rw [ended]
  rfl

theorem deals_attend_of_ended [Timers] (employs : site.Employs post application sink)
    {status : ExitStatus} (ended : site.childStatus attendance = some status) :
    (site.attend post application attendance).2 = none ∧
      Deals post attendance.child (application.withStatus status) sink [] site
        (site.attend post application attendance).1 := by
  have left := employs.setApplication (application.withStatus status)
  rw [attend_of_ended employs ended]
  refine ⟨rfl, rfl, left.setJob _, ?_, rfl, rfl, fun _ => rfl⟩
  rw [job_setJob left.lt_size]
  rfl

theorem launch_of_spawn [Timers] (employs : site.Employs post application sink) {host : Host}
    {child : ProcessNumber}
    (spawns : site.host.spawn application.program application.report =
      .ok (host, child)) :
    ∃ started : Site,
      site.launch post application =
          started.attend post (application.withChild child) (.running child) ∧
        started.Employs post (application.withChild child) sink ∧
        started.now = site.now ∧ started.job post = site.job post ∧
        started.signals = site.signals ∧
        started.events = (sink, .applicationStarted child) :: site.events := by
  let hosted : Site := { site with host := host }
  have employed : hosted.Employs post application sink := employs
  have manned := employed.setApplication (application.withChild child)
  refine ⟨(hosted.setApplication post (application.withChild child)).postEvent sink
    (.applicationStarted child), ?_, manned, rfl, ?_, rfl, rfl⟩
  · rw [← manned.postFrom]
    unfold launch
    rw [spawns]
  · exact job_setApplication hosted post (application.withChild child) post

/-- A body that cannot spawn its child returns at once. -/
theorem launch_eq_of_failure [Timers] (employs : site.Employs post application sink)
    {error : SystemError}
    (fails : site.host.spawn application.program application.report = .error error) :
    site.launch post application =
      ((site.report (.bodyFailed (.spawn application.program error))).setJob post
        (site.job post).finish, none) := by
  let reported := site.report (.bodyFailed (.spawn application.program error))
  have employed : reported.Employs post application sink := employs
  have returned : site.launch post application = (reported.endBody post, none) := by
    unfold launch
    rw [fails]
    rfl
  rw [returned, employed.endBody]
  rfl

theorem launch_of_failure [Timers] (employs : site.Employs post application sink)
    {error : SystemError}
    (fails : site.host.spawn application.program application.report = .error error) :
    (site.launch post application).2 = none ∧
      (site.launch post application).1.signals = site.signals ∧
      (site.launch post application).1.events = site.events ∧
      ((site.launch post application).1.job post).aborted = (site.job post).aborted := by
  have employed : (site.report (.bodyFailed (.spawn application.program error))).Employs
      post application sink := employs
  rw [launch_eq_of_failure employs fails]
  refine ⟨rfl, rfl, rfl, ?_⟩
  dsimp only
  rw [job_setJob employed.lt_size]
  rfl

end Site

namespace Site

variable {site : Site} {post : Nat}

/-! ## What others do beside the body -/

/-- What others may do beside the body at a post. -/
structure Beside (post : Nat) (before after : Site) : Prop where
  now : after.now = before.now
  duty : (after.posts[post]?).map Post.duty = (before.posts[post]?).map Post.duty
  aborted : (after.job post).aborted = (before.job post).aborted
  stopFlag : (before.job post).stopFlag = true → (after.job post).stopFlag = true
  status : ∀ number status, before.host.status? number = some status →
    after.host.status? number = some status

end Site

/-- The body of an application with what is told about it. -/
structure Charge where
  site : Site
  /-- The task of the body; nothing once it has returned. -/
  task : Option Activity
  /-- The child that the body spawned. -/
  child : Option ProcessNumber
  /-- Since when the stop flag is raised, if it was raised before the body returned. -/
  stoppedAt : Option Instant
  /-- When the child ended. -/
  endedAt : Option Instant
  /-- The signals that the body sent, the latest first. -/
  sent : List Dispatch
  /-- The events that the body posted, the latest first. -/
  told : List (Nat × Event)

namespace Charge

def added {entry : Type} (before after : List entry) : List entry :=
  after.take (after.length - before.length)

theorem added_append {entry : Type} (newer before : List entry) :
    added before (newer ++ before) = newer := by
  simp [added]

theorem added_of_eq {entry : Type} {before after : List entry} (same : after = before) :
    added before after = [] := by
  simp [added, same]

/-- The instants are written down that are not known yet. -/
def note (charge : Charge) (post : Nat) : Charge :=
  { charge with
    stoppedAt := charge.stoppedAt.or
      (if charge.task.isSome && (charge.site.job post).stopFlag then
        some charge.site.now else none)
    endedAt := charge.endedAt.or
      ((charge.child.bind charge.site.host.status?).map fun _ => charge.site.now) }

/-- The body is scheduled. -/
def fresh (site : Site) (post : Nat) : Charge :=
  note
    { site := site
      task := some (.enter post)
      child := none
      stoppedAt := none
      endedAt := none
      sent := []
      told := [] }
    post

/-- The body takes a turn, unless it has returned. -/
def turn [Timers] (charge : Charge) (post : Nat) : Charge :=
  match charge.task with
  | none => charge
  | some task =>
      let turn := charge.site.turn task
      note
        { charge with
          site := turn.world
          task := turn.rest
          child := charge.child.or ((charge.site.spawned? task).map Offspring.child)
          sent := added charge.site.signals turn.world.signals ++ charge.sent
          told := added charge.site.events turn.world.events ++ charge.told }
        post

/-- Something happens beside the body. -/
def beside (charge : Charge) (post : Nat) (after : Site) : Charge :=
  note { charge with site := after } post

def setClock (charge : Charge) (time : Instant) : Charge :=
  { charge with site := { charge.site with now := time } }

/-- Whether the clock may move on to an instant: the body cannot run on, and does not wait
for an earlier one. -/
def mayReach (charge : Charge) (time : Instant) : Bool :=
  charge.site.now ≤ time && time < Instant.limit &&
    charge.task.all fun task =>
      !charge.site.isReady task && task.deadline.all (time ≤ ·)

/-- What can happen to a charge. -/
inductive Step [Timers] (post : Nat) (charge : Charge) : Charge → Prop where
  | turns : Step post charge (charge.turn post)
  | beside {after : Site} (others : Site.Beside post charge.site after) :
      Step post charge (charge.beside post after)
  | passes {time : Instant} (allowed : charge.mayReach time = true) :
      Step post charge (charge.setClock time)

/-- What must be true of the body for the clock to move. -/
theorem idle_of_mayReach {charge : Charge} {time : Instant} {task : Activity}
    (allowed : charge.mayReach time = true) (stands : charge.task = some task) :
    charge.site.isReady task = false ∧
      ∀ deadline, task.deadline = some deadline → time ≤ deadline := by
  unfold mayReach at allowed
  rw [stands, Option.all_some] at allowed
  simp only [Bool.and_eq_true, Bool.not_eq_true', decide_eq_true_eq] at allowed
  obtain ⟨_, waiting, early⟩ := allowed
  refine ⟨waiting, fun deadline waits => ?_⟩
  rw [waits] at early
  exact of_decide_eq_true early

theorem le_of_mayReach {charge : Charge} {time : Instant}
    (allowed : charge.mayReach time = true) : charge.site.now ≤ time := by
  unfold mayReach at allowed
  rw [Bool.and_eq_true, Bool.and_eq_true] at allowed
  exact of_decide_eq_true allowed.1.1

end Charge

end Overseer
