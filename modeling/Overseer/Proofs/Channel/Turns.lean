import Overseer.Proofs.Channel.Books
import Overseer.Proofs.Channel.Rendezvous
import Overseer.Proofs.Supervision.Deeds

/-!
# Turns of gates

A gate whose job is free goes on: it accepts, decodes or queues one thing at a time.  A
gate whose job was called off ends at its next turn, whatever it waits for, and closes its
listener.  Either way it leaves all other gates and their listeners alone.
-/

namespace Overseer

namespace Sockets

/-- Two states of the sockets that differ in one listener, or in what came over
connections. -/
structure Around (number : Nat) (before after : Sockets) : Prop where
  connections : after.connections.size = before.connections.size
  listeners : after.listeners.size = before.listeners.size
  others : ∀ other, other ≠ number → after.listener other = before.listener other

variable {number connection : Nat} {before after : Sockets}

theorem Around.refl (number : Nat) (sockets : Sockets) : Around number sockets sockets :=
  ⟨rfl, rfl, fun _ _ => rfl⟩

theorem Around.trans {third : Sockets} (first : Around number before after)
    (second : Around number after third) : Around number before third := by
  refine ⟨second.connections.trans first.connections,
    second.listeners.trans first.listeners, ?_⟩
  intro other apart
  rw [second.others other apart, first.others other apart]

/-- A change of a connection changes no listener. -/
theorem Apart.around (apart : Apart connection before after) (number : Nat) :
    Around number before after :=
  ⟨apart.size, by rw [apart.listeners], fun other _ => apart.listener other⟩

theorem around_setListener (sockets : Sockets) (number : Nat) (held : Listener) :
    Around number sockets (sockets.setListener number held) := by
  refine ⟨rfl, size_setListener sockets number held, ?_⟩
  intro other apart
  rw [listener_setListener, if_neg (fun here => apart here.1)]

theorem around_close (sockets : Sockets) (number : Nat) :
    Around number sockets (sockets.close number) := by
  have dropped (backlog : List Nat) (sockets : Sockets) :
      Around number sockets (backlog.foldl drop sockets) := by
    induction backlog generalizing sockets with
    | nil => exact .refl number sockets
    | cons connection backlog induction =>
        exact ((apart_drop sockets connection).around number).trans (induction _)
  exact (dropped _ sockets).trans (around_setListener _ number _)

theorem apart_read (reader : FrameReader) (sockets : Sockets) (connection : Nat) :
    Apart connection sockets (reader.read (inlet connection) sockets).connection := by
  have reads := FrameReader.read_reads (inlet connection) reader sockets
  generalize reader.read (inlet connection) sockets = call at reads
  cases reads with
  | content => exact .refl connection sockets
  | waits => exact .refl connection sockets
  | takes _ taken =>
      have hands := inlet_hands sockets connection reader.chunkSize
      rw [taken] at hands
      cases hands with
      | ending => exact .refl connection sockets
      | bytes => exact apart_setConnection sockets connection _

end Sockets

/-! ## Steps of a gate that nobody stops -/

namespace Gate

/-- What a step makes of the command that is offered and of the queue. -/
inductive Passes : Watch → List Command → Watch → List Command → Prop where
  | idles {watch next : Watch} {queue : List Command}
      (same : next.commands = watch.commands) : Passes watch queue next queue
  | decodes {connection : Nat} {reader : FrameReader} {deadline : Instant}
      {queue : List Command} (command : Command) :
      Passes (.reading connection reader deadline) queue (.offering command) queue
  | queues {queue : List Command} (command : Command) :
      Passes (.offering command) queue .accepting (queue ++ [command])

/-- A step after which the gate waits for `next`. -/
structure Goes (sockets : Sockets) (gate : Gate) (watch : Watch) (step : Step)
    (next : Watch) : Prop where
  waits : step.waits = some next
  listener : step.gate.listener = gate.listener
  around : Sockets.Around gate.listener sockets step.sockets
  isOpen : (step.sockets.listener gate.listener).isOpen =
    (sockets.listener gate.listener).isOpen
  /-- Connections are accepted from the backlog and read until they are left. -/
  connections : ∀ connection ∈
    (step.sockets.listener gate.listener).backlog ++ next.connections,
    connection ∈ (sockets.listener gate.listener).backlog ++ watch.connections
  passes : Passes watch gate.queue next step.gate.queue

variable {sockets : Sockets} {gate : Gate}

theorem goes_of_apart {connection : Nat} {watch next : Watch} {after : Sockets}
    {notices : List Notice} (apart : Sockets.Apart connection sockets after)
    (connections : ∀ connection ∈ next.connections, connection ∈ watch.connections)
    (passes : Passes watch gate.queue next gate.queue) :
    Goes sockets gate watch ⟨after, gate, notices, some next⟩ next where
  waits := rfl
  listener := rfl
  around := apart.around gate.listener
  isOpen := by rw [apart.listener]
  connections := by
    intro connection member
    rw [apart.listener] at member
    rcases List.mem_append.mp member with waits | reads
    · exact List.mem_append_left _ waits
    · exact List.mem_append_right _ (connections connection reads)
  passes := passes

theorem goes_step (now : Instant) (sockets : Sockets) (gate : Gate) (watch : Watch)
    (listens : gate.listener < sockets.listeners.size) :
    ∃ next, Goes sockets gate watch (gate.step now false sockets watch) next := by
  unfold step
  rw [if_neg Bool.false_ne_true]
  cases watch with
  | accepting =>
      dsimp only
      cases accepted : sockets.accept? gate.listener with
      | none =>
          refine ⟨.accepting, goes_of_apart (.refl 0 sockets) (by simp) (.idles rfl)⟩
      | some found =>
          obtain ⟨after, connection⟩ := found
          obtain ⟨oldest, sizes, connections⟩ := Sockets.accept?_eq_some listens accepted
          have taken : after = sockets.setListener gate.listener
              { sockets.listener gate.listener with
                backlog := (after.listener gate.listener).backlog } := by
            unfold Sockets.accept? at accepted
            dsimp only at accepted
            rw [oldest] at accepted
            exact (Prod.mk.inj (Option.some.inj accepted)).1.symm
          have around : Sockets.Around gate.listener sockets after := by
            rw [taken]
            exact Sockets.around_setListener sockets gate.listener _
          refine ⟨_, rfl, rfl, around, ?_, ?_, .idles rfl⟩
          · show (after.listener gate.listener).isOpen = _
            rw [taken, Sockets.listener_setListener, if_pos ⟨rfl, listens⟩]
          · intro other member
            rw [oldest, List.mem_append, List.mem_cons]
            rcases List.mem_append.mp member with waits | reads
            · exact .inl (.inr waits)
            · exact .inl (.inl (List.mem_singleton.mp reads))
  | reading connection reader deadline =>
      have apart := Sockets.apart_read reader sockets connection
      have left (after : Sockets) (apart : Sockets.Apart connection sockets after) :
          Sockets.Apart connection sockets (after.drop connection) :=
        apart.trans (Sockets.apart_drop after connection)
      dsimp only
      unfold read leave expire
      dsimp only
      split
      · rename_i command _
        exact ⟨_, goes_of_apart (left _ apart) (by simp) (.decodes command)⟩
      · split
        · exact ⟨_, goes_of_apart (left _ apart) (by simp) (.idles rfl)⟩
        · split
          · exact ⟨_, goes_of_apart (left _ apart) (by simp) (.idles rfl)⟩
          · exact ⟨_, goes_of_apart apart (by simp) (.idles rfl)⟩
  | offering command =>
      dsimp only
      unfold offer
      split
      · exact ⟨.accepting, rfl, rfl, .refl _ _, rfl, by simp, .queues command⟩
      · exact ⟨_, goes_of_apart (.refl 0 sockets) (by simp) (.idles rfl)⟩

end Gate

/-! ## Jobs -/

namespace Job

/-- The body of the job has a task, and nobody has told it to end. -/
structure IsFree (job : Job) : Prop where
  hasTask : job.body.hasTask = true
  unaborted : job.aborted = false
  unstopped : job.stopFlag = false
  running : job.exitFlag = false
  unclaimed : job.stopClaimed = false

/-- The job was told to end. -/
def IsCalledOff (job : Job) : Prop :=
  job.stopFlag = true ∨ job.aborted = true

variable {job : Job}

theorem IsFree.enter (free : job.IsFree) : job.enter.IsFree :=
  ⟨rfl, free.unaborted, free.unstopped, free.running, free.unclaimed⟩

theorem IsFree.abort (free : job.IsFree) : job.abort.IsCalledOff := by
  right
  simp [Job.abort, free.hasTask]

theorem IsCalledOff.moveTo (calledOff : job.IsCalledOff) (phase : Phase) :
    (job.moveTo phase).IsCalledOff := by
  unfold Job.moveTo
  split
  · exact calledOff
  · exact calledOff

theorem IsCalledOff.abort (calledOff : job.IsCalledOff) : job.abort.IsCalledOff := by
  rcases calledOff.moveTo .killed with stopped | aborted
  · exact .inl stopped
  · have kept : job.aborted = true := by
      unfold Job.moveTo at aborted
      split at aborted <;> exact aborted
    right
    simp [Job.abort, kept]

theorem IsCalledOff.finish (calledOff : job.IsCalledOff) : job.finish.IsCalledOff := by
  rcases calledOff with _ | aborted
  · exact .inl rfl
  · exact .inr aborted

theorem IsCalledOff.drop (calledOff : job.IsCalledOff) : job.drop.IsCalledOff := by
  unfold Job.drop
  split
  · exact calledOff.finish
  · exact calledOff

end Job

namespace StopCall

variable {job : Job}

theorem calledOff_kill (calledOff : job.IsCalledOff) (now : Instant)
    (effects : List StopEffect) : (kill now job effects).job.IsCalledOff := by
  unfold kill
  rw [awaitExit_job]
  exact calledOff.abort

theorem calledOff_awaitTermination (calledOff : job.IsCalledOff) (now deadline : Instant)
    (effects : List StopEffect) :
    (awaitTermination now deadline job effects).job.IsCalledOff := by
  unfold awaitTermination
  split
  · exact calledOff
  · split
    · exact calledOff_kill calledOff now effects
    · exact calledOff

theorem calledOff_awaitStop (calledOff : job.IsCalledOff) (now : Instant) (wait : WaitCall)
    (effects : List StopEffect) : (awaitStop now wait job effects).job.IsCalledOff := by
  unfold awaitStop
  split
  · exact calledOff
  · exact calledOff
  · exact calledOff_awaitTermination (calledOff.moveTo _) now _ _

/-- A stop that goes on takes nothing back. -/
theorem calledOff_resume (calledOff : job.IsCalledOff) (now : Instant) (call : StopCall) :
    (call.resume now job).job.IsCalledOff := by
  cases call with
  | following deadline =>
      unfold resume
      rw [awaitExit_job]
      exact calledOff
  | graceful wait => exact calledOff_awaitStop calledOff now wait []
  | terminating deadline => exact calledOff_awaitTermination calledOff now deadline []
  | killing deadline =>
      unfold resume
      rw [awaitExit_job]
      exact calledOff

/-- The stop of a job that nobody has told to end tells it so. -/
theorem calledOff_begin (free : job.IsFree) (now : Instant) (timeout : Duration) :
    (begin now job timeout false).job.IsCalledOff := by
  have launched : job.body ≠ .unlaunched := by
    intro absent
    have hasTask := free.hasTask
    rw [absent] at hasTask
    cases hasTask
  have requested : ({ job with stopClaimed := true } : Job).requestStop.IsCalledOff := .inl rfl
  unfold begin
  rw [if_neg (by rw [free.unclaimed]; exact Bool.false_ne_true)]
  dsimp only
  rw [if_neg (by rw [free.running]; exact Bool.false_ne_true)]
  unfold perform
  dsimp only
  rw [if_neg launched, if_neg Bool.false_ne_true]
  split
  · exact requested
  · exact calledOff_awaitStop requested now _ _

end StopCall

/-! ## Turns of the task of a gate -/

namespace Site

/-- The task guards the gate at a position, or is about to. -/
inductive Minds (post : Nat) : Gate.Watch → Activity → Prop where
  | enters : Minds post .accepting (.enter post)
  | guards (watch : Gate.Watch) : Minds post watch (.guard post watch)

/-- What one turn at a position leaves alone. -/
structure Confined (post listener : Nat) (before after : Site) : Prop where
  now : after.now = before.now
  tree : after.host.tree = before.host.tree
  size : after.posts.size = before.posts.size
  others : ∀ other, other ≠ post → after.posts[other]? = before.posts[other]?
  around : Sockets.Around listener before.host.sockets after.host.sockets

variable {post listener : Nat} {before after : Site}

theorem Confined.trans {third : Site} (first : Confined post listener before after)
    (second : Confined post listener after third) : Confined post listener before third := by
  refine ⟨second.now.trans first.now, second.tree.trans first.tree,
    second.size.trans first.size, ?_, first.around.trans second.around⟩
  intro other apart
  rw [second.others other apart, first.others other apart]

theorem confined_modify (site : Site) (post listener : Nat) (change : Post → Post) :
    Confined post listener site { site with posts := site.posts.modify post change } := by
  refine ⟨rfl, rfl, by simp, ?_, .refl listener _⟩
  intro other apart
  simp only [Array.getElem?_modify, if_neg (Ne.symm apart)]

theorem confined_setSockets {site : Site} {sockets : Sockets}
    (around : Sockets.Around listener site.host.sockets sockets) (post : Nat) :
    Confined post listener site (site.setSockets sockets) :=
  ⟨rfl, rfl, rfl, fun _ _ => rfl, around⟩

theorem confined_reportAll (site : Site) (post listener : Nat) (notices : List Notice) :
    Confined post listener site (site.reportAll notices) := by
  obtain ⟨reported, same⟩ := reportAll_eq site notices
  rw [same]
  exact ⟨rfl, rfl, rfl, fun _ _ => rfl, .refl listener _⟩

theorem Confined.gate? (confined : Confined post listener before after) {other : Nat}
    (apart : other ≠ post) : after.gate? other = before.gate? other := by
  unfold Site.gate?
  rw [confined.others other apart]

theorem gate?_of_posts {site other : Site} (posts : other.posts = site.posts) (post : Nat) :
    other.gate? post = site.gate? post := by
  simp only [gate?, posts]

variable {site : Site} {gate : Gate} {watch : Gate.Watch} {task : Activity}

/-- The end of a body that was called off. -/
structure Ends (post : Nat) (gate : Gate) (site : Site) (turn : Turn Site Activity) :
    Prop where
  confined : Confined post gate.listener site turn.world
  guarded : turn.world.gate? post = some gate
  calledOff : (turn.world.job post).IsCalledOff
  rest : turn.rest = none
  begun : turn.begun = []

theorem ends_of_left {left : Site} {job : Job} (confined : Confined post gate.listener site left)
    (guarded : left.gate? post = some gate) (calledOff : job.IsCalledOff) :
    Ends post gate site ⟨(left.closeListener post).setJob post job, none, []⟩ := by
  have closed : left.closeListener post =
      left.setSockets (left.host.sockets.close gate.listener) := by
    unfold closeListener
    rw [guarded]
  rw [closed]
  refine ⟨?_, ?_, ?_, rfl, rfl⟩
  · exact confined.trans ((confined_setSockets (Sockets.around_close _ gate.listener) post).trans
      (confined_modify _ post gate.listener _))
  · rw [gate?_setJob]
    exact guarded
  · have known : post < (left.setSockets (left.host.sockets.close gate.listener)).posts.size :=
      lt_size_of_gate? guarded
    rw [job_setJob known]
    exact calledOff

theorem apart_shut (sockets : Sockets) (gate : Gate) (watch : Gate.Watch) :
    (gate.shut sockets watch).gate = gate ∧ (gate.shut sockets watch).waits = none ∧
      Sockets.Around gate.listener sockets (gate.shut sockets watch).sockets := by
  cases watch with
  | accepting => exact ⟨rfl, rfl, .refl _ _⟩
  | offering command => exact ⟨rfl, rfl, .refl _ _⟩
  | reading connection reader deadline =>
      exact ⟨rfl, rfl, (Sockets.apart_drop sockets connection).around gate.listener⟩

theorem ends_guard (guarded : site.gate? post = some gate)
    (stopped : (site.job post).stopFlag = true) (watch : Gate.Watch) :
    Ends post gate site
      ⟨(site.guard post gate watch).1, (site.guard post gate watch).2.map (.guard post), []⟩ := by
  obtain ⟨same, none_waits, around⟩ := apart_shut site.host.sockets gate watch
  unfold guard Gate.step
  rw [stopped, if_pos rfl]
  dsimp only
  rw [none_waits, same]
  have set : (site.setSockets (gate.shut site.host.sockets watch).sockets).gate? post =
      some gate := guarded
  have left_gate : (((site.setSockets (gate.shut site.host.sockets watch).sockets).setGate post
      gate).reportAll (gate.shut site.host.sockets watch).notices).gate? post = some gate := by
    rw [gate?_of_posts (reportAll_posts _ _)]
    exact gate?_setGate set gate
  have left_job : (((site.setSockets (gate.shut site.host.sockets watch).sockets).setGate post
      gate).reportAll (gate.shut site.host.sockets watch).notices).job post = site.job post := by
    rw [job_of_posts (reportAll_posts _ _), job_setGate]
    rfl
  refine ends_of_left ?_ left_gate ?_
  · exact (confined_setSockets around post).trans
      ((confined_modify _ post gate.listener _).trans (confined_reportAll _ post gate.listener _))
  · rw [left_job]
    exact Job.IsCalledOff.finish (.inl stopped)

theorem ends_turn (guarded : site.gate? post = some gate) (minds : Minds post watch task)
    (calledOff : (site.job post).IsCalledOff) : Ends post gate site (site.turn task) := by
  cases minds with
  | guards =>
      simp only [turn, guardTurn, guarded]
      by_cases aborted : (site.job post).aborted = true
      · rw [if_pos aborted]
        refine ends_of_left ?_ guarded calledOff.drop
        exact confined_setSockets (apart_shut site.host.sockets gate watch).2.2 post
      · rw [if_neg aborted]
        exact ends_guard guarded (calledOff.resolve_right aborted) watch
  | enters =>
      simp only [turn, enterTurn]
      by_cases aborted : (site.job post).aborted = true
      · rw [if_pos aborted]
        refine ends_of_left ?_ guarded calledOff.drop
        exact ⟨rfl, rfl, rfl, fun _ _ => rfl, .refl _ _⟩
      · rw [if_neg aborted]
        have entered : (site.setJob post (site.job post).enter).gate? post = some gate := by
          rw [gate?_setJob]
          exact guarded
        have stopped : ((site.setJob post (site.job post).enter).job post).stopFlag = true := by
          rw [job_setJob (lt_size_of_gate? guarded)]
          exact calledOff.resolve_right aborted
        have ends := ends_guard entered stopped .accepting
        have duty : ((site.setJob post (site.job post).enter).posts[post]?).map Post.duty =
            some (.gate gate) := by
          unfold gate? at entered
          split at entered
          · rename_i held
            rw [held, Option.some.inj entered]
          · cases entered
        rw [duty]
        exact { ends with
          confined := (confined_modify site post gate.listener _).trans ends.confined }

/-- A turn of a gate that nobody stops. -/
structure Continues (post : Nat) (gate : Gate) (watch next : Gate.Watch) (site : Site)
    (turn : Turn Site Activity) : Prop where
  confined : Confined post gate.listener site turn.world
  free : (turn.world.job post).IsFree
  goes : ∃ step, Gate.Goes site.host.sockets gate watch step next ∧
    turn.world.gate? post = some step.gate ∧ turn.world.host.sockets = step.sockets
  rest : turn.rest = some (.guard post next)
  begun : turn.begun = []

theorem continues_guard (guarded : site.gate? post = some gate) (free : (site.job post).IsFree)
    (listens : gate.listener < site.host.sockets.listeners.size) (watch : Gate.Watch) :
    ∃ next, Continues post gate watch next site
      ⟨(site.guard post gate watch).1, (site.guard post gate watch).2.map (.guard post), []⟩ := by
  obtain ⟨next, goes⟩ := Gate.goes_step site.now site.host.sockets gate watch listens
  have guards : site.Guards post gate := ⟨guarded, free.unstopped, free.unaborted⟩
  have stepped : site.guard post gate watch =
      (((site.setSockets (gate.step site.now false site.host.sockets watch).sockets).setGate post
        (gate.step site.now false site.host.sockets watch).gate).reportAll
        (gate.step site.now false site.host.sockets watch).notices, some next) := by
    simp only [guard, guards.unstopped]
    rw [goes.waits]
  obtain ⟨after, sockets, _, _⟩ := guard_eq_step guards watch next goes.waits
  refine ⟨next, ?_, ?_, ⟨_, goes, after.guarded, sockets⟩, ?_, rfl⟩
  · rw [stepped]
    exact (confined_setSockets goes.around post).trans
      ((confined_modify _ post gate.listener _).trans (confined_reportAll _ post gate.listener _))
  · rw [stepped]
    dsimp only
    rw [job_of_posts (reportAll_posts _ _), job_setGate]
    exact free
  · rw [stepped]
    rfl

theorem continues_turn (guarded : site.gate? post = some gate) (minds : Minds post watch task)
    (free : (site.job post).IsFree)
    (listens : gate.listener < site.host.sockets.listeners.size) :
    ∃ next, Continues post gate watch next site (site.turn task) := by
  have running : ¬ (site.job post).aborted = true := by
    rw [free.unaborted]
    exact Bool.false_ne_true
  cases minds with
  | guards =>
      simp only [turn, guardTurn, guarded]
      rw [if_neg running]
      exact continues_guard guarded free listens watch
  | enters =>
      simp only [turn, enterTurn]
      rw [if_neg running]
      have entered : (site.setJob post (site.job post).enter).gate? post = some gate := by
        rw [gate?_setJob]
        exact guarded
      have entered_free : ((site.setJob post (site.job post).enter).job post).IsFree := by
        rw [job_setJob (lt_size_of_gate? guarded)]
        exact free.enter
      have duty : ((site.setJob post (site.job post).enter).posts[post]?).map Post.duty =
          some (.gate gate) := by
        unfold gate? at entered
        split at entered
        · rename_i held
          rw [held, Option.some.inj entered]
        · cases entered
      rw [duty]
      obtain ⟨next, continues⟩ := continues_guard entered entered_free listens .accepting
      exact ⟨next, { continues with
        confined := (confined_modify site post gate.listener _).trans continues.confined }⟩

end Site

end Overseer
