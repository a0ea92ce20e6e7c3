import Overseer.Proofs.Lifecycle.Timing
import Overseer.Proofs.Supervision.Charge

/-!
# The shutdown ladder of an application

Once the stop flag is raised, the body of an application climbs a ladder: the child
has its exit grace, is sent SIGTERM, has its kill grace and is sent SIGKILL.  `Ladder.Rung`
tells on which rung a body waits and which signals it has sent by then; the clock does not
move past a rung, and the ladder is left as soon as the child has ended.

`Charge.Stage` puts the rungs into the life of a body: it is scheduled, cannot spawn its
child, attends to it, or has returned.
-/

namespace Overseer

/-- How long the child of an application has before each of the two signals. -/
structure Ladder where
  exitGrace : Duration
  killGrace : Duration

def Application.ladder (application : Application) : Ladder :=
  ⟨application.exitGrace, application.killGrace⟩

namespace Ladder

variable {ladder : Ladder} {child : ProcessNumber} {now time raised : Instant}
  {stoppedAt : Option Instant} {attendance : Attendance} {sent : List (Instant × Signal)}

/-- When the child is sent SIGTERM, if the stop flag was raised at an instant. -/
def terminatesAt (ladder : Ladder) (raised : Instant) : Instant :=
  raised + ladder.exitGrace.nanos

/-- When the child is sent SIGKILL, if the stop flag was raised at an instant. -/
def killsAt (ladder : Ladder) (raised : Instant) : Instant :=
  ladder.terminatesAt raised + ladder.killGrace.nanos

theorem le_terminatesAt (ladder : Ladder) (raised : Instant) :
    raised ≤ ladder.terminatesAt raised :=
  Nat.le_add_right raised ladder.exitGrace.nanos

theorem terminatesAt_le_killsAt (ladder : Ladder) (raised : Instant) :
    ladder.terminatesAt raised ≤ ladder.killsAt raised :=
  Nat.le_add_right (ladder.terminatesAt raised) ladder.killGrace.nanos

/-- Where a body waits at an instant, since when the stop flag is raised, and what the
body has sent, the latest first. -/
inductive Rung (ladder : Ladder) (child : ProcessNumber) (now : Instant) :
    Option Instant → Attendance → List (Instant × Signal) → Prop where
  | running {stoppedAt : Option Instant}
      (prompt : ∀ raised, stoppedAt = some raised → raised = now) :
      Rung ladder child now stoppedAt (.running child) []
  | exiting {raised : Instant} (early : now ≤ ladder.terminatesAt raised) :
      Rung ladder child now (some raised) (.exiting child (ladder.terminatesAt raised)) []
  | terminating {raised : Instant} (late : ladder.terminatesAt raised ≤ now)
      (early : now ≤ ladder.killsAt raised) :
      Rung ladder child now (some raised) (.terminating child (ladder.killsAt raised))
        [(ladder.terminatesAt raised, .terminate)]
  | killing {raised : Instant} (late : ladder.killsAt raised ≤ now) :
      Rung ladder child now (some raised) (.killing child)
        [(ladder.killsAt raised, .kill), (ladder.terminatesAt raised, .terminate)]

namespace Rung

theorem same_child (rung : ladder.Rung child now stoppedAt attendance sent) :
    attendance.child = child := by
  cases rung <;> rfl

/-- The flag may be raised while the body waits for it. -/
theorem raise (rung : ladder.Rung child now none attendance sent) :
    ladder.Rung child now (some now) attendance sent := by
  cases rung with
  | running => exact .running fun _ same => (Option.some.inj same).symm

/-- The clock does not move past a rung. -/
theorem pass (rung : ladder.Rung child now stoppedAt attendance sent)
    (waits : Application.isReady now stoppedAt.isSome none attendance = false)
    (later : now ≤ time) (early : ∀ deadline, attendance.deadline = some deadline →
      time ≤ deadline) :
    ladder.Rung child time stoppedAt attendance sent := by
  cases rung with
  | running =>
      cases stoppedAt with
      | none => exact .running nofun
      | some _ => cases waits
  | exiting => exact .exiting (early _ rfl)
  | terminating late => exact .terminating (Nat.le_trans late later) (early _ rfl)
  | killing late => exact .killing (Nat.le_trans late later)

/-! ## What was sent -/

theorem unsent (rung : ladder.Rung child now none attendance sent) : sent = [] := by
  cases rung with
  | running => rfl

theorem spared (rung : ladder.Rung child now (some raised) attendance sent)
    (early : now < ladder.terminatesAt raised) : sent = [] := by
  cases rung with
  | running | exiting => rfl
  | terminating late => exact absurd early (Nat.not_lt.mpr late)
  | killing late =>
      exact absurd early
        (Nat.not_lt.mpr (Nat.le_trans (ladder.terminatesAt_le_killsAt raised) late))

theorem terminated (rung : ladder.Rung child now (some raised) attendance sent)
    (late : ladder.terminatesAt raised < now) (early : now < ladder.killsAt raised) :
    sent = [(ladder.terminatesAt raised, .terminate)] := by
  cases rung with
  | running prompt =>
      rw [prompt raised rfl] at late
      exact absurd late (Nat.not_lt.mpr (ladder.le_terminatesAt now))
  | exiting before => exact absurd late (Nat.not_lt.mpr before)
  | terminating => rfl
  | killing after => exact absurd early (Nat.not_lt.mpr after)

theorem killed (rung : ladder.Rung child now (some raised) attendance sent)
    (late : ladder.killsAt raised < now) :
    sent = [(ladder.killsAt raised, .kill), (ladder.terminatesAt raised, .terminate)] := by
  have terminates := ladder.terminatesAt_le_killsAt raised
  cases rung with
  | running prompt =>
      rw [prompt raised rfl] at late terminates
      exact absurd late
        (Nat.not_lt.mpr (Nat.le_trans (ladder.le_terminatesAt now) terminates))
  | exiting before => exact absurd late (Nat.not_lt.mpr (Nat.le_trans before terminates))
  | terminating _ before => exact absurd late (Nat.not_lt.mpr before)
  | killing => rfl

end Rung
end Ladder

namespace Application

variable {application : Application} {child : ProcessNumber} {now raised : Instant}
  {stoppedAt : Option Instant} {attendance : Attendance} {sent : List (Instant × Signal)}
  {signals : List Signal}

/-- The body waits on the ladder after it ran. -/
def Attended.Climbs (attended : Attended) (application : Application)
    (child : ProcessNumber) (now : Instant) (stoppedAt : Option Instant)
    (sent : List (Instant × Signal)) : Prop :=
  attended.application = application ∧
    ∃ next, attended.waits = some next ∧
      application.ladder.Rung child now stoppedAt next
        (attended.signals.reverse.map (now, ·) ++ sent)

theorem climbs_awaitTermination (late : application.ladder.terminatesAt raised ≤ now)
    (early : now ≤ application.ladder.killsAt raised)
    (terminated : signals.reverse.map (now, ·) ++ sent =
      [(application.ladder.terminatesAt raised, .terminate)]) :
    (application.awaitTermination now child (application.ladder.killsAt raised)
      signals).Climbs application child now (some raised) sent := by
  unfold awaitTermination
  split
  · -- Without a kill grace this is the very instant of SIGTERM.
    rename_i due
    have reached : now = application.ladder.killsAt raised := Nat.le_antisymm early due
    have both : (signals ++ [Signal.kill]).reverse.map (now, ·) ++ sent =
        [(application.ladder.killsAt raised, .kill),
          (application.ladder.terminatesAt raised, .terminate)] := by
      rw [List.reverse_append, List.map_append, List.append_assoc, terminated, reached]
      rfl
    refine ⟨rfl, _, rfl, ?_⟩
    unfold killChild
    rw [both]
    exact .killing due
  · refine ⟨rfl, _, rfl, ?_⟩
    rw [terminated]
    exact .terminating late early

theorem climbs_awaitExit [Timers] (onTime : Timers.OnTime)
    (early : now ≤ application.ladder.terminatesAt raised) :
    (application.awaitExit now child (application.ladder.terminatesAt raised)).Climbs
      application child now (some raised) [] := by
  unfold awaitExit
  split
  · rename_i due
    have reached : now = application.ladder.terminatesAt raised :=
      Nat.le_antisymm early due
    have kills : now.deadline application.killGrace =
        application.ladder.killsAt raised := by
      rw [reached]
      exact onTime (application.ladder.terminatesAt raised) application.killGrace
    rw [kills]
    apply climbs_awaitTermination due
    · rw [reached]
      exact application.ladder.terminatesAt_le_killsAt raised
    · rw [reached]
      rfl
  · exact ⟨rfl, _, rfl, .exiting early⟩

/-- A body whose child has not ended stays on the ladder whenever it runs. -/
theorem climbs_attend [Timers] (onTime : Timers.OnTime)
    (rung : application.ladder.Rung child now stoppedAt attendance sent) :
    (application.attend now stoppedAt.isSome none attendance).Climbs application child now
      stoppedAt sent := by
  cases rung with
  | running prompt =>
      cases stoppedAt with
      | none => exact ⟨rfl, _, rfl, .running prompt⟩
      | some raised =>
          obtain rfl := prompt raised rfl
          have exits : raised.deadline application.exitGrace =
              application.ladder.terminatesAt raised :=
            onTime raised application.exitGrace
          unfold attend
          dsimp only [Option.isSome_some, if_true]
          rw [exits]
          exact climbs_awaitExit onTime (application.ladder.le_terminatesAt raised)
  | exiting early => exact climbs_awaitExit onTime early
  | terminating late early => exact climbs_awaitTermination late early rfl
  | killing late => exact ⟨rfl, _, rfl, .killing late⟩

end Application

namespace Charge

variable {charge final : Charge} {post sink : Nat} {application : Application}
  {child : ProcessNumber} {attendance : Attendance} {next : Option Attendance}

/-! ## Until when the child ran -/

/-- Until when the child has run. -/
def ranUntil (charge : Charge) : Instant :=
  charge.endedAt.getD charge.site.now

theorem ranUntil_eq_now
    (prompt : ∀ ended, charge.endedAt = some ended → ended = charge.site.now) :
    charge.ranUntil = charge.site.now := by
  unfold ranUntil
  cases known : charge.endedAt with
  | none => rfl
  | some ended => exact prompt ended known

theorem ranUntil_note (charge : Charge) (post : Nat) :
    (charge.note post).ranUntil = charge.ranUntil := by
  unfold ranUntil note
  cases charge.endedAt with
  | some ended => rfl
  | none => cases charge.child.bind charge.site.host.status? <;> rfl

/-- When the flag is seen raised while the body is there, it is written down. -/
theorem stoppedAt_note (charge : Charge) (post : Nat) :
    (charge.note post).stoppedAt = charge.stoppedAt ∨
      charge.task.isSome = true ∧ charge.stoppedAt = none ∧
        (charge.note post).stoppedAt = some charge.site.now := by
  unfold note
  cases known : charge.stoppedAt with
  | some raised => exact .inl rfl
  | none =>
      cases stands : charge.task.isSome with
      | false => exact .inl rfl
      | true =>
          cases (charge.site.job post).stopFlag with
          | false => exact .inl rfl
          | true => exact .inr ⟨rfl, rfl, rfl⟩

/-! ## The stages of a body -/

/-- A body whose child was spawned has done what its rung says. -/
structure Climbs (post : Nat) (application : Application) (sink : Nat) (charge : Charge)
    (child : ProcessNumber) (attendance : Attendance) : Prop where
  spawned : charge.child = some child
  rung : ∃ sent, application.ladder.Rung child charge.ranUntil charge.stoppedAt
    attendance sent ∧ charge.sent = Site.dispatches post child sent
  told : charge.told = [(sink, .applicationStarted child)]

/-- Where the body of an application stands. -/
inductive Stage (post : Nat) (application : Application) (sink : Nat) (charge : Charge) :
    Prop where
  | scheduled (task : charge.task = some (.enter post))
      (employs : charge.site.Employs post application sink)
      (unspawned : charge.child = none)
      (unsent : charge.sent = []) (untold : charge.told = [])
      (prompt : ∀ raised, charge.stoppedAt = some raised → raised = charge.site.now)
  | failed (task : charge.task = none) (unspawned : charge.child = none)
      (unsent : charge.sent = []) (untold : charge.told = [])
  | attends {child : ProcessNumber} {attendance : Attendance}
      (task : charge.task = some (.attend post attendance))
      (employs : charge.site.Employs post (application.withChild child) sink)
      (climbs : charge.Climbs post application sink child attendance)
      (prompt : charge.ranUntil = charge.site.now)
  | returned {child : ProcessNumber} {attendance : Attendance} {status : ExitStatus}
      (task : charge.task = none)
      (employs : charge.site.Employs post
        ((application.withChild child).withStatus status) sink)
      (climbs : charge.Climbs post application sink child attendance)
      (ended : charge.site.host.status? child = some status)

/-- What holds of a charge at any time. -/
structure Sound (post : Nat) (application : Application) (sink : Nat) (charge : Charge) :
    Prop where
  unaborted : (charge.site.job post).aborted = false
  flagged : charge.task.isSome = true →
    charge.stoppedAt.isSome = (charge.site.job post).stopFlag
  ended : charge.endedAt.isSome = (charge.child.bind charge.site.host.status?).isSome
  stage : charge.Stage post application sink

theorem Sound.ended_of_spawned (sound : charge.Sound post application sink)
    (spawned : charge.child = some child) :
    charge.endedAt.isSome = (charge.site.host.status? child).isSome := by
  rw [sound.ended, spawned]
  rfl

/-- The rung stays as it is while a charge changes in nothing but its site and its
instants. -/
theorem Climbs.keeps {other : Charge}
    (climbs : charge.Climbs post application sink child attendance)
    (child_eq : other.child = charge.child) (sent_eq : other.sent = charge.sent)
    (told_eq : other.told = charge.told)
    (rung : ∀ sent, application.ladder.Rung child charge.ranUntil charge.stoppedAt
        attendance sent →
      application.ladder.Rung child other.ranUntil other.stoppedAt attendance sent) :
    other.Climbs post application sink child attendance := by
  obtain ⟨spawned, ⟨sent, stands, sends⟩, told⟩ := climbs
  exact ⟨child_eq.trans spawned, ⟨sent, rung sent stands, sent_eq.trans sends⟩,
    told_eq.trans told⟩

theorem Stage.note (stage : charge.Stage post application sink) :
    (charge.note post).Stage post application sink := by
  have same := charge.ranUntil_note post
  cases stage with
  | scheduled task employs unspawned unsent untold prompt =>
      refine .scheduled task employs unspawned unsent untold ?_
      intro raised noted
      rcases charge.stoppedAt_note post with is | ⟨_, _, is⟩
      · exact prompt raised (is.symm.trans noted)
      · exact Option.some.inj (noted.symm.trans is)
  | failed task unspawned unsent untold => exact .failed task unspawned unsent untold
  | attends task employs climbs prompt =>
      refine .attends task employs (climbs.keeps rfl rfl rfl ?_) (same.trans prompt)
      intro sent rung
      rw [same]
      rcases charge.stoppedAt_note post with is | ⟨_, unraised, is⟩
      · rw [is]
        exact rung
      · rw [unraised] at rung
        rw [is, ← prompt]
        exact rung.raise
  | returned task employs climbs ended =>
      refine .returned task employs (climbs.keeps rfl rfl rfl ?_) ended
      intro sent rung
      rw [same]
      rcases charge.stoppedAt_note post with is | ⟨stands, _, _⟩
      · rw [is]
        exact rung
      · rw [task] at stands
        cases stands

/-- Once the instants are written down, they tell when the flag was raised and the child
ended. -/
theorem sound_note (unaborted : (charge.site.job post).aborted = false)
    (flagged : charge.task.isSome = true → charge.stoppedAt.isSome = true →
      (charge.site.job post).stopFlag = true)
    (ended : charge.endedAt.isSome = true →
      (charge.child.bind charge.site.host.status?).isSome = true)
    (stage : charge.Stage post application sink) :
    (charge.note post).Sound post application sink := by
  refine ⟨unaborted, ?_, ?_, stage.note⟩
  · intro stands
    have stood : charge.task.isSome = true := stands
    have raised := flagged stood
    show (charge.stoppedAt.or _).isSome = (charge.site.job post).stopFlag
    rw [stood]
    cases known : charge.stoppedAt with
    | some _ => exact (raised (by rw [known]; rfl)).symm
    | none => cases (charge.site.job post).stopFlag <;> rfl
  · show (charge.endedAt.or _).isSome = (charge.child.bind charge.site.host.status?).isSome
    cases known : charge.endedAt with
    | some _ => exact (ended (by rw [known]; rfl)).symm
    | none => cases charge.child.bind charge.site.host.status? <;> rfl

theorem sound_fresh {site : Site} (employs : site.Employs post application sink)
    (unaborted : (site.job post).aborted = false) :
    (fresh site post).Sound post application sink :=
  sound_note unaborted (fun _ => nofun) nofun (.scheduled rfl employs rfl rfl rfl nofun)

/-! ## Steps beside the body -/

theorem Sound.beside (sound : charge.Sound post application sink) {after : Site}
    (others : Site.Beside post charge.site after) :
    (charge.beside post after).Sound post application sink := by
  have same : ({ charge with site := after } : Charge).ranUntil = charge.ranUntil :=
    congrArg charge.endedAt.getD others.now
  apply sound_note (others.aborted.trans sound.unaborted)
  · intro stands raised
    apply others.stopFlag
    rw [← sound.flagged stands]
    exact raised
  · intro known
    rw [show ({ charge with site := after } : Charge).endedAt = charge.endedAt from rfl,
      sound.ended] at known
    obtain ⟨status, ends⟩ := Option.isSome_iff_exists.mp known
    obtain ⟨child, spawned, ended⟩ := Option.bind_eq_some_iff.mp ends
    show (charge.child.bind after.host.status?).isSome = true
    rw [spawned, Option.bind_some, others.status child status ended]
    rfl
  · cases sound.stage with
    | scheduled task employs unspawned unsent untold prompt =>
        refine .scheduled task (others.duty.trans employs) unspawned unsent untold ?_
        intro raised noted
        exact (prompt raised noted).trans others.now.symm
    | failed task unspawned unsent untold => exact .failed task unspawned unsent untold
    | attends task employs climbs prompt =>
        refine .attends task (others.duty.trans employs) (climbs.keeps rfl rfl rfl ?_)
          (same.trans (prompt.trans others.now.symm))
        intro sent rung
        rw [same]
        exact rung
    | returned task employs climbs ended =>
        refine .returned task (others.duty.trans employs) (climbs.keeps rfl rfl rfl ?_)
          (others.status _ _ ended)
        intro sent rung
        rw [same]
        exact rung

/-- A body that cannot run on waits for a child that has not ended. -/
theorem waits_of_not_ready (sound : charge.Sound post application sink)
    (task : charge.task = some (.attend post attendance))
    (waits : charge.site.isReady (.attend post attendance) = false) :
    charge.site.childStatus attendance = none ∧
      Application.isReady charge.site.now charge.stoppedAt.isSome none attendance =
        false := by
  have looks : Application.isReady charge.site.now charge.stoppedAt.isSome
      (charge.site.childStatus attendance) attendance = false := by
    rw [sound.flagged (by rw [task]; rfl)]
    exact (Bool.or_eq_false_iff.mp waits).2
  cases ended : charge.site.childStatus attendance with
  | none =>
      rw [ended] at looks
      exact ⟨rfl, looks⟩
  | some status =>
      rw [ended] at looks
      cases attendance <;> cases looks

theorem Sound.passes (sound : charge.Sound post application sink) {time : Instant}
    (allowed : charge.mayReach time = true) :
    (charge.setClock time).Sound post application sink := by
  refine ⟨sound.unaborted, sound.flagged, sound.ended, ?_⟩
  -- The rung moves with the clock as long as the child runs, and stays at its end after that.
  cases sound.stage with
  | scheduled task => cases (idle_of_mayReach allowed task).1
  | failed task unspawned unsent untold => exact .failed task unspawned unsent untold
  | @attends child attendance task employs climbs prompt =>
      obtain ⟨waiting, early⟩ := idle_of_mayReach allowed task
      obtain ⟨running, waits⟩ := waits_of_not_ready sound task waiting
      obtain ⟨sent, stands, _⟩ := climbs.rung
      have unended : charge.endedAt = none := by
        rw [← Option.isNone_iff_eq_none, ← Option.not_isSome,
          sound.ended_of_spawned climbs.spawned, ← stands.same_child]
        rw [show charge.site.host.status? attendance.child = none from running]
        rfl
      have reached : (charge.setClock time).ranUntil = time := by
        unfold ranUntil setClock
        rw [unended]
        rfl
      refine .attends task employs (climbs.keeps rfl rfl rfl ?_) reached
      intro sent rung
      rw [reached]
      rw [prompt] at rung
      exact rung.pass waits (le_of_mayReach allowed) early
  | returned task employs climbs ended =>
      have known : charge.endedAt.isSome = true := by
        rw [sound.ended_of_spawned climbs.spawned, ended]
        rfl
      obtain ⟨instant, ends⟩ := Option.isSome_iff_exists.mp known
      have same : (charge.setClock time).ranUntil = charge.ranUntil := by
        unfold ranUntil setClock
        rw [ends]
        rfl
      refine .returned task employs (climbs.keeps rfl rfl rfl ?_) ended
      intro sent rung
      rw [same]
      exact rung

/-! ## Turns of the body -/

/-- A body attends to its child on a site that was prepared for that, and its charge comes
to the site that it leaves. -/
structure Attends (post : Nat) (application : Application) (sink : Nat) (charge : Charge)
    (started : Site) (child : ProcessNumber) (attendance : Attendance)
    (sent : List (Instant × Signal)) : Prop where
  employs : started.Employs post (application.withChild child) sink
  unaborted : (started.job post).aborted = false
  flagged : charge.stoppedAt.isSome = (started.job post).stopFlag
  known : charge.endedAt.isSome = true → (started.host.status? child).isSome = true
  rung : application.ladder.Rung child started.now charge.stoppedAt attendance sent
  prompt : ∀ ended, charge.endedAt = some ended → ended = started.now
  spawned : charge.child = some child
  told : charge.told = [(sink, .applicationStarted child)]
  sends : ∀ newer, charge.site.signals = newer ++ started.signals →
    charge.sent = newer ++ Site.dispatches post child sent

section Attends

variable [Timers] {started : Site} {sent : List (Instant × Signal)}
  (attends : charge.Attends post application sink started child attendance sent)
  (goesTo : started.attend post (application.withChild child) attendance =
    (charge.site, next))
  (task : charge.task = next.map (.attend post))
include attends goesTo task

theorem sound_of_ended {status : ExitStatus}
    (ended : started.childStatus attendance = some status) :
    (charge.note post).Sound post application sink := by
  obtain ⟨employs, unaborted, _, _, rung, prompt, spawned, told, sends⟩ := attends
  obtain ⟨returns, deals⟩ := Site.deals_attend_of_ended employs ended
  rw [goesTo] at returns deals
  obtain rfl : next = none := returns
  have unsent : charge.sent = [] ++ Site.dispatches post child sent :=
    sends [] deals.signals
  have ends : charge.site.host.status? child = some status := by
    rw [deals.status, ← rung.same_child]
    exact ended
  rw [← deals.now] at rung prompt
  rw [← ranUntil_eq_now prompt] at rung
  apply sound_note (deals.aborted.trans unaborted)
  · intro stands
    rw [task] at stands
    cases stands
  · intro _
    rw [spawned, Option.bind_some, ends]
    rfl
  · exact .returned task deals.employs ⟨spawned, ⟨sent, rung, unsent⟩, told⟩ ends

/-- A body whose child has not ended attends to it from its next rung on. -/
theorem sound_of_running (onTime : Timers.OnTime)
    (running : started.childStatus attendance = none) :
    (charge.note post).Sound post application sink := by
  obtain ⟨employs, unaborted, flagged, known, rung, prompt, spawned, told, sends⟩ := attends
  have manned : (application.withChild child).ladder.Rung child started.now
      charge.stoppedAt attendance sent := rung
  obtain ⟨keeps, following, waits, climbs⟩ := Application.climbs_attend onTime manned
  rw [flagged] at waits climbs keeps
  obtain ⟨goesOn, deals, job⟩ := Site.deals_attend employs running rfl waits
  rw [goesTo] at goesOn deals job
  obtain rfl : next = some following := goesOn
  rw [keeps, rung.same_child] at deals
  have newly := sends _ deals.signals
  rw [← Site.dispatches_append] at newly
  rw [← deals.now] at climbs newly prompt
  have runs := ranUntil_eq_now prompt
  rw [← runs] at climbs newly
  apply sound_note (deals.aborted.trans unaborted)
  · intro _ raised
    rw [job, ← flagged]
    exact raised
  · intro ends
    rw [spawned, Option.bind_some, deals.status]
    exact known ends
  · exact .attends task deals.employs ⟨spawned, ⟨_, climbs, newly⟩, told⟩ runs

theorem sound_of_attends (onTime : Timers.OnTime) :
    (charge.note post).Sound post application sink := by
  cases ended : started.childStatus attendance with
  | some status => exact sound_of_ended attends goesTo task ended
  | none => exact sound_of_running attends goesTo task onTime ended

end Attends

theorem turn_eq [Timers] {world : Site} {task : Activity} {rest : Option Activity}
    {begun : List Activity} (stands : charge.task = some task)
    (turned : charge.site.turn task = ⟨world, rest, begun⟩) (post : Nat) :
    charge.turn post = note
      { charge with
        site := world
        task := rest
        child := charge.child.or ((charge.site.spawned? task).map Offspring.child)
        sent := added charge.site.signals world.signals ++ charge.sent
        told := added charge.site.events world.events ++ charge.told } post := by
  unfold turn
  rw [stands]
  dsimp only
  rw [turned]

theorem Sound.attendTurn [Timers] (sound : charge.Sound post application sink)
    (onTime : Timers.OnTime)
    (employs : charge.site.Employs post (application.withChild child) sink)
    (task : charge.task = some (.attend post attendance))
    (climbs : charge.Climbs post application sink child attendance)
    (prompt : charge.ranUntil = charge.site.now) :
    (charge.turn post).Sound post application sink := by
  obtain ⟨spawned, ⟨sent, rung, sends⟩, told⟩ := climbs
  rw [prompt] at rung
  have turned : charge.site.turn (.attend post attendance) =
      ⟨(charge.site.attend post (application.withChild child) attendance).1,
        (charge.site.attend post (application.withChild child) attendance).2.map
          (.attend post), []⟩ := by
    show charge.site.attendTurn post attendance = _
    unfold Site.attendTurn
    rw [employs.application?, sound.unaborted]
    rfl
  rw [turn_eq task turned post]
  refine sound_of_attends ⟨employs, sound.unaborted, sound.flagged (by rw [task]; rfl),
    ?_, rung, ?_, ?_, ?_, ?_⟩ rfl rfl onTime
  · intro known
    rw [← sound.ended_of_spawned spawned]
    exact known
  · intro ended ends
    rw [← prompt]
    unfold ranUntil
    rw [show charge.endedAt = some ended from ends]
    rfl
  · dsimp only
    rw [spawned]
    rfl
  · dsimp only
    rw [Site.events_attend, added_of_eq rfl, told]
    rfl
  · intro newer grown
    dsimp only at grown ⊢
    rw [grown, added_append, sends]

theorem Sound.enterTurn [Timers] (sound : charge.Sound post application sink)
    (onTime : Timers.OnTime)
    (task : charge.task = some (.enter post))
    (employs : charge.site.Employs post application sink) (unspawned : charge.child = none)
    (unsent : charge.sent = []) (untold : charge.told = [])
    (prompt : ∀ raised, charge.stoppedAt = some raised → raised = charge.site.now) :
    (charge.turn post).Sound post application sink := by
  have turned : charge.site.turn (.enter post) = _ :=
    Site.enterTurn_of_application employs.application? sound.unaborted
  have entered := employs.setJob (charge.site.job post).enter
  have job : (charge.site.setJob post (charge.site.job post).enter).job post = _ :=
    Site.job_setJob employs.lt_size (charge.site.job post).enter
  have unended : charge.endedAt.isSome = false := by
    rw [sound.ended, unspawned]
    rfl
  rw [turn_eq task turned post, unspawned, unsent, untold,
    Site.spawned?_enter employs.application? sound.unaborted]
  cases spawns : charge.site.host.spawn application.program application.report with
  | error error =>
      obtain ⟨returns, signals, events, aborted⟩ :=
        Site.launch_of_failure entered spawns
      apply sound_note
      · exact aborted.trans (by rw [job]; exact sound.unaborted)
      · intro stands
        rw [returns] at stands
        cases stands
      · intro known
        rw [unended] at known
        cases known
      · refine .failed ?_ rfl ?_ ?_
        · dsimp only
          rw [returns]
          rfl
        · exact (List.append_nil _).trans (added_of_eq signals)
        · exact (List.append_nil _).trans (added_of_eq events)
  | ok both =>
      -- Nothing is assumed of the number of the child: its end may be known at once.
      obtain ⟨host, child⟩ := both
      obtain ⟨started, launches, manned, now, kept, signals, events⟩ :=
        Site.launch_of_spawn entered spawns
      rw [launches]
      have rung : application.ladder.Rung child started.now charge.stoppedAt
          (.running child) [] := .running (by rw [now]; exact prompt)
      refine sound_of_attends ⟨manned, ?_, ?_, ?_, rung, ?_, rfl, ?_, ?_⟩ rfl rfl onTime
      · rw [kept, job]
        exact sound.unaborted
      · rw [kept, job]
        exact sound.flagged (by rw [task]; rfl)
      · intro known
        rw [unended] at known
        cases known
      · intro ended ends
        rw [show charge.endedAt = some ended from ends] at unended
        cases unended
      · dsimp only
        rw [Site.events_attend, events, List.append_nil]
        exact added_append [_] charge.site.events
      · intro newer grown
        dsimp only at grown ⊢
        rw [grown, signals]
        exact congrArg (· ++ []) (added_append newer charge.site.signals)

theorem Sound.step [Timers] (sound : charge.Sound post application sink)
    (onTime : Timers.OnTime) (steps : Step post charge final) :
    final.Sound post application sink := by
  cases steps with
  | beside others => exact sound.beside others
  | passes allowed => exact sound.passes allowed
  | turns =>
      cases sound.stage with
      | scheduled task employs unspawned unsent untold prompt =>
          exact sound.enterTurn onTime task employs unspawned unsent untold prompt
      | attends task employs climbs prompt =>
          exact sound.attendTurn onTime employs task climbs prompt
      | failed task | returned task =>
          unfold turn
          rw [task]
          exact sound

theorem Sound.run [Timers] (sound : charge.Sound post application sink)
    (onTime : Timers.OnTime) (comes : Relation.ReflTransGen (Step post) charge final) :
    final.Sound post application sink := by
  induction comes with
  | refl => exact sound
  | tail _ steps induction => exact induction.step onTime steps

/-! ## The whole ladder -/

/-- The dispatch of a signal that the body of a post sent to its child. -/
def dispatch (post : Nat) (child : ProcessNumber) (time : Instant) (signal : Signal) :
    Dispatch :=
  ⟨time, post, ⟨child.toNat, some signal⟩⟩

theorem Climbs.sent (climbs : charge.Climbs post application sink child attendance)
    (isProcess : (Offspring.mk post child).IsProcess) :
    ∃ sent, application.ladder.Rung child charge.ranUntil charge.stoppedAt attendance
        sent ∧
      charge.sent = sent.map fun entry => dispatch post child entry.1 entry.2 := by
  obtain ⟨sent, rung, sends⟩ := climbs.rung
  rw [Site.dispatches_of_isProcess isProcess] at sends
  exact ⟨sent, rung, sends⟩

theorem Sound.climbs (sound : charge.Sound post application sink)
    (spawned : charge.child = some child) :
    ∃ attendance, charge.Climbs post application sink child attendance := by
  cases sound.stage with
  | scheduled _ _ unspawned | failed _ unspawned =>
      rw [spawned] at unspawned
      cases unspawned
  | attends _ _ climbs | returned _ _ climbs =>
      cases spawned.symm.trans climbs.spawned
      exact ⟨_, climbs⟩

theorem Sound.unspawned (sound : charge.Sound post application sink)
    (unspawned : charge.child = none) : charge.sent = [] ∧ charge.told = [] := by
  cases sound.stage with
  | scheduled _ _ _ unsent untold | failed _ _ unsent untold => exact ⟨unsent, untold⟩
  | attends _ _ climbs | returned _ _ climbs =>
      cases unspawned.symm.trans climbs.spawned

theorem Sound.returned (sound : charge.Sound post application sink)
    (spawned : charge.child = some child) (task : charge.task = none) :
    ∃ status, charge.site.host.status? child = some status ∧
      charge.site.application? post =
        some ((application.withChild child).withStatus status) := by
  cases sound.stage with
  | scheduled stands => cases task.symm.trans stands
  | attends stands => cases task.symm.trans stands
  | failed _ unspawned => cases spawned.symm.trans unspawned
  | returned _ employs climbs ended =>
      cases spawned.symm.trans climbs.spawned
      exact ⟨_, ended, employs.application?⟩

/-- A body returns before the clock moves on from the end of its child. -/
theorem Sound.prompt (sound : charge.Sound post application sink) {ended : Instant}
    (ends : charge.endedAt = some ended) (later : ended < charge.site.now) :
    charge.task = none := by
  cases sound.stage with
  | scheduled _ _ unspawned =>
      have unended := sound.ended
      rw [ends, unspawned] at unended
      cases unended
  | failed task | returned task => exact task
  | attends _ _ _ prompt =>
      unfold ranUntil at prompt
      rw [ends] at prompt
      exact absurd later (Nat.not_lt.mpr (Nat.le_of_eq prompt.symm))

/-- A program with these graces. -/
def plainApplication (exitGrace killGrace : Duration) : Application :=
  { program := "/bin/app"
    arguments := []
    environment := [("APPVISOR_PIDFILE", "/run/pid".toUTF8.toList)]
    pidfilePath := "/run/pid"
    exitGrace := exitGrace
    killGrace := killGrace
    child := none
    status := none }

/-- The processes of the host act. -/
def reacts (charge : Charge) (post : Nat) : Charge :=
  charge.beside post
    { charge.site with host := charge.site.host.react.getD charge.site.host }

end Charge

end Overseer
