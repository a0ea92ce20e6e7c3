import Overseer.Proofs.Lifecycle.Timing
import Overseer.Proofs.Supervision.Course

/-!
# Patient deadlines

A child is stopped along two paths at once.  The stop of its job waits for the stop
timeout before it terminates the child, the body of the job waits for the exit grace;
both wait for the kill grace before they kill it.  Each deadline that one of them waits
for is justified by a demand that met the round, and so is each flag that makes them go
on.

The exit grace of an application is `Application.defaultExitGrace`, whatever the stop
timeout is: with a longer timeout the body of the job does not honour it.
-/

namespace Overseer

/-- How long a child that was asked to stop is not terminated. -/
def Settings.patience (settings : Settings) : Nat :=
  min settings.stopTimeout.nanos Application.defaultExitGrace.nanos

def demandsOn (asked : List Asked) (round : Nat) : List Asked :=
  asked.filter fun one => one.round = some round

/-- One of some demands was made so long before an instant. -/
def Since (demands : List Asked) (delay : Nat) (time : Instant) : Prop :=
  ∃ one ∈ demands, one.time + delay ≤ time

variable {asked demands : List Asked} {settings : Settings} {now : Instant}

theorem Since.later {delay less : Nat} {time later : Instant}
    (since : Since demands delay time) (shorter : less ≤ delay)
    (forward : time ≤ later) : Since demands less later := by
  obtain ⟨one, member, early⟩ := since
  refine ⟨one, member, ?_⟩
  exact Nat.le_trans (Nat.add_le_add_left shorter one.time)
    (Nat.le_trans early forward)

theorem Since.add {delay more : Nat} {time later : Instant}
    (since : Since demands delay time) (forward : time + more ≤ later) :
    Since demands (delay + more) later := by
  obtain ⟨one, member, early⟩ := since
  refine ⟨one, member, ?_⟩
  rw [← Nat.add_assoc]
  exact Nat.le_trans (Nat.add_le_add_right early more) forward

theorem Since.mono {fewer : List Asked} {delay : Nat} {time : Instant}
    (since : Since fewer delay time) (grows : fewer ⊆ demands) :
    Since demands delay time := by
  obtain ⟨one, member, early⟩ := since
  exact ⟨one, grows member, early⟩

theorem demandsOn_subset (asked more : List Asked) (round : Nat) :
    demandsOn asked round ⊆ demandsOn (asked ++ more) round := by
  unfold demandsOn
  rw [List.filter_append]
  exact List.subset_append_left _ _

theorem Since.first {round delay : Nat} {time : Instant}
    (since : Since (demandsOn asked round) delay time)
    (ordered : asked.Pairwise (·.time ≤ ·.time)) :
    ∃ first, asked.find? (·.round = some round) = some first ∧
      first.time + delay ≤ time := by
  obtain ⟨one, member, early⟩ := since
  have sorted := ordered.filter fun one => one.round = some round
  rw [← List.head?_filter]
  change one ∈ asked.filter (·.round = some round) at member
  cases kept : asked.filter (·.round = some round) with
  | nil =>
      rw [kept] at member
      cases member
  | cons head rest =>
      refine ⟨head, rfl, ?_⟩
      rw [kept] at member sorted
      rcases List.mem_cons.mp member with same | later
      · rw [← same]
        exact early
      · have before := (List.pairwise_cons.mp sorted).1 one later
        exact Nat.le_trans (Nat.add_le_add_right before delay) early

/-- When a signal may be sent. -/
def Signal.IsDue (demands : List Asked) (settings : Settings) (time : Instant) :
    Signal → Prop
  | .interrupt => True
  | .terminate => Since demands settings.patience time
  | .kill => Since demands (settings.patience + settings.killGrace.nanos) time

theorem Signal.IsDue.mono {fewer : List Asked} {time : Instant} {signal : Signal}
    (due : signal.IsDue fewer settings time) (grows : fewer ⊆ demands) :
    signal.IsDue demands settings time := by
  cases signal with
  | interrupt => trivial
  | terminate | kill => exact Since.mono due grows

/-! ## The stop of a job -/

/-- The hooks among some effects signal nobody too early. -/
def HooksDue (demands : List Asked) (settings : Settings) (now : Instant)
    (effects : List StopEffect) : Prop :=
  ∀ hook, .hook hook ∈ effects → hook.signal.IsDue demands settings now

theorem hooksDue_nil : HooksDue demands settings now [] := by
  intro hook member
  cases member

theorem hooksDue_stop : HooksDue demands settings now [.hook .stop] := by
  intro hook member
  have same : hook = .stop := by simpa using member
  rw [same]
  trivial

theorem HooksDue.hook {effects : List StopEffect} {hook : Hook}
    (hooks : HooksDue demands settings now effects) (notice : Notice)
    (due : hook.signal.IsDue demands settings now) :
    HooksDue demands settings now (effects ++ [.report notice, .hook hook]) := by
  intro other member
  rcases List.mem_append.mp member with earlier | last
  · exact hooks other earlier
  · have same : other = hook := by simpa using last
    rw [same]
    exact due

/-- The deadlines of a stop that waits. -/
def StopCall.IsPatient (demands : List Asked) (settings : Settings) : StopCall → Prop
  | .graceful wait => Since demands settings.stopTimeout.nanos wait.deadline
  | .terminating deadline =>
      Since demands (settings.stopTimeout.nanos + settings.killGrace.nanos) deadline
  | .following _ | .killing _ => True

/-- A step of a stop, as it raises flags, runs hooks and waits. -/
structure StopCall.Step.IsPatient (demands : List Asked) (settings : Settings)
    (now : Instant) (job : Job) (step : StopCall.Step) : Prop where
  stopFlag : step.job.stopFlag = true →
    job.stopFlag = true ∨ step.job.exitFlag = true ∨ Since demands 0 now
  aborted : step.job.aborted = true → job.aborted = true ∨
    Since demands (settings.stopTimeout.nanos + settings.killGrace.nanos) now
  hooks : HooksDue demands settings now step.effects
  waits : ∀ call, step.standing = .waits call → call.IsPatient demands settings

theorem StopCall.Step.IsPatient.following {earlier later : Job}
    {step : StopCall.Step} (patient : step.IsPatient demands settings now later)
    (stopFlag : later.stopFlag = true →
      earlier.stopFlag = true ∨ Since demands 0 now)
    (aborted : later.aborted = true → earlier.aborted = true ∨
      Since demands (settings.stopTimeout.nanos + settings.killGrace.nanos) now) :
    step.IsPatient demands settings now earlier := by
  refine ⟨?_, ?_, patient.hooks, patient.waits⟩
  · intro raised
    rcases patient.stopFlag raised with before | exited | since
    · rcases stopFlag before with still | since
      · exact .inl still
      · exact .inr (.inr since)
    · exact .inr (.inl exited)
    · exact .inr (.inr since)
  · intro told
    rcases patient.aborted told with before | since
    · exact aborted before
    · exact .inr since

theorem Job.flags_moveTo (job : Job) (phase : Phase) :
    (job.moveTo phase).stopFlag = job.stopFlag ∧
      (job.moveTo phase).aborted = job.aborted ∧
      (job.moveTo phase).killGrace = job.killGrace ∧
      (job.moveTo phase).exitFlag = job.exitFlag := by
  obtain ⟨_, moved⟩ := job.moveTo_frame phase
  rw [moved]
  exact ⟨rfl, rfl, rfl, rfl⟩

namespace StopCall

variable {job : Job} {effects : List StopEffect}

theorem isPatient_awaitExit {deadline : Instant} {call : StopCall}
    (hooks : HooksDue demands settings now effects)
    (waits : call.IsPatient demands settings) :
    (awaitExit now deadline job effects call).IsPatient demands settings now job := by
  unfold awaitExit
  split
  · exact ⟨.inl, .inl, hooks, fun _ => Standing.noConfusion⟩
  · refine ⟨.inl, .inl, hooks, ?_⟩
    intro next same
    cases same
    exact waits

theorem isPatient_kill [Timers]
    (hooks : HooksDue demands settings now effects)
    (since : Since demands (settings.stopTimeout.nanos + settings.killGrace.nanos) now) :
    (kill now job effects).IsPatient demands settings now job := by
  have due : Signal.kill.IsDue demands settings now :=
    since.later (Nat.add_le_add_right (Nat.min_le_left _ _) _) (Nat.le_refl _)
  have patient : (kill now job effects).IsPatient demands settings now job.abort :=
    isPatient_awaitExit (hooks.hook (.jobKilled job.killGrace) due) trivial
  apply patient.following
  · intro raised
    rw [← (job.flags_moveTo .killed).1]
    exact .inl raised
  · exact fun _ => .inr since

theorem isPatient_awaitTermination [Timers] {deadline : Instant}
    (hooks : HooksDue demands settings now effects)
    (since : Since demands (settings.stopTimeout.nanos + settings.killGrace.nanos) deadline) :
    (awaitTermination now deadline job effects).IsPatient demands settings now job := by
  unfold awaitTermination
  split
  · exact ⟨.inl, .inl, hooks, fun _ => Standing.noConfusion⟩
  · split
    · rename_i due
      exact isPatient_kill hooks (since.later (Nat.le_refl _) due)
    · refine ⟨.inl, .inl, hooks, ?_⟩
      intro next same
      cases same
      exact since

theorem isPatient_terminate [Timers] (neverEarly : Timers.NeverEarly) {fault : Fault}
    (hooks : HooksDue demands settings now effects)
    (killGrace : job.killGrace = settings.killGrace)
    (since : Since demands settings.stopTimeout.nanos now) :
    (terminate now job fault effects).IsPatient demands settings now job := by
  have due : Signal.terminate.IsDue demands settings now :=
    since.later (Nat.min_le_left _ _) (Nat.le_refl _)
  have later : Since demands (settings.stopTimeout.nanos + settings.killGrace.nanos)
      (now.deadline job.killGrace) := by
    apply since.add
    rw [killGrace]
    exact neverEarly now settings.killGrace
  obtain ⟨stopFlag, aborted, _, _⟩ := job.flags_moveTo .terminating
  have patient : (terminate now job fault effects).IsPatient demands settings now
      (job.moveTo .terminating) :=
    isPatient_awaitTermination (hooks.hook (.stopTimedOut fault) due) later
  apply patient.following
  · intro raised
    rw [← stopFlag]
    exact .inl raised
  · intro told
    rw [← aborted]
    exact .inl told

theorem isPatient_awaitStop [Timers] (neverEarly : Timers.NeverEarly) {wait : WaitCall}
    (hooks : HooksDue demands settings now effects)
    (killGrace : job.killGrace = settings.killGrace)
    (since : Since demands settings.stopTimeout.nanos wait.deadline) :
    (awaitStop now wait job effects).IsPatient demands settings now job := by
  unfold awaitStop
  split
  · refine ⟨.inl, .inl, hooks, ?_⟩
    intro next same
    cases same
    exact since
  · exact ⟨.inl, .inl, hooks, fun _ => Standing.noConfusion⟩
  · rename_i fault timedOut
    apply isPatient_terminate neverEarly hooks killGrace
    apply since.later (Nat.le_refl _)
    unfold WaitCall.result? at timedOut
    split at timedOut
    · cases timedOut
    · split at timedOut
      · assumption
      · cases timedOut

/-- A stop that waits signals the child only when it is due. -/
theorem isPatient_resume [Timers] (neverEarly : Timers.NeverEarly) {call : StopCall}
    (patient : call.IsPatient demands settings)
    (killGrace : job.killGrace = settings.killGrace) :
    (call.resume now job).IsPatient demands settings now job := by
  cases call with
  | following deadline => exact isPatient_awaitExit hooksDue_nil trivial
  | graceful wait => exact isPatient_awaitStop neverEarly hooksDue_nil killGrace patient
  | terminating deadline => exact isPatient_awaitTermination hooksDue_nil patient
  | killing deadline => exact isPatient_awaitExit hooksDue_nil trivial

theorem isPatient_perform [Timers] (neverEarly : Timers.NeverEarly)
    (killGrace : job.killGrace = settings.killGrace)
    (since : Since demands 0 now) :
    (perform now job settings.stopTimeout false).IsPatient demands settings now job := by
  obtain ⟨_, aborted, grace, _⟩ := job.flags_moveTo .stopRequested
  have granted : job.requestStop.killGrace = settings.killGrace := grace.trans killGrace
  have told : job.requestStop.aborted = true → job.aborted = true ∨
      Since demands (settings.stopTimeout.nanos + settings.killGrace.nanos) now := by
    intro raised
    rw [← aborted]
    exact .inl raised
  unfold perform
  dsimp only
  split
  · -- A job that was not launched is withdrawn: it has exited, and nothing escalates.
    exact ⟨fun _ => .inr (.inl rfl), told, hooksDue_stop, fun _ => Standing.noConfusion⟩
  · split
    · contradiction
    · split
      · exact ⟨fun _ => .inr (.inr since), told, hooksDue_stop,
          fun _ => Standing.noConfusion⟩
      · rename_i wait begins
        obtain ⟨deadline, held, made⟩ := Option.map_eq_some_iff.mp begins
        have awaits : Since demands settings.stopTimeout.nanos wait.deadline := by
          rw [← made, ← Nat.zero_add settings.stopTimeout.nanos]
          apply since.add
          unfold Instant.after? at held
          split at held
          · cases held
            exact Nat.le_refl _
          · cases held
        exact (isPatient_awaitStop neverEarly hooksDue_stop granted awaits).following
          (fun _ => .inr since) told

theorem isPatient_begin [Timers] (neverEarly : Timers.NeverEarly)
    (killGrace : job.killGrace = settings.killGrace)
    (since : Since demands 0 now) :
    (begin now job settings.stopTimeout false).IsPatient demands settings now job := by
  unfold begin
  split
  · unfold follow
    split
    · contradiction
    · split
      · exact ⟨.inl, .inl, hooksDue_nil, fun _ => Standing.noConfusion⟩
      · exact isPatient_awaitExit hooksDue_nil trivial
  · have claimed : ({ job with stopClaimed := true } : Job).killGrace =
        settings.killGrace :=
      killGrace
    dsimp only
    split
    · exact ⟨.inl, .inl, hooksDue_nil, fun _ => Standing.noConfusion⟩
    · exact (isPatient_perform neverEarly claimed since).following .inl .inl

end StopCall

/-! ## The body of an application -/

/-- The deadlines of a body that waits. -/
def Attendance.IsPatient (demands : List Asked) (settings : Settings) :
    Attendance → Prop
  | .exiting _ deadline => Since demands Application.defaultExitGrace.nanos deadline
  | .terminating _ deadline =>
      Since demands (Application.defaultExitGrace.nanos + settings.killGrace.nanos) deadline
  | .running _ | .killing _ => True

namespace Application

variable {application : Application} {child : ProcessNumber} {deadline : Instant}

theorem permits_killChild {signals : List Signal}
    (earlier : ∀ signal ∈ signals, signal.IsDue demands settings now)
    (since : Since demands (defaultExitGrace.nanos + settings.killGrace.nanos) now) :
    Site.Permits (·.IsDue demands settings now) (·.IsPatient demands settings)
      (application.killChild child signals) := by
  refine ⟨?_, ?_⟩
  · intro signal member
    rcases List.mem_append.mp member with before | last
    · exact earlier signal before
    · rw [List.mem_singleton.mp last]
      exact since.later (Nat.add_le_add_right (Nat.min_le_right _ _) _)
        (Nat.le_refl _)
  · intro next waits
    cases waits
    trivial

theorem permits_awaitTermination {signals : List Signal}
    (earlier : ∀ signal ∈ signals, signal.IsDue demands settings now)
    (since : Since demands (defaultExitGrace.nanos + settings.killGrace.nanos) deadline) :
    Site.Permits (·.IsDue demands settings now) (·.IsPatient demands settings)
      (application.awaitTermination now child deadline signals) := by
  unfold awaitTermination
  split
  · rename_i due
    exact permits_killChild earlier (since.later (Nat.le_refl _) due)
  · refine ⟨earlier, ?_⟩
    intro next waits
    cases waits
    exact since

theorem permits_awaitExit [Timers] (neverEarly : Timers.NeverEarly)
    (killGrace : application.killGrace = settings.killGrace)
    (since : Since demands defaultExitGrace.nanos deadline) :
    Site.Permits (·.IsDue demands settings now) (·.IsPatient demands settings)
      (application.awaitExit now child deadline) := by
  unfold awaitExit
  split
  · rename_i due
    apply permits_awaitTermination
    · intro signal member
      rw [List.mem_singleton.mp member]
      exact since.later (Nat.min_le_right _ _) due
    · rw [killGrace]
      exact (since.later (Nat.le_refl _) due).add
        (neverEarly now settings.killGrace)
  · refine ⟨by simp, ?_⟩
    intro next waits
    cases waits
    exact since

/-- The body of an application signals its child only when it is due. -/
theorem permits_attend [Timers] (neverEarly : Timers.NeverEarly)
    (exitGrace : application.exitGrace = defaultExitGrace)
    (killGrace : application.killGrace = settings.killGrace) {stopFlag : Bool}
    (raised : stopFlag = true → Since demands 0 now) (status : Option ExitStatus)
    {attendance : Attendance} (patient : attendance.IsPatient demands settings) :
    Site.Permits (·.IsDue demands settings now) (·.IsPatient demands settings)
      (application.attend now stopFlag status attendance) := by
  unfold attend
  cases status with
  | some status => exact ⟨by simp, by simp⟩
  | none =>
      cases attendance with
      | running child =>
          dsimp only
          split
          · rename_i flag
            apply permits_awaitExit neverEarly killGrace
            rw [exitGrace, ← Nat.zero_add defaultExitGrace.nanos]
            exact (raised flag).add (neverEarly now defaultExitGrace)
          · refine ⟨by simp, ?_⟩
            intro next waits
            cases waits
            trivial
      | exiting child deadline => exact permits_awaitExit neverEarly killGrace patient
      | terminating child deadline => exact permits_awaitTermination (by simp) patient
      | killing child =>
          refine ⟨by simp, ?_⟩
          intro next waits
          cases waits
          trivial

end Application

/-! ## Tasks -/

/-- Where a task waits, if it escalates the stop of a round. -/
def Activity.IsPatient (asked : List Asked) (settings : Settings) (site : Site) :
    Activity → Prop
  | .attend post attendance =>
      attendance.IsPatient (demandsOn asked post) settings
  | .stop post (.waits call) _ =>
      (∃ graces, site.charter? post = some (some graces)) ∧
        call.IsPatient (demandsOn asked post) settings
  | .enter _ | .guard _ _ | .stop _ _ _ | .execute _ _ | .run _ _ => True

theorem Activity.IsPatient.remains {before after : Site} {task : Activity}
    (patient : task.IsPatient asked settings before) (remains : before.Remains after) :
    task.IsPatient asked settings after := by
  cases task with
  | stop post stop counted =>
      cases stop with
      | waits call =>
          obtain ⟨⟨graces, held⟩, patient⟩ := patient
          exact ⟨⟨graces, remains.charter held⟩, patient⟩
      | _ => trivial
  | attend post attendance => exact patient
  | enter _ | guard _ _ | execute _ _ | run _ _ => trivial

theorem Attendance.IsPatient.mono {fewer : List Asked} {attendance : Attendance}
    (patient : attendance.IsPatient fewer settings) (grows : fewer ⊆ demands) :
    attendance.IsPatient demands settings := by
  cases attendance with
  | exiting child deadline | terminating child deadline =>
      exact Since.mono patient grows
  | running _ | killing _ => trivial

theorem StopCall.IsPatient.mono {fewer : List Asked} {call : StopCall}
    (patient : call.IsPatient fewer settings) (grows : fewer ⊆ demands) :
    call.IsPatient demands settings := by
  cases call with
  | graceful wait | terminating deadline => exact Since.mono patient grows
  | following _ | killing _ => trivial

theorem Activity.IsPatient.asks {site : Site} {task : Activity}
    (patient : task.IsPatient asked settings site) (more : List Asked) :
    task.IsPatient (asked ++ more) settings site := by
  cases task with
  | stop post stop counted =>
      cases stop with
      | waits call =>
          exact ⟨patient.1, patient.2.mono (demandsOn_subset asked more post)⟩
      | _ => trivial
  | attend post attendance =>
      exact Attendance.IsPatient.mono patient (demandsOn_subset asked more post)
  | enter _ | guard _ _ | execute _ _ | run _ _ => trivial

/-! ## Sites -/

/-- The flags of the job of a round. -/
structure Job.IsPatient (demands : List Asked) (settings : Settings) (now : Instant)
    (job : Job) : Prop where
  killGrace : job.killGrace = settings.killGrace
  told : job.IsTold
  stopFlag : job.stopFlag = true → job.exitFlag = true ∨ Since demands 0 now
  aborted : job.aborted = true →
    Since demands (settings.stopTimeout.nanos + settings.killGrace.nanos) now

theorem Job.isPatient_fresh (name : String) (demands : List Asked) (now : Instant) :
    (Job.fresh name settings.killGrace).IsPatient demands settings now :=
  ⟨rfl, fun exited => absurd exited Bool.false_ne_true,
    fun raised => absurd raised Bool.false_ne_true,
    fun told => absurd told Bool.false_ne_true⟩

theorem Job.IsPatient.later {job : Job} {later : Instant}
    (patient : job.IsPatient demands settings now) (forward : now ≤ later) :
    job.IsPatient demands settings later := by
  refine ⟨patient.killGrace, patient.told, ?_, ?_⟩
  · intro raised
    rcases patient.stopFlag raised with exited | since
    · exact .inl exited
    · exact .inr (since.later (Nat.le_refl _) forward)
  · exact fun told => (patient.aborted told).later (Nat.le_refl _) forward

theorem Job.IsPatient.mono {fewer : List Asked} {job : Job}
    (patient : job.IsPatient fewer settings now) (grows : fewer ⊆ demands) :
    job.IsPatient demands settings now := by
  refine ⟨patient.killGrace, patient.told, ?_, ?_⟩
  · intro raised
    rcases patient.stopFlag raised with exited | since
    · exact .inl exited
    · exact .inr (since.mono grows)
  · exact fun told => (patient.aborted told).mono grows

theorem Job.IsPatient.works {before after : Job} {goesOn : Bool}
    (patient : before.IsPatient demands settings now)
    (works : before.Works goesOn after) : after.IsPatient demands settings now := by
  have finished : before.finish.IsPatient demands settings now :=
    ⟨patient.killGrace, fun _ => rfl, fun _ => .inl rfl, patient.aborted⟩
  cases works with
  | stays => exact patient
  | enters => exact ⟨patient.killGrace, patient.told, patient.stopFlag, patient.aborted⟩
  | finishes => exact finished
  | drops =>
      unfold drop
      split
      · exact finished
      · exact ⟨patient.killGrace, patient.told, patient.stopFlag, patient.aborted⟩

theorem Job.IsPatient.stops {job : Job} {step : StopCall.Step}
    (patient : job.IsPatient demands settings now)
    (endures : job.Endures step.job)
    (stops : step.IsPatient demands settings now job) :
    step.job.IsPatient demands settings now := by
  refine ⟨endures.killGrace.trans patient.killGrace, endures.told patient.told, ?_, ?_⟩
  · intro raised
    rcases stops.stopFlag raised with before | exited | since
    · rcases patient.stopFlag before with exited | since
      · exact .inl (endures.exited exited)
      · exact .inr since
    · exact .inl exited
    · exact .inr since
  · intro told
    rcases stops.aborted told with before | since
    · exact patient.aborted before
    · exact since

namespace Site

/-- The rounds of a site, and the signals that were sent. -/
structure IsPatient (asked : List Asked) (settings : Settings) (site : Site) :
    Prop where
  rounds : ∀ {round graces}, site.charter? round = some (some graces) →
    graces = (Application.defaultExitGrace, settings.killGrace) ∧
      (site.job round).IsPatient (demandsOn asked round) settings site.now
  signals : ∀ entry ∈ site.signals, ∀ signal, entry.call.signal = some signal →
    signal.IsDue (demandsOn asked entry.post) settings entry.time

variable {index post : Nat} {site before after : Site} {supervisor : Supervisor}

theorem IsPatient.asks (patient : site.IsPatient asked settings) (more : List Asked) :
    site.IsPatient (asked ++ more) settings := by
  constructor
  · intro round graces held
    obtain ⟨same, job⟩ := patient.rounds held
    exact ⟨same, job.mono (demandsOn_subset asked more round)⟩
  · intro entry member signal called
    have due := patient.signals entry member signal called
    exact due.mono (demandsOn_subset asked more entry.post)

/-- Work beside the posts, while time may pass. -/
theorem IsPatient.of_posts (patient : before.IsPatient asked settings)
    (now : before.now ≤ after.now) (posts : after.posts = before.posts)
    (signals : after.signals = before.signals) : after.IsPatient asked settings := by
  constructor
  · intro round graces held
    rw [job_of_posts posts]
    unfold charter? at held
    rw [posts] at held
    obtain ⟨same, job⟩ := patient.rounds held
    exact ⟨same, job.later now⟩
  · rw [signals]
    exact patient.signals

theorem Tends.patient
    (tends : Tends post (·.IsDue (demandsOn asked post) settings before.now)
      before after)
    (patient : before.IsPatient asked settings)
    (own : ∀ graces, before.charter? post = some (some graces) →
      (after.job post).IsPatient (demandsOn asked post) settings before.now) :
    after.IsPatient asked settings := by
  constructor
  · intro round graces held
    rw [tends.charter] at held
    obtain ⟨same, job⟩ := patient.rounds held
    refine ⟨same, ?_⟩
    rw [tends.now]
    by_cases here : round = post
    · rw [here] at held ⊢
      exact own graces held
    · rw [tends.job round here]
      exact job
  · intro entry member signal called
    obtain ⟨newer, logged, allowed⟩ := tends.signals
    rw [logged] at member
    rcases List.mem_append.mp member with new | old
    · obtain ⟨now, sent, was, own, due⟩ := allowed entry new
      rw [called] at was
      cases was
      rw [now, own]
      exact due
    · exact patient.signals entry old signal called

theorem WorksOn.patient {turn : Turn Site Activity}
    (works : WorksOn post (·.IsDue (demandsOn asked post) settings site.now)
      (·.IsPatient (demandsOn asked post) settings) site turn)
    (patient : site.IsPatient asked settings) :
    turn.world.IsPatient asked settings := by
  apply works.tends.patient patient
  intro graces held
  exact (patient.rounds held).2.works works.job

theorem patient_commit {step : StopCall.Step} (patient : site.IsPatient asked settings)
    (endures : (site.job post).Endures step.job)
    (stops : ∀ graces, site.charter? post = some (some graces) →
      step.IsPatient (demandsOn asked post) settings site.now (site.job post)) :
    (site.commit post step).IsPatient asked settings := by
  have tends : Tends post (·.IsDue (demandsOn asked post) settings site.now) site
      (site.commit post step) := by
    apply tends_commit
    intro hook member graces held
    exact (stops graces held).hooks hook member
  apply tends.patient patient
  intro graces held
  have before := (patient.rounds held).2
  rcases job_commit_or site post step with set | same
  · rw [set]
    exact before.stops endures (stops graces held)
  · rw [same]
    exact before

theorem patient_setJob {job : Job} (patient : site.IsPatient asked settings)
    (own : (site.job post).IsPatient (demandsOn asked post) settings site.now →
      job.IsPatient (demandsOn asked post) settings site.now) :
    (site.setJob post job).IsPatient asked settings := by
  apply (tends_setJob site post (·.IsDue (demandsOn asked post) settings site.now)
    job).patient patient
  intro graces held
  have before := (patient.rounds held).2
  rcases job_setJob_or site post job with set | same
  · rw [set]
    exact own before
  · rw [same]
    exact before

theorem patient_addPost (patient : site.IsPatient asked settings) (added : Post)
    (own : ∀ graces, added.duty.graces? = some graces →
      graces = (Application.defaultExitGrace, settings.killGrace) ∧
        ∀ demands, added.job.IsPatient demands settings site.now) :
    (site.addPost added).1.IsPatient asked settings := by
  constructor
  · intro round graces held
    rw [charter?_addPost] at held
    rw [job_addPost]
    by_cases newest : round = site.posts.size
    · rw [if_pos newest] at held ⊢
      obtain ⟨same, fresh⟩ := own graces (Option.some.inj held)
      exact ⟨same, fresh _⟩
    · rw [if_neg newest] at held ⊢
      exact patient.rounds held
  · exact patient.signals

/-! ## Deeds -/

theorem Deed.patient (deed : Deed index before after)
    (patient : before.IsPatient asked settings)
    (holds : before.Holds index supervisor)
    (same : supervisor.settings = settings) : after.IsPatient asked settings := by
  cases deed with
  | beside now posts supervisors events signals =>
      exact patient.of_posts (Nat.le_of_eq now.symm) posts signals
  | posts other => exact patient.of_posts (Nat.le_refl _) rfl rfl
  | schedules held wanted => exact patient.of_posts (Nat.le_refl _) rfl rfl
  | updates held settings stopRequested owns =>
      exact patient.of_posts (Nat.le_refl _) rfl rfl
  | opensGate gate tended =>
      apply patient_addPost patient
      intro graces held
      cases held
  | serves guarded tends endures =>
      apply (tends.mono fun _ => False.elim).patient patient
      intro graces held
      rw [guarded] at held
      cases held
  | opensRound held =>
      cases held.symm.trans holds.held
      apply patient_addPost patient
      intro graces kept
      cases kept
      rw [← same]
      exact ⟨rfl, fun _ => Job.isPatient_fresh _ _ _⟩
  | launches round held wanted fresh starts =>
      cases held.symm.trans holds.held
      apply patient_setJob patient
      intro _
      cases starts
      rw [← same]
      exact ⟨rfl, fun exited => absurd exited Bool.false_ne_true,
        fun raised => absurd raised Bool.false_ne_true,
        fun told => absurd told Bool.false_ne_true⟩
  | withdraws round held fresh =>
      apply patient_commit patient
      · rw [fresh]
        exact ((Job.endures_claim _).trans (Job.endures_requestStop _)).trans
          (Job.endures_withdraw rfl)
      · intro graces _
        rw [fresh]
        refine ⟨fun _ => .inr (.inl rfl), ?_, hooksDue_stop,
          fun _ => StopCall.Standing.noConfusion⟩
        exact fun told => absurd told Bool.false_ne_true
  | claims round exited =>
      apply patient_setJob patient
      intro before
      exact ⟨before.killGrace, before.told, before.stopFlag, before.aborted⟩

theorem patient_of_deeds (deeds : Deeds index before after)
    (patient : before.IsPatient asked settings)
    (holds : before.Holds index supervisor)
    (same : supervisor.settings = settings) : after.IsPatient asked settings := by
  induction deeds with
  | refl => exact patient
  | tail earlier deed induction =>
      obtain ⟨next, held, kept⟩ := (carries_of_deeds earlier).holds holds
      exact deed.patient induction held (kept.trans same)

/-! ## Requests -/

/-- A demand that was answered, and the stop that it began. -/
def AnswersPatiently (asked : List Asked) (settings : Settings)
    (answered : Site × Option (Nat × StopCall.Standing)) : Prop :=
  answered.1.IsPatient asked settings ∧
    ∀ task ∈ stopActivity answered.2, task.IsPatient asked settings answered.1

theorem answersPatiently_beginStop [Timers] (neverEarly : Timers.NeverEarly) {round : Nat}
    (patient : site.IsPatient asked settings)
    (held : ∃ graces, site.charter? round = some (some graces))
    (since : Since (demandsOn asked round) 0 site.now) :
    AnswersPatiently asked settings
      ((site.beginStop round settings.stopTimeout).1,
        some (round, (site.beginStop round settings.stopTimeout).2)) := by
  obtain ⟨graces, chartered⟩ := held
  have stops : (StopCall.begin site.now (site.job round) settings.stopTimeout
      false).IsPatient (demandsOn asked round) settings site.now (site.job round) :=
    StopCall.isPatient_begin neverEarly (patient.rounds chartered).2.killGrace since
  have endures := StopCall.endures_begin site.now (site.job round) settings.stopTimeout
    false
  have remains := (site.carries_beginStop 0 round settings.stopTimeout).remains
  refine ⟨patient_commit patient endures fun _ _ => stops, ?_⟩
  intro task member
  cases standing : (site.beginStop round settings.stopTimeout).2 with
  | waits call =>
      rw [standing] at member
      cases member
      exact ⟨⟨graces, remains.charter chartered⟩, stops.waits call standing⟩
  | returned | crashed =>
      rw [standing] at member
      cases member

theorem answersPatiently_requestStop [Timers] (neverEarly : Timers.NeverEarly)
    (patient : site.IsPatient asked settings)
    (holds : site.Holds index supervisor) (same : supervisor.settings = settings)
    (since : ∀ round, supervisor.current = some round →
      Since (demandsOn asked round) 0 site.now) :
    AnswersPatiently asked settings (site.requestStop index) := by
  subst same
  have requested : (site.setSupervisor index
      { supervisor with stopRequested := true }).IsPatient asked
        supervisor.settings :=
    patient.of_posts (Nat.le_refl _) rfl rfl
  unfold requestStop
  rw [holds.held]
  dsimp only
  split
  · refine ⟨requested, ?_⟩
    intro task member
    cases member
  · rename_i round current
    apply answersPatiently_beginStop neverEarly requested
    · exact holds.owns.rounds round current
    · exact since round current

theorem answersPatiently_requestRestart [Timers] (neverEarly : Timers.NeverEarly)
    (patient : site.IsPatient asked settings)
    (holds : site.Holds index supervisor) (same : supervisor.settings = settings)
    (since : ∀ round, supervisor.current = some round →
      Since (demandsOn asked round) 0 site.now) :
    AnswersPatiently asked settings (site.requestRestart index) := by
  subst same
  unfold requestRestart
  rw [holds.held]
  dsimp only
  split
  · refine ⟨patient.of_posts (Nat.le_refl _) rfl rfl, ?_⟩
    intro task member
    cases member
  · rename_i round current
    have marked : (site.setJob round (site.job round).markForRestart).IsPatient
        asked supervisor.settings := by
      apply patient_setJob patient
      exact fun before =>
        ⟨before.killGrace, before.told, before.stopFlag, before.aborted⟩
    apply answersPatiently_beginStop neverEarly marked
    · obtain ⟨graces, held⟩ := holds.owns.rounds round current
      refine ⟨graces, ?_⟩
      rw [(tends_setJob site round (fun _ => True) _).charter]
      exact held
    · exact since round current

end Site

end Overseer
