import Overseer.Proofs.Lifecycle.Teardown
import Overseer.Proofs.Supervision.Ladder

/-!
# SIGTERM before SIGKILL

The child of an application can be killed from two sides: by its own body, which climbs
down to SIGKILL after SIGTERM, and by a stop of its job, whose kill hook comes after its
terminate hook.  Both warn the child first, as long as there is a child when the
terminate hook runs.

There is none between the start of the job and the first turn of its body.  A stop whose
terminate hook falls into that gap signals nobody, and its kill hook may find the child
that the body has spawned meanwhile.  `Custody` tells of an application, of its stops and
whether one of them was so untimely.  That the wait for a child fails is not told of here.
-/

namespace Overseer

/-! ## Warnings in a log of signals -/

/-- The child was sent SIGTERM for a post, if the system takes signals to it at all. -/
def IsWarned (post : Nat) (child : ProcessNumber) (log : List Dispatch) : Prop :=
  ∀ call, SignalCall.toProcess? child (some .terminate) = some call →
    ∃ warning ∈ log, warning.post = post ∧ warning.call = call

/-- A signal of a post does no harm: if it is SIGKILL, then the same process was sent
SIGTERM before. -/
def IsFair (post : Nat) (dispatch : Dispatch) (earlier : List Dispatch) : Prop :=
  dispatch.post = post → dispatch.call.signal = some .kill →
    ∃ warning ∈ earlier, warning.post = post ∧
      warning.call = { target := dispatch.call.target, signal := some .terminate }

/-- Whoever was sent SIGKILL for a post had been sent SIGTERM; the latest signal is the
first of the log. -/
def Forewarns (post : Nat) (log : List Dispatch) : Prop :=
  ∀ later kill earlier, log = later ++ kill :: earlier → IsFair post kill earlier

variable {post : Nat} {child : ProcessNumber} {log longer : List Dispatch}

theorem IsWarned.grows (warned : IsWarned post child log) (grown : log ⊆ longer) :
    IsWarned post child longer := by
  intro call called
  obtain ⟨warning, member, sent⟩ := warned call called
  exact ⟨warning, grown member, sent⟩

theorem Forewarns.cons {dispatch : Dispatch} (forewarns : Forewarns post log)
    (fair : IsFair post dispatch log) : Forewarns post (dispatch :: log) := by
  intro later kill earlier split
  cases later with
  | nil =>
      cases split
      exact fair
  | cons first later =>
      cases split
      exact forewarns later kill earlier rfl

theorem Forewarns.append (forewarns : Forewarns post log) {newer : List Dispatch}
    (others : ∀ dispatch ∈ newer, dispatch.post ≠ post) :
    Forewarns post (newer ++ log) := by
  induction newer with
  | nil => exact forewarns
  | cons dispatch newer induction =>
      apply (induction fun other member => others other (by simp [member])).cons
      intro own
      exact absurd own (others dispatch (by simp))

theorem forewarns_of_others (others : ∀ dispatch ∈ log, dispatch.post ≠ post) :
    Forewarns post log := by
  intro later kill earlier split own
  refine absurd own (others kill ?_)
  rw [split]
  exact List.mem_append_cons_self

namespace Site

variable {site before after : Site}

theorem signals_subset_signal (site : Site) (post : Nat) (child : ProcessNumber)
    (signal : Signal) : site.signals ⊆ (site.signal post child signal).signals := by
  unfold Site.signal
  split
  · exact fun _ => id
  · exact List.subset_cons_self _ _

/-- A signal that is not SIGKILL does no harm, and neither does one to a child that was
warned. -/
theorem forewarns_signal (forewarns : Forewarns post site.signals) {signal : Signal}
    (fair : signal = .kill → IsWarned post child site.signals) :
    Forewarns post (site.signal post child signal).signals := by
  unfold Site.signal
  split
  · exact forewarns
  · rename_i call called
    apply forewarns.cons
    intro _ kills
    unfold SignalCall.toProcess? at called
    split at called
    · rename_i isProcess
      cases called
      exact fair (Option.some.inj kills) _ (if_pos isProcess)
    · cases called

theorem isWarned_signal (site : Site) (post : Nat) (child : ProcessNumber) :
    IsWarned post child (site.signal post child .terminate).signals := by
  intro call called
  unfold Site.signal
  rw [called]
  exact ⟨_, List.mem_cons_self, rfl, rfl⟩

end Site

/-! ## The body -/

/-- Signals to a child that warn it before they kill it; it is told whether the child
was warned before them and whether it is after them. -/
inductive Cautious : Bool → List Signal → Bool → Prop where
  | silent (warned : Bool) : Cautious warned [] warned
  | terminate {before after : Bool} {signals : List Signal}
      (rest : Cautious true signals after) : Cautious before (.terminate :: signals) after
  | kill {after : Bool} {signals : List Signal} (rest : Cautious true signals after) :
      Cautious true (.kill :: signals) after

theorem Cautious.not_interrupts {warned still : Bool} {signals : List Signal}
    (cautious : Cautious warned signals still) : .interrupt ∉ signals := by
  induction cautious with
  | silent => exact List.not_mem_nil
  | terminate _ induction | kill _ induction => simpa using induction

/-- Whether a body that waits here has sent SIGTERM. -/
def Attendance.hasWarned : Attendance → Bool
  | .running _ | .exiting _ _ => false
  | .terminating _ _ | .killing _ => true

namespace Application

variable {application : Application} {now deadline : Instant} {attended : Attended}

/-- A body goes on to attend to its child, after signals that warn it first. -/
def Attended.GoesOn (attended : Attended) (application : Application)
    (child : ProcessNumber) (warned : Bool) : Prop :=
  attended.application = application ∧
    ∃ next, attended.waits = some next ∧ next.child = child ∧
      Cautious warned attended.signals next.hasWarned

theorem goesOn_awaitTermination {signals : List Signal} {warned : Bool}
    (cautious : ∀ {more after}, Cautious true more after →
      Cautious warned (signals ++ more) after) :
    (application.awaitTermination now child deadline signals).GoesOn application child
      warned := by
  unfold awaitTermination
  split
  · exact ⟨rfl, _, rfl, rfl, cautious (.kill (.silent true))⟩
  · refine ⟨rfl, _, rfl, rfl, ?_⟩
    rw [← List.append_nil signals]
    exact cautious (.silent true)

theorem goesOn_awaitExit :
    (application.awaitExit now child deadline).GoesOn application child false := by
  unfold awaitExit
  split
  · exact goesOn_awaitTermination fun rest => .terminate rest
  · exact ⟨rfl, _, rfl, rfl, .silent false⟩

/-- A body whose child has not ended never kills it unwarned. -/
theorem goesOn_attend (application : Application) (now : Instant) (stopFlag : Bool)
    (attendance : Attendance) :
    (application.attend now stopFlag none attendance).GoesOn application attendance.child
      attendance.hasWarned := by
  cases attendance with
  | running child =>
      cases stopFlag with
      | false => exact ⟨rfl, _, rfl, rfl, .silent false⟩
      | true => exact goesOn_awaitExit
  | exiting child deadline => exact goesOn_awaitExit
  | terminating child deadline => exact goesOn_awaitTermination id
  | killing child => exact ⟨rfl, _, rfl, rfl, .silent true⟩

end Application

namespace Site

variable {site before after : Site} {sink : Nat} {application : Application}
  {attendance : Attendance}

theorem forewarns_signals {warned still : Bool} {signals : List Signal}
    (cautious : Cautious warned signals still) {site : Site}
    (forewarns : Forewarns post site.signals)
    (told : warned = true → IsWarned post child site.signals) :
    let signalled := signals.foldl (fun site signal => site.signal post child signal) site
    Forewarns post signalled.signals ∧
      (still = true → IsWarned post child signalled.signals) := by
  induction cautious generalizing site with
  | silent warned => exact ⟨forewarns, told⟩
  | terminate rest induction =>
      exact induction (forewarns_signal forewarns nofun)
        fun _ => site.isWarned_signal post child
  | kill rest induction =>
      exact induction (forewarns_signal forewarns fun _ => told rfl)
        fun _ => (told rfl).grows (site.signals_subset_signal post child .kill)

theorem signals_reportAll (site : Site) (notices : List Notice) :
    (site.reportAll notices).signals = site.signals := by
  obtain ⟨_, same⟩ := reportAll_eq site notices
  rw [same]

/-- A body that goes on sends its signals and nothing else. -/
theorem signals_attend (running : site.childStatus attendance = none) {next : Attendance}
    (waits : (application.attend site.now (site.job post).stopFlag none attendance).waits =
      some next) :
    (site.attend post application attendance).1.signals =
      ((application.attend site.now (site.job post).stopFlag none
        attendance).signals.foldl
          (fun site signal => site.signal post attendance.child signal) site).signals := by
  unfold Site.attend
  dsimp only
  rw [running, waits]
  exact signals_reportAll _ _

/-- A body whose child has not ended goes on, and kills nobody unwarned. -/
theorem goesOn_attend (employs : site.Employs post application sink)
    (running : site.childStatus attendance = none)
    (forewarns : Forewarns post site.signals)
    (warned : attendance.hasWarned = true → IsWarned post attendance.child site.signals) :
    ∃ next, (site.attend post application attendance).2 = some next ∧
      next.child = attendance.child ∧
      (site.attend post application attendance).1.Employs post application sink ∧
      (site.attend post application attendance).1.job post = site.job post ∧
      site.signals ⊆ (site.attend post application attendance).1.signals ∧
      Forewarns post (site.attend post application attendance).1.signals ∧
      (next.hasWarned = true → IsWarned post attendance.child
        (site.attend post application attendance).1.signals) := by
  obtain ⟨same, next, waits, child, cautious⟩ :=
    application.goesOn_attend site.now (site.job post).stopFlag attendance
  obtain ⟨goesOn, deals, job⟩ := deals_attend employs running rfl waits
  have employed := deals.employs
  rw [same] at employed
  have signals := signals_attend running waits
  obtain ⟨fair, still⟩ := forewarns_signals cautious forewarns warned
  rw [← signals] at fair still
  refine ⟨next, goesOn, child, employed, job, ?_, fair, still⟩
  rw [deals.signals]
  exact List.subset_append_right _ _

theorem Employs.attendTurn (employs : site.Employs post application sink)
    (spared : (site.job post).aborted = false) (attendance : Attendance) :
    site.turn (.attend post attendance) =
      ⟨(site.attend post application attendance).1,
        (site.attend post application attendance).2.map (.attend post), []⟩ := by
  show site.attendTurn post attendance = _
  unfold Site.attendTurn
  rw [employs.application?, spared]
  rfl

theorem Employs.dropBody (employs : site.Employs post application sink) :
    site.dropBody post = site.setJob post (site.job post).drop := by
  have gateless : site.gate? post = none := by
    unfold gate?
    rw [employs]
  unfold Site.dropBody closeListener
  rw [gateless]

theorem Employs.attendTurn_of_aborted (employs : site.Employs post application sink)
    (aborted : (site.job post).aborted = true) (underway : (site.job post).body = .underway)
    (attendance : Attendance) :
    site.turn (.attend post attendance) =
      ⟨(site.letGo post attendance).setJob post (site.job post).finish, none, []⟩ := by
  have posts := posts_letGo site post attendance
  have left : (site.letGo post attendance).Employs post application sink :=
    employs.of_posts posts
  show site.attendTurn post attendance = _
  unfold Site.attendTurn
  rw [employs.application?, aborted]
  show Turn.mk ((site.letGo post attendance).dropBody post) none [] = _
  rw [left.dropBody, job_of_posts posts]
  unfold Job.drop
  rw [if_pos underway]

theorem Employs.enterTurn_of_aborted (employs : site.Employs post application sink)
    (aborted : (site.job post).aborted = true)
    (scheduled : (site.job post).body = .scheduled) :
    site.turn (.enter post) =
      ⟨site.setJob post { site.job post with body := .gone }, none, []⟩ := by
  show site.enterTurn post = _
  unfold Site.enterTurn
  rw [aborted, if_pos rfl, employs.dropBody]
  unfold Job.drop
  rw [scheduled]
  rfl

theorem signals_subset_letGo (site : Site) (post : Nat) (attendance : Attendance) :
    site.signals ⊆ (site.letGo post attendance).signals := by
  unfold letGo
  split
  · exact fun _ => id
  · exact site.signals_subset_signal post _ _

/-- A child that is let go is sent SIGKILL. -/
theorem forewarns_letGo (forewarns : Forewarns post site.signals)
    (warned : IsWarned post attendance.child site.signals) :
    Forewarns post (site.letGo post attendance).signals := by
  unfold letGo
  split
  · exact forewarns
  · exact forewarns_signal forewarns fun _ => warned

end Site

/-! ## The stops -/

/-- Effects of a stop in which the kill hook comes after the terminate hook; it is told
whether the terminate hook ran before them and whether it has run after them. -/
inductive Measured : Bool → List StopEffect → Bool → Prop where
  | done (late : Bool) : Measured late [] late
  | report {before after : Bool} {effects : List StopEffect} (notice : Notice)
      (rest : Measured before effects after) :
      Measured before (.report notice :: effects) after
  | stop {before after : Bool} {effects : List StopEffect}
      (rest : Measured before effects after) :
      Measured before (.hook .stop :: effects) after
  | terminate {before after : Bool} {effects : List StopEffect}
      (rest : Measured true effects after) :
      Measured before (.hook .terminate :: effects) after
  | kill {after : Bool} {effects : List StopEffect} (rest : Measured true effects after) :
      Measured true (.hook .kill :: effects) after

namespace Measured

variable {before after : Bool} {effects : List StopEffect}

theorem lasts (measured : Measured before effects after) (late : before = true) :
    after = true := by
  induction measured with
  | done => exact late
  | report _ _ induction | stop _ induction => exact induction late
  | terminate _ induction | kill _ induction => exact induction rfl

theorem terminated (measured : Measured before effects after) (late : after = true) :
    before = true ∨ .hook .terminate ∈ effects := by
  induction measured with
  | done => exact .inl late
  | report _ _ induction | stop _ induction =>
      exact (induction late).imp_right (List.mem_cons_of_mem _)
  | terminate => exact .inr List.mem_cons_self
  | kill => exact .inl rfl

theorem killed (measured : Measured before effects after)
    (kills : .hook .kill ∈ effects) : after = true := by
  induction measured with
  | done => cases kills
  | report _ _ induction | stop _ induction =>
      exact induction (by simpa using kills)
  | terminate rest | kill rest => exact rest.lasts rfl

theorem without_kill (measured : Measured before effects after)
    (spares : .hook .kill ∉ effects) : ∃ late, Measured false effects late := by
  induction measured with
  | done => exact ⟨false, .done false⟩
  | report notice _ induction =>
      obtain ⟨late, rest⟩ := induction fun kills => spares (List.mem_cons_of_mem _ kills)
      exact ⟨late, rest.report notice⟩
  | stop _ induction =>
      obtain ⟨late, rest⟩ := induction fun kills => spares (List.mem_cons_of_mem _ kills)
      exact ⟨late, rest.stop⟩
  | @terminate _ after _ rest => exact ⟨after, rest.terminate⟩
  | kill => exact absurd List.mem_cons_self spares

end Measured

namespace StopCall

/-- Whether a stop that waits has run the terminate hook. -/
def hasTerminated : StopCall → Bool
  | .following _ | .graceful _ => false
  | .terminating _ | .killing _ => true

/-- What a stop does in one step: it is told whether it has run the terminate hook
before.  The kill hook comes with the end of the body's task, and nothing else ends it. -/
def Escalates (job : Job) (late : Bool) (step : Step) : Prop :=
  ∃ still, Measured late step.effects still ∧
    (∀ call, step.standing = .waits call → call.hasTerminated = true → still = true) ∧
    step.job.aborted =
      (job.aborted || (job.body.hasTask && decide (.hook .kill ∈ step.effects)))

variable {now deadline : Instant} {job other : Job} {effects : List StopEffect}

theorem Escalates.congr {late : Bool} {step : Step} (escalates : Escalates other late step)
    (body : other.body = job.body) (aborted : other.aborted = job.aborted) :
    Escalates job late step := by
  unfold Escalates at escalates
  rw [body, aborted] at escalates
  exact escalates

theorem escalates_of_spares {late still : Bool} {standing : Standing}
    (measured : Measured late effects still) (spares : .hook .kill ∉ effects)
    (aborted : other.aborted = job.aborted)
    (waits : ∀ call, standing = .waits call → call.hasTerminated = true → still = true) :
    Escalates job late ⟨other, effects, standing⟩ := by
  refine ⟨still, measured, waits, ?_⟩
  simp [aborted, spares]

theorem escalates_awaitTermination {late : Bool} (spares : .hook .kill ∉ effects)
    (measured : ∀ {more after}, Measured true more after →
      Measured late (effects ++ more) after) :
    Escalates job late (awaitTermination now deadline job effects) := by
  have ends : Measured late effects true := by
    rw [← List.append_nil effects]
    exact measured (.done true)
  unfold awaitTermination
  split
  · exact escalates_of_spares ends spares rfl fun _ _ _ => rfl
  · split
    · unfold kill
      refine ⟨true, ?_, fun _ _ _ => rfl, ?_⟩
      · rw [awaitExit_effects]
        exact measured (.report _ (.kill (.done true)))
      · rw [awaitExit_job, awaitExit_effects]
        simp [Job.abort]
    · exact escalates_of_spares ends spares rfl fun _ _ _ => rfl

theorem escalates_awaitStop {wait : WaitCall} (spares : .hook .kill ∉ effects)
    (measured : ∀ {before more after}, Measured before more after →
      Measured before (effects ++ more) after) :
    Escalates job false (awaitStop now wait job effects) := by
  have ends : Measured false effects false := by
    rw [← List.append_nil effects]
    exact measured (.done false)
  unfold awaitStop
  split
  · apply escalates_of_spares ends spares rfl
    rintro _ ⟨rfl⟩
    exact id
  · exact escalates_of_spares ends spares rfl nofun
  · rename_i fault _
    have escalates : Escalates (job.moveTo .terminating) false
        (terminate now job fault effects) :=
      escalates_awaitTermination (by simp [spares]) fun more => by
        rw [List.append_assoc]
        exact measured (.report _ (.terminate more))
    obtain ⟨phase, moved⟩ := job.moveTo_frame .terminating
    rw [moved] at escalates
    exact escalates.congr rfl rfl

/-- A wait for the exit flag does nothing. -/
theorem escalates_awaitExit (now deadline : Instant) (job : Job) (call : StopCall) :
    Escalates job call.hasTerminated (awaitExit now deadline job [] call) := by
  refine ⟨call.hasTerminated, ?_, ?_, ?_⟩
  · rw [awaitExit_effects]
    exact .done call.hasTerminated
  · intro next waits late
    rw [← awaitExit_waits waits]
    exact late
  · rw [awaitExit_job, awaitExit_effects]
    simp

theorem escalates_follow (now : Instant) (job : Job) (timeout : Duration) (inside : Bool) :
    Escalates job false (follow now job timeout inside) := by
  unfold follow
  split
  · exact escalates_of_spares (.done false) List.not_mem_nil rfl nofun
  · split
    · exact escalates_of_spares (.done false) List.not_mem_nil rfl nofun
    · exact escalates_awaitExit _ _ _ (.following _)

theorem escalates_perform (now : Instant) (job : Job) (timeout : Duration) (inside : Bool) :
    Escalates job false (perform now job timeout inside) := by
  obtain ⟨_, moved⟩ := job.moveTo_frame .stopRequested
  have body : job.requestStop.body = job.body :=
    (congrArg Job.body moved :)
  have aborted : job.requestStop.aborted = job.aborted :=
    (congrArg Job.aborted moved :)
  have spares : StopEffect.hook .kill ∉ [StopEffect.hook .stop] := by decide
  have asks : Measured false [.hook .stop] false := .stop (.done false)
  unfold perform
  dsimp only
  split
  · exact escalates_of_spares asks spares aborted nofun
  · split
    · exact escalates_of_spares asks spares aborted nofun
    · split
      · exact escalates_of_spares asks spares aborted nofun
      · exact (escalates_awaitStop spares fun more => .stop more).congr body aborted

theorem escalates_begin (now : Instant) (job : Job) (timeout : Duration) (inside : Bool) :
    Escalates job false (begin now job timeout inside) := by
  unfold begin
  split
  · exact escalates_follow now job timeout inside
  · dsimp only
    split
    · exact escalates_of_spares (.done false) List.not_mem_nil rfl nofun
    · exact (escalates_perform now { job with stopClaimed := true } timeout inside).congr
        rfl rfl

end StopCall

def StopTask.hasTerminated : StopTask → Bool
  | .called _ => false
  | .waits call => call.hasTerminated

theorem StopTask.endures_step (now : Instant) (job : Job) (task : StopTask) :
    job.Endures (task.step now job).job := by
  cases task with
  | called timeout => exact StopCall.endures_begin now job timeout false
  | waits call => exact StopCall.endures_resume now job call

theorem StopTask.escalates_step (now : Instant) (job : Job) (task : StopTask) :
    StopCall.Escalates job task.hasTerminated (task.step now job) := by
  cases task with
  | called timeout => exact StopCall.escalates_begin now job timeout false
  | waits call =>
      cases call with
      | following deadline =>
          exact StopCall.escalates_awaitExit now deadline job (.following deadline)
      | graceful wait => exact StopCall.escalates_awaitStop List.not_mem_nil id
      | terminating deadline => exact StopCall.escalates_awaitTermination List.not_mem_nil id
      | killing deadline => exact StopCall.escalates_awaitExit now deadline job (.killing deadline)

namespace Site

variable {site : Site} {sink : Nat} {application : Application} {step : StopCall.Step}

/-! ## What a stop does to the log -/

/-- The child of an application was sent SIGTERM, if there is one. -/
def Warns (site : Site) (post : Nat) (application : Application) : Prop :=
  ∀ child, application.child = some child → IsWarned post child site.signals

theorem Warns.grows {after : Site} (warns : site.Warns post application)
    (grown : site.signals ⊆ after.signals) : after.Warns post application :=
  fun child own => (warns child own).grows grown

theorem Employs.runHook (employs : site.Employs post application sink) (hook : Hook) :
    (site.runHook post hook).Employs post application sink := by
  obtain ⟨_, _, same⟩ := runHook_eq site post hook
  rw [same]
  exact employs

theorem signals_subset_runHook (site : Site) (post : Nat) (hook : Hook) :
    site.signals ⊆ (site.runHook post hook).signals := by
  unfold Site.runHook
  split
  · exact fun _ => id
  · dsimp only
    split
    · exact fun _ => id
    · exact site.signals_subset_signal post _ _

theorem forewarns_runHook (employs : site.Employs post application sink)
    (forewarns : Forewarns post site.signals) {hook : Hook}
    (fair : hook = .kill → site.Warns post application) :
    Forewarns post (site.runHook post hook).signals := by
  unfold Site.runHook
  rw [employs.application?]
  dsimp only
  split
  · exact forewarns
  · rename_i number signal called
    apply forewarns_signal forewarns
    rintro rfl
    cases hook with
    | stop | terminate =>
        obtain ⟨_, _, same⟩ := Option.map_eq_some_iff.mp called
        cases same
    | kill =>
        obtain ⟨child, own, same⟩ := Option.map_eq_some_iff.mp called
        cases same
        exact fair rfl _ own

theorem warns_runHook (employs : site.Employs post application sink) :
    (site.runHook post .terminate).Warns post application := by
  intro child own
  have called : site.runHook post .terminate = site.signal post child .terminate := by
    unfold Site.runHook Application.hookSignal
    rw [employs.application?]
    simp only [own]
    rfl
  rw [called]
  exact site.isWarned_signal post child

theorem forewarns_effects {late still : Bool} {effects : List StopEffect}
    (measured : Measured late effects still) {site : Site}
    (employs : site.Employs post application sink) (forewarns : Forewarns post site.signals)
    (warned : late = true → site.Warns post application) :
    let after := effects.foldl (applyEffect post) site
    Forewarns post after.signals ∧ (still = true → after.Warns post application) := by
  induction measured generalizing site with
  | done => exact ⟨forewarns, warned⟩
  | report notice _ induction => exact induction employs forewarns warned
  | stop _ induction =>
      exact induction (employs.runHook .stop) (forewarns_runHook employs forewarns nofun)
        fun late => (warned late).grows (site.signals_subset_runHook post .stop)
  | terminate _ induction =>
      exact induction (employs.runHook .terminate)
        (forewarns_runHook employs forewarns nofun) fun _ => warns_runHook employs
  | kill _ induction =>
      exact induction (employs.runHook .kill)
        (forewarns_runHook employs forewarns fun _ => warned rfl)
        fun _ => (warned rfl).grows (site.signals_subset_runHook post .kill)

theorem signals_subset_commit (site : Site) (post : Nat) (step : StopCall.Step) :
    site.signals ⊆ (site.commit post step).signals := by
  have grown : ∀ (effects : List StopEffect) (begun : Site),
      begun.signals ⊆ (effects.foldl (applyEffect post) begun).signals := by
    intro effects
    induction effects with
    | nil => exact fun _ _ => id
    | cons effect effects induction =>
        intro begun
        apply List.Subset.trans _ (induction _)
        cases effect with
        | report notice => exact fun _ => id
        | hook hook => exact begun.signals_subset_runHook post hook
  exact grown step.effects (site.setJob post step.job)

theorem Employs.commit (employs : site.Employs post application sink)
    (step : StopCall.Step) :
    (site.commit post step).Employs post application sink ∧
      (site.commit post step).job post = step.job := by
  obtain ⟨host, notices, signals, same⟩ := commit_eq site post step
  rw [same]
  exact ⟨employs.setJob step.job, job_setJob employs.lt_size step.job⟩

end Site

/-! ## An application and its stops -/

/-- What others, the host and the clock may do beside an application: neither the
application nor its job changes, but for a mark for a restart, and the signals that are
sent meanwhile are those of other posts. -/
structure Site.Apart (post : Nat) (before after : Site) : Prop where
  duty : (after.posts[post]?).map Post.duty = (before.posts[post]?).map Post.duty
  job : ∃ mark, after.job post = { before.job post with restartMark := mark }
  signals : ∃ others, after.signals = others ++ before.signals ∧
    ∀ dispatch ∈ others, dispatch.post ≠ post

/-- The application of a post with the tasks that can send it signals. -/
structure Custody where
  site : Site
  /-- The task of the body; nothing before the start and once it is gone. -/
  body : Option Activity
  /-- The stops that have not returned. -/
  stops : List StopTask
  /-- A terminate hook has run before the body was entered. -/
  untimely : Bool

namespace Custody

/-- An application whose job was not started. -/
def fresh (site : Site) : Custody :=
  { site := site
    body := none
    stops := []
    untimely := false }

/-- The body of a job was not entered yet, but may be. -/
def isPending : Body → Bool
  | .unlaunched | .scheduled => true
  | _ => false

/-- The stop that is left after a step. -/
def remaining : StopCall.Standing → List StopTask
  | .waits call => [.waits call]
  | .returned | .crashed => []

/-- A stop takes a turn; `before` and `after` are the others. -/
def stop (custody : Custody) (post : Nat) (before : List StopTask) (task : StopTask)
    (after : List StopTask) : Custody :=
  let step := task.step custody.site.now (custody.site.job post)
  { site := custody.site.commit post step
    body := custody.body
    stops := before ++ remaining step.standing ++ after
    untimely := custody.untimely ||
      (isPending (custody.site.job post).body &&
        decide (.hook .terminate ∈ step.effects)) }

/-- The body takes a turn. -/
def turn (custody : Custody) (task : Activity) : Custody :=
  { custody with
    site := (custody.site.turn task).world
    body := (custody.site.turn task).rest }

/-- What can happen to an application: its job is started, stops are called, take turns
and are given up, the body takes turns, and anything happens beside them. -/
inductive Step (post : Nat) (custody : Custody) : Custody → Prop where
  | starts {job : Job} (starts : (custody.site.job post).start = .ok job) :
      Step post custody
        { custody with
          site := custody.site.setJob post job
          body := some (.enter post) }
  | calls (timeout : Duration) :
      Step post custody { custody with stops := .called timeout :: custody.stops }
  | stops {before after : List StopTask} {task : StopTask}
      (stands : custody.stops = before ++ task :: after) :
      Step post custody (custody.stop post before task after)
  | leaves {before after : List StopTask} {task : StopTask}
      (stands : custody.stops = before ++ task :: after) :
      Step post custody { custody with stops := before ++ after }
  | turns {task : Activity} (stands : custody.body = some task) :
      Step post custody (custody.turn task)
  | beside {after : Site} (apart : Site.Apart post custody.site after) :
      Step post custody { custody with site := after }

variable {custody final : Custody} {sink : Nat} {application : Application}

/-- Where the body of an application stands, and what its child was sent by then. -/
inductive Stage (post : Nat) (application : Application) (log : List Dispatch) (job : Job)
    (body : Option Activity) : Prop where
  | unlaunched (task : body = none) (stands : job.body = .unlaunched)
      (childless : application.child = none)
  | scheduled (task : body = some (.enter post)) (stands : job.body = .scheduled)
      (childless : application.child = none)
  | attends {attendance : Attendance} (task : body = some (.attend post attendance))
      (stands : job.body = .underway) (own : application.child = some attendance.child)
      (warned : attendance.hasWarned = true → IsWarned post attendance.child log)
  | gone (task : body = none) (stands : job.body = .withdrawn ∨ job.body = .gone)
      (childless : job.aborted = false → application.child = none)

/-- Some stop has run the terminate hook. -/
def IsPressed (post : Nat) (custody : Custody) : Prop :=
  (custody.site.job post).aborted = true ∨
    ∃ task ∈ custody.stops, task.hasTerminated = true

/-- What holds of an application in custody at any time. -/
structure Holds (post : Nat) (application : Application) (sink : Nat)
    (custody : Custody) : Prop where
  employs : custody.site.Employs post application sink
  stage : Stage post application custody.site.signals (custody.site.job post) custody.body
  ready : custody.untimely = false → custody.IsPressed post →
    isPending (custody.site.job post).body = false ∧ custody.site.Warns post application
  fair : custody.untimely = false ∨ (custody.site.job post).aborted = false →
    Forewarns post custody.site.signals

def Sound (post : Nat) (custody : Custody) : Prop :=
  ∃ application sink, custody.Holds post application sink

theorem Stage.grows {log longer : List Dispatch} {job : Job} {body : Option Activity}
    (stage : Stage post application log job body) (grown : log ⊆ longer) :
    Stage post application longer job body := by
  cases stage with
  | unlaunched task stands childless => exact .unlaunched task stands childless
  | scheduled task stands childless => exact .scheduled task stands childless
  | attends task stands own warned =>
      exact .attends task stands own fun late => (warned late).grows grown
  | gone task stands childless => exact .gone task stands childless

/-- Nobody attends to a child without a task. -/
theorem Stage.childless {log : List Dispatch} {job : Job} {body : Option Activity}
    (stage : Stage post application log job body) (idle : job.body ≠ .underway)
    (spared : job.aborted = false) : application.child = none := by
  cases stage with
  | unlaunched _ _ childless | scheduled _ _ childless => exact childless
  | attends _ stands => exact absurd stands idle
  | gone _ _ childless => exact childless spared

/-- What has to be kept of the site, the job and the stops. -/
theorem Holds.keeps (holds : custody.Holds post application sink) {next : Application}
    (employs : final.site.Employs post next sink)
    (stage : Stage post next final.site.signals (final.site.job post) final.body)
    (body : isPending (custody.site.job post).body = false →
      isPending (final.site.job post).body = false)
    (aborted : (final.site.job post).aborted = (custody.site.job post).aborted)
    (stops : ∀ task ∈ final.stops, task.hasTerminated = true → task ∈ custody.stops)
    (untimely : final.untimely = custody.untimely)
    (warns : custody.site.Warns post application → final.site.Warns post next)
    (forewarns : Forewarns post custody.site.signals → Forewarns post final.site.signals) :
    final.Holds post next sink := by
  refine ⟨employs, stage, ?_, ?_⟩
  · intro timely pressed
    rw [untimely] at timely
    have before : custody.IsPressed post := by
      rcases pressed with ends | ⟨task, member, late⟩
      · exact .inl (aborted ▸ ends)
      · exact .inr ⟨task, stops task member late, late⟩
    obtain ⟨entered, warned⟩ := holds.ready timely before
    exact ⟨body entered, warns warned⟩
  · rw [untimely, aborted]
    exact fun spared => forewarns (holds.fair spared)

/-! ### Starts, calls and others -/

theorem Holds.starts (holds : custody.Holds post application sink) {job : Job}
    (starts : (custody.site.job post).start = .ok job) :
    Holds post application sink
      { custody with
        site := custody.site.setJob post job
        body := some (.enter post) } := by
  have set : (custody.site.setJob post job).job post = job :=
    Site.job_setJob holds.employs.lt_size job
  unfold Job.start at starts
  split at starts
  · rename_i unlaunched
    obtain ⟨phase, moved⟩ := (custody.site.job post).moveTo_frame .running
    rw [moved] at starts
    have body : job.body = .scheduled := by
      cases starts
      rfl
    have aborted : job.aborted = (custody.site.job post).aborted := by
      cases starts
      rfl
    have childless : application.child = none := by
      cases holds.stage with
      | unlaunched _ _ childless => exact childless
      | scheduled _ stands | attends _ stands => cases unlaunched.symm.trans stands
      | gone _ stands =>
          rcases stands with stands | stands
          · cases unlaunched.symm.trans stands
          · cases unlaunched.symm.trans stands
    refine holds.keeps (holds.employs.setJob _) ?_ ?_ ?_
      (fun _ member _ => member) rfl id id
    · dsimp only
      rw [set]
      exact .scheduled rfl body childless
    · intro entered
      rw [unlaunched] at entered
      cases entered
    · dsimp only
      rw [set]
      exact aborted
  · cases starts

theorem Holds.calls (holds : custody.Holds post application sink) (timeout : Duration) :
    Holds post application sink { custody with stops := .called timeout :: custody.stops } := by
  refine holds.keeps holds.employs holds.stage id rfl ?_ rfl id id
  intro task member late
  rcases List.mem_cons.mp member with rfl | member
  · cases late
  · exact member

theorem Holds.leaves (holds : custody.Holds post application sink)
    {before after : List StopTask} {task : StopTask}
    (stands : custody.stops = before ++ task :: after) :
    Holds post application sink { custody with stops := before ++ after } := by
  refine holds.keeps holds.employs holds.stage id rfl ?_ rfl id id
  intro other member _
  rw [stands]
  rcases List.mem_append.mp member with member | member
  · exact List.mem_append_left _ member
  · exact List.mem_append_right _ (List.mem_cons_of_mem _ member)

theorem Holds.beside (holds : custody.Holds post application sink) {after : Site}
    (apart : Site.Apart post custody.site after) :
    Holds post application sink { custody with site := after } := by
  obtain ⟨others, signals, foreign⟩ := apart.signals
  obtain ⟨mark, job⟩ := apart.job
  have grown : custody.site.signals ⊆ after.signals := by
    rw [signals]
    exact List.subset_append_right others _
  have stage : Stage post application custody.site.signals (after.job post) custody.body := by
    rw [job]
    cases holds.stage with
    | unlaunched task stands childless => exact .unlaunched task stands childless
    | scheduled task stands childless => exact .scheduled task stands childless
    | attends task stands own warned => exact .attends task stands own warned
    | gone task stands childless => exact .gone task stands childless
  refine holds.keeps (apart.duty.trans holds.employs) (stage.grows grown) ?_ ?_
    (fun _ member _ => member) rfl (fun warns => warns.grows grown) ?_
  · rw [job]
    exact id
  · rw [job]
  · rw [signals]
    exact fun forewarns => forewarns.append foreign

/-! ### Stops -/

/-- A stop leaves the body where it is; a body that was not launched may be withdrawn. -/
theorem Stage.stop {log longer : List Dispatch} {job next : Job} {body : Option Activity}
    (stage : Stage post application log job body) (grown : log ⊆ longer)
    (endures : job.Endures next) (aborted : next.aborted = false → job.aborted = false) :
    Stage post application longer next body := by
  cases stage with
  | unlaunched task stands childless =>
      rcases endures.unlaunched stands with same | withdrawn
      · exact .unlaunched task same childless
      · exact .gone task (.inl withdrawn) fun _ => childless
  | scheduled task stands childless =>
      have launched : job.body ≠ .unlaunched := by
        rw [stands]
        exact Body.noConfusion
      exact .scheduled task ((endures.launched launched).1.trans stands) childless
  | attends task stands own warned =>
      have launched : job.body ≠ .unlaunched := by
        rw [stands]
        exact Body.noConfusion
      exact .attends task ((endures.launched launched).1.trans stands) own
        fun late => (warned late).grows grown
  | gone task stands childless =>
      have launched : job.body ≠ .unlaunched := by
        rcases stands with stands | stands <;>
          · rw [stands]
            exact Body.noConfusion
      refine .gone task ?_ fun spared => childless (aborted spared)
      rw [(endures.launched launched).1]
      exact stands

theorem mem_stops {before after : List StopTask} {task : StopTask}
    (stands : custody.stops = before ++ task :: after) : task ∈ custody.stops := by
  rw [stands]
  exact List.mem_append_cons_self

theorem Holds.forewarns_timely (holds : custody.Holds post application sink)
    {task : StopTask} (member : task ∈ custody.stops) (timely : custody.untimely = false)
    {step : StopCall.Step} {still : Bool}
    (measured : Measured task.hasTerminated step.effects still) :
    Forewarns post (custody.site.commit post step).signals ∧
      (still = true → (custody.site.commit post step).Warns post application) := by
  apply Site.forewarns_effects measured (holds.employs.setJob step.job)
    (holds.fair (.inl timely))
  intro late
  exact (holds.ready timely (.inr ⟨task, member, late⟩)).2

/-- A stop that does not end the body's task has nobody to kill. -/
theorem Holds.forewarns_spared (holds : custody.Holds post application sink)
    (spared : (custody.site.job post).aborted = false) {step : StopCall.Step}
    {late still : Bool} (measured : Measured late step.effects still)
    (idle : .hook .kill ∈ step.effects → (custody.site.job post).body.hasTask = false) :
    Forewarns post (custody.site.commit post step).signals := by
  have fair := holds.fair (.inr spared)
  by_cases kills : .hook .kill ∈ step.effects
  · have nobody : application.child = none := by
      apply holds.stage.childless _ spared
      intro underway
      have hasTask := idle kills
      rw [underway] at hasTask
      cases hasTask
    apply (Site.forewarns_effects measured (holds.employs.setJob step.job) fair _).1
    intro _ child own
    rw [nobody] at own
    cases own
  · obtain ⟨_, harmless⟩ := measured.without_kill kills
    exact (Site.forewarns_effects harmless (holds.employs.setJob step.job) fair nofun).1

/-- Whoever presses the body after a step of a stop did so before, or runs the terminate
hook now. -/
theorem pressed_stop {before after : List StopTask} {task : StopTask}
    (stands : custody.stops = before ++ task :: after) {still : Bool}
    (waits : ∀ call,
      (task.step custody.site.now (custody.site.job post)).standing = .waits call →
        call.hasTerminated = true → still = true)
    (aborts : ((custody.stop post before task after).site.job post).aborted = true →
      (custody.site.job post).aborted = true ∨ still = true)
    (pressed : (custody.stop post before task after).IsPressed post) :
    custody.IsPressed post ∨ still = true := by
  rcases pressed with ends | ⟨other, member, late⟩
  · exact (aborts ends).imp_left .inl
  · rcases List.mem_append.mp member with early | later
    · rcases List.mem_append.mp early with early | own
      · exact .inl (.inr ⟨other, by rw [stands]; exact List.mem_append_left _ early, late⟩)
      · cases standing : (task.step custody.site.now (custody.site.job post)).standing with
        | waits call =>
            rw [standing, remaining, List.mem_singleton] at own
            subst own
            exact .inr (waits call standing late)
        | returned | crashed =>
            rw [standing] at own
            cases own
    · refine .inl (.inr ⟨other, ?_, late⟩)
      rw [stands]
      exact List.mem_append_right _ (List.mem_cons_of_mem _ later)

theorem Holds.stop (holds : custody.Holds post application sink)
    {before after : List StopTask} {task : StopTask}
    (stands : custody.stops = before ++ task :: after) :
    (custody.stop post before task after).Holds post application sink := by
  obtain ⟨still, measured, waits, aborted⟩ :=
    task.escalates_step custody.site.now (custody.site.job post)
  have endures := task.endures_step custody.site.now (custody.site.job post)
  obtain ⟨employs, job⟩ := holds.employs.commit
    (task.step custody.site.now (custody.site.job post))
  have grown := custody.site.signals_subset_commit post
    (task.step custody.site.now (custody.site.job post))
  have aborts : (task.step custody.site.now (custody.site.job post)).job.aborted = true →
      (custody.site.job post).aborted = true ∨ still = true := by
    rw [aborted, Bool.or_eq_true, Bool.and_eq_true, decide_eq_true_eq]
    exact fun ends => ends.imp_right fun killed => measured.killed killed.2
  have site : (custody.stop post before task after).site = custody.site.commit post
      (task.step custody.site.now (custody.site.job post)) := rfl
  refine ⟨employs, ?_, ?_, ?_⟩
  · rw [site, job]
    apply holds.stage.stop grown endures
    rw [aborted]
    exact fun spared => (Bool.or_eq_false_iff.mp spared).1
  · intro timely pressed
    obtain ⟨timelyBefore, prompt⟩ := Bool.or_eq_false_iff.mp timely
    rw [site, job]
    have body (entered : isPending (custody.site.job post).body = false) :
        isPending (task.step custody.site.now (custody.site.job post)).job.body = false := by
      rw [(endures.launched ?_).1]
      · exact entered
      · intro unlaunched
        rw [unlaunched] at entered
        cases entered
    have ready (was : custody.IsPressed post) := holds.ready timelyBefore was
    rw [← job] at aborts
    rcases pressed_stop stands waits aborts pressed with was | late
    · obtain ⟨entered, warns⟩ := ready was
      exact ⟨body entered, warns.grows grown⟩
    · have warns := (holds.forewarns_timely (mem_stops stands) timelyBefore measured).2 late
      refine ⟨body ?_, warns⟩
      rcases measured.terminated late with earlier | now
      · exact (ready (.inr ⟨task, mem_stops stands, earlier⟩)).1
      · simpa [now] using prompt
  · rw [site, job]
    rintro (timely | spared)
    · exact (holds.forewarns_timely (mem_stops stands)
        (Bool.or_eq_false_iff.mp timely).1 measured).1
    · rw [aborted] at spared
      obtain ⟨sparedBefore, harmless⟩ := Bool.or_eq_false_iff.mp spared
      apply holds.forewarns_spared sparedBefore measured
      intro kills
      simpa [kills] using harmless

/-! ### The body -/

theorem turn_eq (custody : Custody) {task : Activity} {turned : Turn Site Activity}
    (turns : custody.site.turn task = turned) :
    custody.turn task = { custody with site := turned.world, body := turned.rest } := by
  unfold Custody.turn
  rw [turns]

theorem Holds.attendTurn_of_aborted (holds : custody.Holds post application sink)
    {attendance : Attendance} (stands : (custody.site.job post).body = .underway)
    (own : application.child = some attendance.child)
    (aborted : (custody.site.job post).aborted = true) :
    (custody.turn (.attend post attendance)).Holds post application sink := by
  let left := custody.site.letGo post attendance
  have employs : left.Employs post application sink :=
    holds.employs.of_posts (Site.posts_letGo _ post attendance)
  have grown := custody.site.signals_subset_letGo post attendance
  have turns := holds.employs.attendTurn_of_aborted aborted stands attendance
  have job : (left.setJob post (custody.site.job post).finish).job post =
      (custody.site.job post).finish := Site.job_setJob employs.lt_size _
  have ready (timely : custody.untimely = false) := (holds.ready timely (.inl aborted)).2
  rw [turn_eq custody turns]
  refine ⟨employs.setJob _, ?_, ?_, ?_⟩
  · dsimp only
    rw [job]
    refine .gone rfl (.inr rfl) fun spared => ?_
    cases aborted.symm.trans spared
  · intro timely _
    dsimp only
    rw [job]
    exact ⟨rfl, (ready timely).grows grown⟩
  · dsimp only
    rw [job]
    rintro (timely | spared)
    · exact Site.forewarns_letGo (holds.fair (.inl timely)) (ready timely _ own)
    · cases aborted.symm.trans spared

theorem Holds.attendTurn (holds : custody.Holds post application sink)
    {attendance : Attendance} (stands : (custody.site.job post).body = .underway)
    (own : application.child = some attendance.child)
    (warned : attendance.hasWarned = true →
      IsWarned post attendance.child custody.site.signals) :
    (custody.turn (.attend post attendance)).Sound post := by
  cases aborted : (custody.site.job post).aborted with
  | true => exact ⟨application, sink, holds.attendTurn_of_aborted stands own aborted⟩
  | false =>
      rw [turn_eq custody (holds.employs.attendTurn aborted attendance)]
      cases ended : custody.site.childStatus attendance with
      | some status =>
          have left := holds.employs.setApplication (application.withStatus status)
          rw [Site.attend_of_ended holds.employs ended]
          have job : ((custody.site.setApplication post
              (application.withStatus status)).setJob post
                (custody.site.job post).finish).job post = (custody.site.job post).finish :=
            Site.job_setJob left.lt_size _
          refine ⟨_, sink, holds.keeps (left.setJob _) ?_ ?_ ?_
            (fun _ member _ => member) rfl nofun id⟩
          · dsimp only
            rw [job]
            exact .gone rfl (.inr rfl) fun _ => rfl
          · dsimp only
            rw [job]
            exact fun _ => rfl
          · dsimp only
            rw [job]
            rfl
      | none =>
          obtain ⟨next, waits, child, employs, job, grown, forewarns, still⟩ :=
            Site.goesOn_attend holds.employs ended (holds.fair (.inr aborted)) warned
          refine ⟨application, sink, holds.keeps employs ?_ ?_ ?_
            (fun _ member _ => member) rfl (fun warns => warns.grows grown) fun _ => forewarns⟩
          · dsimp only
            rw [waits, job]
            exact .attends rfl stands (child ▸ own) (child ▸ still)
          · dsimp only
            rw [job]
            exact id
          · dsimp only
            rw [job]

theorem Holds.ends (holds : custody.Holds post application sink)
    (childless : application.child = none) {site : Site}
    (employs : site.Employs post application sink)
    (signals : site.signals = custody.site.signals)
    (body : (site.job post).body = .gone)
    (aborted : (site.job post).aborted = (custody.site.job post).aborted) :
    Holds post application sink { custody with site := site, body := none } := by
  refine holds.keeps employs (.gone rfl (.inr body) fun _ => childless) ?_ aborted
    (fun _ member _ => member) rfl ?_ ?_
  · intro _
    dsimp only
    rw [body]
    rfl
  · exact fun warns => warns.grows (by rw [signals]; exact fun _ => id)
  · rw [signals]
    exact id

theorem Holds.enterTurn_of_aborted (holds : custody.Holds post application sink)
    (stands : (custody.site.job post).body = .scheduled)
    (childless : application.child = none)
    (aborted : (custody.site.job post).aborted = true) :
    (custody.turn (.enter post)).Holds post application sink := by
  have turns := holds.employs.enterTurn_of_aborted aborted stands
  have job : (custody.site.setJob post { custody.site.job post with body := .gone }).job post =
      { custody.site.job post with body := .gone } := Site.job_setJob holds.employs.lt_size _
  rw [turn_eq custody turns]
  refine holds.ends childless (holds.employs.setJob _) rfl ?_ ?_
  · dsimp only
    rw [job]
  · dsimp only
    rw [job]

/-- The first turn of a body that spawns its child: it goes on as that of a body which
attends to the child already. -/
theorem Holds.enterTurn_of_spawn (holds : custody.Holds post application sink)
    (stands : (custody.site.job post).body = .scheduled)
    (aborted : (custody.site.job post).aborted = false) {host : Host} {child : ProcessNumber}
    (spawns : (custody.site.setJob post (custody.site.job post).enter).host.spawn
      application.program application.report = .ok (host, child)) :
    (custody.turn (.enter post)).Sound post := by
  have turns : custody.site.turn (.enter post) = _ :=
    Site.enterTurn_of_application holds.employs.application? aborted
  let entered := custody.site.setJob post (custody.site.job post).enter
  have employs : entered.Employs post application sink := holds.employs.setJob _
  have job : entered.job post = (custody.site.job post).enter :=
    Site.job_setJob holds.employs.lt_size _
  obtain ⟨started, launches, manned, _, kept, signals, _⟩ :=
    Site.launch_of_spawn employs spawns
  have body : (started.job post).body = .underway := by
    rw [kept, job]
    rfl
  have unaborted : (started.job post).aborted = (custody.site.job post).aborted := by
    rw [kept, job]
    rfl
  let attending : Custody :=
    { custody with site := started, body := some (.attend post (.running child)) }
  have attends : attending.Holds post (application.withChild child) sink := by
    refine ⟨manned, .attends rfl body rfl nofun, ?_, ?_⟩
    · intro timely pressed
      have before : custody.IsPressed post := pressed.imp_left unaborted.symm.trans
      have entered := (holds.ready timely before).1
      rw [stands] at entered
      cases entered
    · intro spared
      show Forewarns post started.signals
      rw [signals]
      exact holds.fair (spared.imp_right unaborted.symm.trans)
  have same : custody.turn (.enter post) =
      attending.turn (.attend post (.running child)) := by
    rw [turn_eq custody turns, launches,
      turn_eq attending (manned.attendTurn (unaborted.trans aborted) _)]
  rw [same]
  exact attends.attendTurn body rfl nofun

theorem Holds.enterTurn (holds : custody.Holds post application sink)
    (stands : (custody.site.job post).body = .scheduled)
    (childless : application.child = none) : (custody.turn (.enter post)).Sound post := by
  cases aborted : (custody.site.job post).aborted with
  | true =>
      exact ⟨application, sink, holds.enterTurn_of_aborted stands childless aborted⟩
  | false =>
      let entered := custody.site.setJob post (custody.site.job post).enter
      cases spawns : entered.host.spawn application.program application.report with
      | ok both => exact holds.enterTurn_of_spawn stands aborted spawns
      | error error =>
          have turns : custody.site.turn (.enter post) = _ :=
            Site.enterTurn_of_application holds.employs.application? aborted
          have employs : entered.Employs post application sink := holds.employs.setJob _
          have job : entered.job post = (custody.site.job post).enter :=
            Site.job_setJob holds.employs.lt_size _
          rw [Site.launch_eq_of_failure employs spawns] at turns
          rw [turn_eq custody turns]
          have left : (entered.report (.bodyFailed (.spawn application.program error))).Employs
              post application sink := employs
          refine ⟨application, sink, holds.ends childless (left.setJob _) rfl ?_ ?_⟩
          · dsimp only
            rw [Site.job_setJob left.lt_size]
            rfl
          · dsimp only
            rw [Site.job_setJob left.lt_size, job]
            rfl

theorem Sound.step (sound : custody.Sound post) (steps : Step post custody final) :
    final.Sound post := by
  obtain ⟨application, sink, holds⟩ := sound
  cases steps with
  | starts starts => exact ⟨application, sink, holds.starts starts⟩
  | calls timeout => exact ⟨application, sink, holds.calls timeout⟩
  | stops stands => exact ⟨application, sink, holds.stop stands⟩
  | leaves stands => exact ⟨application, sink, holds.leaves stands⟩
  | beside apart => exact ⟨application, sink, holds.beside apart⟩
  | turns stands =>
      cases holds.stage with
      | unlaunched idle | gone idle => cases idle.symm.trans stands
      | scheduled task stands' childless =>
          cases task.symm.trans stands
          exact holds.enterTurn stands' childless
      | attends task stands' own warned =>
          cases task.symm.trans stands
          exact holds.attendTurn stands' own warned

theorem Sound.run (sound : custody.Sound post)
    (comes : Relation.ReflTransGen (Step post) custody final) : final.Sound post := by
  induction comes with
  | refl => exact sound
  | tail _ steps induction => exact induction.step steps

theorem sound_fresh {site : Site} {name : String} {killGrace : Duration}
    (employs : site.Employs post application sink) (childless : application.child = none)
    (unstarted : site.job post = Job.fresh name killGrace)
    (unsignalled : ∀ dispatch ∈ site.signals, dispatch.post ≠ post) :
    (fresh site).Sound post := by
  have job : (fresh site).site.job post = Job.fresh name killGrace := unstarted
  refine ⟨application, sink, employs, ?_, ?_, fun _ => forewarns_of_others unsignalled⟩
  · rw [job]
    exact .unlaunched rfl rfl childless
  · rintro _ (aborted | ⟨task, member, _⟩)
    · rw [job] at aborted
      cases aborted
    · cases member

/-- Whatever the graces, the timeouts, the child and the order of all turns, and however
many stops are called, as long as nobody aborts the job but a stop: whoever is sent SIGKILL
was sent SIGTERM before, unless a stop ran its terminate hook before the body was entered
and then its kill hook. -/
theorem terminates_before_killing {site : Site} {name : String} {killGrace : Duration}
    (employs : site.Employs post application sink) (childless : application.child = none)
    (unstarted : site.job post = Job.fresh name killGrace)
    (unsignalled : ∀ dispatch ∈ site.signals, dispatch.post ≠ post)
    (comes : Relation.ReflTransGen (Step post) (fresh site) final)
    {later earlier : List Dispatch} {kill : Dispatch}
    (sent : final.site.signals = later ++ kill :: earlier) (own : kill.post = post)
    (kills : kill.call.signal = some .kill) :
    (∃ warning ∈ earlier, warning.post = post ∧
      warning.call = { target := kill.call.target, signal := some .terminate }) ∨
    final.untimely = true ∧ (final.site.job post).aborted = true := by
  obtain ⟨_, _, holds⟩ := (sound_fresh employs childless unstarted unsignalled).run comes
  by_cases spared : final.untimely = false ∨ (final.site.job post).aborted = false
  · exact .inl (holds.fair spared later kill earlier sent own kills)
  · rw [not_or, Bool.not_eq_false, Bool.not_eq_false] at spared
    exact .inr spared

/-- The clock and the host go on beside an application. -/
theorem apart_pass (site : Site) (post : Nat) (now : Instant) (host : Host) :
    Site.Apart post site { site with now := now, host := host } :=
  ⟨rfl, ⟨(site.job post).restartMark, rfl⟩, [], rfl, nofun⟩

/-- Time passes, and the processes of the host act. -/
def pass (custody : Custody) (time : Instant) : Custody :=
  { custody with
    site := { custody.site with
      now := time
      host := custody.site.host.react.getD custody.site.host } }

theorem step_pass (custody : Custody) (post : Nat) (time : Instant) :
    Step post custody (custody.pass time) :=
  .beside (apart_pass custody.site post time _)

/-- An application that was not started, on a host where its program heeds neither SIGINT
nor SIGTERM. -/
def idleSite (application : Application) (killGrace : Duration) : Site :=
  { Site.fresh (Course.plainHost [⟨.ignores, .ignores, .ownNumber, .runsOn⟩]) with
    posts := #[
      { job := Job.fresh "application" killGrace
        duty := .application application 0 }] }

/-- A deaf child that is up when it is stopped is warned before it is killed. -/
theorem terminates_before_killing_of_deaf_child :
    ∃ final, Relation.ReflTransGen (Step 0)
        (fresh (idleSite (Charge.plainApplication { nanos := 50 } { nanos := 30 })
          { nanos := 15 })) final ∧
      ∃ kill earlier, final.site.signals = kill :: earlier ∧
        kill.call.signal = some .kill ∧
        ∃ warning ∈ earlier, warning.post = 0 ∧
          warning.call = { target := kill.call.target, signal := some .terminate } := by
  let application := Charge.plainApplication { nanos := 50 } { nanos := 30 }
  let start := fresh (idleSite application { nanos := 15 })
  let job : Job :=
    { Job.fresh "application" { nanos := 15 } with phase := .running, body := .scheduled }
  let scheduled : Custody :=
    { start with site := start.site.setJob 0 job, body := some (.enter 0) }
  let up := (scheduled.turn (.enter 0)).pass 10
  let called : Custody := { up with stops := .called { nanos := 10 } :: up.stops }
  let asked := called.stop 0 [] (.called { nanos := 10 }) []
  let waiting := asked.pass 20
  let asking : StopTask := .waits (.graceful ⟨{ nanos := 10 }, 20, false, true⟩)
  let terminated := waiting.stop 0 [] asking []
  let late := terminated.pass 35
  let final := late.stop 0 [] (.waits (.terminating 35)) []
  have starts : Step 0 start scheduled := .starts rfl
  have enters : Step 0 scheduled (scheduled.turn (.enter 0)) := .turns rfl
  have comesUp : Step 0 (scheduled.turn (.enter 0)) up := step_pass _ 0 10
  have calls : Step 0 up called := .calls { nanos := 10 }
  have asks : Step 0 called asked := .stops rfl
  have waits : Step 0 asked waiting := step_pass _ 0 20
  have terminates : Step 0 waiting terminated := .stops (by decide +kernel)
  have passes : Step 0 terminated late := step_pass _ 0 35
  have kills : Step 0 late final := .stops (by decide +kernel)
  have comes : Relation.ReflTransGen (Step 0) start final :=
    .tail (.tail (.tail (.tail (.tail (.tail (.tail (.tail (.single starts) enters) comesUp)
      calls) asks) waits) terminates) passes) kills
  have facts : (final.site.signals.head?.map Dispatch.post) = some 0 ∧
      (final.site.signals.head?.bind (·.call.signal)) = some .kill ∧
      final.untimely = false := by
    decide +kernel
  obtain ⟨own, isKill, timely⟩ := facts
  cases sent : final.site.signals with
  | nil =>
      rw [sent] at own
      cases own
  | cons kill earlier =>
      rw [sent] at own isKill
      refine ⟨final, comes, kill, earlier, sent, isKill, ?_⟩
      have employs : start.site.Employs 0 application 0 := rfl
      have newest : final.site.signals = [] ++ kill :: earlier := sent
      rcases terminates_before_killing employs rfl rfl nofun comes newest
        (Option.some.inj own) isKill with warned | ⟨untimely, _⟩
      · exact warned
      · cases timely.symm.trans untimely

/-- A stop with no patience terminates before there is a child, and then kills the child
that was never sent SIGTERM. -/
theorem kills_unwarned_child :
    ∃ final, Relation.ReflTransGen (Step 0)
        (fresh (idleSite (Charge.plainApplication { nanos := 50 } { nanos := 30 })
          { nanos := 30 })) final ∧
      final.site.signals =
        [⟨30, 0, { target := (Host.numberOf 0).toNat, signal := some .kill }⟩] ∧
      ¬ Forewarns 0 final.site.signals := by
  let application := Charge.plainApplication { nanos := 50 } { nanos := 30 }
  let start := fresh (idleSite application { nanos := 30 })
  let job : Job :=
    { Job.fresh "application" { nanos := 30 } with phase := .running, body := .scheduled }
  let scheduled : Custody :=
    { start with site := start.site.setJob 0 job, body := some (.enter 0) }
  let called : Custody :=
    { scheduled with stops := .called Duration.zero :: scheduled.stops }
  let terminated := called.stop 0 [] (.called Duration.zero) []
  let up := (terminated.turn (.enter 0)).pass 30
  let final := up.stop 0 [] (.waits (.terminating 30)) []
  have starts : Step 0 start scheduled := .starts rfl
  have calls : Step 0 scheduled called := .calls Duration.zero
  have terminates : Step 0 called terminated := .stops rfl
  have enters : Step 0 terminated (terminated.turn (.enter 0)) := .turns rfl
  have passes : Step 0 (terminated.turn (.enter 0)) up := step_pass _ 0 30
  have kills : Step 0 up final := .stops (by decide +kernel)
  have sent : final.site.signals =
      [⟨30, 0, { target := (Host.numberOf 0).toNat, signal := some .kill }⟩] := by
    decide +kernel
  refine ⟨final, ?_, sent, ?_⟩
  · exact .tail (.tail (.tail (.tail (.tail (.single starts) calls) terminates) enters)
      passes) kills
  · intro forewarns
    obtain ⟨warning, member, _⟩ := forewarns [] _ [] sent rfl rfl
    cases member

end Custody

end Overseer
