import Overseer.Proofs.Supervision.Forewarning

/-!
# The child that an application knows

An application knows its child from the spawn until the body sees how the child ends, or
cannot wait for it.  A body that is told to end before leaves without a word: the child is
let go, and the application goes on to know a child that nobody attends to any more.

`Custody.Fares` adds to what can happen in custody that somebody aborts the job and that
the wait for the child fails.
-/

namespace Overseer

/-- A job that was not launched does not exit in a step of a stop unless it is withdrawn. -/
theorem StopTask.running_step {now : Instant} {job : Job} {task : StopTask}
    (running : job.exitFlag = false)
    (unlaunched : (task.step now job).job.body = .unlaunched) :
    (task.step now job).job.exitFlag = false := by
  by_cases launched : job.body ≠ .unlaunched
  · rw [((task.endures_step now job).launched launched).2]
    exact running
  · rw [ne_eq, not_not] at launched
    cases task with
    | called timeout =>
        change (StopCall.begin now job timeout false).job.body = .unlaunched at unlaunched
        show (StopCall.begin now job timeout false).job.exitFlag = false
        unfold StopCall.begin at unlaunched ⊢
        split
        · unfold StopCall.follow
          rw [if_neg Bool.false_ne_true]
          split
          · exact running
          · rw [StopCall.awaitExit_job]
            exact running
        · rename_i unclaimed
          rw [if_neg unclaimed, running] at unlaunched
          unfold StopCall.perform at unlaunched
          rw [if_neg Bool.false_ne_true, if_pos launched] at unlaunched
          cases unlaunched
    | waits call =>
        obtain ⟨_, _, frame⟩ := StopCall.resume_frame now job call
        show (call.resume now job).job.exitFlag = false
        rw [frame]
        exact running

namespace Custody

variable {post sink : Nat} {application : Application} {start custody next final : Custody}
  {child : ProcessNumber}

/-- What can become of an application: whatever can happen in custody, and besides somebody
aborts its job, or its body cannot wait for the child. -/
inductive Fares (post : Nat) (custody : Custody) : Custody → Prop where
  | steps {next : Custody} (steps : Step post custody next) : Fares post custody next
  | aborts :
      Fares post custody
        { custody with
          site := custody.site.setJob post (custody.site.job post).abort }
  | fails {attendance : Attendance} {application : Application}
      (stands : custody.body = some (.attend post attendance))
      (spared : (custody.site.job post).aborted = false)
      (attended : custody.site.application? post = some application) (fault : Fault) :
      Fares post custody
        { custody with
          site := custody.site.failApplication post application attendance fault
          body := none }

/-- Whatever becomes of an application by and by. -/
abbrev Comes (post : Nat) : Custody → Custody → Prop :=
  Relation.ReflTransGen (Fares post)

/-- The body was told to end while it attended to a child, and took its last turn then. -/
def Forsakes (post : Nat) (start custody : Custody) (child : ProcessNumber) : Prop :=
  ∃ eve attendance, Comes post start eve ∧ eve.body = some (.attend post attendance) ∧
    attendance.child = child ∧ (eve.site.job post).aborted = true ∧
    Comes post (eve.turn (.attend post attendance)) custody

theorem Forsakes.fares (forsakes : Forsakes post start custody child)
    (fares : Fares post custody next) : Forsakes post start next child := by
  obtain ⟨eve, attendance, comes, stands, own, aborted, left⟩ := forsakes
  exact ⟨eve, attendance, comes, stands, own, aborted, left.tail fares⟩

/-! ## Steps beside the body -/

/-- The body and its child are left alone; a body that was not launched may be withdrawn. -/
structure Spares (post : Nat) (application : Application) (sink : Nat)
    (custody next : Custody) : Prop where
  employs : next.site.Employs post application sink
  body : next.body = custody.body
  endures : (custody.site.job post).Endures (next.site.job post)
  running : (custody.site.job post).exitFlag = false →
    (next.site.job post).body = .unlaunched → (next.site.job post).exitFlag = false

theorem spares_stop (employs : custody.site.Employs post application sink)
    (before : List StopTask) (task : StopTask) (after : List StopTask) :
    Spares post application sink custody (custody.stop post before task after) := by
  obtain ⟨committed, job⟩ :=
    employs.commit (task.step custody.site.now (custody.site.job post))
  refine ⟨committed, rfl, ?_, ?_⟩
  · unfold Custody.stop
    dsimp only
    rw [job]
    exact task.endures_step _ _
  · unfold Custody.stop
    dsimp only
    rw [job]
    exact StopTask.running_step

theorem spares_beside (employs : custody.site.Employs post application sink) {after : Site}
    (apart : Site.Apart post custody.site after) :
    Spares post application sink custody { custody with site := after } := by
  obtain ⟨mark, job⟩ := apart.job
  refine ⟨apart.duty.trans employs, rfl, ?_, ?_⟩
  · rw [job]
    exact ⟨rfl, fun _ => ⟨rfl, rfl⟩, .inl, id, id, id⟩
  · rw [job]
    exact fun running _ => running

theorem spares_abort (employs : custody.site.Employs post application sink) :
    Spares post application sink custody
      { custody with
        site := custody.site.setJob post (custody.site.job post).abort } := by
  have job : (custody.site.setJob post (custody.site.job post).abort).job post =
      (custody.site.job post).abort := Site.job_setJob employs.lt_size _
  refine ⟨employs.setJob _, rfl, ?_, ?_⟩
  · dsimp only
    rw [job]
    exact Job.endures_abort _
  · dsimp only
    rw [job]
    obtain ⟨_, moved⟩ := (custody.site.job post).moveTo_frame .killed
    unfold Job.abort
    rw [moved]
    exact fun running _ => running

/-- A step starts the body, is a turn or a failure of the body, or leaves it alone. -/
inductive Meets (post : Nat) (application : Application) (sink : Nat)
    (custody : Custody) : Custody → Prop where
  | spares {next : Custody} (spares : Spares post application sink custody next) :
      Meets post application sink custody next
  | starts {job : Job} (starts : (custody.site.job post).start = .ok job) :
      Meets post application sink custody
        { custody with
          site := custody.site.setJob post job
          body := some (.enter post) }
  | turns {task : Activity} (stands : custody.body = some task) :
      Meets post application sink custody (custody.turn task)
  | fails {attendance : Attendance} (stands : custody.body = some (.attend post attendance))
      (fault : Fault) :
      Meets post application sink custody
        { custody with
          site := custody.site.failApplication post application attendance fault
          body := none }

theorem Fares.meets (employs : custody.site.Employs post application sink)
    (fares : Fares post custody next) : Meets post application sink custody next := by
  cases fares with
  | steps steps =>
      cases steps with
      | starts starts => exact .starts starts
      | calls timeout | leaves stands =>
          exact .spares ⟨employs, rfl, .refl _, fun running _ => running⟩
      | stops stands => exact .spares (spares_stop employs _ _ _)
      | turns stands => exact .turns stands
      | beside apart => exact .spares (spares_beside employs apart)
  | aborts => exact .spares (spares_abort employs)
  | fails stands spared attended fault =>
      cases attended.symm.trans employs.application?
      exact .fails stands fault

/-! ## The child that is known -/

/-- Where the body of an application stands, and the child that the application knows;
`forsaken` are those that nobody attends to any more. -/
inductive Tenure (post : Nat) (application : Application) (job : Job)
    (forsaken : ProcessNumber → Prop) (body : Option Activity) : Prop where
  | unlaunched (task : body = none) (stands : job.body = .unlaunched)
      (running : job.exitFlag = false) (childless : application.child = none)
  | scheduled (task : body = some (.enter post)) (stands : job.body = .scheduled)
      (running : job.exitFlag = false) (childless : application.child = none)
  | attends {attendance : Attendance} (task : body = some (.attend post attendance))
      (stands : job.body = .underway) (running : job.exitFlag = false)
      (own : application.child = some attendance.child)
  | released (task : body = none) (stands : job.body = .withdrawn ∨ job.body = .gone)
      (childless : application.child = none)
  | forsaken {child : ProcessNumber} (task : body = none) (stands : job.body = .gone)
      (own : application.child = some child) (forsakes : forsaken child)

/-- What holds of an application at any time, and of those it has forsaken since `start`. -/
structure Knows (post : Nat) (application : Application) (sink : Nat)
    (start custody : Custody) : Prop where
  employs : custody.site.Employs post application sink
  tenure : Tenure post application (custody.site.job post) (Forsakes post start custody)
    custody.body

theorem Tenure.spares {job after : Job} {forsaken left : ProcessNumber → Prop}
    {body : Option Activity} (tenure : Tenure post application job forsaken body)
    (endures : job.Endures after)
    (running : job.exitFlag = false → after.body = .unlaunched → after.exitFlag = false)
    (lasts : ∀ child, forsaken child → left child) :
    Tenure post application after left body := by
  have launched (stands : job.body ≠ .unlaunched) := endures.launched stands
  cases tenure with
  | unlaunched task stands was childless =>
      rcases endures.unlaunched stands with same | withdrawn
      · exact .unlaunched task same (running was same) childless
      · exact .released task (.inl withdrawn) childless
  | scheduled task stands was childless =>
      obtain ⟨body, exitFlag⟩ := launched (by simp [stands])
      exact .scheduled task (body.trans stands) (exitFlag.trans was) childless
  | attends task stands was own =>
      obtain ⟨body, exitFlag⟩ := launched (by simp [stands])
      exact .attends task (body.trans stands) (exitFlag.trans was) own
  | released task stands childless =>
      obtain ⟨body, _⟩ := launched (by rcases stands with stands | stands <;> simp [stands])
      rw [← body] at stands
      exact .released task stands childless
  | forsaken task stands own forsakes =>
      obtain ⟨body, _⟩ := launched (by simp [stands])
      exact .forsaken task (body.trans stands) own (lasts _ forsakes)

theorem Knows.spares (knows : Knows post application sink start custody)
    (fares : Fares post custody next) (spares : Spares post application sink custody next) :
    Knows post application sink start next := by
  refine ⟨spares.employs, ?_⟩
  rw [spares.body]
  exact knows.tenure.spares spares.endures spares.running fun _ forsakes =>
    forsakes.fares fares

/-! ## Turns of the body -/

/-- What the turn of a body leaves: the application, and where its body stands. -/
def Yields (post sink : Nat) (forsaken : ProcessNumber → Prop)
    (turned : Turn Site Activity) : Prop :=
  ∃ application, turned.world.Employs post application sink ∧
    Tenure post application (turned.world.job post) forsaken turned.rest

variable {site : Site} {forsaken : ProcessNumber → Prop} {attendance : Attendance}

theorem yields_of_released {job : Job} (employs : site.Employs post application sink)
    (stands : job.body = .gone) (childless : application.child = none) :
    Yields post sink forsaken ⟨site.setJob post job, none, []⟩ := by
  refine ⟨application, employs.setJob job, ?_⟩
  dsimp only
  rw [Site.job_setJob employs.lt_size]
  exact .released rfl (.inr stands) childless

/-- A body that is not told to end attends to its child until it sees it end. -/
theorem yields_attend (employs : site.Employs post application sink)
    (stands : (site.job post).body = .underway) (running : (site.job post).exitFlag = false)
    (spared : (site.job post).aborted = false)
    (own : application.child = some attendance.child) :
    Yields post sink forsaken (site.turn (.attend post attendance)) := by
  rw [employs.attendTurn spared attendance]
  cases ended : site.childStatus attendance with
  | some status =>
      rw [Site.attend_of_ended employs ended, ← Site.job_setApplication site post
        (application.withStatus status) post]
      exact yields_of_released (employs.setApplication _) rfl rfl
  | none =>
      obtain ⟨same, next, waits, child, _⟩ := application.goesOn_attend site.now
        (site.job post).stopFlag attendance
      obtain ⟨goesOn, deals, job⟩ := Site.deals_attend employs ended rfl waits
      have still := deals.employs
      rw [same] at still
      refine ⟨application, still, ?_⟩
      dsimp only
      rw [goesOn, job]
      exact .attends rfl stands running (child ▸ own)

/-- A body that is told to end forsakes the child that it attends to. -/
theorem yields_attend_of_aborted (employs : site.Employs post application sink)
    (stands : (site.job post).body = .underway) (aborted : (site.job post).aborted = true)
    (own : application.child = some attendance.child) (forsakes : forsaken attendance.child) :
    Yields post sink forsaken (site.turn (.attend post attendance)) := by
  have left : (site.letGo post attendance).Employs post application sink :=
    employs.of_posts (Site.posts_letGo _ post attendance)
  rw [employs.attendTurn_of_aborted aborted stands attendance]
  refine ⟨application, left.setJob _, ?_⟩
  dsimp only
  rw [Site.job_setJob left.lt_size]
  exact .forsaken rfl rfl own forsakes

theorem yields_enter (employs : site.Employs post application sink)
    (stands : (site.job post).body = .scheduled)
    (running : (site.job post).exitFlag = false) (childless : application.child = none) :
    Yields post sink forsaken (site.turn (.enter post)) := by
  cases aborted : (site.job post).aborted with
  | true =>
      rw [employs.enterTurn_of_aborted aborted stands]
      exact yields_of_released employs rfl childless
  | false =>
      let entered := site.setJob post (site.job post).enter
      have still : entered.Employs post application sink := employs.setJob _
      have job : entered.job post = (site.job post).enter :=
        Site.job_setJob employs.lt_size _
      have turns : site.turn (.enter post) = _ :=
        Site.enterTurn_of_application employs.application? aborted
      cases spawns : entered.host.spawn application.program application.report with
      | error error =>
          rw [turns, Site.launch_eq_of_failure still spawns]
          have left : (entered.report (.bodyFailed (.spawn application.program error))).Employs
              post application sink := still
          exact yields_of_released left rfl childless
      | ok spawned =>
          obtain ⟨started, launches, manned, _, kept, _⟩ :=
            Site.launch_of_spawn still spawns
          have underway : started.job post = (site.job post).enter := kept.trans job
          have spared : (started.job post).aborted = false := by
            rw [underway]
            exact aborted
          have attends : site.turn (.enter post) =
              started.turn (.attend post (.running spawned.2)) := by
            rw [turns, launches, manned.attendTurn spared]
          rw [attends]
          apply yields_attend manned _ _ spared rfl
          · rw [underway]
            rfl
          · rw [underway]
            exact running

/-! ## The whole run -/

theorem Knows.fails (employs : custody.site.Employs post application sink)
    (attendance : Attendance) (fault : Fault) :
    Knows post application.withoutChild sink start
      { custody with
        site := custody.site.failApplication post application attendance fault
        body := none } := by
  have left : (custody.site.letGo post attendance).Employs post application sink :=
    employs.of_posts (Site.posts_letGo _ post attendance)
  have reported : (((custody.site.letGo post attendance).setApplication post
      application.withoutChild).report (.bodyFailed fault)).Employs post
        application.withoutChild sink := left.setApplication _
  have failed : custody.site.failApplication post application attendance fault = _ :=
    reported.endBody
  refine ⟨?_, ?_⟩
  · dsimp only
    rw [failed]
    exact reported.setJob _
  · dsimp only
    rw [failed, Site.job_setJob reported.lt_size]
    exact .released rfl (.inr rfl) rfl

theorem Knows.starts (knows : Knows post application sink start custody) {job : Job}
    (starts : (custody.site.job post).start = .ok job) :
    Knows post application sink start
      { custody with
        site := custody.site.setJob post job
        body := some (.enter post) } := by
  have set : (custody.site.setJob post job).job post = job :=
    Site.job_setJob knows.employs.lt_size job
  unfold Job.start at starts
  split at starts
  · rename_i unlaunched
    obtain ⟨_, moved⟩ := (custody.site.job post).moveTo_frame .running
    rw [moved] at starts
    refine ⟨knows.employs.setJob job, ?_⟩
    dsimp only
    rw [set]
    cases knows.tenure with
    | unlaunched _ _ running childless =>
        cases starts
        exact .scheduled rfl rfl running childless
    | scheduled _ stands | attends _ stands | forsaken _ stands =>
        cases unlaunched.symm.trans stands
    | released _ stands =>
        rcases stands with stands | stands
        · cases unlaunched.symm.trans stands
        · cases unlaunched.symm.trans stands
  · cases starts

/-- A turn of the body: it may forsake its child, and nothing else does. -/
theorem Knows.turns (knows : Knows post application sink start custody)
    (comes : Comes post start custody) {task : Activity}
    (stands : custody.body = some task) :
    ∃ next, Knows post next sink start (custody.turn task) := by
  have yields : Yields post sink (Forsakes post start (custody.turn task))
      (custody.site.turn task) := by
    cases knows.tenure with
    | unlaunched idle | released idle | forsaken idle => cases idle.symm.trans stands
    | scheduled enters scheduled running childless =>
        cases enters.symm.trans stands
        exact yields_enter knows.employs scheduled running childless
    | @attends attendance attends underway running own =>
        cases attends.symm.trans stands
        cases aborted : (custody.site.job post).aborted with
        | false => exact yields_attend knows.employs underway running aborted own
        | true =>
            apply yields_attend_of_aborted knows.employs underway aborted own
            exact ⟨custody, attendance, comes, stands, rfl, aborted, .refl⟩
  obtain ⟨next, employs, tenure⟩ := yields
  exact ⟨next, employs, tenure⟩

theorem Knows.fares (knows : Knows post application sink start custody)
    (comes : Comes post start custody) (fares : Fares post custody next) :
    ∃ after, Knows post after sink start next := by
  cases fares.meets knows.employs with
  | spares spares => exact ⟨application, knows.spares fares spares⟩
  | starts starts => exact ⟨application, knows.starts starts⟩
  | turns stands => exact knows.turns comes stands
  | @fails attendance stands fault => exact ⟨_, .fails knows.employs attendance fault⟩

theorem knows_fresh {site : Site} {name : String} {killGrace : Duration}
    (employs : site.Employs post application sink) (childless : application.child = none)
    (unstarted : site.job post = Job.fresh name killGrace) :
    Knows post application sink (fresh site) (fresh site) := by
  have job : (fresh site).site.job post = Job.fresh name killGrace := unstarted
  refine ⟨employs, ?_⟩
  rw [job]
  exact .unlaunched rfl rfl rfl childless

theorem Knows.comes (knows : Knows post application sink start start)
    (comes : Comes post start custody) :
    ∃ after, Knows post after sink start custody := by
  induction comes with
  | refl => exact ⟨application, knows⟩
  | tail comes fares induction =>
      obtain ⟨before, known⟩ := induction
      exact known.fares comes fares

/-! ## Who was forsaken stays known -/

/-- The body is gone, and the application knows a child. -/
def Strands (post : Nat) (application : Application) (sink : Nat) (custody : Custody) :
    Prop :=
  custody.site.Employs post application sink ∧ custody.body = none ∧
    (custody.site.job post).body = .gone

theorem Strands.fares (strands : Strands post application sink custody)
    (fares : Fares post custody next) : Strands post application sink next := by
  obtain ⟨employs, idle, gone⟩ := strands
  cases fares.meets employs with
  | spares spares =>
      have body := (spares.endures.launched (by simp [gone])).1
      exact ⟨spares.employs, spares.body.trans idle, body.trans gone⟩
  | starts starts =>
      unfold Job.start at starts
      rw [gone] at starts
      cases starts
  | turns stands | fails stands => cases idle.symm.trans stands

theorem Strands.comes (strands : Strands post application sink custody)
    (comes : Comes post custody final) : Strands post application sink final := by
  induction comes with
  | refl => exact strands
  | tail _ fares induction => exact induction.fares fares

/-- A child that was forsaken is known ever after. -/
theorem Forsakes.child_eq (forsakes : Forsakes post start final child)
    (knows : Knows post application sink start start) {last : Application}
    (employs : final.site.Employs post last sink) : last.child = some child := by
  obtain ⟨eve, attendance, comes, stands, rfl, aborted, left⟩ := forsakes
  obtain ⟨before, known⟩ := knows.comes comes
  cases known.tenure with
  | unlaunched idle | released idle | forsaken idle => cases idle.symm.trans stands
  | scheduled enters => cases enters.symm.trans stands
  | attends attends underway _ own =>
      cases attends.symm.trans stands
      have turns := known.employs.attendTurn_of_aborted aborted underway attendance
      have letGo : (eve.site.letGo post attendance).Employs post before sink :=
        known.employs.of_posts (Site.posts_letGo _ post attendance)
      have strands : Strands post before sink (eve.turn (.attend post attendance)) := by
        rw [turn_eq eve turns]
        refine ⟨letGo.setJob _, rfl, ?_⟩
        dsimp only
        rw [Site.job_setJob letGo.lt_size]
        rfl
      have same := (strands.comes left).1.application?.symm.trans employs.application?
      rw [← Option.some.inj same]
      exact own

/-- The terminate hook and the kill hook signal the child that is known, and nobody else. -/
theorem runHook_of_child {site : Site} (attended : site.application? post = some application)
    {hook : Hook} (other : hook ≠ .stop) :
    site.runHook post hook =
      match application.child with
      | none => site
      | some child => site.signal post child hook.signal := by
  unfold Site.runHook
  rw [attended]
  cases hook with
  | stop => exact absurd rfl other
  | terminate | kill =>
      cases child : application.child <;> simp [Application.hookSignal, child, Hook.signal]

/-- Once the job of an application has exited, the application knows a child exactly if the
body forsook it: it was told to end while it attended to the child.  Whoever raised the exit
flag else left no child to be signalled; a child that was forsaken is known ever after, and
is whom the terminate hook and the kill hook would signal. -/
theorem child_of_exited {site : Site} {name : String} {killGrace : Duration}
    (employs : site.Employs post application sink) (childless : application.child = none)
    (unstarted : site.job post = Job.fresh name killGrace)
    (comes : Comes post (fresh site) final) (exited : (final.site.job post).exitFlag = true)
    {last : Application} (attended : final.site.application? post = some last) :
    (∀ child, last.child = some child ↔ Forsakes post (fresh site) final child) ∧
    ∀ hook, hook ≠ .stop →
      ((∀ child, ¬Forsakes post (fresh site) final child) →
        final.site.runHook post hook = final.site) ∧
      ∀ child, Forsakes post (fresh site) final child →
        final.site.runHook post hook = final.site.signal post child hook.signal := by
  have began := knows_fresh employs childless unstarted
  obtain ⟨after, known⟩ := began.comes comes
  cases known.employs.application?.symm.trans attended
  have named (child : ProcessNumber) :
      last.child = some child ↔ Forsakes post (fresh site) final child := by
    refine ⟨fun own => ?_, fun forsakes => forsakes.child_eq began known.employs⟩
    cases known.tenure with
    | unlaunched _ _ running | scheduled _ _ running | attends _ _ running =>
        cases running.symm.trans exited
    | released _ _ childless => cases childless.symm.trans own
    | forsaken _ _ known forsakes =>
        cases known.symm.trans own
        exact forsakes
  refine ⟨named, fun hook other => ⟨fun nobody => ?_, fun child forsakes => ?_⟩⟩
  · have childless : last.child = none :=
      Option.eq_none_iff_forall_ne_some.mpr fun child own => nobody child ((named child).mp own)
    rw [runHook_of_child attended other, childless]
  · rw [runHook_of_child attended other, (named child).mpr forsakes]

/-- An application that was not started, with short waits. -/
def plainSite : Site :=
  idleSite (Charge.plainApplication { nanos := 50 } { nanos := 30 }) { nanos := 15 }

/-- It is aborted as soon as its child is up, exits and goes on to know the child. -/
theorem exists_lost_child :
    ∃ final last, Comes 0 (fresh plainSite) final ∧
      (final.site.job 0).exitFlag = true ∧ final.site.application? 0 = some last ∧
      last.child = some (Host.numberOf 0) := by
  let start := fresh plainSite
  let job : Job :=
    { Job.fresh "application" { nanos := 15 } with phase := .running, body := .scheduled }
  let scheduled : Custody :=
    { start with site := start.site.setJob 0 job, body := some (.enter 0) }
  let up := scheduled.turn (.enter 0)
  let told : Custody := { up with site := up.site.setJob 0 (up.site.job 0).abort }
  let final := told.body.elim told told.turn
  have starts : Fares 0 start scheduled := .steps (.starts rfl)
  have enters : Fares 0 scheduled up := .steps (.turns rfl)
  have isTold : Fares 0 up told := .aborts
  have leaves : Fares 0 told final := by
    have attends : told.body.isSome = true := by decide +kernel
    obtain ⟨task, stands⟩ := Option.isSome_iff_exists.mp attends
    have turns : final = told.turn task := by
      show told.body.elim told told.turn = _
      rw [stands]
      rfl
    rw [turns]
    exact .steps (.turns stands)
  have known : (final.site.application? 0).bind Application.child =
      some (Host.numberOf 0) := by
    decide +kernel
  obtain ⟨last, attended, own⟩ := Option.bind_eq_some_iff.mp known
  exact ⟨final, last, .tail (.tail (.tail (.single starts) enters) isTold) leaves,
    by decide +kernel, attended, own⟩

/-- The body of an application that is aborted forsakes its child, which the hooks would
signal ever after. -/
theorem child_of_exited_of_abort :
    ∃ final, Comes 0 (fresh plainSite) final ∧ (final.site.job 0).exitFlag = true ∧
      Forsakes 0 (fresh plainSite) final (Host.numberOf 0) ∧
      final.site.runHook 0 .kill = final.site.signal 0 (Host.numberOf 0) .kill := by
  obtain ⟨final, last, comes, exited, attended, own⟩ := exists_lost_child
  have employs : plainSite.Employs 0
      (Charge.plainApplication { nanos := 50 } { nanos := 30 }) 0 := rfl
  obtain ⟨named, signals⟩ := child_of_exited employs rfl rfl comes exited attended
  have forsakes := (named (Host.numberOf 0)).mp own
  exact ⟨final, comes, exited, forsakes, (signals .kill nofun).2 _ forsakes⟩

/-- An application does not always forget its child when its job exits. -/
theorem knows_child_after_exit :
    ¬∀ final last, Comes 0 (fresh plainSite) final →
      (final.site.job 0).exitFlag = true → final.site.application? 0 = some last →
        last.child = none := by
  intro forgets
  obtain ⟨final, last, comes, exited, attended, own⟩ := exists_lost_child
  cases own.symm.trans (forgets final last comes exited attended)

end Custody

end Overseer
