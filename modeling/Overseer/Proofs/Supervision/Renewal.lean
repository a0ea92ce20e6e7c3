import Overseer.Proofs.Supervision.Chronicle

/-!
# Restarts are neither lost nor doubled

A round that has ended is evaluated once.  Another one is launched in its place exactly if
somebody asked for a restart while it was current, or marked it, and nobody asked for a
stop; how many did so makes no difference, and none of them marks the next round.
-/

namespace Overseer

namespace Chronicle

variable {settings : Settings} {chronicle next final : Chronicle}
  {happening : Happening} {course after : Course} {occurrence : Course.Occurrence}
  {round : Nat}

/-- The supervisor stops if it was asked to, and the rounds that are marked are those
that were found. -/
structure IsRecorded (chronicle : Chronicle) : Prop where
  stopped : chronicle.course.site.IsStopping 0 ↔ chronicle.course.WasStopped
  marked : ∀ round, chronicle.course.site.IsMarked round ↔ chronicle.Found round

/-- The round that the run listens to; it is the current one. -/
structure Supervises (course : Course) (round : Nat) : Prop where
  listens : ∃ deadline, .run 0 (.listening round deadline) ∈ course.tasks
  current : ∃ supervisor, course.site.supervisor? 0 = some supervisor ∧
    supervisor.current = some round

/-- A round that can be evaluated: it has exited, or it is withdrawn as soon as it is
opened, since a stop was asked for. -/
def IsOver (course : Course) (round : Nat) : Prop :=
  Supervises course round ∧ (course.site.job round).exitFlag = true ∨
    course.site.charter? round = none

/-- A round that no run listens to any more. -/
structure IsPast (course : Course) (round : Nat) : Prop where
  known : course.site.charter? round ≠ none
  unheard : ∀ deadline, .run 0 (.listening round deadline) ∉ course.tasks

/-- One new round was launched. -/
structure Launches (chronicle next : Chronicle) (fresh : Nat) : Prop where
  absent : chronicle.course.site.charter? fresh = none
  launched : next.course.site.HasLaunched fresh
  others : ∀ round, next.course.site.HasLaunched round →
    round = fresh ∨ chronicle.course.site.HasLaunched round

/-- A restart was scheduled, and one round was launched that nobody has found yet. -/
structure Renews (chronicle next : Chronicle) (fresh : Nat) : Prop where
  launches : Launches chronicle next fresh
  supervised : Supervises next.course fresh
  scheduled : ∃ code, next.course.site.events = (0, .restartScheduled) ::
    (0, .applicationExited code) :: chronicle.course.site.events
  unfound : ¬ next.Found fresh ∧ (next.course.site.job fresh).restartMark = false

/-- The run returns; no round was launched and no restart was scheduled. -/
structure Ends (chronicle next : Chronicle) : Prop where
  returns : next.course.Returns
  launched : ∀ round, next.course.site.HasLaunched round →
    chronicle.course.site.HasLaunched round
  events : chronicle.course.site.Tells (· ≠ .restartScheduled) next.course.site

/-- A run launches its first round, since nobody asked for a stop. -/
structure Commences (chronicle : Chronicle) (happening : Happening) (next : Chronicle)
    (first : Nat) : Prop where
  called : ∃ position, happening = .occurs (.turns position) ∧
    chronicle.course.tasks[position]? = some (.run 0 .called)
  unstopped : ¬ chronicle.course.WasStopped
  launches : Launches chronicle next first
  events : next.course.site.events = chronicle.course.site.events

theorem IsPast.not_over (past : IsPast course round) : ¬ IsOver course round := by
  intro isOver
  rcases isOver with ⟨supervised, _⟩ | absent
  · obtain ⟨deadline, listens⟩ := supervised.listens
    exact past.unheard deadline listens
  · exact past.known absent

/-! ## What is recorded -/

/-- A request to restart marks the round that it finds. -/
theorem marked_of_asked (sound : course.Sound settings)
    (steps : course.step? occurrence = some after) {one : Asked}
    (member : one ∈ after.asked) (restart : one.demand = .restart)
    (found : one.round = some round) :
    one ∈ course.asked ∨ after.site.IsMarked round := by
  obtain ⟨supervisor, holds, _⟩ := sound.supervised
  have current : ∀ demand, one = course.ask demand → supervisor.current = some round := by
    intro demand is
    rw [is] at found
    unfold Course.ask at found
    rw [holds.held] at found
    exact found
  cases Course.step_of_step? steps with
  | runs | overtakes _ _ _ | abandons _ | acts _ | passes _ => exact .inl member
  | restarts =>
      rcases List.mem_append.mp member with old | new
      · exact .inl old
      · exact .inr (Site.isMarked_requestRestart holds
          (current _ (List.mem_singleton.mp new)))
  | stops | kills =>
      rcases List.mem_append.mp member with old | new
      · exact .inl old
      · rw [List.mem_singleton.mp new] at restart
        cases restart
  | signals =>
      rcases List.mem_append.mp member with old | new
      · exact .inl old
      · split at new
        · rw [List.mem_singleton.mp new] at restart
          cases restart
        · cases new
  | @turns position task taken =>
      rcases List.mem_append.mp member with old | new
      · exact .inl old
      · obtain ⟨demand, demanded, is⟩ := List.mem_map.mp new
        cases task with
        | execute index command =>
            have first : index = 0 := sound.serves _ (List.mem_of_getElem? taken)
            subst first
            cases command with
            | stop =>
                rw [← is, List.mem_singleton.mp demanded] at restart
                cases restart
            | restart =>
                exact .inr (Site.isMarked_requestRestart holds (current _ is.symm))
        | enter _ | guard _ _ | attend _ _ | stop _ _ _ | run _ _ => cases demanded

theorem stopped_of_grows (stopped : course.WasStopped)
    (asked : course.asked ⊆ after.asked) : after.WasStopped := by
  obtain ⟨one, member, demand⟩ := stopped
  exact ⟨one, asked member, demand⟩

/-- Whoever finds a round leaves it marked. -/
theorem marked_of_found (sound : chronicle.Sound settings)
    (recorded : chronicle.IsRecorded) (steps : chronicle.step? happening = some next)
    (found : next.Found round) : next.course.site.IsMarked round := by
  have records := records_of_moves sound.course (moves_of_step sound steps)
  have old : chronicle.Found round → next.course.site.IsMarked round :=
    fun found => records.keepsMark round ((recorded.marked round).mpr found)
  cases step_of_step? sound steps with
  | @occurs occurrence _ occurs =>
      rcases found with ⟨one, member, restart, finds⟩ | handled
      · rcases marked_of_asked sound.course occurs member restart finds with asked | now
        · exact old (.inl ⟨one, asked, restart, finds⟩)
        · exact now
      · have same := (grows_records chronicle occurrence).1
        exact old (.inr (same ▸ handled))
  | marks attended =>
      rcases found with asked | handled
      · exact old (.inl asked)
      · rcases List.mem_append.mp handled with before | now
        · exact old (.inr before)
        · rw [List.mem_singleton.mp now]
          exact Site.isMarked_markForRestart (Site.charter?_of_application attended)
  | aborts _ | starts _ | stops _ _ | fails _ _ _ => exact old found

theorem stopping_of_stopped (sound : chronicle.Sound settings)
    (recorded : chronicle.IsRecorded) (steps : chronicle.step? happening = some next)
    (stopped : next.course.WasStopped) : next.course.site.IsStopping 0 := by
  have records := records_of_moves sound.course (moves_of_step sound steps)
  have old : chronicle.course.WasStopped → next.course.site.IsStopping 0 :=
    fun stopped => records.keepsStopping (recorded.stopped.mpr stopped)
  cases step_of_step? sound steps with
  | occurs occurs => exact sound.course.heeds_step recorded.stopped.mpr occurs stopped
  | marks _ | aborts _ | starts _ | stops _ _ | fails _ _ _ => exact old stopped

theorem recorded_step (sound : chronicle.Sound settings)
    (recorded : chronicle.IsRecorded) (steps : chronicle.step? happening = some next) :
    next.IsRecorded := by
  have records := records_of_moves sound.course (moves_of_step sound steps)
  have grows := grows_step sound steps
  constructor
  · refine ⟨?_, stopping_of_stopped sound recorded steps⟩
    intro stopping
    rcases records.stops stopping with before | now
    · exact stopped_of_grows (recorded.stopped.mp before) grows.asked
    · exact now
  · intro round
    refine ⟨?_, marked_of_found sound recorded steps⟩
    intro marks
    rcases records.marks round marks with before | now
    · exact ((recorded.marked round).mp before).grows grows
    · exact now

theorem recorded_fresh (host : Host) (settings : Settings)
    (inherited : List (String × List UInt8)) :
    (fresh host (Supervisor.fresh settings inherited)).IsRecorded := by
  constructor
  · constructor
    · intro stopping
      obtain ⟨supervisor, held, requested⟩ := stopping
      cases held
      cases requested
    · intro stopped
      obtain ⟨one, member, _⟩ := stopped
      cases member
  · intro round
    constructor
    · intro marked
      obtain ⟨⟨graces, held⟩, _⟩ := marked
      cases held
    · intro found
      rcases found with ⟨one, member, _⟩ | handled
      · cases member
      · cases handled

/-! ## Evaluations -/

theorem aside_not_evaluates (tells : course.site.Tells Event.IsAside after.site) :
    ¬ Course.Evaluates course after :=
  Course.not_evaluates (tells.mono fun _ aside => aside.1)

theorem returns_of_step {step : RunStep} (returns : step.Returns 0)
    (site : after.site = step.site)
    (waits : after.tasks.filter Activity.isRun = (step.waits.map (.run 0)).toList) :
    after.Returns := by
  obtain ⟨code, ⟨gate, call, closing⟩ | ⟨finished, results⟩⟩ := returns
  · rw [closing] at waits
    exact ⟨code, .inl ⟨gate, call, waits⟩⟩
  · rw [finished] at waits
    rw [← site] at results
    exact ⟨code, .inr ⟨waits, results⟩⟩

theorem unfound_of_launches {fresh : Nat} (recorded : next.IsRecorded)
    (launches : Launches chronicle next fresh)
    (records : Site.Records 0 False (fun _ => False) chronicle.course.site
      next.course.site) :
    ¬ next.Found fresh ∧ (next.course.site.job fresh).restartMark = false := by
  have unmarked : ¬ next.course.site.IsMarked fresh := by
    intro marked
    obtain ⟨⟨graces, held⟩, _⟩ := (records.marks fresh marked).resolve_right id
    rw [launches.absent] at held
    cases held
  refine ⟨fun found => unmarked ((recorded.marked fresh).mpr found), ?_⟩
  cases mark : (next.course.site.job fresh).restartMark with
  | false => rfl
  | true => exact absurd ⟨launches.launched.1, mark⟩ unmarked

theorem launches_of_step {step : RunStep} {fresh : Nat}
    (launches : Site.Launches 0 chronicle.course.site step fresh)
    (site : next.course.site = step.site) : Launches chronicle next fresh := by
  refine ⟨launches.absent, ?_, ?_⟩
  · rw [site]
    exact launches.launched
  · rw [site]
    exact launches.others

/-- A round that is settled and evaluated is renewed, or the run returns. -/
theorem renews_or_ends {renewed : Prop} {step : RunStep}
    (settles : Site.Settles 0 chronicle.course.site renewed step)
    (recorded : next.IsRecorded)
    (records : Site.Records 0 False (fun _ => False) chronicle.course.site
      next.course.site)
    (site : next.course.site = step.site)
    (waits : next.course.tasks.filter Activity.isRun =
      (step.waits.map (.run 0)).toList)
    (evaluates : Course.Evaluates chronicle.course next.course) :
    renewed ∧ (∃ fresh, Renews chronicle next fresh) ∨
      ¬ renewed ∧ Ends chronicle next := by
  cases settles with
  | renews fresh code again launches events =>
      have opens := launches_of_step launches site
      obtain ⟨deadline, listens⟩ := launches.waits
      refine .inl ⟨again, fresh, opens, ⟨⟨deadline, ?_⟩, ?_⟩, ⟨code, ?_⟩,
        unfound_of_launches recorded opens records⟩
      · exact (run_mem_iff waits rfl).mpr ⟨_, listens, rfl⟩
      · rw [site]
        exact launches.current
      · rw [site]
        exact events
  | concludes code settled retires returns events =>
      refine .inr ⟨settled, returns_of_step returns site waits, ?_, ?_⟩
      · intro round launched
        rw [site] at launched
        exact retires.quiet.launched round launched
      · obtain ⟨newer, posted, aside⟩ := events
        refine ⟨newer ++ [(0, .applicationExited code)], ?_, ?_⟩
        · rw [site, posted, List.append_assoc]
          rfl
        · intro entry member
          rcases List.mem_append.mp member with told | exited
          · exact (aside entry told).2
          · rw [List.mem_singleton.mp exited]
            exact Event.noConfusion
  | crashes retires events =>
      rw [← site] at events
      exact absurd evaluates (aside_not_evaluates events)

/-- A run that listens to no such round any more never listens to it again. -/
theorem past_step (sound : chronicle.Sound settings)
    (past : IsPast chronicle.course round)
    (steps : chronicle.step? happening = some next) : IsPast next.course round := by
  have remains := remains_step sound steps
  constructor
  · obtain ⟨charter, held⟩ := Option.ne_none_iff_exists'.mp past.known
    rw [remains.charter held]
    exact Option.some_ne_none _
  · intro deadline listens
    cases runs_of_moves sound.course (moves_of_step sound steps) with
    | stays defers same => exact past.unheard deadline ((same _ rfl).mp listens)
    | calls idle site called => cases (called _ rfl).mp listens
    | goesOn taken holds stands advances _ site waits =>
        have member := List.mem_of_getElem? taken
        have leads := advances.leads holds stands
          (sound.placed.expects _ holds.held _ member)
        obtain ⟨_, standing, is⟩ := (run_mem_iff waits rfl).mp listens
        cases is
        rcases leads.listens_or standing with ⟨before, same⟩ | absent
        · rw [same] at member
          exact past.unheard before member
        · exact past.known absent

theorem past_run {happenings : List Happening} (sound : chronicle.Sound settings)
    (past : IsPast chronicle.course round)
    (runs : chronicle.run? happenings = some final) : IsPast final.course round :=
  keeps_run (fun chronicle => IsPast chronicle.course round) sound past past_step runs

theorem past_of_settles {renewed : Prop} {step : RunStep}
    (settles : Site.Settles 0 course.site renewed step)
    (known : after.site.charter? round ≠ none)
    (waits : after.tasks.filter Activity.isRun = (step.waits.map (.run 0)).toList)
    (apart : renewed → course.site.charter? round ≠ none) : IsPast after round := by
  refine ⟨known, ?_⟩
  intro deadline listens
  obtain ⟨_, standing, is⟩ := (run_mem_iff waits rfl).mp listens
  cases is
  cases settles with
  | renews fresh _ again launches _ =>
      have same := launches.listens standing
      apply apart again
      rw [same]
      exact launches.absent
  | concludes _ _ retires _ _ | crashes retires _ =>
      exact Site.not_listens_of_retires retires standing

/-- A round is to be renewed if it was found and nobody asked for a stop. -/
theorem renewed_iff {supervisor : Supervisor} (recorded : chronicle.IsRecorded)
    (holds : chronicle.course.site.Holds 0 supervisor)
    (current : supervisor.current = some round) :
    chronicle.course.site.IsRenewed supervisor round ↔
      chronicle.Found round ∧ ¬ chronicle.course.WasStopped := by
  have stopped : chronicle.course.WasStopped ↔ supervisor.stopRequested = true := by
    rw [← recorded.stopped]
    constructor
    · intro stopping
      obtain ⟨other, held, requested⟩ := stopping
      cases holds.held.symm.trans held
      exact requested
    · exact fun requested => ⟨supervisor, holds.held, requested⟩
  have marked : chronicle.Found round ↔
      (chronicle.course.site.job round).restartMark = true := by
    rw [← recorded.marked round]
    exact ⟨And.right, fun mark => ⟨holds.owns.rounds round current, mark⟩⟩
  unfold Site.IsRenewed
  rw [stopped, marked, Bool.not_eq_true]

/-- The round that an evaluation evaluates, and what follows. -/
theorem evaluates_step (sound : chronicle.Sound settings)
    (recorded : chronicle.IsRecorded) (steps : chronicle.step? happening = some next)
    (evaluates : Course.Evaluates chronicle.course next.course) :
    ∃ round, IsOver chronicle.course round ∧
      ((chronicle.Found round ∧ ¬ chronicle.course.WasStopped) ∧
          (∃ fresh, Renews chronicle next fresh) ∨
        ¬ (chronicle.Found round ∧ ¬ chronicle.course.WasStopped) ∧
          Ends chronicle next) ∧
      IsPast next.course round := by
  have next_recorded := recorded_step sound recorded steps
  have remains := remains_step sound steps
  cases runs_of_moves sound.course (moves_of_step sound steps) with
  | stays defers same => exact absurd evaluates (aside_not_evaluates defers.calm.events)
  | calls idle site called =>
      exact absurd evaluates (aside_not_evaluates (Site.tells_of_eq _ (by rw [site])))
  | @goesOn _ position stage supervisor step taken holds stands advances _ site waits =>
      have member := List.mem_of_getElem? taken
      have expects := sound.placed.expects supervisor holds.held stage member
      have leads := advances.leads holds stands expects
      have records : Site.Records 0 False (fun _ => False) chronicle.course.site
          next.course.site := by
        rw [site]
        exact Site.records_of_deeds (advances.proceeds holds stands).deeds
      cases leads with
      | listens _ _ calm _ =>
          rw [← site] at calm
          exact absurd evaluates (aside_not_evaluates calm.events)
      | begins _ _ _ events =>
          rw [← site] at events
          exact absurd evaluates (aside_not_evaluates (Site.tells_of_eq _ events))
      | retires _ _ events =>
          rw [← site] at events
          exact absurd evaluates (aside_not_evaluates events)
      | @settles round deadline _ exited settles =>
          obtain ⟨graces, held⟩ := holds.owns.rounds round expects
          have known : next.course.site.charter? round ≠ none := by
            rw [remains.charter held]
            exact Option.some_ne_none _
          refine ⟨round, .inl ⟨⟨⟨deadline, member⟩, supervisor, holds.held, expects⟩,
            exited⟩, ?_, past_of_settles settles known waits ?_⟩
          · rw [← renewed_iff recorded holds expects]
            exact renews_or_ends settles next_recorded records site waits evaluates
          · intro _
            rw [held]
            exact Option.some_ne_none _
      | withdraws round stopRequested absent opened settles =>
          have stopped : chronicle.course.WasStopped :=
            recorded.stopped.mp ⟨supervisor, holds.held, stopRequested⟩
          rw [← site] at opened
          refine ⟨round, .inr absent, .inr ⟨fun wanted => wanted.2 stopped, ?_⟩,
            past_of_settles settles opened waits False.elim⟩
          rcases renews_or_ends settles next_recorded records site waits evaluates with
            ⟨never, _⟩ | ⟨_, ends⟩
          · exact never.elim
          · exact ends

/-- A round that is settled and not evaluated is the last one: its run crashes. -/
theorem calm_of_settles {renewed : Prop} {step : RunStep}
    (settles : Site.Settles 0 course.site renewed step) (site : after.site = step.site)
    (unevaluated : ¬ Course.Evaluates course after) :
    Site.Calm course.site after.site := by
  cases settles with
  | crashes retires events =>
      rw [site]
      exact ⟨retires.quiet, events⟩
  | renews _ code _ _ events =>
      refine absurd ?_ unevaluated
      refine ⟨[(0, .restartScheduled), (0, .applicationExited code)], code, 0, ?_, by simp⟩
      rw [site]
      exact events
  | concludes code _ _ _ events =>
      obtain ⟨newer, posted, _⟩ := events
      refine absurd ?_ unevaluated
      refine ⟨newer ++ [(0, .applicationExited code)], code, 0, ?_, by simp⟩
      rw [site, posted, List.append_assoc]
      rfl

/-- Between the evaluations no round is launched and no restart is scheduled, but for the
first round of a run. -/
theorem calm_or_commences (sound : chronicle.Sound settings)
    (recorded : chronicle.IsRecorded) (steps : chronicle.step? happening = some next)
    (unevaluated : ¬ Course.Evaluates chronicle.course next.course) :
    Site.Calm chronicle.course.site next.course.site ∨
      ∃ first, Commences chronicle happening next first := by
  cases runs_of_moves sound.course (moves_of_step sound steps) with
  | stays defers same => exact .inl defers.calm
  | calls idle site called =>
      rw [site]
      exact .inl (.refl _)
  | @goesOn _ position _ _ _ taken holds stands advances happens site waits =>
      have leads := advances.leads holds stands
        (sound.placed.expects _ holds.held _ (List.mem_of_getElem? taken))
      cases leads with
      | listens _ _ calm _ =>
          rw [site]
          exact .inl calm
      | begins round wanted launches events =>
          have turned := happens.resolve_right fun overtakes => overtakes.1 rfl
          refine .inr ⟨round, ⟨position, turned, taken⟩, ?_,
            launches_of_step launches site, ?_⟩
          · intro stopped
            obtain ⟨other, held, requested⟩ := recorded.stopped.mpr stopped
            cases holds.held.symm.trans held
            rw [wanted] at requested
            cases requested
          · rw [site]
            exact events
      | withdraws _ _ _ _ settles => exact .inl (calm_of_settles settles site unevaluated)
      | retires _ retires events =>
          rw [site]
          exact .inl ⟨retires.quiet, events⟩
      | settles _ settles => exact .inl (calm_of_settles settles site unevaluated)

/-- Whenever a round is evaluated, another one is launched in its place exactly if it was
found and nobody asked for a stop, and the round is evaluated no more.  Rounds are launched
in no other way, but for the first one of a run. -/
theorem restarts_once {host : Host} {settings : Settings}
    {inherited : List (String × List UInt8)} {happenings : List Happening}
    (reaches : (fresh host (Supervisor.fresh settings inherited)).run? happenings =
      some chronicle)
    (steps : chronicle.step? happening = some next) :
    (Course.Evaluates chronicle.course next.course →
      ∃ round, IsOver chronicle.course round ∧
        ((chronicle.Found round ∧ ¬ chronicle.course.WasStopped) ∧
            (∃ fresh, Renews chronicle next fresh) ∨
          ¬ (chronicle.Found round ∧ ¬ chronicle.course.WasStopped) ∧
            Ends chronicle next) ∧
        ∀ later final, next.run? later = some final → ¬ IsOver final.course round) ∧
    (¬ Course.Evaluates chronicle.course next.course →
      Site.Calm chronicle.course.site next.course.site ∨
        ∃ first, Commences chronicle happening next first) := by
  have begun := sound_fresh host settings inherited
  have sound := sound_run begun reaches
  have recorded := keeps_run IsRecorded begun (recorded_fresh host settings inherited)
    recorded_step reaches
  refine ⟨?_, calm_or_commences sound recorded steps⟩
  intro evaluates
  obtain ⟨round, isOver, follows, past⟩ :=
    evaluates_step sound recorded steps evaluates
  refine ⟨round, isOver, follows, ?_⟩
  intro later final runs
  exact (past_run (sound_step sound steps) past runs).not_over

/-- A round is marked and asked to restart twice while it runs; its program ends by the
interrupt, and one round is launched in its place. -/
theorem restarts_once_of_three_wishes :
    ∃ chronicle next : Chronicle,
      (fresh (Course.plainHost []) (Supervisor.fresh
          (Course.plainSettings (Duration.ofSeconds 10) (Duration.ofSeconds 5)) [])).run?
        [.occurs .runs, .occurs (.turns 0), .occurs (.turns 2), .marks 1,
          .occurs Course.reacts, .occurs .restarts, .occurs .restarts,
          .occurs Course.reacts, .occurs (.turns 2)] = some chronicle ∧
      chronicle.course.asked = [⟨0, .restart, some 1⟩, ⟨0, .restart, some 1⟩] ∧
      chronicle.step? (.occurs (.turns 0)) = some next ∧
      Course.Evaluates chronicle.course next.course ∧
      ∃ round fresh, IsOver chronicle.course round ∧ chronicle.Found round ∧
        Renews chronicle next fresh := by
  let happenings : List Happening :=
    [.occurs .runs, .occurs (.turns 0), .occurs (.turns 2), .marks 1,
      .occurs Course.reacts, .occurs .restarts, .occurs .restarts,
      .occurs Course.reacts, .occurs (.turns 2)]
  let start := fresh (Course.plainHost []) (Supervisor.fresh
    (Course.plainSettings (Duration.ofSeconds 10) (Duration.ofSeconds 5)) [])
  have ran : (start.run? happenings).map
      (fun chronicle => (chronicle.course.asked, chronicle.course.site.events)) =
        some ([⟨0, .restart, some 1⟩, ⟨0, .restart, some 1⟩],
          [(0, .applicationStarted (Host.numberOf 0))]) := by
    decide +kernel
  obtain ⟨chronicle, reaches, both⟩ := Option.map_eq_some_iff.mp ran
  obtain ⟨asked, earlier⟩ := Prod.mk.inj both
  have stepped : ((start.run? happenings).bind
      (·.step? (.occurs (.turns 0)))).map (·.course.site.events) =
        some [(0, .restartScheduled), (0, .applicationExited (some 130)),
          (0, .applicationStarted (Host.numberOf 0))] := by
    decide +kernel
  rw [reaches, Option.bind_some] at stepped
  obtain ⟨next, steps, later⟩ := Option.map_eq_some_iff.mp stepped
  have told : next.course.site.events =
      [(0, .restartScheduled), (0, .applicationExited (some 130))] ++
        chronicle.course.site.events := by
    rw [later, earlier]
    rfl
  have evaluates : Course.Evaluates chronicle.course next.course :=
    ⟨_, some 130, 0, told, by simp⟩
  refine ⟨chronicle, next, reaches, asked, steps, evaluates, ?_⟩
  obtain ⟨round, isOver, follows, _⟩ := (restarts_once reaches steps).1 evaluates
  rcases follows with ⟨⟨found, _⟩, fresh, renews⟩ | ⟨_, ends⟩
  · exact ⟨round, fresh, isOver, found, renews⟩
  · -- The run does not return, for it schedules a restart.
    obtain ⟨newer, posted, other⟩ := ends.events
    rw [List.append_cancel_right (posted.symm.trans told)] at other
    exact absurd rfl (other (0, .restartScheduled) (by simp))

end Chronicle

end Overseer
