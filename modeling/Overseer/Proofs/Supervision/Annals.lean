import Overseer.Proofs.Supervision.Writing

/-!
# Annals of a run

Annals are a chronicle with the commands that the gates of its supervisor have queued.

`Goes` is the one place where the happenings of annals are taken apart: the run stays where
it waits, it is called, or it goes on.
-/

namespace Overseer

namespace Course

variable {settings : Settings} {course after : Course} {position : Nat}
  {waits later : Option RunStage}

/-- Where the run waits; nowhere if no run is under way. -/
def IsAt (course : Course) (waits : Option RunStage) : Prop :=
  ∀ stage, .run 0 stage ∈ course.tasks ↔ waits = some stage

theorem IsAt.unique (first : course.IsAt waits) (second : course.IsAt later) :
    waits = later :=
  Option.ext fun stage => (first stage).symm.trans (second stage)

theorem isAt_of_filter
    (runs : course.tasks.filter Activity.isRun = (waits.map (.run 0)).toList) :
    course.IsAt waits := by
  intro stage
  rw [Chronicle.run_mem_iff runs rfl]
  constructor
  · intro found
    obtain ⟨later, stands, same⟩ := found
    cases same
    exact stands
  · exact fun stands => ⟨stage, stands, rfl⟩

theorem isAt_of_mem (sound : Sound settings course) {stage : RunStage}
    (member : .run 0 stage ∈ course.tasks) : course.IsAt (some stage) := by
  intro other
  constructor
  · exact fun also => congrArg some (Chronicle.run_unique sound member also)
  · intro same
    cases same
    exact member

theorem isAt_of_idle (idle : ∀ task ∈ course.tasks, task.isRun = false) :
    course.IsAt none := by
  refine fun stage => ⟨fun member => ?_, fun same => nomatch same⟩
  cases idle _ member

end Course

namespace Chronicle

variable {settings : Settings} {chronicle next : Chronicle} {happening : Happening}
  {after : Course} {position : Nat} {stage : RunStage} {supervisor : Supervisor}
  {step : RunStep}

/-! ## What happens beside the run -/

/-- A call of the run, or a step of it. -/
def IsOfRun (chronicle : Chronicle) : Happening → Prop
  | .occurs .runs | .occurs (.overtakes _) => True
  | .occurs (.turns position) =>
      ∃ index stage, chronicle.course.tasks[position]? = some (.run index stage)
  | _ => False

/-- What happens beside the run leaves it where it waits. -/
theorem stays_of_step (sound : chronicle.Sound settings)
    (steps : chronicle.step? happening = some next) (beside : ¬ chronicle.IsOfRun happening)
    (stage : RunStage) :
    .run 0 stage ∈ next.course.tasks ↔ .run 0 stage ∈ chronicle.course.tasks := by
  cases runs_of_moves sound.course (moves_of_step sound steps) with
  | stays defers same => exact same _ rfl
  | calls => exact absurd trivial beside
  | goesOn taken holds stands advances happens site waits =>
      rcases happens with turned | ⟨_, overtakes⟩
      · subst turned
        exact absurd ⟨0, _, taken⟩ beside
      · subst overtakes
        exact absurd trivial beside

/-- A child that is spawned when the body of its round is entered. -/
structure Enters (chronicle next : Chronicle) (offspring : Offspring) : Prop where
  attended : ∃ graces,
    chronicle.course.site.charter? offspring.round = some (some graces)
  waits : .enter offspring.round ∈ chronicle.course.tasks
  entered : .enter offspring.round ∉ next.course.tasks

/-- What happens beside the run: these children are spawned, and nothing is taken from a
queue. -/
structure Lasts (births : List Offspring) (chronicle next : Chronicle) : Prop where
  written : Site.Extends (births.map Offspring.birth)
    (chronicle.course.site.gains next.course.site) chronicle.course.site next.course.site
  spawned : next.spawned = chronicle.spawned ++ births
  enters : ∀ offspring ∈ births, Enters chronicle next offspring
  few : (births.map Offspring.round).Nodup

theorem lasts_of_leaves (leaves : Site.Leaves chronicle.course.site next.course.site)
    (spawned : next.spawned = chronicle.spawned) :
    Lasts [] chronicle next :=
  ⟨leaves.gains_eq ▸ leaves, spawned.trans (List.append_nil _).symm,
    fun _ member => absurd member List.not_mem_nil, List.nodup_nil⟩

theorem enter_of_spawned? {site : Site} {task : Activity} {offspring : Offspring}
    (spawns : site.spawned? task = some offspring) : task = .enter offspring.round ∧
      ∃ graces, site.charter? offspring.round = some (some graces) := by
  cases task with
  | enter post =>
      obtain ⟨spawned, spawning, is⟩ := Option.map_eq_some_iff.mp spawns
      rw [← is]
      exact ⟨rfl, charter?_of_spawn spawning⟩
  | guard _ _ | attend _ _ | stop _ _ _ | execute _ _ | run _ _ => cases spawns

theorem leaves_turn {site : Site} {task : Activity} (holds : site.Holds 0 supervisor)
    (serves : site.Serves task) (own : task.body? = none) (other : task.isRun = false) :
    Site.Leaves site (site.turn task).world := by
  have turned := Site.turned_of_turn holds serves own
  generalize (site.turn task).world = after at turned ⊢
  cases turned with
  | stop post call counted openStops =>
      exact (Site.leaves_resumeStop site post call).trans (Site.leaves_of_posts rfl rfl rfl)
  | stops => exact Site.leaves_requestStop holds.held
  | restarts => exact Site.leaves_requestRestart site
  | run stage _ => cases other

theorem extends_of_leaves {site : Site} {task : Activity} (own : task.body? = none)
    (leaves : Site.Leaves site (site.turn task).world) :
    Site.Extends ((site.spawned? task).toList.map Offspring.birth)
      (site.gains (site.turn task).world) site (site.turn task).world := by
  have none : site.spawned? task = none := by
    cases task with
    | enter _ => cases own
    | guard _ _ | attend _ _ | stop _ _ _ | execute _ _ | run _ _ => rfl
  rw [none, leaves.gains_eq]
  exact leaves

theorem not_enter_of_turn (sound : chronicle.Sound settings) {post : Nat}
    (taken : chronicle.course.tasks[position]? = some (.enter post)) :
    .enter post ∉ (chronicle.course.turn position (.enter post)).tasks := by
  have works : Site.WorksOn post (fun _ => True) (fun _ => True) chronicle.course.site
      (chronicle.course.site.turn (.enter post)) := Site.worksOn_turn _ rfl
  intro member
  rcases List.mem_append.mp member with stays | fresh
  · exact sound.course.apart taken rfl stays rfl
  rcases List.mem_append.mp fresh with rest | begun
  · rcases works.rest _ (Option.mem_toList.mp rest) with ⟨_, is⟩ | ⟨_, is, _⟩
    · cases is
    · cases is
  · rw [works.begun] at begun
    cases begun

theorem lasts_turn (sound : chronicle.Sound settings) {task : Activity}
    (taken : chronicle.course.tasks[position]? = some task) (other : task.isRun = false) :
    Lasts (chronicle.course.site.spawned? task).toList chronicle
      { chronicle.turn task with course := chronicle.course.turn position task } := by
  have member := List.mem_of_getElem? taken
  refine ⟨?_, rfl, ?_, ?_⟩
  · show Site.Extends _ _ chronicle.course.site (chronicle.course.site.turn task).world
    cases own : task.body? with
    | some post => exact Site.extends_turn own
    | none =>
        obtain ⟨supervisor, holds, _⟩ := sound.course.supervised
        have serves := sound.course.serves task member
        exact extends_of_leaves own (leaves_turn holds serves own other)
  · intro offspring born
    obtain ⟨is, attended⟩ := enter_of_spawned? (Option.mem_toList.mp born)
    subst is
    exact ⟨attended, member, not_enter_of_turn sound taken⟩
  · cases chronicle.course.site.spawned? task with
    | none => exact List.nodup_nil
    | some offspring => exact List.nodup_singleton _

/-- What is no turn of a task spawns and queues nothing. -/
theorem lasts_of_other (sound : chronicle.Sound settings)
    (steps : chronicle.step? happening = some next) (beside : ¬ chronicle.IsOfRun happening)
    (turned : ∀ position, happening ≠ .occurs (.turns position)) :
    Lasts [] chronicle next := by
  obtain ⟨supervisor, holds, _⟩ := sound.course.supervised
  cases step_of_step? sound steps with
  | marks _ => exact lasts_of_leaves (Site.leaves_setJob id) rfl
  | stops round timeout => exact lasts_of_leaves (Site.leaves_beginStop _ round timeout) rfl
  | aborts round => exact lasts_of_leaves (Site.leaves_setJob (Job.endures_abort _).exited) rfl
  | starts round => exact lasts_of_leaves (Site.leaves_report _ _) rfl
  | fails taken attended fault =>
      exact lasts_of_leaves (Site.leaves_failApplication attended _ fault) rfl
  | occurs occurs =>
      cases Course.step_of_step? occurs with
      | turns _ => exact absurd rfl (turned _)
      | overtakes _ _ _ => exact absurd trivial beside
      | runs _ | abandons _ _ | acts _ | passes _ =>
          exact lasts_of_leaves (Site.leaves_of_posts rfl rfl rfl) rfl
      | stops => exact lasts_of_leaves (Site.leaves_requestStop holds.held) rfl
      | restarts => exact lasts_of_leaves (Site.leaves_requestRestart _) rfl
      | kills => exact lasts_of_leaves (Site.leaves_requestKill holds.held) rfl
      | signals => exact lasts_of_leaves (Site.leaves_takeSignal holds.held) rfl

theorem lasts_of_step (sound : chronicle.Sound settings)
    (steps : chronicle.step? happening = some next) (beside : ¬ chronicle.IsOfRun happening) :
    ∃ births, Lasts births chronicle next := by
  by_cases turned : ∃ position, happening = .occurs (.turns position)
  · obtain ⟨position, turned⟩ := turned
    subst turned
    cases taken : chronicle.course.tasks[position]? with
    | none =>
        obtain ⟨_, occurs, _⟩ := Option.map_eq_some_iff.mp steps
        obtain ⟨_, also, _⟩ := Option.map_eq_some_iff.mp occurs
        cases taken.symm.trans also
    | some task =>
        have other : task.isRun = false := by
          cases task with
          | run index stage => exact absurd ⟨index, stage, taken⟩ beside
          | enter _ | guard _ _ | attend _ _ | stop _ _ _ | execute _ _ => rfl
        rw [turn_of_step? taken steps]
        exact ⟨_, lasts_turn sound taken other⟩
  · exact ⟨[], lasts_of_other sound steps beside fun position same => turned ⟨position, same⟩⟩

/-! ## The children -/

/-- The children of a chronicle are of different rounds, which are known and were
entered. -/
structure Bears (chronicle : Chronicle) : Prop where
  known : ∀ offspring ∈ chronicle.spawned,
    chronicle.course.site.charter? offspring.round ≠ none
  entered : ∀ offspring ∈ chronicle.spawned, .enter offspring.round ∉ chronicle.course.tasks
  distinct : (chronicle.spawned.map Offspring.round).Nodup

/-- A body that was not entered yet waited before, or was begun by the run. -/
theorem enter_of_proceed {course : Course} {post : Nat}
    (proceeds : Site.Proceeds 0 course.site step)
    (member : .enter post ∈ (course.proceed position step).tasks) :
    .enter post ∈ course.tasks ∨ course.site.charter? post = none := by
  rcases List.mem_append.mp member with stays | fresh
  · exact .inl (List.mem_of_mem_eraseIdx stays)
  rcases List.mem_append.mp fresh with waits | begun
  · obtain ⟨_, _, is⟩ := Option.map_eq_some_iff.mp (Option.mem_toList.mp waits)
    cases is
  · cases proceeds.begun _ begun with
    | enter _ absent _ => exact .inr absent

theorem enter_of_step (sound : chronicle.Sound settings)
    (steps : chronicle.step? happening = some next) {post : Nat}
    (member : .enter post ∈ next.course.tasks) :
    .enter post ∈ chronicle.course.tasks ∨ chronicle.course.site.charter? post = none := by
  cases moves_of_step sound steps with
  | beside defers tasks => exact .inl ((tasks _ (.inl (by simp [Activity.body?]))).mp member)
  | works taken own works site tasks =>
      rw [tasks] at member
      rcases List.mem_append.mp member with stays | rest
      · exact .inl (List.mem_of_mem_eraseIdx stays)
      · rcases works.rest _ (Option.mem_toList.mp rest) with ⟨_, is⟩ | ⟨_, is, _⟩
        · cases is
        · cases is
  | calls idle site tasks =>
      rw [tasks] at member
      rcases List.mem_append.mp member with stays | called
      · exact .inl stays
      · cases List.mem_singleton.mp called
  | runs taken holds stands advances _ proceed =>
      rw [proceed] at member
      exact enter_of_proceed (advances.proceeds holds stands) member

theorem Bears.grow {births : List Offspring} (bears : chronicle.Bears)
    (remains : chronicle.course.site.Remains next.course.site)
    (old : ∀ post, .enter post ∈ next.course.tasks →
      .enter post ∈ chronicle.course.tasks ∨ chronicle.course.site.charter? post = none)
    (spawned : next.spawned = chronicle.spawned ++ births)
    (enters : ∀ offspring ∈ births, Enters chronicle next offspring)
    (few : (births.map Offspring.round).Nodup) : next.Bears := by
  have still : ∀ post, chronicle.course.site.charter? post ≠ none →
      next.course.site.charter? post ≠ none := by
    intro post known
    obtain ⟨charter, held⟩ := Option.ne_none_iff_exists'.mp known
    rw [remains.charter held]
    exact Option.some_ne_none _
  constructor
  · intro offspring member
    apply still
    rw [spawned] at member
    rcases List.mem_append.mp member with earlier | born
    · exact bears.known offspring earlier
    · obtain ⟨graces, held⟩ := (enters offspring born).attended
      rw [held]
      exact Option.some_ne_none _
  · intro offspring member entering
    rw [spawned] at member
    rcases List.mem_append.mp member with earlier | born
    · rcases old _ entering with was | absent
      · exact bears.entered offspring earlier was
      · exact bears.known offspring earlier absent
    · exact (enters offspring born).entered entering
  · rw [spawned, List.map_append]
    apply List.Nodup.append bears.distinct few
    intro round earlier born
    obtain ⟨first, was, is⟩ := List.mem_map.mp earlier
    obtain ⟨second, fresh, same⟩ := List.mem_map.mp born
    apply bears.entered first was
    rw [is, ← same]
    exact (enters second fresh).waits

end Chronicle

/-- A chronicle, and what the gates of its supervisor have queued. -/
structure Annals where
  chronicle : Chronicle
  /-- The commands that were queued for the runs, the oldest first. -/
  queued : List Command

namespace Annals

open Chronicle (Happening)

def call : Happening :=
  .occurs .runs

def fresh (host : Host) (supervisor : Supervisor) : Annals :=
  { chronicle := Chronicle.fresh host supervisor
    queued := [] }

abbrev course (annals : Annals) : Course :=
  annals.chronicle.course

abbrev site (annals : Annals) : Site :=
  annals.course.site

/-- The gate of the supervisor, while its channel is open. -/
def gate? (annals : Annals) : Option Nat :=
  (annals.site.supervisor? 0).bind fun supervisor => supervisor.channel.gate

def follow (annals : Annals) (chronicle : Chronicle) : Annals :=
  { chronicle := chronicle
    queued := annals.queued ++
      annals.gate?.elim [] (annals.site.gains chronicle.course.site) }

def step? (annals : Annals) (happening : Happening) : Option Annals :=
  (annals.chronicle.step? happening).map annals.follow

def run? (annals : Annals) (happenings : List Happening) : Option Annals :=
  happenings.foldlM step? annals

variable {settings : Settings} {annals next final : Annals} {happening : Happening}

theorem run?_cons {rest : List Happening}
    (runs : annals.run? (happening :: rest) = some final) :
    ∃ next, annals.step? happening = some next ∧ next.run? rest = some final := by
  unfold run? at runs
  rw [List.foldlM_cons] at runs
  exact Option.bind_eq_some_iff.mp runs

theorem follow_of_step? (steps : annals.step? happening = some next) :
    next = annals.follow next.chronicle := by
  obtain ⟨chronicle, _, is⟩ := Option.map_eq_some_iff.mp steps
  rw [← is]
  rfl

theorem queued_of_step? (steps : annals.step? happening = some next) :
    next.queued = annals.queued ++ annals.gate?.elim [] (annals.site.gains next.site) :=
  congrArg queued (follow_of_step? steps)

/-- Whatever happens in a chronicle can be told in annals. -/
theorem exists_run_of_chronicle {happenings : List Happening}
    {chronicle : Chronicle} (runs : annals.chronicle.run? happenings = some chronicle) :
    ∃ final, annals.run? happenings = some final ∧
      final.chronicle = chronicle := by
  induction happenings generalizing annals with
  | nil =>
      cases runs
      exact ⟨annals, rfl, rfl⟩
  | cons happening rest induction =>
      obtain ⟨next, first, continues⟩ := Chronicle.run?_cons runs
      have steps : annals.step? happening = some (annals.follow next) :=
        Option.map_eq_some_iff.mpr ⟨next, first, rfl⟩
      have followed : (annals.follow next).chronicle.run? rest = some chronicle := continues
      obtain ⟨final, goes, same⟩ := induction followed
      refine ⟨final, ?_, same⟩
      unfold run?
      rw [List.foldlM_cons, steps]
      exact goes

/-! ## Sound annals -/

/-- What holds of annals at any time. -/
structure Sound (settings : Settings) (annals : Annals) : Prop where
  chronicle : annals.chronicle.Sound settings
  heard : Chronicle.IsHeard annals.course
  bears : annals.chronicle.Bears
  minds : ∀ supervisor waits, annals.site.supervisor? 0 = some supervisor →
    annals.course.IsAt waits → supervisor.Minds waits

/-- What a happening makes of the annals. -/
inductive Goes (annals next : Annals) : Happening → Prop where
  | stays {happening : Happening} {births : List Offspring} (other : happening ≠ call)
      (lasts : Chronicle.Lasts births annals.chronicle next.chronicle)
      (same : ∀ stage,
        .run 0 stage ∈ next.course.tasks ↔ .run 0 stage ∈ annals.course.tasks) :
      Goes annals next happening
  | calls (idle : annals.course.IsAt none) (called : next.course.IsAt (some .called))
      (site : next.site = annals.site)
      (spawned : next.chronicle.spawned = annals.chronicle.spawned) : Goes annals next call
  | turns {happening : Happening} {stage : RunStage} {waits : Option RunStage}
      {supervisor : Supervisor} (other : happening ≠ call)
      (waited : annals.course.IsAt (some stage))
      (held : annals.site.supervisor? 0 = some supervisor)
      (deeds : Site.Deeds 0 annals.site next.site)
      (writes : Site.Writes annals.site supervisor stage next.site waits)
      (isAt : next.course.IsAt waits)
      (spawned : next.chronicle.spawned = annals.chronicle.spawned) :
      Goes annals next happening

/-- The run at a position goes on, in its turn or by overtaking the end of its round. -/
structure GoesOn (annals next : Annals) (position : Nat) (stage : RunStage)
    (supervisor : Supervisor) (step : RunStep) : Prop where
  taken : annals.course.tasks[position]? = some (.run 0 stage)
  holds : annals.site.Holds 0 supervisor
  stands : annals.site.Stands stage
  advances : annals.site.Advances supervisor stage step
  proceed : next.course = annals.course.proceed position step
  spawned : next.chronicle.spawned = annals.chronicle.spawned

theorem goesOn_of_overtakes (sound : annals.Sound settings) {position : Nat}
    (steps : annals.step? (.occurs (.overtakes position)) = some next) :
    ∃ stage supervisor step, annals.GoesOn next position stage supervisor step := by
  obtain ⟨chronicle, happens, is⟩ := Option.map_eq_some_iff.mp steps
  obtain ⟨course, occurs, same⟩ := Option.map_eq_some_iff.mp happens
  obtain ⟨supervisor, holds, _⟩ := sound.chronicle.course.supervised
  rw [← is, ← same]
  cases Course.step_of_step? occurs with
  | overtakes listens held takes =>
      cases holds.held.symm.trans held
      exact ⟨_, supervisor, _, listens, holds,
        sound.chronicle.course.started_of_listens listens, .overtakes takes, rfl, rfl⟩

theorem goesOn_of_turn (sound : annals.Sound settings) {position index : Nat}
    {stage : RunStage} (taken : annals.course.tasks[position]? = some (.run index stage))
    (steps : annals.step? (.occurs (.turns position)) = some next) :
    ∃ stage supervisor step, annals.GoesOn next position stage supervisor step := by
  obtain ⟨chronicle, happens, is⟩ := Option.map_eq_some_iff.mp steps
  obtain ⟨supervisor, holds, _⟩ := sound.chronicle.course.supervised
  obtain ⟨first, stands⟩ := sound.chronicle.course.serves _ (List.mem_of_getElem? taken)
  subst first
  have turned := Chronicle.turn_of_step? taken happens
  rw [← is]
  exact ⟨stage, supervisor, _, taken, holds, stands, .turns stage,
    (congrArg Chronicle.course turned).trans (Course.turn_run holds.held position stage),
    (congrArg Chronicle.spawned turned).trans (List.append_nil _)⟩

theorem goesOn_of_step (sound : annals.Sound settings) (other : happening ≠ call)
    (ofRun : annals.chronicle.IsOfRun happening)
    (steps : annals.step? happening = some next) :
    ∃ position stage supervisor step,
      annals.GoesOn next position stage supervisor step := by
  unfold Chronicle.IsOfRun at ofRun
  split at ofRun
  · exact absurd rfl other
  · exact ⟨_, goesOn_of_overtakes sound steps⟩
  · obtain ⟨index, stage, taken⟩ := ofRun
    exact ⟨_, goesOn_of_turn sound taken steps⟩
  · exact absurd ofRun id

section GoesOn

variable {position : Nat} {stage : RunStage} {supervisor : Supervisor} {step : RunStep}

theorem GoesOn.site (goesOn : annals.GoesOn next position stage supervisor step) :
    next.site = step.site :=
  congrArg Course.site goesOn.proceed

theorem GoesOn.waited (goesOn : annals.GoesOn next position stage supervisor step)
    (sound : annals.Sound settings) : annals.course.IsAt (some stage) :=
  Course.isAt_of_mem sound.chronicle.course (List.mem_of_getElem? goesOn.taken)

theorem GoesOn.proceeds (goesOn : annals.GoesOn next position stage supervisor step) :
    Site.Proceeds 0 annals.site step :=
  goesOn.advances.proceeds goesOn.holds goesOn.stands

theorem GoesOn.isAt (goesOn : annals.GoesOn next position stage supervisor step)
    (sound : annals.Sound settings) : next.course.IsAt step.waits := by
  rw [goesOn.proceed]
  exact Course.isAt_of_filter
    (sound.chronicle.course.filter_proceed goesOn.taken goesOn.proceeds)

theorem GoesOn.minds (goesOn : annals.GoesOn next position stage supervisor step)
    (sound : annals.Sound settings) : supervisor.Minds (some stage) :=
  sound.minds supervisor _ goesOn.holds.held (goesOn.waited sound)

theorem GoesOn.goes (goesOn : annals.GoesOn next position stage supervisor step)
    (sound : annals.Sound settings) (other : happening ≠ call) :
    Goes annals next happening := by
  have writes := goesOn.advances.writes goesOn.holds goesOn.stands (goesOn.minds sound)
  have deeds := goesOn.proceeds.deeds
  rw [← goesOn.site] at writes deeds
  exact .turns other (goesOn.waited sound) goesOn.holds.held deeds writes
    (goesOn.isAt sound) goesOn.spawned

end GoesOn

theorem goes_of_call (sound : annals.Sound settings) (steps : annals.step? call = some next) :
    Goes annals next call := by
  obtain ⟨chronicle, happens, is⟩ := Option.map_eq_some_iff.mp steps
  obtain ⟨course, occurs, same⟩ := Option.map_eq_some_iff.mp happens
  rw [← is, ← same]
  have sound' := sound.chronicle.course.step occurs
  cases Course.step_of_step? occurs with
  | runs idle =>
      exact .calls (Course.isAt_of_idle idle)
        (Course.isAt_of_mem sound' (List.mem_append_right _ (List.mem_singleton.mpr rfl)))
        rfl rfl

theorem goes_of_step (sound : annals.Sound settings)
    (steps : annals.step? happening = some next) : Goes annals next happening := by
  by_cases called : happening = call
  · subst called
    exact goes_of_call sound steps
  by_cases ofRun : annals.chronicle.IsOfRun happening
  · obtain ⟨_, _, _, _, goesOn⟩ := goesOn_of_step sound called ofRun steps
    exact goesOn.goes sound called
  · obtain ⟨chronicle, happens, is⟩ := Option.map_eq_some_iff.mp steps
    obtain ⟨births, lasts⟩ := Chronicle.lasts_of_step sound.chronicle happens ofRun
    rw [← is]
    exact .stays called lasts (Chronicle.stays_of_step sound.chronicle happens ofRun)

theorem Goes.minds {waits : Option RunStage} {after : Supervisor}
    (goes : Goes annals next happening) (sound : annals.Sound settings)
    (kept : next.site.supervisor? 0 = some after)
    (isAt : next.course.IsAt waits) : after.Minds waits := by
  cases goes with
  | stays other lasts same =>
      obtain ⟨supervisor, holds, _⟩ := sound.chronicle.course.supervised
      obtain ⟨also, still, channel, _⟩ := lasts.written.keeps supervisor holds.held
      cases still.symm.trans kept
      have minds := sound.minds supervisor waits holds.held
        fun stage => (same stage).symm.trans (isAt stage)
      constructor
      · rw [channel]
        exact minds.shut
      · rw [channel]
        exact minds.isOpen
  | calls idle called site spawned =>
      cases called.unique isAt
      rw [site] at kept
      have minds := sound.minds after none kept idle
      exact ⟨fun _ => minds.shut (.inl rfl), fun _ _ same => nomatch same⟩
  | turns other waited held deeds writes isAt' spawned =>
      cases isAt'.unique isAt
      exact writes.minds held (sound.minds _ _ held waited) kept

theorem Goes.bears (goes : Goes annals next happening) (sound : annals.Sound settings)
    (remains : annals.site.Remains next.site)
    (old : ∀ post, .enter post ∈ next.course.tasks →
      .enter post ∈ annals.course.tasks ∨ annals.site.charter? post = none) :
    next.chronicle.Bears := by
  have same : next.chronicle.spawned = annals.chronicle.spawned → next.chronicle.Bears := by
    intro spawned
    exact sound.bears.grow remains old (spawned.trans (List.append_nil _).symm)
      (fun _ member => nomatch member) List.nodup_nil
  cases goes with
  | stays other lasts _ =>
      exact sound.bears.grow remains old lasts.spawned lasts.enters lasts.few
  | calls _ _ _ spawned => exact same spawned
  | turns _ _ _ _ _ _ spawned => exact same spawned

theorem sound_step (sound : annals.Sound settings)
    (steps : annals.step? happening = some next) : next.Sound settings := by
  have goes := goes_of_step sound steps
  have minds : ∀ supervisor waits, next.site.supervisor? 0 = some supervisor →
      next.course.IsAt waits → supervisor.Minds waits :=
    fun _ _ kept isAt => goes.minds sound kept isAt
  obtain ⟨chronicle, happens, is⟩ := Option.map_eq_some_iff.mp steps
  have bears := goes.bears sound
  rw [← is] at minds bears ⊢
  exact ⟨Chronicle.sound_step sound.chronicle happens,
    Chronicle.heard_step sound.chronicle sound.heard happens,
    bears (Chronicle.remains_step sound.chronicle happens)
      (fun _ member => Chronicle.enter_of_step sound.chronicle happens member),
    minds⟩

theorem sound_fresh (host : Host) (settings : Settings)
    (inherited : List (String × List UInt8)) :
    (fresh host (Supervisor.fresh settings inherited)).Sound settings := by
  refine ⟨Chronicle.sound_fresh host settings inherited, Chronicle.heard_fresh host _,
    ?_, ?_⟩
  · exact ⟨fun _ member => absurd member List.not_mem_nil,
      fun _ member => absurd member List.not_mem_nil, List.nodup_nil⟩
  intro supervisor waits held isAt
  cases held
  cases waits with
  | none => exact ⟨fun _ => rfl, fun _ _ same => nomatch same⟩
  | some stage => cases (isAt stage).mpr rfl

/-- What every step of sound annals keeps is kept by a run of them. -/
theorem keeps_run (kept : Annals → Prop) {happenings : List Happening}
    (sound : annals.Sound settings) (start : kept annals)
    (steps : ∀ {annals next : Annals} {happening : Happening}, annals.Sound settings →
      kept annals → happening ∈ happenings → annals.step? happening = some next → kept next)
    (runs : annals.run? happenings = some final) : final.Sound settings ∧ kept final := by
  induction happenings generalizing annals with
  | nil =>
      cases runs
      exact ⟨sound, start⟩
  | cons happening rest induction =>
      obtain ⟨next, first, continues⟩ := run?_cons runs
      apply induction (sound_step sound first)
        (steps sound start List.mem_cons_self first) _ continues
      exact fun sound kept member => steps sound kept (List.mem_cons_of_mem _ member)

theorem sound_run {happenings : List Happening} (sound : annals.Sound settings)
    (runs : annals.run? happenings = some final) : final.Sound settings :=
  (keeps_run (fun _ => True) sound trivial (fun _ _ _ _ => trivial) runs).1

/-! ## Moments of a run -/

/-- A happening of a run, with the annals before and after it. -/
structure Moment (annals final : Annals) (happenings : List Happening) where
  first : List Happening
  happening : Happening
  rest : List Happening
  eve : Annals
  next : Annals
  split : happenings = first ++ happening :: rest
  goes : annals.run? first = some eve
  steps : eve.step? happening = some next
  continues : next.run? rest = some final

namespace Moment

variable {happenings : List Happening}

def now (steps : annals.step? happening = some next)
    (continues : next.run? happenings = some final) :
    Moment annals final (happening :: happenings) :=
  ⟨[], happening, happenings, annals, next, rfl, rfl, steps, continues⟩

/-- A moment of what is left of a run. -/
def later (steps : annals.step? happening = some next) (moment : Moment next final happenings) :
    Moment annals final (happening :: happenings) :=
  { moment with
    first := happening :: moment.first
    split := congrArg (happening :: ·) moment.split
    goes := by
      unfold run?
      rw [List.foldlM_cons, steps]
      exact moment.goes }

theorem sound_eve (moment : Moment annals final happenings) (sound : annals.Sound settings) :
    moment.eve.Sound settings :=
  sound_run sound moment.goes

theorem sound_next (moment : Moment annals final happenings) (sound : annals.Sound settings) :
    moment.next.Sound settings :=
  sound_step (moment.sound_eve sound) moment.steps

theorem mem_of_rest (moment : Moment annals final happenings)
    (member : happening ∈ moment.rest) : happening ∈ happenings := by
  rw [moment.split]
  exact List.mem_append_right _ (List.mem_cons_of_mem _ member)

end Moment

end Annals

end Overseer
