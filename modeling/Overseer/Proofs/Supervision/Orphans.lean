import Overseer.Proofs.Supervision.Obituaries

/-!
# Orphans

A body attends to no child but the one that it spawned, and it attends to it until it has
taken down how the child ended.  There are two ways for it to be done with the child before:
it is told to end, or the child turns out not to be waited for.  So when a round is over and
nothing is on record about it, its child was never there, or it was forsaken.
-/

namespace Overseer

namespace Site

variable {site : Site} {post : Nat} {application : Application}
  {attendance next : Attendance}

/-- The rounds are the posts of applications. -/
theorem mem_rounds {round : Nat} :
    round ∈ site.rounds ↔ ∃ graces, site.charter? round = some (some graces) := by
  unfold rounds
  rw [List.mem_filter, List.mem_range, isSome_application?]
  constructor
  · intro attended
    obtain ⟨charter, held, some⟩ := (Option.any_eq_true _ _).mp attended.2
    obtain ⟨graces, is⟩ := Option.isSome_iff_exists.mp some
    exact ⟨graces, by rw [held, is]⟩
  · intro attended
    obtain ⟨graces, held⟩ := attended
    rw [held]
    refine ⟨?_, rfl⟩
    by_contra beyond
    unfold charter? at held
    rw [Array.getElem?_eq_none (Nat.le_of_not_lt beyond)] at held
    cases held

theorem record?_of_unopened {round : Nat} (unopened : round ∉ site.rounds) :
    site.record? round = none := by
  cases attended : site.application? round with
  | none => exact record?_of_unattended attended
  | some application =>
      exact absurd (mem_rounds.mpr ⟨_, charter?_of_application attended⟩) unopened

/-! ## The child of a body -/

theorem child_of_attend (goesOn : (site.attend post application attendance).2 = some next) :
    next.child = attendance.child := by
  cases ended : site.childStatus attendance with
  | some status =>
      unfold attend at goesOn
      dsimp only at goesOn
      rw [ended] at goesOn
      cases attendance <;> cases goesOn
  | none =>
      obtain ⟨other, waits, child⟩ := attend_waits attendance ended post application
      cases waits.symm.trans goesOn
      exact child

theorem child_of_launch (attended : site.application? post = some application)
    (goesOn : (site.launch post application).2 = some next) :
    ∃ host, site.host.spawn application.program application.report =
      .ok (host, next.child) := by
  cases spawns : site.host.spawn application.program application.report with
  | error error =>
      unfold launch at goesOn
      rw [spawns] at goesOn
      cases goesOn
  | ok spawned =>
      obtain ⟨started, launches, _⟩ := launch_eq_attend attended spawns
      rw [launches] at goesOn
      have same : next.child = spawned.2 := child_of_attend goesOn
      exact ⟨spawned.1, by rw [same]⟩

theorem child_of_enterTurn
    (goesOn : (site.enterTurn post).rest = some (.attend post next)) :
    site.spawned? (.enter post) = some ⟨post, next.child⟩ := by
  cases told : (site.job post).aborted with
  | true =>
      unfold enterTurn at goesOn
      rw [told] at goesOn
      cases goesOn
  | false =>
      cases attended : site.application? post with
      | some application =>
          rw [enterTurn_of_application attended told] at goesOn
          obtain ⟨waits, launches, is⟩ := Option.map_eq_some_iff.mp goesOn
          cases is
          have entered : (site.setJob post (site.job post).enter).application? post =
              some application := (application?_setJob site post _ post).trans attended
          obtain ⟨host, spawns⟩ := child_of_launch entered launches
          change site.host.spawn application.program application.report = _ at spawns
          rw [spawned?_enter attended told, spawns]
          rfl
      | none =>
          unfold application? at attended
          unfold enterTurn at goesOn
          rw [told] at goesOn
          dsimp only at goesOn
          rw [duty_setJob] at goesOn
          cases held : (site.posts[post]?).map Post.duty with
          | none =>
              rw [held] at goesOn
              cases goesOn
          | some duty =>
              cases duty with
              | gate gate =>
                  rw [held] at goesOn
                  obtain ⟨_, _, is⟩ := Option.map_eq_some_iff.mp goesOn
                  cases is
              | application application sink => simp [held] at attended

theorem child_of_attendTurn {own other : Nat}
    (goesOn : (site.attendTurn own attendance).rest = some (.attend other next)) :
    other = own ∧ next.child = attendance.child := by
  unfold attendTurn at goesOn
  split at goesOn
  · cases goesOn
  · split at goesOn
    · cases goesOn
    · obtain ⟨waits, attends, is⟩ := Option.map_eq_some_iff.mp goesOn
      cases is
      exact ⟨rfl, child_of_attend attends⟩

theorem rest_guardTurn {own : Nat} {watch : Gate.Watch} {task : Activity}
    (goesOn : (site.guardTurn own watch).rest = some task) :
    ∃ later, task = .guard own later := by
  unfold guardTurn at goesOn
  split at goesOn
  · cases goesOn
  · split at goesOn
    · cases goesOn
    · obtain ⟨later, _, is⟩ := Option.map_eq_some_iff.mp goesOn
      exact ⟨later, is.symm⟩

theorem child_of_body {own : Nat} {task : Activity} (body : task.body? = some own)
    (member : .attend post next ∈ (site.turn task).rest.toList ++ (site.turn task).begun) :
    site.spawned? task = some ⟨post, next.child⟩ ∨
      ∃ earlier, task = .attend post earlier ∧ next.child = earlier.child := by
  have works := site.worksOn_turn body
  rw [works.begun, List.append_nil] at member
  have goesOn := Option.mem_toList.mp member
  have same : post = own := by
    rcases works.rest _ goesOn with ⟨_, is⟩ | ⟨_, is, _⟩
    · cases is
    · cases is
      rfl
  subst same
  cases task with
  | enter _ =>
      cases body
      exact .inl (child_of_enterTurn goesOn)
  | attend _ earlier =>
      cases body
      exact .inr ⟨earlier, rfl, (child_of_attendTurn goesOn).2⟩
  | guard _ watch =>
      obtain ⟨_, is⟩ := rest_guardTurn goesOn
      cases is
  | stop _ _ _ | execute _ _ | run _ _ => cases body

/-! ## What becomes of the child of a body -/

/-- A task that knows how the child ended after its turn, or goes on to attend to it. -/
inductive Cares (site : Site) (task : Activity) (offspring : Offspring) : Prop where
  | writes {status : ExitStatus}
      (told : Obituary.about offspring.round (site.obituary? task) = some status)
  | attends {next : Attendance}
      (goesOn : (site.turn task).rest = some (.attend offspring.round next))
      (child : next.child = offspring.child)

theorem obituaryOf?_of_ended (attended : site.application? post = some application)
    (told : (site.job post).aborted = false) {status : ExitStatus}
    (ended : site.childStatus attendance = some status) :
    site.obituaryOf? post attendance = some ⟨⟨post, attendance.child⟩, status⟩ := by
  unfold obituaryOf?
  rw [told, attended, ended]
  rfl

theorem cares_attendTurn (attended : site.application? post = some application)
    (told : (site.job post).aborted = false) (attendance : Attendance) :
    site.Cares (.attend post attendance) ⟨post, attendance.child⟩ := by
  cases ended : site.childStatus attendance with
  | some status =>
      have writes := obituaryOf?_of_ended attended told ended
      exact .writes (Obituary.about_eq_some.mpr ⟨_, writes⟩)
  | none =>
      obtain ⟨next, waits, child⟩ := attend_waits attendance ended post application
      refine .attends ?_ child
      show (site.attendTurn post attendance).rest = _
      unfold attendTurn
      rw [attended, told]
      dsimp only
      rw [waits]
      rfl

theorem cares_enterTurn {spawned : Host × ProcessNumber}
    (spawns : site.spawn? post = some spawned) :
    site.Cares (.enter post) ⟨post, spawned.2⟩ := by
  obtain ⟨told, application, attended, spawning⟩ := exists_of_spawn? spawns
  cases ended : spawned.1.status? spawned.2 with
  | some status =>
      let hosted : Site := { site with host := spawned.1 }
      have manned : hosted.application? post = some application := attended
      have ends : hosted.childStatus (.running spawned.2) = some status := ended
      have housed := obituaryOf?_of_ended manned told ends
      have writes : site.obituary? (.enter post) = some ⟨⟨post, spawned.2⟩, status⟩ := by
        unfold obituary?
        dsimp only
        rw [spawns]
        exact housed
      exact .writes (Obituary.about_eq_some.mpr ⟨_, writes⟩)
  | none =>
      have entered : (site.setJob post (site.job post).enter).host.spawn
          application.program application.report = .ok spawned := spawning
      obtain ⟨next, waits, child⟩ := launch_waits entered ended post
      refine .attends ?_ child
      show (site.enterTurn post).rest = _
      rw [enterTurn_of_application attended told, waits]
      rfl

/-- A body writes about the child that it spawns in this turn, or has attended to. -/
theorem offspring_of_obituary {task : Activity} {written : Obituary}
    (writes : site.obituary? task = some written) :
    site.spawned? task = some written.offspring ∨
      ∃ post attendance, task = .attend post attendance ∧
        written.offspring = ⟨post, attendance.child⟩ := by
  cases task with
  | enter post =>
      obtain ⟨spawned, spawns, tells⟩ := Option.bind_eq_some_iff.mp writes
      obtain ⟨_, _, _, _, _, is⟩ := exists_of_obituaryOf? tells
      left
      rw [is]
      exact Option.map_eq_some_iff.mpr ⟨spawned, spawns, rfl⟩
  | attend post attendance =>
      obtain ⟨_, _, _, _, _, is⟩ := exists_of_obituaryOf? writes
      exact .inr ⟨post, attendance, rfl, by rw [is]⟩
  | guard _ _ | stop _ _ _ | execute _ _ | run _ _ => cases writes

end Site

namespace Chronicle

variable {settings : Settings} {chronicle next : Chronicle} {happening : Happening}
  {course : Course}

theorem not_attends_of_proceeds {site : Site} {step : RunStep} {post : Nat}
    {attendance : Attendance} (proceeds : Site.Proceeds 0 site step) :
    .attend post attendance ∉ (step.waits.map (.run 0)).toList ++ step.begun := by
  intro member
  rcases List.mem_append.mp member with waits | begun
  · obtain ⟨_, _, is⟩ := Option.map_eq_some_iff.mp (Option.mem_toList.mp waits)
    cases is
  · cases proceeds.begun _ begun

theorem body_of_attend {position post : Nat} {task : Activity} {attendance : Attendance}
    (sound : course.Sound settings) (taken : course.tasks[position]? = some task)
    (member : .attend post attendance ∈
      (course.site.turn task).rest.toList ++ (course.site.turn task).begun) :
    ∃ own, task.body? = some own := by
  have serves := sound.serves task (List.mem_of_getElem? taken)
  cases task with
  | enter own | guard own _ | attend own _ => exact ⟨own, rfl⟩
  | stop post task counted =>
      obtain ⟨call, waits⟩ := serves
      subst waits
      obtain ⟨_, begun, rest⟩ := Site.stopTurn_cases course.site post call counted
      change _ ∈ (course.site.stopTurn post (.waits call) counted).rest.toList ++
        (course.site.stopTurn post (.waits call) counted).begun at member
      rw [begun, List.append_nil, Option.mem_toList] at member
      obtain ⟨_, _, is⟩ := (rest _).mp member
      cases is
  | execute index command =>
      rcases List.mem_append.mp member with waits | begun
      · cases (Course.aside_of_stopActivity course.site _ _ waits).2.1
      · cases begun
  | run index stage =>
      obtain ⟨first, stands⟩ := serves
      subst first
      obtain ⟨supervisor, holds, _⟩ := sound.supervised
      rw [Site.turn_run holds.held] at member
      exact absurd member
        (not_attends_of_proceeds (Site.proceeds_continueRun holds stands))

/-! ## Children of their own -/

/-- Every body attends to a child that it has spawned. -/
def Owns (chronicle : Chronicle) : Prop :=
  ∀ post attendance, .attend post attendance ∈ chronicle.course.tasks →
    ⟨post, attendance.child⟩ ∈ chronicle.spawned

theorem owns_turn {position : Nat} {task : Activity} (sound : chronicle.Sound settings)
    (owns : chronicle.Owns) (taken : chronicle.course.tasks[position]? = some task) :
    Owns { chronicle.turn task with course := chronicle.course.turn position task } := by
  intro post attendance member
  rcases List.mem_append.mp member with stays | goesOn
  · exact List.mem_append_left _ (owns post attendance (List.mem_of_mem_eraseIdx stays))
  obtain ⟨own, body⟩ := body_of_attend sound.course taken goesOn
  rcases Site.child_of_body body goesOn with spawns | ⟨earlier, is, child⟩
  · exact List.mem_append_right _ (Option.mem_toList.mpr spawns)
  · rw [child]
    rw [is] at taken
    exact List.mem_append_left _ (owns post earlier (List.mem_of_getElem? taken))

theorem bodyless_takeSignal (site : Site) (index : Nat) :
    ∀ task ∈ (site.takeSignal index).2, task.body? = none := by
  intro task member
  unfold Site.takeSignal at member
  split at member
  · cases member
  · split at member
    · rw [List.mem_singleton.mp member]
      rfl
    · cases member

theorem owns_step (sound : chronicle.Sound settings) (owns : chronicle.Owns)
    (steps : chronicle.step? happening = some next) : next.Owns := by
  have remain : ∀ {kept : List Activity}, kept ⊆ chronicle.course.tasks →
      ∀ post attendance, .attend post attendance ∈ kept →
        ⟨post, attendance.child⟩ ∈ chronicle.spawned :=
    fun subset post attendance member => owns post attendance (subset member)
  have besides : ∀ {added : List Activity}, (∀ task ∈ added, task.body? = none) →
      ∀ post attendance, .attend post attendance ∈ chronicle.course.tasks ++ added →
        ⟨post, attendance.child⟩ ∈ chronicle.spawned := by
    intro added bodyless post attendance member
    rcases List.mem_append.mp member with stays | new
    · exact owns post attendance stays
    · cases bodyless _ new
  have answered : ∀ (site : Site) standing, ∀ task ∈ (Site.stopActivity standing).toList,
      task.body? = none :=
    fun site standing task member => (Course.aside_of_stopActivity site standing task member).2.1
  cases step_of_step? sound steps with
  | marks _ | aborts _ | starts _ => exact owns
  | stops round timeout => exact besides (answered chronicle.course.site _)
  | fails _ _ _ => exact remain List.eraseIdx_subset
  | occurs occurs =>
      cases Course.step_of_step? occurs with
      | acts _ | passes _ => exact owns
      | stops | restarts | kills => exact besides (answered chronicle.course.site _)
      | signals => exact besides (bodyless_takeSignal _ _)
      | runs _ =>
          apply besides
          intro task member
          rw [List.mem_singleton.mp member]
          rfl
      | abandons _ _ => exact remain List.eraseIdx_subset
      | overtakes listens _ takes =>
          intro post attendance member
          rcases List.mem_append.mp member with stays | fresh
          · exact owns post attendance (List.mem_of_mem_eraseIdx stays)
          · exact absurd fresh (not_attends_of_proceeds
              (Site.proceeds_dispatch (sound.course.started_of_listens listens) takes))
      | turns taken =>
          have turned := owns_turn sound owns taken
          rw [← records_turns taken] at turned
          exact turned

end Chronicle

namespace Annals

open Chronicle (Happening)

variable {settings : Settings} {annals next final : Annals} {happening : Happening}
  {offspring : Offspring} {post : Nat} {attendance : Attendance}

theorem owns_of_step (sound : annals.Sound settings) (owns : annals.chronicle.Owns)
    (steps : annals.step? happening = some next) : next.chronicle.Owns := by
  obtain ⟨chronicle, happens, is⟩ := Option.map_eq_some_iff.mp steps
  rw [← is]
  exact Chronicle.owns_step sound.chronicle owns happens

theorem spawned_of_step (sound : annals.Sound settings)
    (steps : annals.step? happening = some next) :
    annals.chronicle.spawned ⊆ next.chronicle.spawned := by
  cases goes_of_step sound steps with
  | stays _ lasts _ =>
      rw [lasts.spawned]
      exact List.subset_append_left _ _
  | calls _ _ _ spawned | turns _ _ _ _ _ _ spawned =>
      rw [spawned]
      exact List.Subset.refl _

theorem spawned_of_written {written : Obituary} (owns : annals.chronicle.Owns)
    (steps : annals.step? happening = some next)
    (writes : annals.obituary? happening = some written) :
    written.offspring ∈ next.chronicle.spawned := by
  unfold obituary? at writes
  split at writes
  · rename_i position
    obtain ⟨task, taken, writes⟩ := Option.bind_eq_some_iff.mp writes
    obtain ⟨chronicle, happens, is⟩ := Option.map_eq_some_iff.mp steps
    rw [← is]
    show _ ∈ chronicle.spawned
    rw [Chronicle.turn_of_step? taken happens]
    rcases Site.offspring_of_obituary writes with spawns | ⟨post, attendance, task, own⟩
    · exact List.mem_append_right _ (Option.mem_toList.mpr spawns)
    · rw [own]
      rw [task] at taken
      exact List.mem_append_left _ (owns post attendance (List.mem_of_getElem? taken))
  · cases writes

/-- What is written in a run is about children that were spawned. -/
theorem spawned_of_obituaries {happenings : List Happening} (sound : annals.Sound settings)
    (owns : annals.chronicle.Owns) (runs : annals.run? happenings = some final)
    {written : Obituary} (member : written ∈ annals.obituaries happenings) :
    written.offspring ∈ final.chronicle.spawned := by
  induction happenings generalizing annals with
  | nil => cases member
  | cons happening rest induction =>
      obtain ⟨next, first, continues⟩ := run?_cons runs
      have sound' := sound_step sound first
      rcases (mem_obituaries first).mp member with now | later
      · exact (keeps_run (fun annals => written.offspring ∈ annals.chronicle.spawned) sound'
          (spawned_of_written owns first now)
          (fun sound was _ steps => spawned_of_step sound steps was) continues).2
      · exact induction sound' (owns_of_step sound owns first) continues later

/-! ## Children that are known -/

/-- Every child that was spawned is of a round. -/
def HasBorne (annals : Annals) : Prop :=
  ∀ offspring ∈ annals.chronicle.spawned, offspring.round ∈ annals.site.rounds

theorem rounds_of_step (sound : annals.Sound settings)
    (steps : annals.step? happening = some next) : annals.site.rounds ⊆ next.site.rounds := by
  cases goes_of_step sound steps with
  | stays _ lasts _ =>
      rw [lasts.written.rounds]
      exact List.Subset.refl _
  | calls _ _ site _ =>
      rw [site]
      exact List.Subset.refl _
  | turns _ _ _ deeds _ _ _ =>
      intro round member
      obtain ⟨graces, held⟩ := Site.mem_rounds.mp member
      exact Site.mem_rounds.mpr ⟨graces, (Site.carries_of_deeds deeds).remains.charter held⟩

theorem hasBorne_step (sound : annals.Sound settings) (borne : annals.HasBorne)
    (steps : annals.step? happening = some next) : next.HasBorne := by
  have known : ∀ offspring ∈ annals.chronicle.spawned, offspring.round ∈ next.site.rounds :=
    fun offspring member => rounds_of_step sound steps (borne offspring member)
  intro offspring member
  cases goes_of_step sound steps with
  | stays _ lasts _ =>
      rw [lasts.spawned] at member
      rcases List.mem_append.mp member with old | born
      · exact known offspring old
      · have attended := (lasts.enters offspring born).attended
        exact rounds_of_step sound steps (Site.mem_rounds.mpr attended)
  | calls _ _ _ spawned | turns _ _ _ _ _ _ spawned =>
      rw [spawned] at member
      exact known offspring member

/-! ## Children that are cared for -/

/-- The end of a child is on record, or the body of its round attends to it. -/
structure InCare (annals : Annals) (offspring : Offspring) : Prop where
  round : offspring.round ∈ annals.site.rounds
  care : annals.site.record? offspring.round ≠ none ∨
    ∃ attendance, .attend offspring.round attendance ∈ annals.course.tasks ∧
      attendance.child = offspring.child

/-- The body is done with its child before it has seen its end: it was told to end, or it
cannot wait for the child. -/
def Forsakes (annals : Annals) (happening : Happening) (offspring : Offspring) : Prop :=
  ∃ position attendance,
    annals.course.tasks[position]? = some (.attend offspring.round attendance) ∧
      attendance.child = offspring.child ∧
        ((happening = .occurs (.turns position) ∧
            (annals.site.job offspring.round).aborted = true) ∨
          ∃ fault, happening = .fails position fault)

theorem recorded_of_learns {obituary : Option Obituary} {before after : Site} {round : Nat}
    (learns : Site.Learns obituary before after) (known : before.record? round ≠ none) :
    after.record? round ≠ none := by
  rw [learns round]
  obtain ⟨status, is⟩ := Option.ne_none_iff_exists'.mp known
  rw [is]
  cases Obituary.about round obituary with
  | none => exact Option.some_ne_none _
  | some other => exact Option.some_ne_none _

/-- The child of a body that takes a turn is attended to from now on, or its end is on
record. -/
theorem inCare_of_turn {position : Nat} {task : Activity} (sound : annals.Sound settings)
    (taken : annals.course.tasks[position]? = some task)
    (steps : annals.step? (.occurs (.turns position)) = some next)
    (round : offspring.round ∈ annals.site.rounds)
    (cared : annals.site.Cares task offspring) : next.InCare offspring := by
  refine ⟨rounds_of_step sound steps round, ?_⟩
  have learns := learns_of_step steps
  unfold obituary? at learns
  dsimp only at learns
  rw [taken, Option.bind_some] at learns
  cases cared with
  | writes told =>
      left
      rw [learns offspring.round, told]
      exact Option.some_ne_none _
  | attends goesOn child =>
      right
      obtain ⟨chronicle, happens, is⟩ := Option.map_eq_some_iff.mp steps
      rw [← is]
      refine ⟨_, ?_, child⟩
      show _ ∈ chronicle.course.tasks
      rw [Chronicle.turn_of_step? taken happens]
      exact List.mem_append_right _ (List.mem_append_left _ (Option.mem_toList.mpr goesOn))

theorem InCare.step (inCare : annals.InCare offspring) (sound : annals.Sound settings)
    (steps : annals.step? happening = some next) :
    next.InCare offspring ∨ annals.Forsakes happening offspring := by
  obtain ⟨round, known | ⟨attendance, member, child⟩⟩ := inCare
  · exact .inl ⟨rounds_of_step sound steps round,
      .inl (recorded_of_learns (learns_of_step steps) known)⟩
  -- The body attends to the child, and goes on to unless it is its own turn or it fails.
  have attends : .attend offspring.round attendance ∈ next.course.tasks →
      next.InCare offspring :=
    fun stays => ⟨rounds_of_step sound steps round, .inr ⟨attendance, stays, child⟩⟩
  obtain ⟨chronicle, happens, is⟩ := Option.map_eq_some_iff.mp steps
  rcases Chronicle.attends_or sound.chronicle happens member with
    stays | ⟨position, turned, taken⟩ | ⟨position, fault, fails, taken⟩
  · rw [← is] at attends ⊢
    exact .inl (attends stays)
  · subst turned
    cases told : (annals.site.job offspring.round).aborted with
    | true => exact .inr ⟨position, attendance, taken, child, .inl ⟨rfl, told⟩⟩
    | false =>
        obtain ⟨graces, held⟩ := Site.mem_rounds.mp round
        obtain ⟨application, attended⟩ := Site.application?_of_charter held
        left
        apply inCare_of_turn sound taken steps round
        have cares := Site.cares_attendTurn attended told attendance
        rw [child] at cares
        exact cares
  · subst fails
    exact .inr ⟨position, attendance, taken, child, .inr ⟨fault, rfl⟩⟩

theorem inCare_step (sound : annals.Sound settings)
    (inCare : offspring ∈ annals.chronicle.spawned → annals.InCare offspring)
    (steps : annals.step? happening = some next)
    (kept : ¬ annals.Forsakes happening offspring)
    (spawned : offspring ∈ next.chronicle.spawned) : next.InCare offspring := by
  by_cases was : offspring ∈ annals.chronicle.spawned
  · exact ((inCare was).step sound steps).resolve_right kept
  -- A child that is new was spawned in this happening, by a body in its first turn.
  obtain ⟨chronicle, happens, is⟩ := Option.map_eq_some_iff.mp steps
  rcases Chronicle.spawned_step sound.chronicle happens with
    same | ⟨position, post, both, turned, taken, spawns, grown⟩
  · rw [← is] at spawned
    exact absurd (same ▸ spawned) was
  · subst turned
    have new : offspring = ⟨post, both.2⟩ := by
      rw [← is] at spawned
      change offspring ∈ chronicle.spawned at spawned
      rw [grown] at spawned
      exact List.mem_singleton.mp ((List.mem_append.mp spawned).resolve_left was)
    subst new
    exact inCare_of_turn sound taken steps
      (Site.mem_rounds.mpr (Chronicle.charter?_of_spawn spawns)) (Site.cares_enterTurn spawns)

/-! ## Children that are forsaken -/

/-- The child is forsaken at some moment of the run. -/
def Forsaken (annals final : Annals) (happenings : List Happening) (offspring : Offspring) :
    Prop :=
  ∃ moment : Moment annals final happenings, moment.eve.Forsakes moment.happening offspring

/-- Whatever happens, a child that was spawned meanwhile is in care, or it was forsaken. -/
theorem inCare_or_forsaken {happenings : List Happening} (sound : annals.Sound settings)
    (inCare : offspring ∈ annals.chronicle.spawned → annals.InCare offspring)
    (runs : annals.run? happenings = some final)
    (spawned : offspring ∈ final.chronicle.spawned) :
    final.InCare offspring ∨ annals.Forsaken final happenings offspring := by
  induction happenings generalizing annals with
  | nil =>
      cases runs
      exact .inl (inCare spawned)
  | cons happening rest induction =>
      obtain ⟨next, first, continues⟩ := run?_cons runs
      by_cases forsakes : annals.Forsakes happening offspring
      · exact .inr ⟨.now first continues, forsakes⟩
      · rcases induction (sound_step sound first) (inCare_step sound inCare first forsakes)
          continues with kept | forsaken
        · exact .inl kept
        · obtain ⟨moment, forsakes⟩ := forsaken
          exact .inr ⟨moment.later first, forsakes⟩

/-- A round whose job has exited attends to no child any more. -/
theorem InCare.recorded (inCare : annals.InCare offspring) (sound : annals.Sound settings)
    (exited : (annals.site.job offspring.round).exitFlag = true) :
    annals.site.record? offspring.round ≠ none := by
  rcases inCare.care with known | attended
  · exact known
  · obtain ⟨attendance, member, _⟩ := attended
    have tended := (sound.chronicle.course.serves _ member).tended rfl
    rw [tended.2] at exited
    cases exited

/-- What is on record about a round that was opened in a run is what its body wrote about the
child that it had spawned. -/
theorem record?_iff_written {round : Nat} {happenings : List Happening} {status : ExitStatus}
    (sound : annals.Sound settings) (owns : annals.chronicle.Owns)
    (unopened : round ∉ annals.site.rounds) (runs : annals.run? happenings = some final) :
    final.site.record? round = some status ↔ ∃ child,
      ⟨round, child⟩ ∈ final.chronicle.spawned ∧
        ⟨⟨round, child⟩, status⟩ ∈ annals.obituaries happenings := by
  rw [record?_of_run sound (Site.record?_of_unopened unopened) runs]
  exact exists_congr fun child =>
    (and_iff_right_of_imp (spawned_of_obituaries sound owns runs)).symm

/-- When the job of a round has exited and nothing is on record about the round, each child
that it spawned meanwhile was forsaken. -/
theorem forsaken_of_unknown {round : Nat} {happenings : List Happening}
    (sound : annals.Sound settings) (borne : annals.HasBorne)
    (unopened : round ∉ annals.site.rounds) (runs : annals.run? happenings = some final)
    (exited : (final.site.job round).exitFlag = true)
    (unknown : final.site.record? round = none) {child : ProcessNumber}
    (spawned : ⟨round, child⟩ ∈ final.chronicle.spawned) :
    annals.Forsaken final happenings ⟨round, child⟩ := by
  have unborn : ⟨round, child⟩ ∉ annals.chronicle.spawned :=
    fun member => unopened (borne _ member)
  rcases inCare_or_forsaken sound (fun member => absurd member unborn) runs spawned with
    inCare | forsaken
  · exact absurd unknown (inCare.recorded (sound_run sound runs) exited)
  · exact forsaken

theorem borne_of_run {host : Host} {settings : Settings}
    {inherited : List (String × List UInt8)} {happenings : List Happening}
    (runs : (fresh host (Supervisor.fresh settings inherited)).run? happenings = some final) :
    final.chronicle.Owns ∧ final.HasBorne :=
  (keeps_run (fun annals => annals.chronicle.Owns ∧ annals.HasBorne)
    (sound_fresh host settings inherited)
    ⟨fun _ _ member => absurd member List.not_mem_nil,
      fun _ member => absurd member List.not_mem_nil⟩
    (fun sound ⟨owns, borne⟩ _ steps =>
      ⟨owns_of_step sound owns steps, hasBorne_step sound borne steps⟩) runs).2

end Annals

end Overseer
