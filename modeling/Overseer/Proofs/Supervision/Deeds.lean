import Mathlib.Logic.Relation
import Overseer.Proofs.Lifecycle.Endurance
import Overseer.Proofs.Supervision.Tending

/-!
# What a run does

A turn of a run is a sequence of deeds: it posts an event, serves its gate, opens a
round, launches it, and so on.  `Deed` lists them with what holds when they are done,
and `Proceeds` says that a turn does nothing else.  Whatever every deed keeps is
therefore kept by every turn of a run.
-/

namespace Overseer

/-- A job whose body has a task and did not exit. -/
def Job.IsTended (job : Job) : Prop :=
  job.body.hasTask = true ∧ job.exitFlag = false

theorem Job.IsTended.endures {before after : Job} (tended : before.IsTended)
    (endures : before.Endures after) : after.IsTended := by
  obtain ⟨hasTask, running⟩ := tended
  have launched : before.body ≠ .unlaunched := by
    intro absent
    rw [absent] at hasTask
    cases hasTask
  obtain ⟨body, exitFlag⟩ := endures.launched launched
  exact ⟨by rw [body]; exact hasTask, by rw [exitFlag]; exact running⟩

theorem Job.Works.started {before after : Job} {goesOn : Bool}
    (works : before.Works goesOn after) (started : before.phase ≠ .created) :
    after.phase ≠ .created := by
  have exited : before.markExited.phase ≠ .created := by
    unfold markExited
    dsimp only
    split
    · exact Phase.noConfusion
    · exact Phase.noConfusion
  cases works with
  | stays => exact started
  | enters => exact started
  | finishes => exact exited
  | drops =>
      unfold drop
      split
      · exact exited
      · exact started

theorem Job.Works.tended {before after : Job} (works : before.Works true after)
    (tended : before.IsTended) : after.IsTended := by
  cases works with
  | stays => exact tended
  | enters => exact ⟨rfl, tended.2⟩

def Activity.body? : Activity → Option Nat
  | .enter post | .guard post _ | .attend post _ => some post
  | .stop _ _ _ | .execute _ _ | .run _ _ => none

namespace Site

/-! ## What other tasks rely on -/

/-- What the tasks of a site rely on while others take their turns. -/
structure Bears (before after : Site) : Prop where
  charter : ∀ {post charter}, before.charter? post = some charter →
    after.charter? post = some charter
  started : ∀ {post}, (before.job post).phase ≠ .created →
    (after.job post).phase ≠ .created
  tended : ∀ {post}, (before.job post).IsTended → (after.job post).IsTended

variable {index : Nat} {site before after : Site}

theorem Bears.refl (site : Site) : Bears site site :=
  ⟨id, id, id⟩

theorem Bears.trans {third : Site} (first : Bears before after)
    (second : Bears after third) : Bears before third :=
  ⟨fun held => second.charter (first.charter held),
    fun started => second.started (first.started started),
    fun tended => second.tended (first.tended tended)⟩

theorem bears_of_posts (posts : after.posts = before.posts) : Bears before after := by
  constructor
  · intro post charter held
    unfold charter? at held ⊢
    rw [posts]
    exact held
  · intro post started
    rw [job_of_posts posts]
    exact started
  · intro post tended
    rw [job_of_posts posts]
    exact tended

/-- Work on one post bears the others; its own job must be borne too. -/
theorem Tends.bears {post : Nat} {sent : Signal → Prop}
    (tends : Tends post sent before after)
    (started : (before.job post).phase ≠ .created →
      (after.job post).phase ≠ .created)
    (tended : (before.job post).IsTended → (after.job post).IsTended) :
    Bears before after := by
  constructor
  · intro other charter held
    rw [tends.charter]
    exact held
  · intro other
    by_cases same : other = post
    · subst same
      exact started
    · rw [tends.job other same]
      exact id
  · intro other
    by_cases same : other = post
    · subst same
      exact tended
    · rw [tends.job other same]
      exact id

theorem Tends.bears_of_endures {post : Nat} {sent : Signal → Prop}
    (tends : Tends post sent before after)
    (endures : (before.job post).Endures (after.job post)) : Bears before after :=
  tends.bears endures.started fun tended => tended.endures endures

/-! ## One more post -/

theorem charter?_size (site : Site) : site.charter? site.posts.size = none := by
  simp [charter?]

theorem job_size (site : Site) :
    site.job site.posts.size = Job.fresh "" Duration.zero := by
  simp [Site.job]

theorem not_tended_of_absent {post : Nat} (absent : site.charter? post = none) :
    ¬ (site.job post).IsTended := by
  unfold charter? at absent
  unfold Site.job
  cases held : site.posts[post]? with
  | none => exact fun tended => Bool.false_ne_true tended.1
  | some post => simp [held] at absent

theorem charter?_addPost (site : Site) (post : Post) (other : Nat) :
    (site.addPost post).1.charter? other =
      if other = site.posts.size then some post.duty.graces?
      else site.charter? other := by
  unfold charter? addPost
  rw [Array.getElem?_push]
  split <;> rfl

theorem job_addPost (site : Site) (post : Post) (other : Nat) :
    (site.addPost post).1.job other =
      if other = site.posts.size then post.job else site.job other := by
  unfold Site.job addPost
  rw [Array.getElem?_push]
  split <;> rfl

theorem bears_addPost (site : Site) (post : Post) :
    Bears site (site.addPost post).1 := by
  constructor
  · intro other charter held
    have apart : other ≠ site.posts.size := by
      intro same
      rw [same, charter?_size] at held
      cases held
    rw [charter?_addPost, if_neg apart]
    exact held
  · intro other started
    have apart : other ≠ site.posts.size := by
      intro same
      rw [same, job_size] at started
      exact started rfl
    rw [job_addPost, if_neg apart]
    exact started
  · intro other tended
    have apart : other ≠ site.posts.size := by
      intro same
      rw [same, job_size] at tended
      cases tended.1
    rw [job_addPost, if_neg apart]
    exact tended

/-! ## The bodies of rounds -/

/-- A round whose body is one of these. -/
def HasBody (bodies : Body → Prop) (site : Site) (round : Nat) : Prop :=
  (∃ graces, site.charter? round = some (some graces)) ∧ bodies (site.job round).body

def IsOpen (site : Site) (round : Nat) : Prop :=
  site.HasBody (· = .unlaunched) round

variable {post round : Nat}

theorem hasBody_of_posts (bodies : Body → Prop) (posts : after.posts = before.posts)
    (has : after.HasBody bodies round) : before.HasBody bodies round := by
  unfold HasBody charter? at has ⊢
  rw [posts, job_of_posts posts] at has
  exact has

theorem Tends.hasBody_of_ne (bodies : Body → Prop) {sent : Signal → Prop}
    (tends : Tends post sent before after) (apart : round ≠ post)
    (has : after.HasBody bodies round) : before.HasBody bodies round := by
  obtain ⟨kind, body⟩ := has
  rw [tends.charter] at kind
  rw [tends.job round apart] at body
  exact ⟨kind, body⟩

theorem Tends.hasBody (bodies : Body → Prop) {sent : Signal → Prop}
    (tends : Tends post sent before after)
    (own : bodies (after.job post).body → bodies (before.job post).body)
    (has : after.HasBody bodies round) : before.HasBody bodies round := by
  by_cases same : round = post
  · obtain ⟨kind, body⟩ := has
    rw [tends.charter] at kind
    rw [same] at body kind ⊢
    exact ⟨kind, own body⟩
  · exact tends.hasBody_of_ne bodies same has

theorem hasBody_of_addPost_of_ne (bodies : Body → Prop) {added : Post}
    (apart : round ≠ site.posts.size) (has : (site.addPost added).1.HasBody bodies round) :
    site.HasBody bodies round := by
  obtain ⟨kind, body⟩ := has
  rw [charter?_addPost, if_neg apart] at kind
  rw [job_addPost, if_neg apart] at body
  exact ⟨kind, body⟩

theorem hasBody_of_addPost (bodies : Body → Prop) {added : Post}
    (other : added.duty.graces? = none ∨ ¬ bodies added.job.body)
    (has : (site.addPost added).1.HasBody bodies round) : site.HasBody bodies round := by
  by_cases newest : round = site.posts.size
  · obtain ⟨⟨graces, kind⟩, body⟩ := has
    rw [charter?_addPost, if_pos newest] at kind
    rw [job_addPost, if_pos newest] at body
    rcases other with gate | unlike
    · rw [gate] at kind
      cases kind
    · exact absurd body unlike
  · exact hasBody_of_addPost_of_ne bodies newest has

/-! ## Deeds -/

/-- What a supervisor takes for a gate and for a round are a gate and a round. -/
structure Owns (site : Site) (supervisor : Supervisor) : Prop where
  gates : ∀ gate, supervisor.channel.gate = some gate →
    site.charter? gate = some none
  rounds : ∀ round, supervisor.current = some round →
    ∃ graces, site.charter? round = some (some graces)

theorem Owns.bears {supervisor : Supervisor} (owns : before.Owns supervisor)
    (bears : Bears before after) : after.Owns supervisor := by
  constructor
  · exact fun gate opened => bears.charter (owns.gates gate opened)
  · intro round current
    obtain ⟨graces, held⟩ := owns.rounds round current
    exact ⟨graces, bears.charter held⟩

/-- The job of a round that was not started and is stopped. -/
def withdrawal (supervisor : Supervisor) : StopCall.Step :=
  ⟨({ supervisor.job with stopClaimed := true }).requestStop.withdraw,
    [.hook .stop], .returned⟩

/-- What a run of the supervisor at a position may do. -/
inductive Deed (index : Nat) : Site → Site → Prop where
  /-- Something on the host, or a report. -/
  | beside {before after : Site} (now : after.now = before.now)
      (posts : after.posts = before.posts)
      (supervisors : after.supervisors = before.supervisors)
      (events : after.events = before.events)
      (signals : after.signals = before.signals) : Deed index before after
  | posts {site : Site} {event : Event} (other : event ≠ .restartScheduled) :
      Deed index site (site.postEvent index event)
  /-- A restart is scheduled only while no stop is requested. -/
  | schedules {site : Site} {supervisor : Supervisor}
      (held : site.supervisor? index = some supervisor)
      (wanted : supervisor.stopRequested = false) :
      Deed index site (site.postEvent index .restartScheduled)
  | updates {site : Site} {old new : Supervisor}
      (held : site.supervisor? index = some old)
      (settings : new.settings = old.settings)
      (stopRequested : new.stopRequested = old.stopRequested)
      (owns : site.Owns new) : Deed index site (site.setSupervisor index new)
  | opensGate {site : Site} {job : Job} (gate : Gate) (tended : job.IsTended) :
      Deed index site (site.addPost ⟨job, .gate gate⟩).1
  /-- Work on a gate, or the stop of its job. -/
  | serves {before after : Site} {gate : Nat}
      (guarded : before.charter? gate = some none)
      (tends : Tends gate (fun _ => False) before after)
      (endures : (before.job gate).Endures (after.job gate)) :
      Deed index before after
  | opensRound {site : Site} {supervisor : Supervisor}
      (held : site.supervisor? index = some supervisor) :
      Deed index site
        (site.addPost ⟨supervisor.job, .application supervisor.application index⟩).1
  /-- A round is launched only while no stop is requested. -/
  | launches {site : Site} {supervisor : Supervisor} {job : Job} (round : Nat)
      (held : site.supervisor? index = some supervisor)
      (wanted : supervisor.stopRequested = false)
      (fresh : site.job round = supervisor.job)
      (starts : supervisor.job.start = .ok job) :
      Deed index site (site.setJob round job)
  | withdraws {site : Site} {supervisor : Supervisor} (round : Nat)
      (held : site.supervisor? index = some supervisor)
      (fresh : site.job round = supervisor.job) :
      Deed index site (site.commit round (withdrawal supervisor))
  /-- The stop of a round that has ended is a formality. -/
  | claims {site : Site} (round : Nat) (exited : (site.job round).exitFlag = true) :
      Deed index site
        (site.setJob round { site.job round with stopClaimed := true })

abbrev Deeds (index : Nat) : Site → Site → Prop :=
  Relation.ReflTransGen (Deed index)

/-- A job that no other task relies on may be set to another one. -/
theorem bears_of_unstarted {round : Nat} {sent : Signal → Prop}
    (tends : Tends round sent before after)
    (created : (before.job round).phase = .created)
    (idle : (before.job round).body.hasTask = false) : Bears before after := by
  apply tends.bears
  · exact fun started => absurd created started
  · intro tended
    rw [tended.1] at idle
    cases idle

theorem endures_setJob {post : Nat} {job : Job}
    (endures : (site.job post).Endures job) :
    (site.job post).Endures ((site.setJob post job).job post) := by
  rcases job_setJob_or site post job with set | same
  · rw [set]
    exact endures
  · rw [same]
    exact .refl _

theorem endures_commit {post : Nat} {step : StopCall.Step}
    (endures : (site.job post).Endures step.job) :
    (site.job post).Endures ((site.commit post step).job post) := by
  rcases job_commit_or site post step with set | same
  · rw [set]
    exact endures
  · rw [same]
    exact .refl _

theorem Deed.bears (deed : Deed index before after) : Bears before after := by
  cases deed with
  | beside now posts supervisors events signals => exact bears_of_posts posts
  | posts other => exact bears_of_posts rfl
  | schedules held wanted => exact bears_of_posts rfl
  | updates held settings stopRequested owns => exact bears_of_posts rfl
  | opensGate gate tended => exact bears_addPost before _
  | serves guarded tends endures => exact tends.bears_of_endures endures
  | opensRound held => exact bears_addPost before _
  | launches round held wanted fresh starts =>
      apply bears_of_unstarted (tends_setJob before round (fun _ => True) _)
      · rw [fresh]
        rfl
      · rw [fresh]
        rfl
  | withdraws round held fresh =>
      apply bears_of_unstarted
        (tends_commit before round _ fun _ _ _ _ => trivial :
          Tends round (fun _ => True) before _)
      · rw [fresh]
        rfl
      · rw [fresh]
        rfl
  | claims round exited =>
      exact (tends_setJob before round (fun _ => True) _).bears_of_endures
        (endures_setJob (Job.endures_claim _))

theorem bears_of_deeds (deeds : Deeds index before after) : Bears before after := by
  induction deeds with
  | refl => exact .refl before
  | tail _ deed induction => exact induction.trans deed.bears

end Site

end Overseer
