import Overseer.Supervision.Bodies

/-!
# Posts of a site

What the operations on a site make of its posts.  `Guards` says that a gate is
guarded at a position and that nobody has told its job to end; a step of such a
gate is a step of the gate alone.
-/

namespace Overseer

namespace Site

/-! ## Reports -/

theorem reportAll_eq (site : Site) (notices : List Notice) :
    ∃ reported, site.reportAll notices = { site with notices := reported } := by
  induction notices generalizing site with
  | nil => exact ⟨site.notices, rfl⟩
  | cons notice notices induction =>
      obtain ⟨reported, same⟩ := induction (site.report notice)
      exact ⟨reported, same⟩

@[simp] theorem reportAll_posts (site : Site) (notices : List Notice) :
    (site.reportAll notices).posts = site.posts := by
  obtain ⟨_, same⟩ := reportAll_eq site notices
  rw [same]

@[simp] theorem reportAll_host (site : Site) (notices : List Notice) :
    (site.reportAll notices).host = site.host := by
  obtain ⟨_, same⟩ := reportAll_eq site notices
  rw [same]

@[simp] theorem reportAll_now (site : Site) (notices : List Notice) :
    (site.reportAll notices).now = site.now := by
  obtain ⟨_, same⟩ := reportAll_eq site notices
  rw [same]

/-! ## Jobs and gates -/

theorem job_setGate (site : Site) (index : Nat) (gate : Gate) (other : Nat) :
    (site.setGate index gate).job other = site.job other := by
  unfold job setGate
  simp only [Array.getElem?_modify]
  split
  · cases site.posts[other]? <;> rfl
  · rfl

theorem gate?_setGate {site : Site} {index : Nat} {gate : Gate}
    (guarded : site.gate? index = some gate) (next : Gate) :
    (site.setGate index next).gate? index = some next := by
  unfold gate? at guarded ⊢
  unfold setGate
  simp only [Array.getElem?_modify, if_true]
  cases held : site.posts[index]? with
  | none => simp [held] at guarded
  | some post => rfl

theorem duty_setJob (site : Site) (index : Nat) (job : Job) (other : Nat) :
    ((site.setJob index job).posts[other]?).map Post.duty =
      (site.posts[other]?).map Post.duty := by
  unfold setJob
  simp only [Array.getElem?_modify]
  split
  · cases site.posts[other]? <;> rfl
  · rfl

theorem gate?_setJob (site : Site) (index : Nat) (job : Job) (other : Nat) :
    (site.setJob index job).gate? other = site.gate? other := by
  unfold gate?
  rw [duty_setJob]

theorem job_setJob {site : Site} {index : Nat} (known : index < site.posts.size)
    (job : Job) : (site.setJob index job).job index = job := by
  unfold Site.job setJob
  simp [Array.getElem_modify, known]

theorem lt_size_of_gate? {site : Site} {index : Nat} {gate : Gate}
    (guarded : site.gate? index = some gate) : index < site.posts.size := by
  unfold gate? at guarded
  cases held : site.posts[index]? with
  | none => simp [held] at guarded
  | some post => exact (Array.getElem?_eq_some_iff.mp held).1

/-! ## Guarded gates -/

/-- A gate is guarded at a position, and nobody has told its job to end. -/
structure Guards (site : Site) (index : Nat) (gate : Gate) : Prop where
  guarded : site.gate? index = some gate
  unstopped : (site.job index).stopFlag = false
  unaborted : (site.job index).aborted = false

theorem Guards.congr {before after : Site} {index : Nat} {gate : Gate}
    (guards : before.Guards index gate) (posts : after.posts = before.posts) :
    after.Guards index gate := by
  obtain ⟨guarded, unstopped, unaborted⟩ := guards
  unfold gate? at guarded
  unfold job at unstopped unaborted
  rw [← posts] at guarded unstopped unaborted
  exact ⟨guarded, unstopped, unaborted⟩

theorem Guards.setGate {site : Site} {index : Nat} {gate : Gate}
    (guards : site.Guards index gate) (next : Gate) :
    (site.setGate index next).Guards index next := by
  refine ⟨gate?_setGate guards.guarded next, ?_, ?_⟩
  · rw [job_setGate]
    exact guards.unstopped
  · rw [job_setGate]
    exact guards.unaborted

theorem Guards.enter {site : Site} {index : Nat} {gate : Gate}
    (guards : site.Guards index gate) :
    (site.setJob index (site.job index).enter).Guards index gate := by
  have entered := job_setJob (lt_size_of_gate? guards.guarded) (site.job index).enter
  refine ⟨?_, ?_, ?_⟩
  · rw [gate?_setJob]
    exact guards.guarded
  · rw [entered]
    exact guards.unstopped
  · rw [entered]
    exact guards.unaborted

/-- A step of a guarded gate is a step of the gate alone: it changes the gate and
the sockets as `Gate.step` does. -/
theorem guard_eq_step {site : Site} {index : Nat} {gate : Gate}
    (guards : site.Guards index gate) (watch next : Gate.Watch)
    (waits : (gate.step site.now false site.host.sockets watch).waits = some next) :
    let step := gate.step site.now false site.host.sockets watch
    let guarded := site.guard index gate watch
    guarded.1.Guards index step.gate ∧
      guarded.1.host.sockets = step.sockets ∧
      guarded.1.now = site.now ∧ guarded.2 = some next := by
  intro step guarded
  have stepped : guarded =
      (((site.setSockets step.sockets).setGate index step.gate).reportAll
        step.notices, some next) := by
    simp only [guarded, guard, guards.unstopped]
    rw [waits]
  have kept : (site.setSockets step.sockets).Guards index gate :=
    guards.congr rfl
  rw [stepped]
  refine ⟨(kept.setGate step.gate).congr (reportAll_posts _ _), ?_, ?_, rfl⟩
  · rw [reportAll_host]
    rfl
  · rw [reportAll_now]
    rfl

end Site

end Overseer
