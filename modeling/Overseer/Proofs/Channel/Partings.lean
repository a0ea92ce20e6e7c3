import Overseer.Proofs.Channel.Turns
import Overseer.Proofs.Host.Listening

/-!
# What becomes of a channel

What a site is after a channel was opened, after the gate of a channel was told to stop,
and after a channel was closed or given up.  Each of these handles one post, which is what
`Handles` says; the files change at the path of the channel only.
-/

namespace Overseer

namespace Site

/-- A post is handled: its gate keeps its listener, and nothing happens to the sockets. -/
structure Handles (post : Nat) (before after : Site) : Prop where
  size : after.posts.size = before.posts.size
  others : ∀ other, other ≠ post → after.posts[other]? = before.posts[other]?
  gate : ∀ {gate}, before.gate? post = some gate →
    ∃ next, after.gate? post = some next ∧ next.listener = gate.listener
  sockets : after.host.sockets = before.host.sockets

variable {post : Nat} {gate : Gate} {site before after : Site} {path : String}

theorem Handles.trans {third : Site} (first : Handles post before after)
    (second : Handles post after third) : Handles post before third := by
  refine ⟨second.size.trans first.size, ?_, ?_, second.sockets.trans first.sockets⟩
  · intro other apart
    rw [second.others other apart, first.others other apart]
  · intro gate guarded
    obtain ⟨next, held, same⟩ := first.gate guarded
    obtain ⟨last, holds, alike⟩ := second.gate held
    exact ⟨last, holds, alike.trans same⟩

theorem handles_of_posts (posts : after.posts = before.posts)
    (sockets : after.host.sockets = before.host.sockets) (post : Nat) :
    Handles post before after := by
  refine ⟨by rw [posts], fun other _ => by rw [posts], ?_, sockets⟩
  intro gate guarded
  exact ⟨gate, by rw [gate?_of_posts posts]; exact guarded, rfl⟩

theorem handles_setJob (site : Site) (post : Nat) (job : Job) :
    Handles post site (site.setJob post job) := by
  refine ⟨by simp [setJob], ?_, ?_, rfl⟩
  · intro other apart
    simp only [setJob, Array.getElem?_modify, if_neg (Ne.symm apart)]
  · intro gate guarded
    exact ⟨gate, by rw [gate?_setJob]; exact guarded, rfl⟩

theorem handles_setGate (guarded : site.gate? post = some gate) {next : Gate}
    (same : next.listener = gate.listener) : Handles post site (site.setGate post next) := by
  refine ⟨by simp [setGate], ?_, ?_, rfl⟩
  · intro other apart
    simp only [setGate, Array.getElem?_modify, if_neg (Ne.symm apart)]
  · intro held holds
    rw [guarded] at holds
    cases holds
    exact ⟨next, gate?_setGate guarded next, same⟩

/-! ## Stops -/

/-- A gate has no child to send signals to: a stop changes its job and reports. -/
theorem commit_of_gate (guarded : site.gate? post = some gate) (step : StopCall.Step) :
    ∃ newer, site.commit post step =
      { site.setJob post step.job with notices := newer ++ site.notices } := by
  have unattended {site : Site} (guarded : site.gate? post = some gate) :
      site.application? post = none := by
    unfold gate? at guarded
    unfold application?
    split at guarded
    · rename_i held
      rw [held]
    · cases guarded
  have effects (effects : List StopEffect) (site : Site)
      (guarded : site.gate? post = some gate) :
      ∃ newer, effects.foldl (applyEffect post) site =
        { site with notices := newer ++ site.notices } := by
    induction effects generalizing site with
    | nil => exact ⟨[], rfl⟩
    | cons effect effects induction =>
        cases effect with
        | hook hook =>
            have silent : applyEffect post site (.hook hook) = site := by
              simp only [applyEffect, runHook, unattended guarded]
            rw [List.foldl_cons, silent]
            exact induction site guarded
        | report notice =>
            obtain ⟨newer, same⟩ := induction (site.report notice) guarded
            refine ⟨newer ++ [notice], ?_⟩
            rw [List.append_assoc]
            exact same
  exact effects step.effects (site.setJob post step.job) (by rw [gate?_setJob]; exact guarded)

theorem handles_commit (guarded : site.gate? post = some gate) (step : StopCall.Step) :
    Handles post site (site.commit post step) ∧ (site.commit post step).job post = step.job ∧
      (site.commit post step).host = site.host := by
  obtain ⟨notices, same⟩ := commit_of_gate guarded step
  rw [same]
  refine ⟨?_, job_setJob (lt_size_of_gate? guarded) step.job, rfl⟩
  refine (handles_setJob site post step.job).trans ?_
  apply handles_of_posts
  · rfl
  · rfl

/-! ## Ends -/

/-- What is left of a rendezvous: its path is free, or it cannot be removed. -/
inductive Removes (path : String) (tree : FileTree) : FileTree → Option SystemError → Prop where
  | removed {next : FileTree} (removes : tree.removeIfPresent path = .ok next) :
      Removes path tree next none
  | kept {error : SystemError} (refused : tree.removeIfPresent path = .error error) :
      Removes path tree tree (some error)

theorem removeRendezvous_removes (site : Site) (path : String) :
    ∃ tree failure, Removes path site.host.tree tree failure ∧
      site.removeRendezvous path =
        ({ site with host := { site.host with tree := tree } },
          match failure with
          | none => .ok ()
          | some error => .error error) := by
  unfold removeRendezvous
  cases removal : site.host.tree.removeIfPresent path with
  | ok tree => exact ⟨tree, none, .removed removal, rfl⟩
  | error error => exact ⟨site.host.tree, some error, .kept removal, rfl⟩

/-- A channel that is closed forgets its commands; a removal that failed is reported. -/
theorem clearChannel_eq (guarded : site.gate? post = some gate) (path : String) :
    ∃ tree failure newer, Removes path site.host.tree tree failure ∧
      site.clearChannel path post =
        { site.setGate post { gate with queue := [] } with
          host := { site.host with tree := tree }, notices := newer ++ site.notices } ∧
      ∀ error ∈ failure, .removalFailed path error ∈ newer := by
  obtain ⟨tree, failure, removes, removal⟩ := removeRendezvous_removes site path
  have held (notices : List Notice) :
      ({ site with host := { site.host with tree := tree }, notices := notices } :
        Site).gate? post = some gate := guarded
  unfold clearChannel
  rw [removal]
  cases failure with
  | none =>
      dsimp only
      rw [show ({ site with host := { site.host with tree := tree } } : Site).gate? post =
        some gate from guarded]
      dsimp only
      split
      · exact ⟨tree, none, [], removes, rfl, by simp⟩
      · exact ⟨tree, none, [_], removes, rfl, by simp⟩
  | some error =>
      dsimp only [report]
      rw [held]
      dsimp only
      split
      · exact ⟨tree, some error, [.removalFailed path error], removes, rfl, by simp⟩
      · exact ⟨tree, some error, [_, .removalFailed path error], removes, rfl, by simp⟩

theorem handles_clearChannel (guarded : site.gate? post = some gate) (path : String) :
    Handles post site (site.clearChannel path post) ∧
      (site.clearChannel path post).job post = site.job post := by
  obtain ⟨tree, _, newer, _, cleared, _⟩ := clearChannel_eq guarded path
  rw [cleared]
  refine ⟨?_, job_setGate site post _ post⟩
  have emptied : Handles post site (site.setGate post { gate with queue := [] }) :=
    handles_setGate guarded rfl
  refine emptied.trans ?_
  apply handles_of_posts
  · rfl
  · rfl

theorem abandonChannel_eq {channel : Channel} (isOpen : channel.gate = some post)
    (site : Site) :
    ∃ tree failure, Removes channel.path site.host.tree tree failure ∧
      site.abandonChannel channel =
        { site.setJob post (site.job post).abort with
          host := { site.host with tree := tree } } := by
  obtain ⟨tree, failure, removes, removal⟩ :=
    removeRendezvous_removes (site.setJob post (site.job post).abort) channel.path
  refine ⟨tree, failure, removes, ?_⟩
  unfold abandonChannel
  rw [isOpen]
  dsimp only
  rw [removal]
  rfl

theorem handles_abandonChannel {channel : Channel} (isOpen : channel.gate = some post)
    (known : post < site.posts.size) :
    Handles post site (site.abandonChannel channel) ∧
      (site.abandonChannel channel).job post = (site.job post).abort := by
  obtain ⟨tree, _, _, abandoned⟩ := abandonChannel_eq isOpen site
  rw [abandoned]
  refine ⟨?_, job_setJob known _⟩
  refine (handles_setJob site post (site.job post).abort).trans ?_
  apply handles_of_posts
  · rfl
  · rfl

/-! ## Openings -/

/-- The job of a gate that was started and not entered. -/
def gateJob : Job :=
  { (Job.fresh "command-stream" defaultKillGrace).moveTo .running with
    restartMark := false
    body := .scheduled }

theorem isFree_gateJob : gateJob.IsFree :=
  ⟨rfl, rfl, rfl, rfl, rfl⟩

/-- What opening a channel that is closed comes to. -/
inductive Opening (site : Site) (channel : Channel) :
    Site × Except Fault (Channel × Option Nat) → Prop where
  /-- The path was not taken; the files may have been changed on the way. -/
  | fails (tree : FileTree) (error : SystemError)
      (refused : site.host.listen channel.path =
        ({ site.host with tree := tree }, .error error)) :
      Opening site channel
        ({ site with host := { site.host with tree := tree } }, .error (.system error))
  | opens (tree : FileTree)
      (listens : site.host.listen channel.path =
        ({ site.host with tree := tree, sockets := site.host.sockets.listen.1 },
          .ok site.host.sockets.listen.2)) :
      Opening site channel
        ({ site with
            host := { site.host with tree := tree, sockets := site.host.sockets.listen.1 }
            posts := site.posts.push
              ⟨gateJob, .gate ⟨site.host.sockets.listen.2, channel.connectionTimeout, []⟩⟩ },
          .ok ({ channel with gate := some site.posts.size }, some site.posts.size))

theorem openChannel_of_isOpen {channel : Channel} (isOpen : channel.isOpen = true)
    (site : Site) : site.openChannel channel = (site, .ok (channel, none)) := by
  unfold openChannel
  rw [if_pos isOpen]

theorem opening_openChannel {channel : Channel} (closed : channel.gate = none) (site : Site) :
    Opening site channel (site.openChannel channel) := by
  have shut : ¬ channel.isOpen = true := by
    simp [Channel.isOpen, closed]
  unfold openChannel
  rw [if_neg shut]
  rcases site.host.listen_cases channel.path with ⟨tree, error, refused⟩ | ⟨tree, listens⟩
  · rw [refused]
    exact .fails tree error refused
  · rw [listens]
    exact .opens tree listens

theorem path_of_openChannel {channel next : Channel} {found : Option Nat}
    (opens : site.openChannel channel = (after, .ok (next, found))) :
    next.path = channel.path := by
  cases closed : channel.gate with
  | some post =>
      rw [openChannel_of_isOpen (by simp [Channel.isOpen, closed])] at opens
      cases opens
      rfl
  | none =>
      have opening := opening_openChannel closed site
      rw [opens] at opening
      cases opening
      rfl

end Site

end Overseer
