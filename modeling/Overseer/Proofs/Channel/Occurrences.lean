import Overseer.Proofs.Channel.Partings
import Overseer.Proofs.Channel.Streams

/-!
# What happens to streams

Whatever happens to streams that are `Sound` leaves them sound: one lemma for each kind of
occurrence, and the run by induction.
-/

namespace Overseer

open Diary (Entry Orderly session?)

namespace Streams

variable {index post : Nat} {stream next : Stream} {before after streams : Streams}

/-! ## Beside the gates -/

/-- What changes no post, no task and no entry of the diary, and no listener but by clients
who connect. -/
structure IsBeside (before after : Streams) : Prop where
  posts : after.site.posts = before.site.posts
  tasks : after.tasks = before.tasks
  diary : after.diary = before.diary
  listeners : after.site.host.sockets.listeners.size = before.site.host.sockets.listeners.size
  connections : before.site.host.sockets.connections.size ≤
    after.site.host.sockets.connections.size
  reaches : ∀ number, Sockets.Reaches number before.site.host.sockets after.site.host.sockets

theorem IsBeside.leaves (beside : IsBeside before after) (post : Nat) :
    Leaves post before after :=
  ⟨by rw [beside.posts], by rw [beside.tasks], fun _ => beside.reaches _,
    [], beside.diary, by simp⟩

theorem IsBeside.acts (beside : IsBeside before after) (grounded : before.Grounded)
    (post : Nat) : Acts post before after where
  size := by rw [beside.posts]
  gate := fun {gate} guarded => ⟨gate, by rw [(beside.leaves post).gate?]; exact guarded, rfl⟩
  minds := by
    intro task held
    rw [beside.tasks] at held
    exact grounded.minds held
  length := by rw [beside.tasks]
  listeners := beside.listeners
  connections := beside.connections
  leaves := fun other _ => beside.leaves other
  diary := ⟨[], beside.diary, by simp⟩

theorem Sound.beside (sound : before.Sound) (beside : IsBeside before after)
    (same : after.all = before.all) : after.Sound := by
  have attends (post : Nat) : after.Attends post ↔ before.Attends post := by
    unfold Attends
    rw [same]
  refine sound.acts (beside.acts sound.grounded 0) ?_ ?_ (fun other _ => attends other) ?_
  · rw [beside.diary]
    exact sound.orderly
  · intro index stream found
    rw [beside.diary]
    rw [same] at found
    exact sound.session found
  · intro known
    exact (sound.stands 0 known).leaves sound.grounded (beside.leaves 0) (attends 0)

/-- The owner of a stream begins or ceases to wait for a command. -/
theorem Sound.waits (sound : streams.Sound) (found : streams.all[index]? = some stream)
    (same : next.channel = stream.channel)
    (open' : ∀ call, stream.pending ≠ .stop call) (still : ∀ call, next.pending ≠ .stop call) :
    (streams.update index next).Sound := by
  have beside : IsBeside streams (streams.update index next) :=
    ⟨rfl, rfl, rfl, rfl, Nat.le_refl _, fun _ => Sockets.reaches_of_eq rfl⟩
  have attends (post : Nat) :
      (streams.update index next).Attends post ↔ streams.Attends post := by
    apply attends_of_set found rfl
    unfold Stream.IsServed
    rw [same]
    exact and_congr_right fun _ => ⟨fun _ => open', fun _ => still⟩
  refine sound.acts (beside.acts sound.grounded 0) sound.orderly ?_
    (fun other _ => attends other) ?_
  · apply sound.session_of_set found rfl
    · rw [same]
      exact sound.session found
    · exact fun _ _ => rfl
  · intro known
    exact (sound.stands 0 known).leaves sound.grounded (beside.leaves 0) (attends 0)

/-! ## Clients, time and files -/

theorem Sound.withSockets (sound : streams.Sound) {sockets : Sockets}
    (listeners : sockets.listeners = streams.site.host.sockets.listeners)
    (connections : streams.site.host.sockets.connections.size ≤ sockets.connections.size) :
    (streams.withSockets sockets).Sound := by
  refine sound.beside ⟨rfl, rfl, rfl, by rw [← listeners]; rfl, connections, ?_⟩ rfl
  intro number
  apply Sockets.reaches_of_eq
  unfold Sockets.listener
  rw [← listeners]
  rfl

theorem Sound.comes (sound : streams.Sound) {connection : Nat} {bytes : List UInt8}
    {sockets : Sockets}
    (comes : Sockets.Comes connection bytes streams.site.host.sockets sockets) :
    (streams.withSockets sockets).Sound :=
  sound.withSockets comes.apart.listeners (Nat.le_of_eq comes.apart.size.symm)

theorem Sound.connects (sound : streams.Sound) (listener : Nat) :
    (streams.withSockets (streams.site.host.sockets.connect listener).1).Sound := by
  refine sound.beside ⟨rfl, rfl, rfl, ?_, ?_, fun number => ?_⟩ rfl
  · exact Sockets.listeners_size_connect _ _
  · exact Nat.le_trans (Nat.le_succ _) (Nat.le_of_eq (Sockets.size_connect _ _).symm)
  · exact Sockets.reaches_connect _ listener number

theorem Sound.alters (sound : streams.Sound) (tree : FileTree) :
    (streams.withSite
      { streams.site with host := { streams.site.host with tree := tree } }).Sound :=
  sound.beside ⟨rfl, rfl, rfl, rfl, Nat.le_refl _, fun _ => Sockets.reaches_of_eq rfl⟩ rfl

/-! ## Commands -/

theorem acts_of_handles (grounded : before.Grounded) (known : post < before.site.posts.size)
    (handles : Site.Handles post before.site after.site) (tasks : after.tasks = before.tasks)
    (newer : Diary) (diary : after.diary = newer ++ before.diary)
    (about : ∀ entry ∈ newer, (∀ mentioned, entry.Mentions mentioned → mentioned = post) ∧
      ∀ index gate made, entry ≠ .opened index gate made) : Acts post before after where
  size := handles.size
  gate := handles.gate
  minds := by
    intro task held
    rw [tasks] at held
    exact grounded.minds held
  length := by rw [tasks]
  listeners := by rw [handles.sockets]
  connections := Nat.le_of_eq (by rw [handles.sockets])
  leaves := by
    intro other apart
    refine ⟨handles.others other apart, by rw [tasks], ?_, newer, diary, ?_⟩
    · intro gate _
      exact Sockets.reaches_of_eq (by rw [handles.sockets])
    · intro entry member mentions
      exact apart ((about entry member).1 other mentions)
  diary := by
    refine ⟨newer, diary, ?_⟩
    intro entry member
    refine ⟨?_, (about entry member).2⟩
    intro mentioned mentions
    rw [(about entry member).1 mentioned mentions]
    exact known

theorem Serves.takes {gate : Gate} {watch : Gate.Watch} (serves : streams.Serves post gate watch)
    {command : Command} {rest : List Command} (queued : gate.queue = command :: rest)
    (same : after.site = streams.site.setGate post { gate with queue := rest })
    (tasks : after.tasks = streams.tasks)
    (diary : after.diary = .returned index post command :: streams.diary) :
    after.Serves post { gate with queue := rest } watch := by
  constructor
  · rw [same]
    exact Site.gate?_setGate serves.guarded _
  · rw [same, Site.job_setGate]
    exact serves.free
  · rw [tasks]
    exact serves.task
  · rw [same]
    exact serves.isOpen
  · rw [diary]
    have decoded : Diary.decodedBy post (.returned index post command :: streams.diary) =
        Diary.decodedBy post streams.diary := rfl
    have returned : Diary.returnedBy post (.returned index post command :: streams.diary) =
        Diary.returnedBy post streams.diary ++ [command] := by
      simp [Diary.returnedBy, Diary.Entry.returned?]
    rw [decoded, returned, serves.balanced, queued]
    simp
  · intro index made opened
    rw [diary] at opened
    rw [same]
    rcases List.mem_cons.mp opened with told | earlier
    · cases told
    · exact serves.recent earlier

theorem Sound.takes (sound : streams.Sound) (found : streams.all[index]? = some stream)
    (served : stream.IsServed post) {gate : Gate} {watch : Gate.Watch}
    (serves : streams.Serves post gate watch) {command : Command} {rest : List Command}
    (queued : gate.queue = command :: rest)
    (same : after.site = streams.site.setGate post { gate with queue := rest })
    (set : after.all = streams.all.set index { stream with pending := .nothing })
    (tasks : after.tasks = streams.tasks)
    (diary : after.diary = .returned index post command :: streams.diary) : after.Sound := by
  have session : session? index streams.diary = some post := by
    rw [← sound.session found, served.1]
  have handles : Site.Handles post streams.site after.site := by
    rw [same]
    exact Site.handles_setGate serves.guarded rfl
  have attends (other : Nat) : after.Attends other ↔ streams.Attends other := by
    refine attends_of_set found set (and_congr_right fun _ => ?_)
    exact ⟨fun _ => served.2, fun _ _ => Pending.noConfusion⟩
  have acts : Acts post streams after := by
    refine acts_of_handles sound.grounded (Site.lt_size_of_gate? serves.guarded) handles tasks
      [.returned index post command] diary ?_
    intro entry member
    rw [List.mem_singleton.mp member]
    exact ⟨fun mentioned mentions => mentions.symm, fun _ _ _ => Entry.noConfusion⟩
  refine sound.acts acts ?_ ?_ (fun other _ => attends other) ?_
  · rw [diary]
    refine .writes (.returned (rest ++ watch.commands) session ?_) sound.orderly
    rw [serves.balanced, queued]
    rfl
  · apply sound.session_of_set found set
    · rw [diary, served.1]
      exact session.symm
    · intro other _
      rw [diary]
      rfl
  · intro _
    refine .serves ((attends post).mpr ⟨index, stream, found, served⟩)
      { gate with queue := rest } watch ?_
    exact serves.takes queued same tasks diary

theorem Sound.look (sound : streams.Sound) (found : streams.all[index]? = some stream)
    (unstopped : ∀ call, stream.pending ≠ .stop call) (deadline : Instant) :
    (streams.look index stream deadline).Sound := by
  unfold Streams.look
  split
  · exact sound
  · rename_i post held
    obtain ⟨gate, watch, serves⟩ := sound.serves found ⟨held, unstopped⟩
    unfold Site.takeCommand?
    rw [serves.guarded]
    dsimp only
    cases queued : gate.queue with
    | nil =>
        refine sound.waits found rfl unstopped ?_
        intro call
        dsimp only
        split
        · exact Pending.noConfusion
        · exact Pending.noConfusion
    | cons command rest =>
        exact sound.takes found ⟨held, unstopped⟩ serves queued rfl rfl rfl rfl

/-! ## Ends -/

/-- The stream at a post is being closed, or is closed or dropped, and its gate was told to
end. -/
theorem Sound.calls_off (sound : before.Sound) (found : before.all[index]? = some stream)
    (held : stream.channel.gate = some post) (acts : Acts post before after)
    (set : after.all = before.all.set index next)
    (unserved : ∀ post, ¬ next.IsServed post) (orderly : Orderly after.diary)
    (own : next.channel.gate = session? index after.diary)
    (others : ∀ other, other ≠ index →
      session? other after.diary = session? other before.diary)
    (calledOff : (after.site.job post).IsCalledOff) : after.Sound := by
  have known : index < before.all.length := (List.getElem?_eq_some_iff.mp found).1
  refine sound.acts acts orderly (sound.session_of_set found set own others) ?_ ?_
  · intro other apart
    apply attends_of_set found set
    constructor
    · exact fun served => absurd served (unserved other)
    · rintro ⟨claims, _⟩
      rw [held] at claims
      exact absurd (Option.some.inj claims).symm apart
  · intro _
    refine .ends ?_ calledOff
    rintro ⟨place, rival, there, served⟩
    rw [set] at there
    by_cases here : index = place
    · subst here
      rw [List.getElem?_set_self known] at there
      cases there
      exact unserved post served
    · rw [List.getElem?_set_ne here] at there
      exact here (sound.owner found held there served.1).symm

theorem unserved_shut (stream : Stream) (post : Nat) : ¬ stream.shut.IsServed post := by
  rintro ⟨held, _⟩
  cases held

theorem Sound.stopGate (sound : streams.Sound) (found : streams.all[index]? = some stream)
    (held : stream.channel.gate = some post) {step : StopCall.Step}
    (calledOff : step.job.IsCalledOff) :
    (streams.stopGate index stream post
      (streams.site.commit post step, step.standing)).Sound := by
  have session : session? index streams.diary = some post := by
    rw [← sound.session found, held]
  have known : post < streams.site.posts.size := by
    obtain ⟨made, opened⟩ := Diary.exists_opened_of_session? session
    exact sound.grounded.recorded _ opened post rfl
  obtain ⟨gate, guarded⟩ := sound.grounded.gates post known
  obtain ⟨handles, job, _⟩ := Site.handles_commit guarded step
  obtain ⟨still, holds, _⟩ := handles.gate guarded
  obtain ⟨clears, cleared⟩ := Site.handles_clearChannel holds stream.channel.path
  have ends : (((streams.withSite ((streams.site.commit post step).clearChannel
      stream.channel.path post)).update index stream.shut).write [.closed index]).Sound := by
    refine sound.calls_off found held ?_ rfl (unserved_shut stream) ?_ ?_ ?_ ?_
    · refine acts_of_handles sound.grounded known (handles.trans clears) rfl [.closed index]
        rfl ?_
      intro entry member
      rw [List.mem_singleton.mp member]
      exact ⟨fun _ mentions => mentions.elim, fun _ _ _ => Entry.noConfusion⟩
    · have isOpen : session? index streams.diary ≠ none := by
        rw [session]
        simp
      exact .writes (.closed isOpen) sound.orderly
    · exact (if_pos rfl).symm
    · exact fun other apart => if_neg (Ne.symm apart)
    · show ((Site.clearChannel _ _ _).job post).IsCalledOff
      rw [cleared, job]
      exact calledOff
  cases step.standing with
  | waits call =>
      have acts : Acts post streams ((streams.withSite (streams.site.commit post step)).update
          index { stream with pending := .stop call }) :=
        acts_of_handles sound.grounded known handles rfl [] rfl (by simp)
      refine sound.calls_off found held acts rfl ?_ sound.orderly (held.trans session.symm)
        (fun _ _ => rfl) ?_
      · rintro other ⟨_, served⟩
        exact served call rfl
      · show ((streams.site.commit post step).job post).IsCalledOff
        rw [job]
        exact calledOff
  | returned => exact ends
  | crashed => exact ends

theorem Sound.dropStream (sound : streams.Sound) (found : streams.all[index]? = some stream)
    (unstopped : ∀ call, stream.pending ≠ .stop call) :
    (streams.dropStream index stream).Sound := by
  unfold Streams.dropStream
  split
  · exact sound
  · rename_i post held
    obtain ⟨gate, watch, serves⟩ := sound.serves found ⟨held, unstopped⟩
    have session : session? index streams.diary = some post := by
      rw [← sound.session found, held]
    have known := Site.lt_size_of_gate? serves.guarded
    obtain ⟨handles, job⟩ := Site.handles_abandonChannel held known
    refine sound.calls_off found held ?_ rfl (unserved_shut stream) ?_ ?_ ?_ ?_
    · refine acts_of_handles sound.grounded known handles rfl [.dropped index] rfl ?_
      intro entry member
      rw [List.mem_singleton.mp member]
      exact ⟨fun _ mentions => mentions.elim, fun _ _ _ => Entry.noConfusion⟩
    · have isOpen : session? index streams.diary ≠ none := by
        rw [session]
        simp
      exact .writes (.dropped isOpen) sound.orderly
    · exact (if_pos rfl).symm
    · exact fun other apart => if_neg (Ne.symm apart)
    · show ((streams.site.abandonChannel stream.channel).job post).IsCalledOff
      rw [job]
      exact serves.free.abort

/-! ## Turns of gates -/

/-- What a gate reads in a turn is what it decodes. -/
inductive Reads (post : Nat) (watch : Gate.Watch) (queue : List Command) (next : Gate.Watch)
    (after : List Command) : List Entry → Prop where
  | nothing (same : after ++ next.commands = queue ++ watch.commands) :
      Reads post watch queue next after []
  | decoded {connection : Nat} (command : Command)
      (reading : connection ∈ watch.connections)
      (more : after ++ next.commands = queue ++ watch.commands ++ [command]) :
      Reads post watch queue next after [.decoded post connection command]

theorem reads_readings {task : Activity} {watch next : Gate.Watch} {queue after : List Command}
    (minds : Site.Minds post watch task) (passes : Gate.Passes watch queue next after) :
    Reads post watch queue next after (readings task (some (.guard post next))) := by
  cases passes with
  | decodes command =>
      cases minds with
      | guards => exact .decoded command (by simp) (by simp [Gate.Watch.commands])
  | queues command =>
      cases minds with
      | guards => exact .nothing (by simp [Gate.Watch.commands])
  | idles same =>
      cases minds with
      | enters => exact .nothing (by rw [same])
      | guards =>
          cases watch with
          | accepting => exact .nothing (by rw [same])
          | offering command => exact .nothing (by rw [same])
          | reading connection reader deadline =>
              cases next with
              | accepting => exact .nothing rfl
              | reading _ _ _ => exact .nothing rfl
              | offering command => cases same

theorem readings_none (task : Activity) : readings task none = [] := by
  unfold readings
  split
  · rename_i absent
    cases absent
  · rfl

theorem diary_turn (streams : Streams) (post : Nat) (task : Activity) :
    (streams.turn post task).diary =
      readings task (streams.site.turn task).rest ++ streams.diary := rfl

theorem tasks_turn (streams : Streams) (post : Nat) (task : Activity) :
    (streams.turn post task).tasks = streams.tasks.set post (streams.site.turn task).rest := rfl

theorem acts_turn (grounded : streams.Grounded) {task : Activity} {gate last : Gate}
    (guarded : streams.site.gate? post = some gate)
    (confined : Site.Confined post gate.listener streams.site (streams.site.turn task).world)
    (still : (streams.site.turn task).world.gate? post = some last)
    (same : last.listener = gate.listener)
    (rest : ∀ next ∈ (streams.site.turn task).rest, ∃ watch, Site.Minds post watch next)
    {newer : Diary} (diary : (streams.turn post task).diary = newer ++ streams.diary)
    (about : ∀ entry ∈ newer, ∃ connection command, entry = .decoded post connection command) :
    Acts post streams (streams.turn post task) where
  size := confined.size
  gate := by
    intro held holds
    rw [guarded] at holds
    cases holds
    exact ⟨last, still, same⟩
  minds := by
    intro next held
    have known : post < streams.tasks.length := by
      rw [grounded.length]
      exact Site.lt_size_of_gate? guarded
    rw [tasks_turn, List.getElem?_set_self known] at held
    exact rest next (Option.some.inj held)
  length := by simp [Streams.turn]
  listeners := confined.around.listeners
  connections := Nat.le_of_eq confined.around.connections.symm
  leaves := by
    intro other apart
    refine ⟨confined.others other apart, List.getElem?_set_ne (Ne.symm apart), ?_, newer, diary, ?_⟩
    · intro held holds
      apply Sockets.reaches_of_eq
      apply confined.around.others
      intro shared
      exact apart (grounded.apart holds guarded shared)
    · intro entry member mentions
      obtain ⟨connection, command, rfl⟩ := about entry member
      exact apart mentions.symm
  diary := by
    refine ⟨newer, diary, ?_⟩
    intro entry member
    obtain ⟨connection, command, rfl⟩ := about entry member
    refine ⟨?_, fun _ _ _ => Entry.noConfusion⟩
    intro mentioned mentions
    cases mentions
    exact Site.lt_size_of_gate? guarded

theorem Serves.turn {task : Activity} {gate : Gate} {watch next : Gate.Watch}
    (serves : streams.Serves post gate watch) (known : post < streams.tasks.length)
    (minds : Site.Minds post watch task)
    (continues : Site.Continues post gate watch next streams.site (streams.site.turn task)) :
    ∃ last, (streams.turn post task).Serves post last next := by
  obtain ⟨step, goes, guarded, sockets⟩ := continues.goes
  have reads := reads_readings minds goes.passes
  rw [← continues.rest] at reads
  have diary := diary_turn streams post task
  generalize readings task (streams.site.turn task).rest = newer at reads diary
  have listener : (streams.turn post task).site.host.sockets.listener step.gate.listener =
      step.sockets.listener gate.listener := by
    rw [goes.listener, ← sockets]
    rfl
  refine ⟨step.gate, guarded, continues.free, ⟨.guard post next, ?_, .guards next⟩, ?_, ?_, ?_⟩
  · rw [tasks_turn, continues.rest, List.getElem?_set_self known]
  · rw [listener, goes.isOpen]
    exact serves.isOpen
  · rw [diary]
    have balanced := serves.balanced
    cases reads with
    | nothing same =>
        rw [same]
        exact balanced
    | decoded command _ more =>
        rw [Diary.decodedBy_append, Diary.returnedBy_append, balanced, more]
        simp [Diary.decodedBy, Diary.returnedBy, Entry.decoded?, Entry.returned?]
  · intro index made opened connection member
    rw [listener] at member
    rw [diary] at opened
    have earlier : .opened index post made ∈ streams.diary := by
      rcases List.mem_append.mp opened with late | early
      · cases reads with
        | nothing => cases late
        | decoded => cases List.mem_singleton.mp late
      · exact early
    exact serves.recent earlier connection (goes.connections connection member)

theorem Sound.turn (sound : streams.Sound) {task : Activity}
    (running : streams.tasks[post]? = some (some task)) : (streams.turn post task).Sound := by
  have grounded := sound.grounded
  have among : post < streams.tasks.length := (List.getElem?_eq_some_iff.mp running).1
  have known : post < streams.site.posts.size := by
    rw [← grounded.length]
    exact among
  have diary := diary_turn streams post task
  generalize told : readings task (streams.site.turn task).rest = newer at diary
  have session (quiet : ∀ index, ∀ entry ∈ newer, ¬ Entry.Changes index entry)
      {index : Nat} {stream : Stream} (found : streams.all[index]? = some stream) :
      stream.channel.gate = session? index (streams.turn post task).diary := by
    rw [diary, Diary.session?_append (quiet index)]
    exact sound.session found
  cases sound.stands post known with
  | serves attends gate watch serves =>
      obtain ⟨begun, held, minds⟩ := serves.task
      rw [running] at held
      cases held
      obtain ⟨next, continues⟩ := Site.continues_turn serves.guarded minds serves.free
        (grounded.listens serves.guarded)
      obtain ⟨last, serves'⟩ := serves.turn among minds continues
      obtain ⟨step, goes, guarded, _⟩ := continues.goes
      have reads := reads_readings minds goes.passes
      rw [← continues.rest, told] at reads
      refine sound.acts (acts_turn grounded serves.guarded continues.confined guarded
        goes.listener ?_ diary ?_) ?_ (session ?_) (fun _ _ => .rfl)
        (fun _ => .serves attends last next serves')
      · intro rest member
        rw [continues.rest] at member
        cases member
        exact ⟨next, .guards next⟩
      · intro entry member
        cases reads with
        | nothing => cases member
        | decoded command _ _ => exact ⟨_, command, List.mem_singleton.mp member⟩
      · rw [diary]
        cases reads with
        | nothing => exact sound.orderly
        | decoded command reading _ =>
            obtain ⟨index, stream, found, held, _⟩ := attends
            refine .writes (.decoded ((sound.session found).symm.trans held) ?_) sound.orderly
            intro index made opened
            exact serves.recent opened _ (List.mem_append_right _ reading)
      · intro index entry member changes
        cases reads with
        | nothing => cases member
        | decoded =>
            rw [List.mem_singleton.mp member] at changes
            exact changes
  | ends left calledOff =>
      obtain ⟨gate, guarded⟩ := grounded.gates post known
      obtain ⟨watch, minds⟩ := grounded.minds running
      have ends := Site.ends_turn guarded minds calledOff
      obtain rfl : [] = newer := by
        rw [← told, ends.rest]
        exact (readings_none task).symm
      refine sound.acts (acts_turn grounded guarded ends.confined ends.guarded rfl ?_ diary
        (by simp)) ?_ (session (by simp)) (fun _ _ => .rfl)
        (fun _ => .ends left ends.calledOff)
      · intro rest member
        rw [ends.rest] at member
        cases member
      · rw [diary]
        exact sound.orderly

/-! ## Openings -/

/-- One more post, and one more listener. -/
structure Adds (number : Nat) (held : Post) (before after : Streams) : Prop where
  posts : after.site.posts = before.site.posts.push held
  sockets : after.site.host.sockets = before.site.host.sockets.listen.1
  tasks : after.tasks = before.tasks ++ [some (.enter before.site.posts.size)]
  diary : after.diary = .opened number before.site.posts.size
    before.site.host.sockets.connections.size :: before.diary

variable {held : Post}

theorem Adds.size (adds : Adds index held before after) :
    after.site.posts.size = before.site.posts.size + 1 := by
  rw [adds.posts, Array.size_push]

/-- The posts that were there are left alone. -/
theorem Adds.leaves (adds : Adds index held before after) (grounded : before.Grounded)
    (known : post < before.site.posts.size) : Leaves post before after := by
  refine ⟨?_, ?_, ?_, [_], adds.diary, ?_⟩
  · rw [adds.posts, Array.getElem?_push, if_neg (Nat.ne_of_lt known)]
  · rw [adds.tasks, List.getElem?_append_left (by rw [grounded.length]; exact known)]
  · intro gate guarded
    apply Sockets.reaches_of_eq
    rw [adds.sockets]
    unfold Sockets.listener Sockets.listen
    simp only [Array.getD_eq_getD_getElem?]
    rw [Array.getElem?_push, if_neg (Nat.ne_of_lt (grounded.listens guarded))]
  · intro entry member mentions
    rw [List.mem_singleton.mp member] at mentions
    exact absurd mentions (Nat.ne_of_gt known)

theorem Adds.gate?_self {gate : Gate} (adds : Adds index held before after)
    (duty : held.duty = .gate gate) :
    after.site.gate? before.site.posts.size = some gate := by
  unfold Site.gate?
  rw [adds.posts, Array.getElem?_push_size, Option.map_some, duty]

theorem Adds.grounded {gate : Gate} (adds : Adds index held before after)
    (grounded : before.Grounded) (duty : held.duty = .gate gate)
    (new : gate.listener = before.site.host.sockets.listeners.size) : after.Grounded := by
  have listeners : after.site.host.sockets.listeners.size =
      before.site.host.sockets.listeners.size + 1 := by
    rw [adds.sockets]
    exact Array.size_push _
  have origin {post : Nat} {found : Gate} (guarded : after.site.gate? post = some found) :
      (before.site.gate? post = some found ∧
        found.listener < before.site.host.sockets.listeners.size) ∨
      post = before.site.posts.size ∧
        found.listener = before.site.host.sockets.listeners.size := by
    have known := Site.lt_size_of_gate? guarded
    rw [adds.size] at known
    rcases Nat.lt_succ_iff_lt_or_eq.mp known with old | rfl
    · rw [(adds.leaves grounded old).gate?] at guarded
      exact .inl ⟨guarded, grounded.listens guarded⟩
    · rw [adds.gate?_self duty] at guarded
      cases guarded
      exact .inr ⟨rfl, new⟩
  constructor
  · rw [adds.tasks, adds.size, List.length_append, grounded.length]
    rfl
  · intro post task running
    rw [adds.tasks] at running
    rw [List.getElem?_append] at running
    split at running
    · exact grounded.minds running
    · rename_i beyond
      obtain ⟨last, rfl⟩ : post - before.tasks.length = 0 ∧
          .enter before.site.posts.size = task := by
        rw [List.getElem?_singleton] at running
        split at running
        · rename_i last
          exact ⟨last, Option.some.inj (Option.some.inj running)⟩
        · cases running
      obtain rfl : post = before.site.posts.size := by
        rw [← grounded.length]
        omega
      exact ⟨.accepting, .enters⟩
  · intro post known
    rw [adds.size] at known
    rcases Nat.lt_succ_iff_lt_or_eq.mp known with old | rfl
    · obtain ⟨found, guarded⟩ := grounded.gates post old
      exact ⟨found, by rw [(adds.leaves grounded old).gate?]; exact guarded⟩
    · exact ⟨gate, adds.gate?_self duty⟩
  · intro post found guarded
    rw [listeners]
    rcases origin guarded with ⟨_, old⟩ | ⟨_, same⟩
    · exact Nat.lt_succ_of_lt old
    · rw [same]
      exact Nat.lt_succ_self _
  · intro first second found other guarded holds shared
    rcases origin guarded with ⟨was, old⟩ | ⟨here, same⟩
    · rcases origin holds with ⟨were, _⟩ | ⟨_, alike⟩
      · exact grounded.apart was were shared
      · omega
    · rcases origin holds with ⟨_, old⟩ | ⟨there, _⟩
      · omega
      · rw [here, there]
  · intro entry member mentioned mentions
    rw [adds.size]
    rw [adds.diary] at member
    rcases List.mem_cons.mp member with rfl | earlier
    · cases mentions
      exact Nat.lt_succ_self _
    · exact Nat.lt_succ_of_lt (grounded.recorded entry earlier mentioned mentions)
  · intro number mentioned made opened
    have connections : after.site.host.sockets.connections.size =
        before.site.host.sockets.connections.size := by
      rw [adds.sockets]
      rfl
    rw [connections]
    rw [adds.diary] at opened
    rcases List.mem_cons.mp opened with told | earlier
    · cases told
      exact Nat.le_refl _
    · exact grounded.counted earlier

theorem Adds.serves {gate : Gate} (adds : Adds index held before after)
    (grounded : before.Grounded) (duty : held.duty = .gate gate) (free : held.job.IsFree)
    (new : gate.listener = before.site.host.sockets.listeners.size) (empty : gate.queue = []) :
    after.Serves before.site.posts.size gate .accepting := by
  have listener : after.site.host.sockets.listener gate.listener = ⟨true, []⟩ := by
    rw [adds.sockets, new]
    unfold Sockets.listener Sockets.listen
    simp
  have unmentioned : ∀ entry ∈ before.diary, ¬ entry.Mentions before.site.posts.size :=
    fun entry member mentions =>
      Nat.lt_irrefl _ (grounded.recorded entry member _ mentions)
  refine ⟨adds.gate?_self duty, ?_, ⟨_, ?_, .enters⟩, ?_, ?_, ?_⟩
  · unfold Site.job
    rw [adds.posts, Array.getElem?_push_size]
    exact free
  · rw [adds.tasks, ← grounded.length, List.getElem?_concat_length]
  · rw [listener]
  · rw [adds.diary]
    show Diary.decodedBy _ before.diary = Diary.returnedBy _ before.diary ++ _
    rw [Diary.decodedBy_eq_nil unmentioned, Diary.returnedBy_eq_nil unmentioned, empty]
    rfl
  · intro _ _ _ connection member
    rw [listener] at member
    cases member

theorem Sound.adds {gate : Gate} (sound : before.Sound) (adds : Adds index held before after)
    (duty : held.duty = .gate gate) (free : held.job.IsFree)
    (new : gate.listener = before.site.host.sockets.listeners.size) (empty : gate.queue = [])
    (found : before.all[index]? = some stream) (closed : stream.channel.gate = none)
    (set : after.all = before.all.set index next)
    (opened : next.IsServed before.site.posts.size) : after.Sound := by
  have known : index < before.all.length := (List.getElem?_eq_some_iff.mp found).1
  refine ⟨adds.grounded sound.grounded duty new, ?_, ?_, ?_⟩
  · rw [adds.diary]
    refine .writes (.opened ?_ ?_) sound.orderly
    · rw [← sound.session found, closed]
    · intro entry member mentions
      exact Nat.lt_irrefl _ (sound.grounded.recorded entry member _ mentions)
  · apply sound.session_of_set found set
    · rw [adds.diary, opened.1]
      exact (if_pos rfl).symm
    · intro other apart
      rw [adds.diary]
      exact if_neg (Ne.symm apart)
  · intro post among
    rw [adds.size] at among
    rcases Nat.lt_succ_iff_lt_or_eq.mp among with old | rfl
    · refine (sound.stands post old).leaves sound.grounded (adds.leaves sound.grounded old) ?_
      apply attends_of_set found set
      constructor
      · rintro ⟨claims, _⟩
        rw [opened.1] at claims
        exact absurd (Option.some.inj claims) (Nat.ne_of_gt old)
      · rintro ⟨claims, _⟩
        rw [closed] at claims
        cases claims
    · refine .serves ⟨index, next, ?_, opened⟩ gate .accepting
        (adds.serves sound.grounded duty free new empty)
      rw [set]
      exact List.getElem?_set_self known

theorem Sound.openStream (sound : streams.Sound)
    (found : streams.all[index]? = some stream) (idle : stream.pending = .nothing) :
    (streams.openStream index stream).Sound := by
  unfold Streams.openStream
  cases closed : stream.channel.gate with
  | some post =>
      rw [Site.openChannel_of_isOpen (by simp [Channel.isOpen, closed])]
      exact sound
  | none =>
      have opening := Site.opening_openChannel closed streams.site
      generalize streams.site.openChannel stream.channel = result at opening ⊢
      cases opening with
      | fails tree error => exact sound.alters tree
      | opens tree =>
          refine sound.adds ⟨rfl, rfl, rfl, rfl⟩ rfl Site.isFree_gateJob rfl rfl found closed
            rfl ⟨rfl, ?_⟩
          rw [idle]
          exact fun _ => Pending.noConfusion

/-! ## Runs -/

theorem Sound.happens {occurrence : Occurrence} (sound : before.Sound)
    (happens : Happens before occurrence after) : after.Sound := by
  cases happens with
  | nothing => exact sound
  | opens found => exact sound.openStream found rfl
  | closes found held =>
      obtain ⟨gate, watch, serves⟩ := sound.serves found ⟨held, fun _ => Pending.noConfusion⟩
      exact sound.stopGate found held (StopCall.calledOff_begin serves.free _ _)
  | @resumes _ _ _ call found held =>
      exact sound.stopGate found held
        (StopCall.calledOff_resume (sound.calledOff found held) _ call)
  | drops found => exact sound.dropStream found fun _ => Pending.noConfusion
  | looks _ found unstopped deadline => exact sound.look found unstopped deadline
  | givesUp found =>
      exact sound.waits found rfl (fun _ => Pending.noConfusion) fun _ => Pending.noConfusion
  | turns running => exact sound.turn running
  | connects path listener => exact sound.connects listener
  | comes _ comes => exact sound.comes comes
  | passes time =>
      exact sound.beside
        ⟨rfl, rfl, rfl, rfl, Nat.le_refl _, fun _ => Sockets.reaches_of_eq rfl⟩ rfl
  | alters tree => exact sound.alters tree

theorem sound_fresh (host : Host) (channels : List Channel) :
    (fresh host channels).Sound := by
  refine ⟨⟨rfl, ?_, ?_, ?_, ?_, ?_, ?_⟩, .empty, ?_, ?_⟩
  · intro post task running
    cases running
  · intro post known
    cases known
  · intro post gate guarded
    cases guarded
  · intro first second gate other guarded
    cases guarded
  · intro entry member
    cases member
  · intro index post made member
    cases member
  · intro index stream found
    unfold fresh at found
    rw [List.getElem?_map] at found
    obtain ⟨channel, _, rfl⟩ := Option.map_eq_some_iff.mp found
    rfl
  · intro post known
    cases known

/-- Streams stay sound, whatever happens. -/
theorem sound_run (host : Host) (channels : List Channel) (occurrences : List Occurrence) :
    ((fresh host channels).run occurrences).Sound := by
  have kept (streams : Streams) (sound : streams.Sound) : (streams.run occurrences).Sound := by
    induction occurrences generalizing streams with
    | nil => exact sound
    | cons occurrence occurrences induction =>
        exact induction _ (sound.happens (happens_after streams occurrence))
  exact kept _ (sound_fresh host channels)

end Streams

end Overseer
