import Overseer.Proofs.Channel.Diary
import Overseer.Proofs.Channel.Turns

/-!
# Streams

Any number of streams, each with its channel, are opened, closed, dropped and read, in any
order and as often as their owners like.  Meanwhile the tasks of their gates take turns,
clients connect, send and leave, time passes, and others change the files.

The invariant is `Sound`: every gate either serves a stream that is open or was told to
end, and the diary of what happened is orderly.  What happens to one gate leaves the others
alone, which is `Acts`.
-/

namespace Overseer

open Diary (Entry Orderly session? decodedBy returnedBy)

/-- What the owner of a stream waits for. -/
inductive Pending where
  | nothing
  | command (deadline : Instant)
  /-- The end of the gate of a stream that is being closed. -/
  | stop (call : StopCall)
  deriving DecidableEq

/-- A channel in the hands of its owner. -/
structure Stream where
  channel : Channel
  pending : Pending

/-- Streams on a site, with the tasks of their gates. -/
structure Streams where
  site : Site
  all : List Stream
  /-- The task of the gate at each post, unless it has ended. -/
  tasks : List (Option Activity)
  diary : Diary

namespace Stream

/-- The stream is open with its gate at a post, and is not being closed. -/
def IsServed (stream : Stream) (post : Nat) : Prop :=
  stream.channel.gate = some post ∧ ∀ call, stream.pending ≠ .stop call

/-- The stream after it was closed or dropped. -/
def shut (stream : Stream) : Stream :=
  ⟨{ stream.channel with gate := none }, .nothing⟩

end Stream

namespace Streams

/-- What can happen. -/
inductive Occurrence where
  | opens (index : Nat)
  | closes (index : Nat)
  /-- The owner of a stream that is being closed looks after its gate again. -/
  | resumes (index : Nat)
  /-- A stream is given up; from then on another one with the same channel is meant. -/
  | drops (index : Nat)
  | asks (index : Nat) (timeout : Duration)
  /-- The owner, who waits for a command, looks again. -/
  | looks (index : Nat)
  /-- The owner, who waits for a command, is cancelled. -/
  | givesUp (index : Nat)
  /-- The task of the gate at a post takes a turn. -/
  | turns (post : Nat)
  | connects (path : String)
  | sends (connection : Nat) (bytes : List UInt8)
  | finishes (connection : Nat)
  | fails (connection : Nat) (error : SystemError)
  | passes (time : Duration)
  | alters (tree : FileTree)

def fresh (host : Host) (channels : List Channel) : Streams :=
  { site := Site.fresh host
    all := channels.map fun channel => ⟨{ channel with gate := none }, .nothing⟩
    tasks := []
    diary := [] }

/-- A stream whose owner does not wait for anything. -/
def idle? (streams : Streams) (index : Nat) : Option Stream :=
  match streams.all[index]? with
  | some ⟨channel, .nothing⟩ => some ⟨channel, .nothing⟩
  | _ => none

def withSite (streams : Streams) (site : Site) : Streams :=
  { streams with site := site }

def withSockets (streams : Streams) (sockets : Sockets) : Streams :=
  streams.withSite (streams.site.setSockets sockets)

def update (streams : Streams) (index : Nat) (stream : Stream) : Streams :=
  { streams with all := streams.all.set index stream }

def write (streams : Streams) (entries : List Entry) : Streams :=
  { streams with diary := entries ++ streams.diary }

def openStream (streams : Streams) (index : Nat) (stream : Stream) : Streams :=
  match streams.site.openChannel stream.channel with
  | (site, .ok (channel, some post)) =>
      { site := site
        all := streams.all.set index { stream with channel := channel }
        tasks := streams.tasks ++ [some (.enter post)]
        diary :=
          .opened index post site.host.sockets.connections.size :: streams.diary }
  | (site, .ok (_, none)) | (site, .error _) => streams.withSite site

/-- A stop of the gate of a stream; when it is over the stream is closed. -/
def stopGate (streams : Streams) (index : Nat) (stream : Stream) (post : Nat) :
    Site × StopCall.Standing → Streams
  | (site, .waits call) =>
      (streams.withSite site).update index { stream with pending := .stop call }
  | (site, .returned) | (site, .crashed) =>
      ((streams.withSite (site.clearChannel stream.channel.path post)).update index
        stream.shut).write [.closed index]

def dropStream (streams : Streams) (index : Nat) (stream : Stream) : Streams :=
  match stream.channel.gate with
  | none => streams
  | some _ =>
      ((streams.withSite (streams.site.abandonChannel stream.channel)).update index
        stream.shut).write [.dropped index]

/-- The owner of a stream takes a command, or waits for one until a deadline. -/
def look (streams : Streams) (index : Nat) (stream : Stream) (deadline : Instant) :
    Streams :=
  match stream.channel.gate with
  | none => streams
  | some post =>
      match streams.site.takeCommand? post with
      | some (site, command) =>
          ((streams.withSite site).update index { stream with pending := .nothing }).write
            [.returned index post command]
      | none =>
          streams.update index
            { stream with
              pending := if deadline ≤ streams.site.now then .nothing else .command deadline }

def readings : Activity → Option Activity → List Entry
  | .guard post (.reading connection _ _), some (.guard _ (.offering command)) =>
      [.decoded post connection command]
  | _, _ => []

/-- The task of the gate at a post takes a turn; a gate begins no tasks. -/
def turn (streams : Streams) (post : Nat) (task : Activity) : Streams :=
  let turn := streams.site.turn task
  { streams.write (readings task turn.rest) with
    site := turn.world
    tasks := streams.tasks.set post turn.rest }

def after (streams : Streams) : Occurrence → Streams
  | .opens index =>
      match streams.idle? index with
      | some stream => streams.openStream index stream
      | none => streams
  | .closes index =>
      match streams.idle? index with
      | some ⟨channel, pending⟩ =>
          match channel.gate with
          | some post =>
              streams.stopGate index ⟨channel, pending⟩ post
                (streams.site.beginStop post Channel.closeTimeout)
          | none => streams
      | none => streams
  | .resumes index =>
      match streams.all[index]? with
      | some ⟨channel, .stop call⟩ =>
          match channel.gate with
          | some post =>
              streams.stopGate index ⟨channel, .stop call⟩ post
                (streams.site.resumeStop post call)
          | none => streams
      | _ => streams
  | .drops index =>
      match streams.idle? index with
      | some stream => streams.dropStream index stream
      | none => streams
  | .asks index timeout =>
      match streams.idle? index with
      | some stream => streams.look index stream (streams.site.now.deadline timeout)
      | none => streams
  | .looks index =>
      match streams.all[index]? with
      | some ⟨channel, .command deadline⟩ =>
          streams.look index ⟨channel, .command deadline⟩ deadline
      | _ => streams
  | .givesUp index =>
      match streams.all[index]? with
      | some ⟨channel, .command _⟩ => streams.update index ⟨channel, .nothing⟩
      | _ => streams
  | .turns post =>
      match streams.tasks[post]? with
      | some (some task) => streams.turn post task
      | _ => streams
  | .connects path =>
      match streams.site.host.connect path with
      | .ok (host, _) => streams.withSite { streams.site with host := host }
      | .error _ => streams
  | .sends connection bytes =>
      streams.withSockets (streams.site.host.sockets.send connection bytes)
  | .finishes connection =>
      streams.withSockets (streams.site.host.sockets.finish connection)
  | .fails connection error =>
      streams.withSockets (streams.site.host.sockets.fail connection error)
  | .passes time =>
      streams.withSite { streams.site with now := streams.site.now + time.nanos }
  | .alters tree =>
      streams.withSite
        { streams.site with host := { streams.site.host with tree := tree } }

/-- The streams after some things have happened. -/
def run (streams : Streams) (occurrences : List Occurrence) : Streams :=
  occurrences.foldl after streams

/-- What an occurrence comes to. -/
inductive Happens (streams : Streams) : Occurrence → Streams → Prop where
  | nothing (occurrence : Occurrence) : Happens streams occurrence streams
  | opens {index : Nat} {channel : Channel}
      (found : streams.all[index]? = some ⟨channel, .nothing⟩) :
      Happens streams (.opens index) (streams.openStream index ⟨channel, .nothing⟩)
  | closes {index post : Nat} {channel : Channel}
      (found : streams.all[index]? = some ⟨channel, .nothing⟩)
      (held : channel.gate = some post) :
      Happens streams (.closes index)
        (streams.stopGate index ⟨channel, .nothing⟩ post
          (streams.site.beginStop post Channel.closeTimeout))
  | resumes {index post : Nat} {channel : Channel} {call : StopCall}
      (found : streams.all[index]? = some ⟨channel, .stop call⟩)
      (held : channel.gate = some post) :
      Happens streams (.resumes index)
        (streams.stopGate index ⟨channel, .stop call⟩ post (streams.site.resumeStop post call))
  | drops {index : Nat} {channel : Channel}
      (found : streams.all[index]? = some ⟨channel, .nothing⟩) :
      Happens streams (.drops index) (streams.dropStream index ⟨channel, .nothing⟩)
  /-- The owner of a stream looks for a command, for the first time or again. -/
  | looks {index : Nat} {stream : Stream} (occurrence : Occurrence)
      (found : streams.all[index]? = some stream)
      (unstopped : ∀ call, stream.pending ≠ .stop call) (deadline : Instant) :
      Happens streams occurrence (streams.look index stream deadline)
  | givesUp {index : Nat} {channel : Channel} {deadline : Instant}
      (found : streams.all[index]? = some ⟨channel, .command deadline⟩) :
      Happens streams (.givesUp index) (streams.update index ⟨channel, .nothing⟩)
  | turns {post : Nat} {task : Activity} (running : streams.tasks[post]? = some (some task)) :
      Happens streams (.turns post) (streams.turn post task)
  | connects (path : String) (listener : Nat) :
      Happens streams (.connects path)
        (streams.withSockets (streams.site.host.sockets.connect listener).1)
  /-- A client sends, leaves or fails. -/
  | comes {connection : Nat} {bytes : List UInt8} {sockets : Sockets} (occurrence : Occurrence)
      (comes : Sockets.Comes connection bytes streams.site.host.sockets sockets) :
      Happens streams occurrence (streams.withSockets sockets)
  | passes (time : Duration) :
      Happens streams (.passes time)
        (streams.withSite { streams.site with now := streams.site.now + time.nanos })
  | alters (tree : FileTree) :
      Happens streams (.alters tree)
        (streams.withSite
          { streams.site with host := { streams.site.host with tree := tree } })

theorem idle?_eq_some {streams : Streams} {index : Nat} {stream : Stream}
    (idle : streams.idle? index = some stream) :
    ∃ channel, stream = ⟨channel, .nothing⟩ ∧
      streams.all[index]? = some ⟨channel, .nothing⟩ := by
  unfold idle? at idle
  split at idle
  · rename_i channel found
    cases idle
    exact ⟨channel, rfl, found⟩
  · cases idle

theorem happens_after (streams : Streams) (occurrence : Occurrence) :
    Happens streams occurrence (streams.after occurrence) := by
  cases occurrence with
  | opens index =>
      unfold after
      dsimp only
      split
      · rename_i stream idle
        obtain ⟨channel, rfl, found⟩ := idle?_eq_some idle
        exact .opens found
      · exact .nothing _
  | closes index =>
      unfold after
      dsimp only
      split
      · rename_i channel pending idle
        obtain ⟨_, same, found⟩ := idle?_eq_some idle
        cases same
        split
        · rename_i held
          exact .closes found held
        · exact .nothing _
      · exact .nothing _
  | resumes index =>
      unfold after
      dsimp only
      split
      · rename_i found
        split
        · rename_i held
          exact .resumes found held
        · exact .nothing _
      · exact .nothing _
  | drops index =>
      unfold after
      dsimp only
      split
      · rename_i stream idle
        obtain ⟨channel, rfl, found⟩ := idle?_eq_some idle
        exact .drops found
      · exact .nothing _
  | asks index timeout =>
      unfold after
      dsimp only
      split
      · rename_i stream idle
        obtain ⟨channel, rfl, found⟩ := idle?_eq_some idle
        exact .looks _ found (fun _ => Pending.noConfusion) _
      · exact .nothing _
  | looks index =>
      unfold after
      dsimp only
      split
      · rename_i deadline found
        exact .looks _ found (fun _ => Pending.noConfusion) deadline
      · exact .nothing _
  | givesUp index =>
      unfold after
      dsimp only
      split
      · rename_i found
        exact .givesUp found
      · exact .nothing _
  | turns post =>
      unfold after
      dsimp only
      split
      · rename_i running
        exact .turns running
      · exact .nothing _
  | connects path =>
      unfold after
      dsimp only
      split
      · rename_i reached
        obtain ⟨listener, rfl⟩ := Host.connect_eq_ok reached
        exact .connects path listener
      · exact .nothing _
  | sends connection bytes => exact .comes _ (Sockets.comes_send _ connection bytes)
  | finishes connection => exact .comes _ (Sockets.comes_finish _ connection)
  | fails connection error => exact .comes _ (Sockets.comes_fail _ connection error)
  | passes time => exact .passes time
  | alters tree => exact .alters tree

/-! ## The invariant -/

/-- A gate at a post goes on: its task has it in hand, its listener is open, and it has
given away, in order, what it decoded, but for the queue and the command that it offers. -/
structure Serves (streams : Streams) (post : Nat) (gate : Gate) (watch : Gate.Watch) :
    Prop where
  guarded : streams.site.gate? post = some gate
  free : (streams.site.job post).IsFree
  task : ∃ task, streams.tasks[post]? = some (some task) ∧ Site.Minds post watch task
  isOpen : (streams.site.host.sockets.listener gate.listener).isOpen = true
  balanced : decodedBy post streams.diary =
    returnedBy post streams.diary ++ (gate.queue ++ watch.commands)
  recent : ∀ {index made}, .opened index post made ∈ streams.diary →
    ∀ connection ∈ (streams.site.host.sockets.listener gate.listener).backlog ++
      watch.connections, made ≤ connection

/-- A stream that is not being closed has its gate at the post. -/
def Attends (streams : Streams) (post : Nat) : Prop :=
  ∃ (index : Nat) (stream : Stream), streams.all[index]? = some stream ∧ stream.IsServed post

/-- The gate at a post goes on as long as a stream has it, and was told to end afterwards. -/
inductive Stands (streams : Streams) (post : Nat) : Prop where
  | serves (attends : streams.Attends post) (gate : Gate) (watch : Gate.Watch)
      (serves : streams.Serves post gate watch)
  | ends (left : ¬ streams.Attends post) (calledOff : (streams.site.job post).IsCalledOff)

/-- What the posts, the tasks and the diary have to do with each other. -/
structure Grounded (streams : Streams) : Prop where
  length : streams.tasks.length = streams.site.posts.size
  minds : ∀ {post task}, streams.tasks[post]? = some (some task) →
    ∃ watch, Site.Minds post watch task
  gates : ∀ post < streams.site.posts.size, ∃ gate, streams.site.gate? post = some gate
  listens : ∀ {post gate}, streams.site.gate? post = some gate →
    gate.listener < streams.site.host.sockets.listeners.size
  apart : ∀ {first second gate other}, streams.site.gate? first = some gate →
    streams.site.gate? second = some other → gate.listener = other.listener → first = second
  recorded : ∀ entry ∈ streams.diary, ∀ post, entry.Mentions post →
    post < streams.site.posts.size
  counted : ∀ {index post made}, .opened index post made ∈ streams.diary →
    made ≤ streams.site.host.sockets.connections.size

structure Sound (streams : Streams) : Prop where
  grounded : streams.Grounded
  orderly : Orderly streams.diary
  /-- A stream has the gate that it was opened with last. -/
  session : ∀ {index stream}, streams.all[index]? = some stream →
    stream.channel.gate = session? index streams.diary
  stands : ∀ post < streams.site.posts.size, streams.Stands post

end Streams

/-! ## Frames -/

namespace Sockets

/-- A listener stays what it is, but for clients who connect to it. -/
structure Reaches (number : Nat) (before after : Sockets) : Prop where
  isOpen : (after.listener number).isOpen = (before.listener number).isOpen
  backlog : ∀ connection ∈ (after.listener number).backlog,
    connection ∈ (before.listener number).backlog ∨ before.connections.size ≤ connection

variable {number : Nat} {before after : Sockets}

theorem reaches_of_eq (same : after.listener number = before.listener number) :
    Reaches number before after := by
  constructor
  · rw [same]
  · intro connection member
    rw [same] at member
    exact .inl member

theorem reaches_connect (sockets : Sockets) (listener number : Nat) :
    Reaches number sockets (sockets.connect listener).1 := by
  constructor
  · rw [listener_connect]
    split
    · rename_i here
      rw [here.1]
    · rfl
  · intro connection member
    rcases backlog_connect sockets listener number with same | more
    · rw [same] at member
      exact .inl member
    · rw [more] at member
      rcases List.mem_append.mp member with waits | made
      · exact .inl waits
      · exact .inr (Nat.le_of_eq (List.mem_singleton.mp made).symm)

end Sockets

namespace Streams

variable {index post : Nat} {stream next : Stream} {before after streams : Streams}

/-- What happens elsewhere leaves the gate at a post alone. -/
structure Leaves (post : Nat) (before after : Streams) : Prop where
  held : after.site.posts[post]? = before.site.posts[post]?
  task : after.tasks[post]? = before.tasks[post]?
  reaches : ∀ {gate}, before.site.gate? post = some gate →
    Sockets.Reaches gate.listener before.site.host.sockets after.site.host.sockets
  diary : ∃ newer, after.diary = newer ++ before.diary ∧ ∀ entry ∈ newer, ¬ entry.Mentions post

theorem Leaves.gate? (leaves : Leaves post before after) :
    after.site.gate? post = before.site.gate? post := by
  unfold Site.gate?
  rw [leaves.held]

theorem Leaves.job (leaves : Leaves post before after) :
    after.site.job post = before.site.job post := by
  unfold Site.job
  rw [leaves.held]

theorem Serves.leaves {gate : Gate} {watch : Gate.Watch} (grounded : before.Grounded)
    (serves : before.Serves post gate watch) (leaves : Leaves post before after) :
    after.Serves post gate watch := by
  obtain ⟨newer, diary, unmentioned⟩ := leaves.diary
  have reaches := leaves.reaches serves.guarded
  constructor
  · rw [leaves.gate?]
    exact serves.guarded
  · rw [leaves.job]
    exact serves.free
  · rw [leaves.task]
    exact serves.task
  · rw [reaches.isOpen]
    exact serves.isOpen
  · rw [diary, Diary.decodedBy_append, Diary.returnedBy_append,
      Diary.decodedBy_eq_nil unmentioned, Diary.returnedBy_eq_nil unmentioned,
      List.append_nil, List.append_nil]
    exact serves.balanced
  · intro index made opened connection member
    have earlier : .opened index post made ∈ before.diary := by
      rw [diary] at opened
      rcases List.mem_append.mp opened with late | early
      · exact absurd rfl (unmentioned _ late)
      · exact early
    rcases List.mem_append.mp member with waits | reads
    · rcases reaches.backlog connection waits with known | new
      · exact serves.recent earlier connection (List.mem_append_left _ known)
      · exact Nat.le_trans (grounded.counted earlier) new
    · exact serves.recent earlier connection (List.mem_append_right _ reads)

theorem Stands.leaves (grounded : before.Grounded) (stands : before.Stands post)
    (leaves : Leaves post before after)
    (attends : after.Attends post ↔ before.Attends post) : after.Stands post := by
  cases stands with
  | serves attended gate watch serves =>
      exact .serves (attends.mpr attended) gate watch (serves.leaves grounded leaves)
  | ends left calledOff =>
      refine .ends (fun attended => left (attends.mp attended)) ?_
      rw [leaves.job]
      exact calledOff

/-- Something happens to the gate at one post, and to its listener. -/
structure Acts (post : Nat) (before after : Streams) : Prop where
  size : after.site.posts.size = before.site.posts.size
  gate : ∀ {gate}, before.site.gate? post = some gate →
    ∃ next, after.site.gate? post = some next ∧ next.listener = gate.listener
  minds : ∀ {task}, after.tasks[post]? = some (some task) → ∃ watch, Site.Minds post watch task
  length : after.tasks.length = before.tasks.length
  listeners : after.site.host.sockets.listeners.size = before.site.host.sockets.listeners.size
  connections : before.site.host.sockets.connections.size ≤
    after.site.host.sockets.connections.size
  leaves : ∀ other, other ≠ post → Leaves other before after
  diary : ∃ newer, after.diary = newer ++ before.diary ∧ ∀ entry ∈ newer,
    (∀ mentioned, entry.Mentions mentioned → mentioned < before.site.posts.size) ∧
      ∀ index gate made, entry ≠ .opened index gate made

theorem Grounded.acts (grounded : before.Grounded) (acts : Acts post before after) :
    after.Grounded := by
  obtain ⟨newer, diary, told⟩ := acts.diary
  have origin {other : Nat} {gate : Gate} (guarded : after.site.gate? other = some gate) :
      ∃ earlier, before.site.gate? other = some earlier ∧
        gate.listener = earlier.listener := by
    by_cases here : other = post
    · subst here
      have known := Site.lt_size_of_gate? guarded
      rw [acts.size] at known
      obtain ⟨earlier, held⟩ := grounded.gates other known
      obtain ⟨next, now, same⟩ := acts.gate held
      rw [guarded] at now
      cases now
      exact ⟨earlier, held, same⟩
    · rw [(acts.leaves other here).gate?] at guarded
      exact ⟨gate, guarded, rfl⟩
  constructor
  · rw [acts.length, acts.size]
    exact grounded.length
  · intro other task held
    by_cases here : other = post
    · subst here
      exact acts.minds held
    · rw [(acts.leaves other here).task] at held
      exact grounded.minds held
  · intro other known
    rw [acts.size] at known
    obtain ⟨gate, guarded⟩ := grounded.gates other known
    by_cases here : other = post
    · subst here
      obtain ⟨next, now, _⟩ := acts.gate guarded
      exact ⟨next, now⟩
    · exact ⟨gate, by rw [(acts.leaves other here).gate?]; exact guarded⟩
  · intro other gate guarded
    obtain ⟨earlier, held, same⟩ := origin guarded
    rw [same, acts.listeners]
    exact grounded.listens held
  · intro first second gate other guarded held shared
    obtain ⟨earlier, was, same⟩ := origin guarded
    obtain ⟨others, were, alike⟩ := origin held
    exact grounded.apart was were (same.symm.trans (shared.trans alike))
  · intro entry member mentioned mentions
    rw [acts.size]
    rw [diary] at member
    rcases List.mem_append.mp member with late | early
    · exact (told entry late).1 mentioned mentions
    · exact grounded.recorded entry early mentioned mentions
  · intro index gate made opened
    rw [diary] at opened
    rcases List.mem_append.mp opened with late | early
    · exact absurd rfl ((told _ late).2 index gate made)
    · exact Nat.le_trans (grounded.counted early) acts.connections

theorem Sound.acts (sound : before.Sound) (acts : Acts post before after)
    (orderly : Orderly after.diary)
    (session : ∀ {index stream}, after.all[index]? = some stream →
      stream.channel.gate = session? index after.diary)
    (attends : ∀ other, other ≠ post → (after.Attends other ↔ before.Attends other))
    (stands : post < before.site.posts.size → after.Stands post) : after.Sound := by
  refine ⟨sound.grounded.acts acts, orderly, session, ?_⟩
  intro other known
  rw [acts.size] at known
  by_cases here : other = post
  · subst here
    exact stands known
  · exact (sound.stands other known).leaves sound.grounded (acts.leaves other here)
      (attends other here)

/-! ## Streams in other states -/

theorem attends_of_set (found : before.all[index]? = some stream)
    (set : after.all = before.all.set index next)
    (same : next.IsServed post ↔ stream.IsServed post) :
    after.Attends post ↔ before.Attends post := by
  have known : index < before.all.length := (List.getElem?_eq_some_iff.mp found).1
  unfold Attends
  rw [set]
  constructor
  · rintro ⟨place, held, there, served⟩
    by_cases here : index = place
    · subst here
      rw [List.getElem?_set_self known] at there
      cases there
      exact ⟨index, stream, found, same.mp served⟩
    · rw [List.getElem?_set_ne here] at there
      exact ⟨place, held, there, served⟩
  · rintro ⟨place, held, there, served⟩
    by_cases here : index = place
    · subst here
      rw [found] at there
      cases there
      exact ⟨index, next, List.getElem?_set_self known, same.mpr served⟩
    · exact ⟨place, held, by rw [List.getElem?_set_ne here]; exact there, served⟩

theorem Sound.session_of_set (sound : before.Sound)
    (found : before.all[index]? = some stream) (set : after.all = before.all.set index next)
    (own : next.channel.gate = session? index after.diary)
    (others : ∀ other, other ≠ index →
      session? other after.diary = session? other before.diary)
    {place : Nat} {held : Stream} (there : after.all[place]? = some held) :
    held.channel.gate = session? place after.diary := by
  have known : index < before.all.length := (List.getElem?_eq_some_iff.mp found).1
  rw [set] at there
  by_cases here : index = place
  · subst here
    rw [List.getElem?_set_self known] at there
    cases there
    exact own
  · rw [List.getElem?_set_ne here] at there
    rw [others place (Ne.symm here)]
    exact sound.session there

/-- A stream has its gate for itself. -/
theorem Sound.owner (sound : streams.Sound) (found : streams.all[index]? = some stream)
    (held : stream.channel.gate = some post) {place : Nat} {rival : Stream}
    (there : streams.all[place]? = some rival) (claims : rival.channel.gate = some post) :
    place = index := by
  rw [sound.session found] at held
  rw [sound.session there] at claims
  exact sound.orderly.session?_injective claims held

/-- The gate of a stream that is not being closed goes on. -/
theorem Sound.serves (sound : streams.Sound) (found : streams.all[index]? = some stream)
    (served : stream.IsServed post) :
    ∃ gate watch, streams.Serves post gate watch := by
  have known : post < streams.site.posts.size := by
    have session := sound.session found
    rw [served.1] at session
    obtain ⟨made, opened⟩ := Diary.exists_opened_of_session? session.symm
    exact sound.grounded.recorded _ opened post rfl
  cases sound.stands post known with
  | serves _ gate watch serves => exact ⟨gate, watch, serves⟩
  | ends left _ => exact absurd ⟨index, stream, found, served⟩ left

/-- The gate of a stream that is being closed was told to end. -/
theorem Sound.calledOff (sound : streams.Sound) {channel : Channel} {call : StopCall}
    (found : streams.all[index]? = some ⟨channel, .stop call⟩)
    (held : channel.gate = some post) : (streams.site.job post).IsCalledOff := by
  have known : post < streams.site.posts.size := by
    have session := sound.session found
    rw [held] at session
    obtain ⟨made, opened⟩ := Diary.exists_opened_of_session? session.symm
    exact sound.grounded.recorded _ opened post rfl
  cases sound.stands post known with
  | ends _ calledOff => exact calledOff
  | serves attends =>
      obtain ⟨place, rival, there, claims, served⟩ := attends
      obtain rfl := sound.owner found held there claims
      rw [found] at there
      cases there
      exact absurd rfl (served call)

end Streams

end Overseer
