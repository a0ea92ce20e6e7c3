import Overseer.Proofs.Channel.Occurrences
import Overseer.Proofs.Channel.Service
import Overseer.Proofs.Host.Furnishing

/-!
# Sessions of a stream

From an opening to the next closing or drop a stream is in a session.  What is done to a
stream besides beginning and ending sessions changes nothing, an opening that fails leaves
the stream as it was, and what a gate decoded in one session is given to nobody in another
one: `sessions_are_separate`.
-/

namespace Overseer

open Diary (Entry)

namespace Diary

/-- A command is given to the owner of a stream in the session in which it was decoded: it
is the oldest one that the gate of the session decoded and did not give away, and it came
over a connection that was made in the session. -/
structure InSession (index post : Nat) (command : Command) (earlier : Diary) : Prop where
  session : ∃ since made before, earlier = since ++ .opened index post made :: before ∧
    (∀ entry ∈ since, ¬ entry.Changes index) ∧ (∀ entry ∈ before, ¬ entry.Mentions post) ∧
    (∃ rest, decodedBy post since = returnedBy post since ++ command :: rest) ∧
    ∀ connection command, .decoded post connection command ∈ since → made ≤ connection

theorem Orderly.inSession {newer earlier : Diary} {index post : Nat} {command : Command}
    (orderly : Orderly (newer ++ .returned index post command :: earlier)) :
    InSession index post command earlier := by
  cases orderly.follows with
  | returned rest session oldest =>
      obtain ⟨since, made, before, rfl, unchanged⟩ := session?_eq_some_iff.mp session
      have within : Orderly (since ++ .opened index post made :: before) := by
        rw [List.append_cons] at orderly
        exact orderly.of_append
      have unmentioned : ∀ entry ∈ before, ¬ entry.Mentions post := by
        cases within.follows with
        | opened _ unmentioned => exact unmentioned
      refine ⟨since, made, before, rfl, unchanged, unmentioned, ⟨rest, ?_⟩, ?_⟩
      · have opening (diary : Diary) : decodedBy post (.opened index post made :: diary) =
            decodedBy post diary := rfl
        have opening' (diary : Diary) : returnedBy post (.opened index post made :: diary) =
            returnedBy post diary := rfl
        rw [decodedBy_append, returnedBy_append, opening, opening', decodedBy_eq_nil unmentioned,
          returnedBy_eq_nil unmentioned] at oldest
        exact oldest
      · intro connection decoded member
        obtain ⟨late, early, rfl⟩ := List.append_of_mem member
        rw [List.append_assoc, List.cons_append] at within
        cases within.follows with
        | decoded _ recent =>
            exact recent index made (List.mem_append_right early List.mem_cons_self)

end Diary

namespace Streams

variable {index post : Nat} {stream : Stream} {before after streams : Streams}

/-! ## What changes nothing -/

theorem idle?_of_found {channel : Channel}
    (found : streams.all[index]? = some ⟨channel, .nothing⟩) :
    streams.idle? index = some ⟨channel, .nothing⟩ := by
  unfold idle?
  rw [found]

theorem after_opens {channel : Channel}
    (found : streams.all[index]? = some ⟨channel, .nothing⟩) :
    streams.after (.opens index) = streams.openStream index ⟨channel, .nothing⟩ := by
  unfold Streams.after
  dsimp only
  rw [idle?_of_found found]

theorem after_opens_of_isOpen (found : streams.all[index]? = some stream)
    (isOpen : stream.channel.isOpen = true) : streams.after (.opens index) = streams := by
  unfold Streams.after
  dsimp only
  split
  · rename_i idle
    obtain ⟨channel, rfl, found'⟩ := idle?_eq_some idle
    rw [found] at found'
    cases found'
    unfold openStream
    rw [Site.openChannel_of_isOpen isOpen]
    rfl
  · rfl

theorem after_closes_of_closed (found : streams.all[index]? = some stream)
    (closed : stream.channel.isOpen = false) : streams.after (.closes index) = streams := by
  have shut : stream.channel.gate = none := by simpa [Channel.isOpen] using closed
  unfold Streams.after
  dsimp only
  split
  · rename_i idle
    obtain ⟨channel, same, found'⟩ := idle?_eq_some idle
    cases same
    rw [found] at found'
    cases found'
    rw [shut]
  · rfl

/-! ## What an opening comes to -/

/-- Nothing but the files was changed. -/
structure OnlyFiles (before after : Streams) : Prop where
  all : after.all = before.all
  tasks : after.tasks = before.tasks
  posts : after.site.posts = before.site.posts
  sockets : after.site.host.sockets = before.site.host.sockets
  diary : after.diary = before.diary

/-- An opening either fails and changes nothing but the files, or begins a session. -/
theorem openStream_cases {channel : Channel} (closed : channel.gate = none)
    (found : streams.all[index]? = some ⟨channel, .nothing⟩) :
    (∃ site error, streams.site.openChannel channel = (site, .error (.system error)) ∧
      (∀ host listener, streams.site.host.listen channel.path ≠ (host, .ok listener)) ∧
      OnlyFiles streams (streams.after (.opens index))) ∨
    ∃ site opened post made, streams.site.openChannel channel = (site, .ok (opened, some post)) ∧
      (streams.after (.opens index)).diary = .opened index post made :: streams.diary := by
  rw [after_opens found]
  have opening := Site.opening_openChannel closed streams.site
  unfold openStream
  generalize same : streams.site.openChannel channel = result at opening ⊢
  cases opening with
  | fails tree error refused =>
      refine .inl ⟨_, error, rfl, ?_, rfl, rfl, rfl, rfl, rfl⟩
      intro host listener listens
      rw [refused] at listens
      cases listens
  | opens tree => exact .inr ⟨_, _, _, _, rfl, rfl⟩

/-! ## What a closing comes to -/

/-- A path is free, or it was reported why it cannot be removed. -/
def Clears (path : String) (before after : Site) : Prop :=
  after.host.tree.at? path = none ∨
    ∃ error newer, after.notices = newer ++ before.notices ∧ .removalFailed path error ∈ newer

theorem clears_clearChannel {site : Site} {gate : Gate} (guarded : site.gate? post = some gate)
    (step : StopCall.Step) (path : String) :
    Clears path site ((site.commit post step).clearChannel path post) := by
  obtain ⟨handles, _, _⟩ := Site.handles_commit guarded step
  obtain ⟨still, holds, _⟩ := handles.gate guarded
  obtain ⟨told, committed⟩ := Site.commit_of_gate guarded step
  obtain ⟨tree, failure, newer, removes, cleared, reported⟩ := Site.clearChannel_eq holds path
  rw [cleared]
  cases removes with
  | removed removes => exact .inl (FileTree.missing_of_removeIfPresent removes)
  | @kept error refused =>
      refine .inr ⟨error, newer ++ told, ?_, List.mem_append_left told (reported error rfl)⟩
      rw [List.append_assoc, committed]

/-- When a stream has been closed its path is free, or it was reported why not. -/
theorem clears_stopGate (guarded : ∃ gate, streams.site.gate? post = some gate)
    (step : StopCall.Step) {other : Nat}
    (closed : (streams.stopGate index stream post
      (streams.site.commit post step, step.standing)).diary = .closed other :: streams.diary) :
    other = index ∧ Clears stream.channel.path streams.site
      (streams.stopGate index stream post
        (streams.site.commit post step, step.standing)).site := by
  obtain ⟨gate, guarded⟩ := guarded
  have clears := clears_clearChannel guarded step stream.channel.path
  cases standing : step.standing with
  | waits call =>
      rw [standing] at closed
      exact absurd closed.symm (List.cons_ne_self _ _)
  | returned | crashed =>
      rw [standing] at closed
      cases (List.cons.inj closed).1
      exact ⟨rfl, clears⟩

theorem Sound.exists_gate (sound : streams.Sound) (found : streams.all[index]? = some stream)
    (held : stream.channel.gate = some post) : ∃ gate, streams.site.gate? post = some gate := by
  have session := sound.session found
  rw [held] at session
  obtain ⟨made, opened⟩ := Diary.exists_opened_of_session? session.symm
  exact sound.grounded.gates post (sound.grounded.recorded _ opened post rfl)

theorem Sound.clears {occurrence : Occurrence} (sound : before.Sound)
    (happens : Happens before occurrence after)
    (closed : after.diary = .closed index :: before.diary)
    (found : before.all[index]? = some stream) :
    Clears stream.channel.path before.site after.site := by
  have unchanged {diary : Diary} : ¬ diary = .closed index :: diary :=
    fun same => List.cons_ne_self _ _ same.symm
  cases happens with
  | closes found' held | resumes found' held =>
      obtain ⟨rfl, clears⟩ := clears_stopGate (sound.exists_gate found' held) _ closed
      rw [found] at found'
      cases found'
      exact clears
  | opens =>
      unfold Streams.openStream at closed
      split at closed
      · cases (List.cons.inj closed).1
      · exact absurd closed unchanged
      · exact absurd closed unchanged
  | drops =>
      unfold Streams.dropStream at closed
      split at closed
      · exact absurd closed unchanged
      · cases (List.cons.inj closed).1
  | looks =>
      unfold Streams.look at closed
      split at closed
      · exact absurd closed unchanged
      · split at closed
        · cases (List.cons.inj closed).1
        · exact absurd closed unchanged
  | turns =>
      rw [diary_turn] at closed
      unfold readings at closed
      split at closed
      · cases (List.cons.inj closed).1
      · exact absurd closed unchanged
  | nothing | givesUp | connects | comes | passes | alters => exact absurd closed unchanged

/-! ## Sessions -/

/-- A stream is open if it was opened and neither closed nor dropped since. -/
theorem Sound.isOpen_iff (sound : streams.Sound) (found : streams.all[index]? = some stream) :
    stream.channel.isOpen = true ↔
      ∃ newer post made earlier, streams.diary = newer ++ .opened index post made :: earlier ∧
        ∀ entry ∈ newer, ¬ entry.Changes index := by
  have session := sound.session found
  unfold Channel.isOpen
  rw [session, Option.isSome_iff_exists]
  constructor
  · rintro ⟨post, held⟩
    obtain ⟨newer, made, earlier, split, unchanged⟩ := Diary.session?_eq_some_iff.mp held
    exact ⟨newer, post, made, earlier, split, unchanged⟩
  · rintro ⟨newer, post, made, earlier, split, unchanged⟩
    exact ⟨post, Diary.session?_eq_some_iff.mpr ⟨newer, made, earlier, split, unchanged⟩⟩

/-- The gate of a stream that is not open accepts nothing any more: every task is that of a
gate of another stream, or of one that was told to end. -/
theorem Sound.silent (sound : streams.Sound) (found : streams.all[index]? = some stream)
    (closed : stream.channel.gate = none) {task : Activity}
    (running : streams.tasks[post]? = some (some task)) :
    (∃ other rival, other ≠ index ∧ streams.all[other]? = some rival ∧
        rival.channel.gate = some post) ∨
      (streams.site.job post).IsCalledOff := by
  have known : post < streams.site.posts.size := by
    rw [← sound.grounded.length]
    exact (List.getElem?_eq_some_iff.mp running).1
  cases sound.stands post known with
  | ends _ calledOff => exact .inr calledOff
  | serves attends =>
      obtain ⟨other, rival, there, held, _⟩ := attends
      refine .inl ⟨other, rival, ?_, there, held⟩
      rintro rfl
      rw [found] at there
      cases there
      rw [closed] at held
      cases held

/-- Sessions of a stream, whatever its owner and others do.  The stream is open if it was
opened and neither closed nor dropped since.  To open it when it is open and to close it
when it is closed changes nothing.  An opening that fails changes nothing but the files
and leaves no gate at work for the stream; one at a path that is welcoming succeeds.  When
it has been closed its path is free, or it was reported why not.  Every command that its
owner is given was decoded in the session in which it is given. -/
theorem sessions_are_separate (host : Host) (channels : List Channel)
    (occurrences : List Occurrence) {index : Nat} {stream : Stream}
    (found : ((fresh host channels).run occurrences).all[index]? = some stream) :
    let streams := (fresh host channels).run occurrences
    ((∀ call, stream.pending ≠ .stop call) →
        (stream.channel.isOpen = true ↔
          ∃ newer post made earlier,
            streams.diary = newer ++ .opened index post made :: earlier ∧
              ∀ entry ∈ newer, ¬ entry.Changes index)) ∧
      (stream.channel.isOpen = true → streams.after (.opens index) = streams) ∧
      (stream.channel.isOpen = false → streams.after (.closes index) = streams) ∧
      (stream.channel.isOpen = false → stream.pending = .nothing →
        (∀ site fault, streams.site.openChannel stream.channel = (site, .error fault) →
          OnlyFiles streams (streams.after (.opens index)) ∧
            ∀ post task, streams.tasks[post]? = some (some task) →
              (∃ other rival, other ≠ index ∧ streams.all[other]? = some rival ∧
                rival.channel.gate = some post) ∨ (streams.site.job post).IsCalledOff) ∧
          (streams.site.host.tree.Welcomes stream.channel.path →
            ∃ post made, (streams.after (.opens index)).diary =
              .opened index post made :: streams.diary)) ∧
      (∀ occurrence, (streams.after occurrence).diary = .closed index :: streams.diary →
        Clears stream.channel.path streams.site (streams.after occurrence).site) ∧
      ∀ newer post command earlier,
        streams.diary = newer ++ .returned index post command :: earlier →
          Diary.InSession index post command earlier := by
  intro streams
  have sound : streams.Sound := sound_run host channels occurrences
  refine ⟨fun _ => sound.isOpen_iff found, after_opens_of_isOpen found,
    after_closes_of_closed found, ?_, ?_, ?_⟩
  · intro closed idle
    obtain ⟨channel, pending⟩ := stream
    cases idle
    have shut : channel.gate = none := by simpa [Channel.isOpen] using closed
    constructor
    · intro site fault fails
      rcases openStream_cases shut found with ⟨_, _, _, _, same⟩ | ⟨_, _, _, _, opens, _⟩
      · exact ⟨same, fun post task running => sound.silent found shut running⟩
      · rw [fails] at opens
        cases opens
    · intro welcomes
      obtain ⟨after, listener, listens⟩ := Host.listen_of_welcomes welcomes
      rcases openStream_cases shut found with ⟨_, _, _, refused, _⟩ | ⟨_, _, post, made, _, opened⟩
      · exact absurd listens (refused after listener)
      · exact ⟨post, made, opened⟩
  · intro occurrence closed
    exact sound.clears (happens_after streams occurrence) closed found
  · intro newer post command earlier given
    have orderly := sound.orderly
    rw [given] at orderly
    exact orderly.inSession

/-- A stream is closed while a command waits for its owner, and opened again: the owner is
given nothing, and the stream is open. -/
theorem sessions_are_separate_of_reopening :
    let streams := (fresh Service.bareHost [Channel.closed "c"]).run
      [.opens 0, .connects "c", .sends 0 Command.stop.frame, .turns 0, .turns 0, .turns 0,
        .closes 0, .turns 0, .resumes 0, .opens 0, .asks 0 Duration.zero]
    streams.diary = [.opened 0 1 1, .closed 0, .decoded 0 0 .stop, .opened 0 0 0] ∧
      ∃ stream, streams.all[0]? = some stream ∧ stream.channel.isOpen = true ∧
        streams.after (.opens 0) = streams := by
  intro streams
  have diary : streams.diary = [.opened 0 1 1, .closed 0, .decoded 0 0 .stop, .opened 0 0 0] := by
    decide +kernel
  have pending : streams.all.map (·.pending) = [.nothing] := by decide +kernel
  obtain ⟨stream, held, idle⟩ := List.map_eq_singleton_iff.mp pending
  have found : streams.all[0]? = some stream := by
    rw [held]
    rfl
  obtain ⟨isOpen_iff, opens, _⟩ := sessions_are_separate Service.bareHost [Channel.closed "c"]
    [.opens 0, .connects "c", .sends 0 Command.stop.frame, .turns 0, .turns 0, .turns 0,
      .closes 0, .turns 0, .resumes 0, .opens 0, .asks 0 Duration.zero] found
  have isOpen : stream.channel.isOpen = true := by
    refine (isOpen_iff ?_).mpr ⟨[], 1, 1, _, diary, by simp⟩
    rw [idle]
    exact fun _ => Pending.noConfusion
  exact ⟨diary, stream, found, isOpen, opens isOpen⟩

end Streams

end Overseer
