import Overseer.Proofs.Channel.Occurrences
import Overseer.Proofs.Channel.Service

/-!
# Streams that share a path

Streams with the same path take it from one another.  Each opening puts the rendezvous of
its own gate at the path, whatever was there, and each closing or drop leaves nothing
there, whosever rendezvous it was: `rendezvous_of_latest_opening`.  So the stream that was
opened last can lose its rendezvous to another one while it is still open, which
`open_stream_loses_rendezvous` shows.
-/

namespace Overseer

open Diary (Entry)

namespace Diary

/-- A stream was opened. -/
def Entry.Opens : Entry → Prop
  | .opened _ _ _ => True
  | _ => False

/-- A stream was closed or dropped. -/
def Entry.Ends : Entry → Prop
  | .closed _ | .dropped _ => True
  | _ => False

/-- Whose rendezvous was put at a shared path last, unless one was removed since. -/
def tenant? : Diary → Option Nat
  | [] => none
  | .opened _ post _ :: _ => some post
  | .closed _ :: _ | .dropped _ :: _ => none
  | .decoded _ _ _ :: earlier | .returned _ _ _ :: earlier => tenant? earlier

variable {newer : Diary}

theorem tenant?_of_quiet (unopened : ∀ entry ∈ newer, ¬ entry.Opens)
    (unended : ∀ entry ∈ newer, ¬ entry.Ends) (earlier : Diary) :
    tenant? (newer ++ earlier) = tenant? earlier := by
  induction newer with
  | nil => rfl
  | cons entry newer induction =>
      have rest := induction (fun other member => unopened other (List.mem_cons_of_mem _ member))
        (fun other member => unended other (List.mem_cons_of_mem _ member))
      cases entry with
      | opened => exact absurd trivial (unopened _ List.mem_cons_self)
      | closed => exact absurd trivial (unended _ List.mem_cons_self)
      | dropped => exact absurd trivial (unended _ List.mem_cons_self)
      | decoded => exact rest
      | returned => exact rest

theorem tenant?_of_ends {entry : Entry} (ends : entry.Ends) (earlier : Diary) :
    tenant? (entry :: earlier) = none := by
  cases entry with
  | closed | dropped => rfl
  | opened | decoded | returned => exact ends.elim

theorem tenant?_of_ended (unopened : ∀ entry ∈ newer, ¬ entry.Opens)
    (ended : ∃ entry ∈ newer, entry.Ends) (earlier : Diary) :
    tenant? (newer ++ earlier) = none := by
  induction newer with
  | nil =>
      obtain ⟨entry, member, _⟩ := ended
      cases member
  | cons entry newer induction =>
      obtain ⟨last, member, ends⟩ := ended
      have rest (among : last ∈ newer) : tenant? (newer ++ earlier) = none :=
        induction (fun other member => unopened other (List.mem_cons_of_mem _ member))
          ⟨last, among, ends⟩
      cases entry with
      | opened => exact absurd trivial (unopened _ List.mem_cons_self)
      | closed => rfl
      | dropped => rfl
      | decoded =>
          rcases List.mem_cons.mp member with rfl | among
          · exact ends.elim
          · exact rest among
      | returned =>
          rcases List.mem_cons.mp member with rfl | among
          · exact ends.elim
          · exact rest among

end Diary

namespace Streams

/-- Others change the files. -/
def Occurrence.Alters : Occurrence → Prop
  | .alters _ => True
  | _ => False

variable {path : String} {index post : Nat} {stream next : Stream}
  {before after streams : Streams}

/-! ## What happens at the path -/

/-- Every gate keeps its listener. -/
def Retains (before after : Streams) : Prop :=
  ∀ {post gate}, before.site.gate? post = some gate →
    ∃ next, after.site.gate? post = some next ∧ next.listener = gate.listener

/-- What an occurrence comes to for the files at a path that all streams share. -/
inductive Touches (path : String) (before after : Streams) : Prop where
  | leaves (tree : after.site.host.tree = before.site.host.tree)
      (retains : Retains before after) (newer : Diary)
      (diary : after.diary = newer ++ before.diary)
      (unopened : ∀ entry ∈ newer, ¬ entry.Opens) (unended : ∀ entry ∈ newer, ¬ entry.Ends)
  | refused {host : Host} {error : SystemError}
      (refused : before.site.host.listen path = (host, .error error))
      (diary : after.diary = before.diary)
  | takes {host : Host} {index post made : Nat} (gate : Gate)
      (listens : before.site.host.listen path = (host, .ok gate.listener))
      (tree : after.site.host.tree = host.tree) (guarded : after.site.gate? post = some gate)
      (diary : after.diary = .opened index post made :: before.diary)
  | frees {index post made : Nat} {entry : Entry} {failure : Option SystemError}
      (opened : .opened index post made ∈ before.diary)
      (diary : after.diary = entry :: before.diary) (ends : entry.Ends)
      (removes : Site.Removes path before.site.host.tree after.site.host.tree failure)

theorem retains_of_handles (handles : Site.Handles post before.site after.site) :
    Retains before after := by
  intro other gate guarded
  by_cases here : other = post
  · subst here
    exact handles.gate guarded
  · refine ⟨gate, ?_, rfl⟩
    unfold Site.gate? at guarded ⊢
    rw [handles.others other here]
    exact guarded

theorem touches_of_posts (path : String) (posts : after.site.posts = before.site.posts)
    (tree : after.site.host.tree = before.site.host.tree)
    (diary : after.diary = before.diary) : Touches path before after := by
  refine .leaves tree ?_ [] diary (by simp) (by simp)
  intro other gate guarded
  exact ⟨gate, by rw [Site.gate?_of_posts posts]; exact guarded, rfl⟩

theorem Sound.touches_look (sound : streams.Sound) (found : streams.all[index]? = some stream)
    (unstopped : ∀ call, stream.pending ≠ .stop call) (deadline : Instant) (path : String) :
    Touches path streams (streams.look index stream deadline) := by
  unfold Streams.look
  split
  · exact touches_of_posts path rfl rfl rfl
  · rename_i post held
    obtain ⟨gate, watch, serves⟩ := sound.serves found ⟨held, unstopped⟩
    unfold Site.takeCommand?
    rw [serves.guarded]
    dsimp only
    cases gate.queue with
    | nil => exact touches_of_posts path rfl rfl rfl
    | cons command rest =>
        have handles : Site.Handles post streams.site
            (streams.site.setGate post { gate with queue := rest }) :=
          Site.handles_setGate serves.guarded rfl
        refine .leaves rfl (retains_of_handles handles) [_] rfl ?_ ?_
        · intro entry member
          rw [List.mem_singleton.mp member]
          exact id
        · intro entry member
          rw [List.mem_singleton.mp member]
          exact id

theorem Sound.touches_turn (sound : streams.Sound) {task : Activity}
    (running : streams.tasks[post]? = some (some task)) (path : String) :
    Touches path streams (streams.turn post task) := by
  have known : post < streams.site.posts.size := by
    rw [← sound.grounded.length]
    exact (List.getElem?_eq_some_iff.mp running).1
  have retains {gate last : Gate} (guarded : streams.site.gate? post = some gate)
      (confined : Site.Confined post gate.listener streams.site (streams.site.turn task).world)
      (still : (streams.site.turn task).world.gate? post = some last)
      (same : last.listener = gate.listener) : Retains streams (streams.turn post task) := by
    intro other held holds
    by_cases here : other = post
    · subst here
      rw [guarded] at holds
      cases holds
      exact ⟨last, still, same⟩
    · exact ⟨held, (confined.gate? here).trans holds, rfl⟩
  have quiet : ∀ entry ∈ readings task (streams.site.turn task).rest,
      ¬ entry.Opens ∧ ¬ entry.Ends := by
    unfold readings
    split
    · intro entry member
      rw [List.mem_singleton.mp member]
      exact ⟨id, id⟩
    · simp
  have touches {gate last : Gate} (guarded : streams.site.gate? post = some gate)
      (confined : Site.Confined post gate.listener streams.site (streams.site.turn task).world)
      (still : (streams.site.turn task).world.gate? post = some last)
      (same : last.listener = gate.listener) : Touches path streams (streams.turn post task) :=
    .leaves confined.tree (retains guarded confined still same) _ (diary_turn streams post task)
      (fun entry member => (quiet entry member).1) (fun entry member => (quiet entry member).2)
  cases sound.stands post known with
  | serves attends gate watch serves =>
      obtain ⟨begun, held, minds⟩ := serves.task
      rw [running] at held
      cases held
      obtain ⟨next, continues⟩ := Site.continues_turn serves.guarded minds serves.free
        (sound.grounded.listens serves.guarded)
      obtain ⟨step, goes, guarded, _⟩ := continues.goes
      exact touches serves.guarded continues.confined guarded goes.listener
  | ends left calledOff =>
      obtain ⟨gate, guarded⟩ := sound.grounded.gates post known
      obtain ⟨watch, minds⟩ := sound.grounded.minds running
      have ends := Site.ends_turn guarded minds calledOff
      exact touches guarded ends.confined ends.guarded rfl

theorem Sound.touches_stopGate (sound : streams.Sound)
    (found : streams.all[index]? = some stream) (held : stream.channel.gate = some post)
    (step : StopCall.Step) :
    Touches stream.channel.path streams (streams.stopGate index stream post
      (streams.site.commit post step, step.standing)) := by
  have session : Diary.session? index streams.diary = some post := by
    rw [← sound.session found, held]
  obtain ⟨made, opened⟩ := Diary.exists_opened_of_session? session
  obtain ⟨gate, guarded⟩ := sound.grounded.gates post
    (sound.grounded.recorded _ opened post rfl)
  obtain ⟨handles, _, host⟩ := Site.handles_commit guarded step
  obtain ⟨still, holds, _⟩ := handles.gate guarded
  have ends : Touches stream.channel.path streams
      (((streams.withSite ((streams.site.commit post step).clearChannel
        stream.channel.path post)).update index stream.shut).write [.closed index]) := by
    obtain ⟨tree, failure, newer, removes, cleared, _⟩ :=
      Site.clearChannel_eq holds stream.channel.path
    rw [host] at removes
    refine .frees opened rfl trivial (?_ : Site.Removes _ _ _ failure)
    show Site.Removes _ _ (Site.clearChannel _ _ _).host.tree failure
    rw [cleared]
    exact removes
  cases step.standing with
  | waits call =>
      refine .leaves ?_ (retains_of_handles handles) [] rfl (by simp) (by simp)
      show (streams.site.commit post step).host.tree = streams.site.host.tree
      rw [host]
  | returned => exact ends
  | crashed => exact ends

theorem Sound.touches_dropStream (sound : streams.Sound)
    (found : streams.all[index]? = some stream) :
    Touches stream.channel.path streams (streams.dropStream index stream) := by
  unfold Streams.dropStream
  split
  · exact touches_of_posts _ rfl rfl rfl
  · rename_i post held
    have session : Diary.session? index streams.diary = some post := by
      rw [← sound.session found, held]
    obtain ⟨made, opened⟩ := Diary.exists_opened_of_session? session
    obtain ⟨tree, failure, removes, abandoned⟩ := Site.abandonChannel_eq held streams.site
    refine .frees opened rfl trivial (?_ : Site.Removes _ _ _ failure)
    show Site.Removes _ _ (Site.abandonChannel _ _).host.tree failure
    rw [abandoned]
    exact removes

theorem touches_openStream (streams : Streams) (index : Nat) (stream : Stream) :
    Touches stream.channel.path streams (streams.openStream index stream) := by
  unfold Streams.openStream
  cases closed : stream.channel.gate with
  | some post =>
      rw [Site.openChannel_of_isOpen (by simp [Channel.isOpen, closed])]
      exact touches_of_posts _ rfl rfl rfl
  | none =>
      have opening := Site.opening_openChannel closed streams.site
      generalize streams.site.openChannel stream.channel = result at opening ⊢
      cases opening with
      | fails tree error refused => exact .refused refused rfl
      | opens tree listens =>
          refine .takes ⟨_, stream.channel.connectionTimeout, []⟩ listens rfl ?_ rfl
          unfold Site.gate?
          dsimp only
          rw [Array.getElem?_push_size]
          rfl

def paths (streams : Streams) : List String :=
  streams.all.map (·.channel.path)

theorem path_of_paths (shared : ∀ other ∈ streams.paths, other = path)
    (found : streams.all[index]? = some stream) : stream.channel.path = path :=
  shared _ (List.mem_map_of_mem (List.mem_of_getElem? found))

/-- Whatever happens, but for others who change the files. -/
theorem Sound.touches {occurrence : Occurrence} (sound : before.Sound)
    (happens : Happens before occurrence after) (alone : ¬ occurrence.Alters)
    (shared : ∀ other ∈ before.paths, other = path) : Touches path before after := by
  cases happens with
  | opens found =>
      rw [← path_of_paths shared found]
      exact touches_openStream before _ _
  | closes found held | resumes found held =>
      rw [← path_of_paths shared found]
      exact sound.touches_stopGate found held _
  | drops found =>
      rw [← path_of_paths shared found]
      exact sound.touches_dropStream found
  | looks _ found unstopped deadline => exact sound.touches_look found unstopped deadline path
  | turns running => exact sound.touches_turn running path
  | nothing | givesUp | connects | comes | passes => exact touches_of_posts path rfl rfl rfl
  | alters => exact absurd trivial alone

theorem paths_of_set (found : before.all[index]? = some stream)
    (set : after.all = before.all.set index next)
    (same : next.channel.path = stream.channel.path) : after.paths = before.paths := by
  unfold paths
  rw [set, List.map_set, same]
  apply List.ext_getElem?
  intro place
  rw [List.getElem?_set]
  split
  · rename_i here
    subst here
    rw [List.getElem?_map, found]
    split
    · rfl
    · rename_i beyond
      rw [List.length_map] at beyond
      exact absurd (List.getElem?_eq_some_iff.mp found).1 beyond
  · rfl

theorem paths_of_happens {occurrence : Occurrence} (happens : Happens before occurrence after) :
    after.paths = before.paths := by
  have stops {index post : Nat} {stream : Stream} (found : before.all[index]? = some stream)
      (stopped : Site × StopCall.Standing) :
      (before.stopGate index stream post stopped).paths = before.paths := by
    obtain ⟨site, standing⟩ := stopped
    cases standing with
    | waits | returned | crashed => exact paths_of_set found rfl rfl
  cases happens with
  | opens found =>
      unfold Streams.openStream
      split
      · rename_i opened
        exact paths_of_set found rfl (Site.path_of_openChannel opened)
      · rfl
      · rfl
  | closes found _ | resumes found _ => exact stops found _
  | drops found =>
      unfold Streams.dropStream
      split
      · rfl
      · exact paths_of_set found rfl rfl
  | looks _ found =>
      unfold Streams.look
      split
      · rfl
      · split
        · exact paths_of_set found rfl rfl
        · exact paths_of_set found rfl rfl
  | givesUp found => exact paths_of_set found rfl rfl
  | nothing | turns | connects | comes | passes | alters => rfl

/-! ## Tenancy -/

/-- The path is known once a stream was opened: the gate of the latest one has its
rendezvous there, unless a stream was closed or dropped since. -/
inductive Tenancy (path : String) (streams : Streams) : Prop where
  | never (unopened : ∀ {index post made}, .opened index post made ∉ streams.diary)
  | vacant (ended : streams.diary.tenant? = none) (address : checkAddress path = .ok ())
      (visible : streams.site.host.tree.Shows path none)
  | taken {post : Nat} {gate : Gate} (tenant : streams.diary.tenant? = some post)
      (guarded : streams.site.gate? post = some gate) (address : checkAddress path = .ok ())
      (visible : streams.site.host.tree.Shows path (some (.socket gate.listener 0o600)))

/-- A path that was taken can be removed and taken again. -/
theorem Tenancy.known (tenancy : Tenancy path streams) {index post made : Nat}
    (opened : .opened index post made ∈ streams.diary) :
    checkAddress path = .ok () ∧ ∃ face, streams.site.host.tree.Shows path face := by
  cases tenancy with
  | never unopened => exact absurd opened unopened
  | vacant _ address visible => exact ⟨address, _, visible⟩
  | taken _ _ address visible => exact ⟨address, _, visible⟩

theorem Tenancy.keeps (tenancy : Tenancy path before) (touches : Touches path before after) :
    Tenancy path after := by
  cases touches with
  | leaves tree retains newer diary unopened unended =>
      have tenant : after.diary.tenant? = before.diary.tenant? := by
        rw [diary, Diary.tenant?_of_quiet unopened unended]
      cases tenancy with
      | never silent =>
          refine .never ?_
          intro index post made member
          rw [diary] at member
          rcases List.mem_append.mp member with late | early
          · exact unopened _ late trivial
          · exact silent early
      | vacant ended address visible =>
          exact .vacant (tenant.trans ended) address (by rw [tree]; exact visible)
      | taken held guarded address visible =>
          obtain ⟨next, guards, same⟩ := retains guarded
          exact .taken (tenant.trans held) guards address (by rw [tree, same]; exact visible)
  | refused refused diary =>
      have impossible {face : Option Face} (address : checkAddress path = .ok ())
          (visible : before.site.host.tree.Shows path face) : False := by
        obtain ⟨_, _, listens⟩ := Host.listen_of_shows visible address
        rw [refused] at listens
        cases listens
      cases tenancy with
      | never silent => exact .never (by rw [diary]; exact silent)
      | vacant _ address visible => exact (impossible address visible).elim
      | taken _ _ address visible => exact (impossible address visible).elim
  | takes gate listens tree guarded diary =>
      obtain ⟨visible, address⟩ := Host.shows_of_listen listens
      exact .taken (by rw [diary]; rfl) guarded address (by rw [tree]; exact visible)
  | frees opened diary ends removes =>
      obtain ⟨address, face, visible⟩ := tenancy.known opened
      obtain ⟨removed, removal, missing⟩ := visible.remove
      have ended : after.diary.tenant? = none := by
        rw [diary]
        exact Diary.tenant?_of_ends ends before.diary
      generalize freed : after.site.host.tree = tree at removes
      cases removes with
      | removed removes =>
          rw [removes] at removal
          cases removal
          exact .vacant ended address (by rw [freed]; exact missing)
      | kept refused =>
          rw [refused] at removal
          cases removal

/-- Whatever happens to streams that share a path, the path is known. -/
theorem tenancy_run {host : Host} {channels : List Channel}
    (shared : ∀ channel ∈ channels, channel.path = path) {occurrences : List Occurrence}
    (alone : ∀ occurrence ∈ occurrences, ¬ occurrence.Alters) :
    Tenancy path ((fresh host channels).run occurrences) := by
  have kept (streams : Streams) (sound : streams.Sound)
      (same : ∀ other ∈ streams.paths, other = path) (tenancy : Tenancy path streams) :
      Tenancy path (streams.run occurrences) := by
    induction occurrences generalizing streams with
    | nil => exact tenancy
    | cons occurrence occurrences induction =>
        have happens := happens_after streams occurrence
        refine induction (fun other member => alone other (List.mem_cons_of_mem _ member)) _
          (sound.happens happens) ?_ ?_
        · rw [paths_of_happens happens]
          exact same
        · exact tenancy.keeps
            (sound.touches happens (alone occurrence List.mem_cons_self) same)
  refine kept _ (sound_fresh host channels) ?_ (.never (by simp [fresh]))
  intro other member
  obtain ⟨stream, among, rfl⟩ := List.mem_map.mp member
  obtain ⟨channel, listed, rfl⟩ := List.mem_map.mp among
  exact shared channel listed

/-- Of streams that share a path, the one that was opened last has its rendezvous there,
and clients reach it as long as it is not being closed, until any one of the streams is
closed or dropped; then nothing is there. -/
theorem rendezvous_of_latest_opening {host : Host} {channels : List Channel} {path : String}
    (shared : ∀ channel ∈ channels, channel.path = path) {occurrences : List Occurrence}
    (alone : ∀ occurrence ∈ occurrences, ¬ occurrence.Alters) {newer earlier : Diary}
    {index post made : Nat}
    (opened : ((fresh host channels).run occurrences).diary =
      newer ++ .opened index post made :: earlier)
    (latest : ∀ entry ∈ newer, ¬ entry.Opens) :
    let streams := (fresh host channels).run occurrences
    ((∃ entry ∈ newer, entry.Ends) → streams.site.host.tree.at? path = none) ∧
      ((∀ entry ∈ newer, ¬ entry.Ends) →
        ∃ gate, streams.site.gate? post = some gate ∧
          streams.site.host.tree.at? path = some (.socket gate.listener 0o600) ∧
          ∀ stream, streams.all[index]? = some stream →
            (∀ call, stream.pending ≠ .stop call) →
            stream.channel.isOpen = true ∧
              streams.site.host.connect path = .ok
                ({ streams.site.host with
                    sockets := (streams.site.host.sockets.connect gate.listener).1 },
                  (streams.site.host.sockets.connect gate.listener).2)) := by
  intro streams
  have sound : streams.Sound := sound_run host channels occurrences
  have tenancy : Tenancy path streams := tenancy_run shared alone
  have tenant : Diary.tenant? (.opened index post made :: earlier) = some post := rfl
  have taken : .opened index post made ∈ streams.diary := by
    rw [show streams.diary = _ from opened]
    simp
  constructor
  · intro ended
    have vacated : streams.diary.tenant? = none := by
      rw [show streams.diary = _ from opened]
      exact Diary.tenant?_of_ended latest ended _
    cases tenancy with
    | never unopened => exact absurd taken unopened
    | vacant _ _ visible => exact visible.missing
    | taken held =>
        rw [vacated] at held
        cases held
  · intro unended
    have held : streams.diary.tenant? = some post := by
      rw [show streams.diary = _ from opened, Diary.tenant?_of_quiet latest unended]
      exact tenant
    cases tenancy with
    | never unopened => exact absurd taken unopened
    | vacant ended =>
        rw [ended] at held
        cases held
    | @taken other gate holds guarded address visible =>
        rw [held] at holds
        cases holds
        refine ⟨gate, guarded, visible.socket, ?_⟩
        intro stream found unstopped
        have session : Diary.session? index streams.diary = some post := by
          refine Diary.session?_eq_some_iff.mpr ⟨newer, made, earlier, opened, ?_⟩
          intro entry member changes
          cases entry with
          | opened => exact latest _ member trivial
          | closed => exact unended _ member trivial
          | dropped => exact unended _ member trivial
          | decoded => exact changes
          | returned => exact changes
        have served : stream.IsServed post := ⟨(sound.session found).trans session, unstopped⟩
        obtain ⟨held', watch, serves⟩ := sound.serves found served
        have same := serves.guarded
        rw [guarded] at same
        cases same
        refine ⟨by simp [Channel.isOpen, served.1], ?_⟩
        exact Host.connect_of_shows visible address serves.isOpen

/-- Two streams with one path are opened one after the other; the second one has the
path. -/
theorem rendezvous_of_second_opening :
    let channels := [Channel.closed "c", Channel.closed "c"]
    let streams := (fresh Service.bareHost channels).run [.opens 0, .opens 1]
    ∃ gate, streams.site.gate? 1 = some gate ∧
      streams.site.host.tree.at? "c" = some (.socket gate.listener 0o600) ∧
      ∀ stream, streams.all[1]? = some stream → (∀ call, stream.pending ≠ .stop call) →
        stream.channel.isOpen = true ∧
          streams.site.host.connect "c" = .ok
            ({ streams.site.host with
                sockets := (streams.site.host.sockets.connect gate.listener).1 },
              (streams.site.host.sockets.connect gate.listener).2) := by
  have shared : ∀ channel ∈ [Channel.closed "c", Channel.closed "c"], channel.path = "c" := by
    decide
  have alone : ∀ occurrence ∈ [Occurrence.opens 0, .opens 1], ¬ occurrence.Alters := by
    simp [Occurrence.Alters]
  have opened : ((fresh Service.bareHost [Channel.closed "c", Channel.closed "c"]).run
      [.opens 0, .opens 1]).diary = [] ++ .opened 1 1 0 :: [.opened 0 0 0] := by
    decide +kernel
  exact (rendezvous_of_latest_opening shared alone opened (by simp)).2 (by simp)

/-- The stream that was opened last is open, but its rendezvous is gone: the other stream
was dropped, or closed. -/
theorem open_stream_loses_rendezvous :
    let begun := fresh Service.bareHost [Channel.closed "c", Channel.closed "c"]
    let dropped := begun.run [.opens 0, .opens 1, .drops 0]
    let closed := begun.run [.opens 0, .opens 1, .closes 0, .turns 0, .resumes 0]
    (dropped.diary = [.dropped 0, .opened 1 1 0, .opened 0 0 0] ∧
        dropped.all.map (·.channel.isOpen) = [false, true] ∧
        dropped.site.host.tree.at? "c" = none ∧
        (dropped.site.host.connect "c").isOk = false) ∧
      closed.diary = [.closed 0, .opened 1 1 0, .opened 0 0 0] ∧
        closed.all.map (·.channel.isOpen) = [false, true] ∧
        closed.site.host.tree.at? "c" = none ∧
        (closed.site.host.connect "c").isOk = false := by
  refine ⟨⟨?_, ?_, ?_, ?_⟩, ?_, ?_, ?_, ?_⟩
  · decide +kernel
  · decide +kernel
  · exact Option.isNone_iff_eq_none.mp (by decide +kernel)
  · decide +kernel
  · decide +kernel
  · decide +kernel
  · exact Option.isNone_iff_eq_none.mp (by decide +kernel)
  · decide +kernel

end Streams

end Overseer
