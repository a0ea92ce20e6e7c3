import Overseer.Proofs.Supervision.Annals
import Overseer.Proofs.Supervision.Charge

/-!
# Obituaries

The body of a round waits for its child and takes down how it ended.  Nobody else does, and
what was taken down stays: what is on record about a round is what its own body wrote,
which writes once at most.  Nothing is on record about a round whose child was never
spawned, or whose body was told to end before it saw the end of its child.
-/

namespace Overseer

/-- What a body writes about its child when it has ended. -/
structure Obituary where
  offspring : Offspring
  status : ExitStatus
  deriving DecidableEq

def Obituary.about (round : Nat) (obituary : Option Obituary) : Option ExitStatus :=
  (obituary.filter (·.offspring.round = round)).map Obituary.status

theorem Obituary.about_eq_some {round : Nat} {obituary : Option Obituary}
    {status : ExitStatus} :
    Obituary.about round obituary = some status ↔
      ∃ child, obituary = some ⟨⟨round, child⟩, status⟩ := by
  unfold about
  constructor
  · intro told
    obtain ⟨written, kept, is⟩ := Option.map_eq_some_iff.mp told
    obtain ⟨was, own⟩ := Option.filter_eq_some_iff.mp kept
    have own : written.offspring.round = round := of_decide_eq_true own
    exact ⟨written.offspring.child, by rw [was, ← own, ← is]⟩
  · intro written
    obtain ⟨child, is⟩ := written
    rw [is, Option.filter_some, decide_eq_true rfl]
    rfl

namespace Application

/-- A body that goes on to attend to its child changes nothing that is known of it. -/
theorem application_attend (application : Application) (now : Instant) (stopFlag : Bool)
    (attendance : Attendance) :
    (application.attend now stopFlag none attendance).application = application := by
  cases attendance with
  | running child =>
      unfold attend awaitExit awaitTermination killChild
      dsimp only
      repeat' split
      all_goals rfl
  | exiting child deadline =>
      unfold attend awaitExit awaitTermination killChild
      dsimp only
      repeat' split
      all_goals rfl
  | terminating child deadline =>
      unfold attend awaitTermination killChild
      dsimp only
      split <;> rfl
  | killing child => rfl

end Application

namespace Site

/-- How the child of a round ended, as far as its application knows. -/
def record? (site : Site) (round : Nat) : Option ExitStatus :=
  (site.application? round).bind Application.status

/-- What the body at a post writes about the child that it attends to. -/
def obituaryOf? (site : Site) (post : Nat) (attendance : Attendance) : Option Obituary :=
  if (site.job post).aborted then none
  else
    (site.application? post).bind fun _ =>
      (site.childStatus attendance).map fun status => ⟨⟨post, attendance.child⟩, status⟩

/-- What a task writes in its turn. -/
def obituary? (site : Site) : Activity → Option Obituary
  | .enter post =>
      (site.spawn? post).bind fun spawned =>
        { site with host := spawned.1 }.obituaryOf? post (.running spawned.2)
  | .attend post attendance => site.obituaryOf? post attendance
  | _ => none

/-- What is on record after a step in which this was written. -/
def Learns (obituary : Option Obituary) (before after : Site) : Prop :=
  ∀ round, after.record? round = (Obituary.about round obituary).or (before.record? round)

/-- A step that leaves what is on record as it is. -/
abbrev Remembers (before after : Site) : Prop :=
  Learns none before after

variable {site before after third : Site} {post index : Nat} {supervisor : Supervisor}
  {application : Application} {obituary : Option Obituary}

theorem Learns.following (learns : Learns obituary after third)
    (remembers : Remembers before after) : Learns obituary before third := by
  intro round
  rw [learns round, remembers round]
  rfl

theorem Remembers.trans (first : Remembers before after) (second : Remembers after third) :
    Remembers before third :=
  second.following first

/-! ## Posts -/

theorem remembers_of_posts (posts : after.posts = before.posts) : Remembers before after := by
  intro round
  unfold record?
  rw [application?_of_posts posts]
  rfl

theorem application?_setJob (site : Site) (post : Nat) (job : Job) (other : Nat) :
    (site.setJob post job).application? other = site.application? other := by
  unfold application?
  rw [duty_setJob]

theorem remembers_setJob (site : Site) (post : Nat) (job : Job) :
    Remembers site (site.setJob post job) := by
  intro round
  unfold record?
  rw [application?_setJob]
  rfl

theorem remembers_commit (site : Site) (post : Nat) (step : StopCall.Step) :
    Remembers site (site.commit post step) := by
  obtain ⟨host, notices, signals, same⟩ := commit_eq site post step
  rw [same]
  exact (remembers_setJob site post step.job).trans (remembers_of_posts rfl)

/-- Nothing is on record about what is no round. -/
theorem record?_of_unattended (unattended : site.application? post = none) :
    site.record? post = none := by
  unfold record?
  rw [unattended]
  rfl

theorem record?_of_amends (amends : Amends post before after) {round : Nat}
    (apart : round ≠ post) : after.record? round = before.record? round := by
  unfold record? application?
  rw [amends.others round apart]

theorem learns_of_amends (amends : Amends post before after)
    (own : ∀ written ∈ obituary, written.offspring.round = post)
    (known : after.record? post =
      (obituary.map Obituary.status).or (before.record? post)) :
    Learns obituary before after := by
  intro round
  by_cases mine : round = post
  · subst mine
    rw [known]
    cases obituary with
    | none => rfl
    | some written =>
        unfold Obituary.about
        rw [Option.filter_some, decide_eq_true (own written rfl)]
        rfl
  · rw [record?_of_amends amends mine]
    have none : Obituary.about round obituary = none := by
      apply Option.eq_none_iff_forall_ne_some.mpr
      intro status told
      obtain ⟨child, is⟩ := Obituary.about_eq_some.mp told
      exact mine (own _ is)
    rw [none]
    rfl

theorem remembers_of_amends (amends : Amends post before after)
    (known : after.record? post = before.record? post) : Remembers before after := by
  apply learns_of_amends amends
  · intro written member
    cases member
  · exact known

theorem remembers_of_unattended (amends : Amends post before after)
    (charter : after.charter? post = before.charter? post)
    (unattended : before.application? post = none) : Remembers before after := by
  have still : after.application? post = none := by
    apply Option.not_isSome_iff_eq_none.mp
    rw [isSome_application?, charter, ← isSome_application?, unattended]
    exact Bool.false_ne_true
  apply remembers_of_amends amends
  rw [record?_of_unattended unattended, record?_of_unattended still]

theorem application?_of_gate? {gate : Gate} (guarded : site.gate? post = some gate) :
    site.application? post = none := by
  apply Option.not_isSome_iff_eq_none.mp
  rw [isSome_application?, charter?_of_gate guarded]
  exact Bool.false_ne_true

theorem remembers_setGate {gate : Gate} (guarded : site.gate? post = some gate)
    (next : Gate) : Remembers site (site.setGate post next) :=
  remembers_of_unattended (amends_setGate site post next)
    ((tends_setGate guarded (fun _ => True) next).charter post)
    (application?_of_gate? guarded)

theorem remembers_addPost (site : Site) {added : Post}
    (unknown : ∀ application sink, added.duty = .application application sink →
      application.status = none) : Remembers site (site.addPost added).1 := by
  intro round
  by_cases newest : round = site.posts.size
  · subst newest
    have absent : site.record? site.posts.size = none := by
      simp [record?, application?]
    rw [absent]
    unfold record? application? addPost
    rw [Array.getElem?_push, if_pos rfl]
    cases duty : added.duty with
    | gate gate => simp [duty, Obituary.about]
    | application application sink =>
        simp [duty, unknown application sink duty, Obituary.about]
  · unfold record? application? addPost
    rw [Array.getElem?_push, if_neg newest]
    rfl

/-! ## Bodies -/

theorem exists_employs (attended : site.application? post = some application) :
    ∃ sink, site.Employs post application sink := by
  unfold application? at attended
  unfold Employs
  cases held : (site.posts[post]?).map Post.duty with
  | none => simp [held] at attended
  | some duty =>
      cases duty with
      | gate gate => simp [held] at attended
      | application other sink =>
          rw [held] at attended
          cases attended
          exact ⟨sink, rfl⟩

theorem remembers_dropBody (site : Site) (post : Nat) :
    Remembers site (site.dropBody post) :=
  (remembers_of_posts (posts_closeListener site post)).trans (remembers_setJob _ post _)

theorem remembers_failBody (site : Site) (post : Nat) (fault : Fault) :
    Remembers site (site.failBody post fault) := by
  have told : Remembers site (site.report (.bodyFailed fault)) := remembers_of_posts rfl
  have closed := told.trans (remembers_of_posts (posts_closeListener _ post))
  exact closed.trans (remembers_setJob _ post _)

/-- A body that attends to its child writes down its end once it has ended. -/
theorem learns_attend (attended : site.application? post = some application)
    (attendance : Attendance) :
    Learns ((site.childStatus attendance).map fun status =>
        ⟨⟨post, attendance.child⟩, status⟩)
      site (site.attend post application attendance).1 := by
  obtain ⟨sink, employs⟩ := exists_employs attended
  have amends := amends_attend site post application attendance
  have known : site.record? post = application.status := by
    unfold record?
    rw [attended]
    rfl
  cases ended : site.childStatus attendance with
  | some status =>
      apply learns_of_amends amends
      · intro written member
        cases member
        rfl
      · have left := (employs.setApplication (application.withStatus status)).setJob
          (site.job post).finish
        rw [attend_of_ended employs ended]
        unfold record?
        rw [left.application?]
        rfl
  | none =>
      apply remembers_of_amends amends
      obtain ⟨next, waits, _⟩ := application.waits_attend site.now (site.job post).stopFlag
        attendance
      obtain ⟨_, deals, _⟩ := deals_attend employs ended rfl waits
      have kept := deals.employs.application?
      rw [application.application_attend] at kept
      rw [known]
      unfold record?
      rw [kept]
      rfl

theorem launch_eq_attend (attended : site.application? post = some application) {host : Host}
    {child : ProcessNumber}
    (spawns : site.host.spawn application.program application.report = .ok (host, child)) :
    ∃ started : Site,
      site.launch post application =
          started.attend post (application.withChild child) (.running child) ∧
        started.application? post = some (application.withChild child) ∧
        started.host = host ∧ Remembers site started := by
  let hosted : Site := { site with host := host }
  let started := (hosted.setApplication post (application.withChild child)).postFrom post
    (.applicationStarted child)
  have housed : hosted.application? post = some application := attended
  have manned : started.application? post = some (application.withChild child) :=
    (application?_of_posts (posts_postFrom _ post _) post).trans
      (application?_setApplication housed _)
  have amends : Amends post site started := by
    have grown : Amends post site hosted := amends_of_posts rfl
    exact (grown.trans (amends_setApplication hosted post _)).trans
      (amends_of_posts (posts_postFrom _ post _))
  refine ⟨started, ?_, manned, host_postFrom _ post _, remembers_of_amends amends ?_⟩
  · unfold launch
    rw [spawns]
  · unfold record?
    rw [manned, attended]
    rfl

theorem learns_launch (attended : site.application? post = some application) :
    Learns ((site.host.spawn application.program application.report).toOption.bind
        fun spawned => (spawned.1.status? spawned.2).map fun status =>
          ⟨⟨post, spawned.2⟩, status⟩)
      site (site.launch post application).1 := by
  cases spawns : site.host.spawn application.program application.report with
  | error error =>
      unfold launch
      rw [spawns]
      exact remembers_failBody site post _
  | ok spawned =>
      obtain ⟨started, launches, manned, same, remembers⟩ := launch_eq_attend attended spawns
      have learns := learns_attend manned (.running spawned.2)
      unfold childStatus at learns
      rw [same] at learns
      rw [launches]
      exact learns.following remembers

theorem remembers_failApplication (attended : site.application? post = some application)
    (attendance : Attendance) (fault : Fault) :
    Remembers site (site.failApplication post application attendance fault) := by
  have left := site.posts_letGo post attendance
  have letGo : Remembers site (site.letGo post attendance) := remembers_of_posts left
  have still : (site.letGo post attendance).application? post = some application :=
    (application?_of_posts left post).trans attended
  have alone : Remembers (site.letGo post attendance)
      ((site.letGo post attendance).setApplication post application.withoutChild) := by
    apply remembers_of_amends (amends_setApplication _ post _)
    unfold record?
    rw [application?_setApplication still, still]
    rfl
  exact (letGo.trans alone).trans (remembers_failBody _ post fault)

theorem charter?_turn {task : Activity} (own : task.body? = some post) :
    (site.turn task).world.charter? post = site.charter? post :=
  (site.worksOn_turn own).tends.charter post

theorem remembers_guardTurn (site : Site) (post : Nat) (watch : Gate.Watch) :
    Remembers site (site.guardTurn post watch).world := by
  have amends : Amends post site (site.guardTurn post watch).world :=
    show Amends post site (site.turn (.guard post watch)).world from amends_turn rfl
  have charter : (site.guardTurn post watch).world.charter? post = site.charter? post :=
    show (site.turn (.guard post watch)).world.charter? post = _ from charter?_turn rfl
  cases guarded : site.gate? post with
  | some gate =>
      exact remembers_of_unattended amends charter (application?_of_gate? guarded)
  | none =>
      unfold guardTurn
      rw [guarded]
      exact remembers_of_posts rfl

theorem learns_attendTurn (site : Site) (post : Nat) (attendance : Attendance) :
    Learns (site.obituaryOf? post attendance) site
      (site.attendTurn post attendance).world := by
  unfold obituaryOf? attendTurn
  cases attended : site.application? post with
  | none =>
      have none : (if (site.job post).aborted then (none : Option Obituary) else none) = none :=
        ite_self _
      rw [Option.bind_none, none]
      exact remembers_of_posts rfl
  | some application =>
      dsimp only
      split
      · exact (remembers_of_posts (posts_letGo site post attendance)).trans
          (remembers_dropBody _ post)
      · exact learns_attend attended attendance

theorem learns_enterTurn (site : Site) (post : Nat) :
    Learns (site.obituary? (.enter post)) site (site.enterTurn post).world := by
  have amends : Amends post site (site.enterTurn post).world :=
    show Amends post site (site.turn (.enter post)).world from amends_turn rfl
  have charter : (site.enterTurn post).world.charter? post = site.charter? post :=
    show (site.turn (.enter post)).world.charter? post = _ from charter?_turn rfl
  unfold obituary? spawn? obituaryOf?
  dsimp only
  cases told : (site.job post).aborted with
  | true =>
      have dropped : (site.enterTurn post).world = site.dropBody post := by
        unfold enterTurn
        rw [told]
        rfl
      rw [dropped]
      exact remembers_dropBody site post
  | false =>
      cases attended : site.application? post with
      | some application =>
          have entered : (site.setJob post (site.job post).enter).application? post =
              some application := (application?_setJob site post _ post).trans attended
          have learns := (learns_launch entered).following (remembers_setJob site post _)
          rw [enterTurn_of_application attended told]
          have housed : ∀ host, ({ site with host := host } : Site).application? post =
              some application := fun _ => attended
          have spared : ∀ host, (({ site with host := host } : Site).job post).aborted =
              false := fun _ => told
          simp only [housed, spared, Option.bind_some]
          exact learns
      | none => exact remembers_of_unattended amends charter attended

/-! ## Requests -/

theorem remembers_beginStop (site : Site) (round : Nat) (timeout : Duration) :
    Remembers site (site.beginStop round timeout).1 :=
  remembers_commit site round _

theorem remembers_requestStop (site : Site) (index : Nat) :
    Remembers site (site.requestStop index).1 := by
  unfold requestStop
  split
  · exact remembers_of_posts rfl
  · rename_i supervisor _
    have requested : Remembers site
        (site.setSupervisor index { supervisor with stopRequested := true }) :=
      remembers_of_posts rfl
    dsimp only
    split
    · exact requested
    · exact requested.trans (remembers_beginStop _ _ _)

theorem remembers_requestRestart (site : Site) (index : Nat) :
    Remembers site (site.requestRestart index).1 := by
  unfold requestRestart
  split
  · exact remembers_of_posts rfl
  · dsimp only
    split
    · exact remembers_of_posts rfl
    · exact (remembers_setJob site _ _).trans (remembers_beginStop _ _ _)

theorem remembers_requestKill (site : Site) (index : Nat) :
    Remembers site (site.requestKill index) := by
  unfold requestKill
  split
  · exact remembers_of_posts rfl
  · dsimp only
    split
    · exact remembers_of_posts rfl
    · exact (remembers_of_posts rfl).trans (remembers_setJob _ _ _)

theorem remembers_takeSignal (site : Site) (index : Nat) :
    Remembers site (site.takeSignal index).1 := by
  unfold takeSignal
  split
  · exact remembers_of_posts rfl
  · dsimp only
    split
    · exact remembers_of_posts rfl
    · exact (remembers_of_posts rfl).trans (remembers_requestKill _ _)

theorem remembers_stopTurn (site : Site) (post : Nat) (task : StopTask) (counted : Bool) :
    Remembers site (site.stopTurn post task counted).world := by
  have stepped := remembers_commit site post (task.step site.now (site.job post))
  unfold stopTurn
  dsimp only
  split
  · exact stepped
  · dsimp only
    split
    · exact stepped.trans (remembers_of_posts rfl)
    · exact stepped
  · dsimp only
    split
    · exact stepped.trans (remembers_of_posts rfl)
    · exact stepped

/-! ## Steps of a run -/

theorem remembers_openChannel (site : Site) (channel : Channel) :
    Remembers site (site.openChannel channel).1 := by
  unfold openChannel
  split
  · exact remembers_of_posts rfl
  · split
    · exact remembers_of_posts rfl
    · dsimp only
      split
      · exact remembers_of_posts rfl
      · refine (remembers_of_posts rfl).trans (remembers_addPost _ ?_)
        exact fun _ _ duty => nomatch duty

theorem remembers_removeRendezvous (site : Site) (path : String) :
    Remembers site (site.removeRendezvous path).1 := by
  obtain ⟨host, removed⟩ := removeRendezvous_eq site path
  rw [removed]
  exact remembers_of_posts rfl

theorem remembers_abandonChannel (site : Site) (channel : Channel) :
    Remembers site (site.abandonChannel channel) := by
  unfold abandonChannel
  split
  · exact remembers_of_posts rfl
  · exact (remembers_setJob site _ _).trans (remembers_removeRendezvous _ _)

theorem remembers_clearChannel (site : Site) (path : String) (gate : Nat) :
    Remembers site (site.clearChannel path gate) := by
  have removed := remembers_removeRendezvous site path
  unfold clearChannel
  generalize site.removeRendezvous path = removal at removed ⊢
  obtain ⟨left, result⟩ := removal
  have emptied : ∀ {told : Site} {guard : Gate}, Remembers site told →
      told.gate? gate = some guard →
        Remembers site
          (if guard.queue.isEmpty then told.setGate gate { guard with queue := [] }
          else (told.setGate gate { guard with queue := [] }).report
            (.commandsDiscarded guard.queue.length)) := by
    intro told guard remembers guarded
    have cleared := remembers.trans (remembers_setGate guarded { guard with queue := [] })
    split
    · exact cleared
    · exact cleared.trans (remembers_of_posts rfl)
  cases result with
  | ok done =>
      dsimp only
      split
      · exact removed
      · rename_i guarded
        exact emptied removed guarded
  | error error =>
      have told : Remembers site (left.report (.removalFailed path error)) :=
        removed.trans (remembers_of_posts rfl)
      dsimp only
      split
      · exact told
      · rename_i guarded
        exact emptied told guarded

theorem remembers_finishRun (site : Site) (result : RunResult) :
    Remembers site (site.finishRun index result) := by
  unfold finishRun
  split
  · exact remembers_of_posts rfl
  · exact remembers_of_posts rfl

theorem remembers_crashRun (site : Site) (supervisor : Supervisor) :
    Remembers site (site.crashRun index supervisor).site := by
  have abandoned := remembers_abandonChannel site supervisor.channel
  exact (abandoned.trans (remembers_of_posts rfl)).trans (remembers_finishRun _ _)

theorem remembers_awaitGate (site : Site) (supervisor : Supervisor) (gate : Nat)
    (code : Option Int) (standing : StopCall.Standing) :
    Remembers site (site.awaitGate index supervisor gate code standing).site := by
  have ends : Remembers site (site.endRun index supervisor gate code).site := by
    have cleared := remembers_clearChannel site supervisor.channel.path gate
    unfold endRun
    dsimp only
    generalize site.clearChannel supervisor.channel.path gate = shut at cleared ⊢
    exact (cleared.trans (remembers_of_posts rfl)).trans (remembers_finishRun _ _)
  cases standing with
  | waits call => exact remembers_of_posts rfl
  | returned | crashed => exact ends

theorem remembers_closeRun (site : Site) (supervisor : Supervisor) (code : Option Int) :
    Remembers site (site.closeRun index supervisor code).site := by
  unfold closeRun
  split
  · exact (remembers_of_posts rfl).trans (remembers_finishRun _ _)
  · exact (remembers_beginStop site _ _).trans (remembers_awaitGate _ _ _ _ _)

theorem remembers_openRound (site : Site) (supervisor : Supervisor) :
    Remembers site (site.openRound index supervisor).1 := by
  have added : Remembers site
      (site.addPost ⟨supervisor.job, .application supervisor.application index⟩).1 := by
    apply remembers_addPost
    intro application sink duty
    cases duty
    rfl
  exact added.trans (remembers_of_posts rfl)

theorem remembers_launchRound (site : Site) (supervisor : Supervisor) :
    Remembers site (site.launchRound index supervisor).site := by
  have opened : Remembers site (site.openRound index supervisor).1 :=
    remembers_openRound site supervisor
  unfold launchRound
  dsimp only
  split
  · exact opened.trans (remembers_setJob _ _ _)
  · exact opened.trans (remembers_of_posts rfl)

theorem remembers_concludeRound (site : Site) (supervisor : Supervisor) (round : Nat) :
    Remembers site (site.concludeRound index supervisor round).site := by
  unfold concludeRound
  dsimp only
  split
  · exact (remembers_of_posts rfl).trans (remembers_launchRound _ _)
  · exact (remembers_of_posts rfl).trans (remembers_closeRun _ _ _)

theorem remembers_awaitRound (site : Site) (supervisor : Supervisor) (round : Nat)
    (standing : StopCall.Standing) :
    Remembers site (site.awaitRound index supervisor round standing).site := by
  cases standing with
  | waits call => exact remembers_of_posts rfl
  | returned => exact remembers_concludeRound site supervisor round
  | crashed => exact remembers_crashRun site supervisor

theorem remembers_settleRound (site : Site) (supervisor : Supervisor) (round : Nat) :
    Remembers site (site.settleRound index supervisor round).site :=
  (remembers_beginStop site round _).trans (remembers_awaitRound _ supervisor round _)

theorem remembers_beginRound (site : Site) (supervisor : Supervisor) :
    Remembers site (site.beginRound index supervisor).site := by
  unfold beginRound
  split
  · have opened : Remembers site (site.openRound index supervisor).1 :=
      remembers_openRound site supervisor
    have stopped := opened.trans (remembers_beginStop _ (site.openRound index supervisor).2
      supervisor.settings.stopTimeout)
    exact stopped.trans (remembers_settleRound _ _ _)
  · exact remembers_launchRound site supervisor

theorem remembers_openRun (site : Site) (supervisor : Supervisor) :
    Remembers site (site.openRun index supervisor).site := by
  have opened := remembers_openChannel site supervisor.channel
  unfold openRun
  split
  · rename_i after fault fails
    rw [fails] at opened
    exact opened.trans (remembers_finishRun _ _)
  · rename_i after channel gate opens
    rw [opens] at opened
    have set : Remembers after
        (after.setSupervisor index { supervisor with channel := channel }) :=
      remembers_of_posts rfl
    exact (opened.trans set).trans (remembers_beginRound _ _)

theorem remembers_takeCommand? {gate : Option Nat} {command : Command}
    (takes : gate.bind site.takeCommand? = some (after, command)) : Remembers site after := by
  obtain ⟨post, guard, rest, _, guarded, _, is⟩ := exists_of_takeCommand? takes
  rw [is]
  exact remembers_setGate guarded _

theorem remembers_listen (site : Site) (supervisor : Supervisor) (round : Nat)
    (deadline : Instant) :
    Remembers site (site.listen index supervisor round deadline).site := by
  unfold listen
  split
  · exact remembers_settleRound site supervisor round
  · split
    · rename_i taken command takes
      exact (remembers_takeCommand? takes).trans (remembers_of_posts rfl)
    · exact remembers_of_posts rfl

/-- A run writes nothing about a child. -/
theorem remembers_continueRun (site : Site) (supervisor : Supervisor) (stage : RunStage) :
    Remembers site (site.continueRun index supervisor stage).site := by
  cases stage with
  | called => exact remembers_openRun site supervisor
  | listening round deadline => exact remembers_listen site supervisor round deadline
  | settling round call =>
      exact (remembers_commit site round _).trans (remembers_awaitRound _ _ _ _)
  | closing code gate call =>
      exact (remembers_commit site gate _).trans (remembers_awaitGate _ _ _ _ _)

theorem Advances.remembers {supervisor : Supervisor} {stage : RunStage} {step : RunStep}
    (advances : site.Advances supervisor stage step) : Remembers site step.site := by
  cases advances with
  | turns stage => exact remembers_continueRun site supervisor stage
  | overtakes takes =>
      exact (remembers_takeCommand? takes).trans (remembers_of_posts rfl)

theorem remembers_runTurn (site : Site) (index : Nat) (stage : RunStage) :
    Remembers site (site.runTurn index stage).world := by
  unfold runTurn
  split
  · exact remembers_of_posts rfl
  · exact remembers_continueRun site _ stage

theorem learns_turn (site : Site) (task : Activity) :
    Learns (site.obituary? task) site (site.turn task).world := by
  cases task with
  | enter post => exact learns_enterTurn site post
  | guard post watch => exact remembers_guardTurn site post watch
  | attend post attendance => exact learns_attendTurn site post attendance
  | stop post task counted => exact remembers_stopTurn site post task counted
  | run index stage => exact remembers_runTurn site index stage
  | execute index command =>
      cases command with
      | stop => exact remembers_requestStop site index
      | restart => exact remembers_requestRestart site index

/-! ## Bodies that have written -/

theorem exited_attend (attended : site.application? post = some application)
    {attendance : Attendance} {status : ExitStatus}
    (ended : site.childStatus attendance = some status) :
    ((site.attend post application attendance).1.job post).exitFlag = true := by
  obtain ⟨sink, employs⟩ := exists_employs attended
  have left := employs.setApplication (application.withStatus status)
  rw [attend_of_ended employs ended, job_setJob left.lt_size]
  rfl

/-- A body writes about a child that has ended, unless it was told to end. -/
theorem exists_of_obituaryOf? {attendance : Attendance} {written : Obituary}
    (writes : site.obituaryOf? post attendance = some written) :
    (site.job post).aborted = false ∧ ∃ application status,
      site.application? post = some application ∧
        site.childStatus attendance = some status ∧
          written = ⟨⟨post, attendance.child⟩, status⟩ := by
  unfold obituaryOf? at writes
  split at writes
  · cases writes
  · rename_i spared
    obtain ⟨application, attended, tells⟩ := Option.bind_eq_some_iff.mp writes
    obtain ⟨status, ended, is⟩ := Option.map_eq_some_iff.mp tells
    exact ⟨Bool.eq_false_iff.mpr spared, application, status, attended, ended, is.symm⟩

theorem exited_attendTurn {attendance : Attendance} {written : Obituary}
    (writes : site.obituaryOf? post attendance = some written) :
    ((site.attendTurn post attendance).world.job post).exitFlag = true := by
  obtain ⟨told, application, status, attended, ended, _⟩ := exists_of_obituaryOf? writes
  unfold attendTurn
  rw [attended, told]
  exact exited_attend attended ended

theorem exited_enterTurn {spawned : Host × ProcessNumber} {status : ExitStatus}
    (spawns : site.spawn? post = some spawned)
    (ended : spawned.1.status? spawned.2 = some status) :
    ((site.enterTurn post).world.job post).exitFlag = true := by
  obtain ⟨told, application, attended, spawning⟩ := exists_of_spawn? spawns
  have entered : (site.setJob post (site.job post).enter).application? post =
      some application := (application?_setJob site post _ post).trans attended
  obtain ⟨started, launches, manned, same, _⟩ := launch_eq_attend entered spawning
  have dead : started.childStatus (.running spawned.2) = some status := by
    unfold childStatus
    rw [same]
    exact ended
  rw [enterTurn_of_application attended told, launches]
  exact exited_attend manned dead

/-- What was written in a turn is of the body that took it, which is gone. -/
theorem exited_of_obituary {task : Activity} {written : Obituary}
    (writes : site.obituary? task = some written) :
    task.body? = some written.offspring.round ∧
      ((site.turn task).world.job written.offspring.round).exitFlag = true := by
  cases task with
  | guard _ _ | stop _ _ _ | execute _ _ | run _ _ => cases writes
  | attend post attendance =>
      obtain ⟨_, _, _, _, _, is⟩ := exists_of_obituaryOf? writes
      rw [is]
      exact ⟨rfl, exited_attendTurn writes⟩
  | enter post =>
      obtain ⟨spawned, spawns, tells⟩ := Option.bind_eq_some_iff.mp writes
      obtain ⟨_, _, _, _, ended, is⟩ := exists_of_obituaryOf? tells
      rw [is]
      exact ⟨rfl, exited_enterTurn spawns ended⟩

end Site

namespace Annals

open Chronicle (Happening)

variable {settings : Settings} {annals next final : Annals} {happening : Happening}

/-- What is written about a child in a happening. -/
def obituary? (annals : Annals) : Happening → Option Obituary
  | .occurs (.turns position) =>
      (annals.course.tasks[position]?).bind annals.site.obituary?
  | _ => none

/-- What is written about the children of a run in its happenings, the oldest first. -/
def obituaries (annals : Annals) : List Happening → List Obituary
  | [] => []
  | happening :: rest =>
      (annals.obituary? happening).toList ++
        (annals.step? happening).elim [] fun next => next.obituaries rest

theorem remembers_of_step {chronicle after : Chronicle} {happening : Happening}
    (steps : chronicle.step? happening = some after)
    (turned : ∀ position, happening ≠ .occurs (.turns position)) :
    Site.Remembers chronicle.course.site after.course.site := by
  cases happening with
  | occurs occurrence =>
      obtain ⟨course, occurs, is⟩ := Option.map_eq_some_iff.mp steps
      rw [← is]
      cases Course.step_of_step? occurs with
      | turns _ => exact absurd rfl (turned _)
      | overtakes _ _ takes =>
          exact (Site.remembers_takeCommand? takes).trans (Site.remembers_of_posts rfl)
      | runs _ | abandons _ _ | acts _ | passes _ => exact Site.remembers_of_posts rfl
      | stops => exact Site.remembers_requestStop _ 0
      | restarts => exact Site.remembers_requestRestart _ 0
      | kills => exact Site.remembers_requestKill _ 0
      | signals => exact Site.remembers_takeSignal _ 0
  | marks round | aborts round =>
      obtain ⟨_, _, is⟩ := Option.map_eq_some_iff.mp steps
      rw [← is]
      exact Site.remembers_setJob _ round _
  | stops round timeout =>
      obtain ⟨_, _, is⟩ := Option.map_eq_some_iff.mp steps
      rw [← is]
      exact Site.remembers_beginStop _ round timeout
  | starts round =>
      obtain ⟨_, _, is⟩ := Option.map_eq_some_iff.mp steps
      rw [← is]
      unfold Chronicle.startRound
      split
      · exact Site.remembers_setJob _ round _
      · exact Site.remembers_of_posts rfl
  | fails position fault =>
      unfold Chronicle.step? at steps
      dsimp only at steps
      split at steps
      · rename_i post attendance _
        split at steps
        · cases steps
        · obtain ⟨application, attended, is⟩ := Option.map_eq_some_iff.mp steps
          rw [← is]
          exact Site.remembers_failApplication attended attendance fault
      · cases steps

/-- What is on record after a happening. -/
theorem learns_of_step (steps : annals.step? happening = some next) :
    Site.Learns (annals.obituary? happening) annals.site next.site := by
  obtain ⟨chronicle, happens, is⟩ := Option.map_eq_some_iff.mp steps
  rw [← is]
  by_cases turned : ∃ position, happening = .occurs (.turns position)
  · obtain ⟨position, turned⟩ := turned
    subst turned
    obtain ⟨course, occurs, same⟩ := Option.map_eq_some_iff.mp happens
    rw [← same]
    cases Course.step_of_step? occurs with
    | turns taken =>
        unfold obituary?
        dsimp only
        rw [taken]
        exact Site.learns_turn annals.site _
  · have none : annals.obituary? happening = Option.none := by
      unfold obituary?
      split
      · exact absurd ⟨_, rfl⟩ turned
      · rfl
    rw [none]
    exact remembers_of_step happens fun position same => turned ⟨position, same⟩

/-! ## Runs -/

theorem exited_of_step {round : Nat} (sound : annals.Sound settings)
    (steps : annals.step? happening = some next)
    (exited : (annals.site.job round).exitFlag = true) :
    (next.site.job round).exitFlag = true := by
  cases goes_of_step sound steps with
  | stays _ lasts _ => exact lasts.written.exited round exited
  | calls _ _ site _ =>
      rw [site]
      exact exited
  | turns _ _ _ deeds _ _ _ => exact Site.exited_of_deeds deeds exited

/-- A body writes before it is gone, and is gone when it has written. -/
theorem exited_of_written {written : Obituary} (sound : annals.Sound settings)
    (steps : annals.step? happening = some next)
    (writes : annals.obituary? happening = some written) :
    (annals.site.job written.offspring.round).exitFlag = false ∧
      (next.site.job written.offspring.round).exitFlag = true := by
  unfold obituary? at writes
  split at writes
  · rename_i position
    obtain ⟨task, taken, writes⟩ := Option.bind_eq_some_iff.mp writes
    obtain ⟨own, exited⟩ := Site.exited_of_obituary writes
    have serves := sound.chronicle.course.serves task (List.mem_of_getElem? taken)
    obtain ⟨chronicle, happens, is⟩ := Option.map_eq_some_iff.mp steps
    have turned := congrArg Chronicle.course (Chronicle.turn_of_step? taken happens)
    rw [← is]
    refine ⟨(serves.tended own).2, ?_⟩
    show (chronicle.course.site.job written.offspring.round).exitFlag = true
    rw [turned]
    exact exited
  · cases writes

theorem mem_obituaries {written : Obituary} {rest : List Happening}
    (first : annals.step? happening = some next) :
    written ∈ annals.obituaries (happening :: rest) ↔
      annals.obituary? happening = some written ∨ written ∈ next.obituaries rest := by
  rw [obituaries, first, List.mem_append, Option.mem_toList]
  exact Iff.rfl

theorem record?_of_exited {round : Nat} {happenings : List Happening}
    (sound : annals.Sound settings) (exited : (annals.site.job round).exitFlag = true)
    (runs : annals.run? happenings = some final) :
    final.site.record? round = annals.site.record? round ∧
      ∀ written ∈ annals.obituaries happenings, written.offspring.round ≠ round := by
  induction happenings generalizing annals with
  | nil =>
      cases runs
      exact ⟨rfl, fun _ member => nomatch member⟩
  | cons happening rest induction =>
      obtain ⟨next, first, continues⟩ := run?_cons runs
      obtain ⟨kept, others⟩ := induction (sound_step sound first)
        (exited_of_step sound first exited) continues
      have apart : ∀ written, annals.obituary? happening = some written →
          written.offspring.round ≠ round := by
        intro written writes own
        have before := (exited_of_written sound first writes).1
        rw [own, exited] at before
        cases before
      constructor
      · rw [kept, learns_of_step first round]
        have none : Obituary.about round (annals.obituary? happening) = none := by
          apply Option.eq_none_iff_forall_ne_some.mpr
          intro status told
          obtain ⟨child, is⟩ := Obituary.about_eq_some.mp told
          exact apart _ is rfl
        rw [none]
        rfl
      · intro written member
        rcases (mem_obituaries first).mp member with now | later
        · exact apart written now
        · exact others written later

/-- What is on record about a round of which nothing was known is what was written. -/
theorem record?_of_run {round : Nat} {happenings : List Happening} {status : ExitStatus}
    (sound : annals.Sound settings) (unknown : annals.site.record? round = none)
    (runs : annals.run? happenings = some final) :
    final.site.record? round = some status ↔
      ∃ child, ⟨⟨round, child⟩, status⟩ ∈ annals.obituaries happenings := by
  induction happenings generalizing annals with
  | nil =>
      cases runs
      rw [unknown]
      constructor
      · intro same
        cases same
      · intro written
        obtain ⟨_, member⟩ := written
        cases member
  | cons happening rest induction =>
      obtain ⟨next, first, continues⟩ := run?_cons runs
      have learns := learns_of_step first round
      rw [unknown, Option.or_none] at learns
      have sound' := sound_step sound first
      simp only [mem_obituaries first]
      -- Once something was written about the round, its job has exited and nothing follows.
      cases told : Obituary.about round (annals.obituary? happening) with
      | none =>
          rw [told] at learns
          rw [induction sound' learns continues]
          refine exists_congr fun child => ?_
          rw [or_iff_right]
          intro writes
          have some := Obituary.about_eq_some.mpr ⟨child, writes⟩
          rw [told] at some
          cases some
      | some known =>
          obtain ⟨child, writes⟩ := Obituary.about_eq_some.mp told
          obtain ⟨kept, others⟩ := record?_of_exited sound'
            (exited_of_written sound first writes).2 continues
          rw [kept, learns, told, writes]
          constructor
          · intro same
            cases same
            exact ⟨child, .inl rfl⟩
          · intro written
            obtain ⟨other, now | later⟩ := written
            · cases now
              rfl
            · exact absurd rfl (others ⟨⟨round, other⟩, status⟩ later)

end Annals

end Overseer
