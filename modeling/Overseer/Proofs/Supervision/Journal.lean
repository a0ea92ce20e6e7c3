import Overseer.Proofs.Supervision.Annals

/-!
# The journal of a run

What a run leaves in the log when it returns: one passage for each of its rounds, in which
the start of its child and the commands that were received are told in any order, then its
exit; a restart is announced between any two passages, and the last event tells that the
supervisor has stopped.  The commands are told in the order in which they were queued, and
none is skipped.

`Standing` says how far the journal has come, wherever the run waits.
-/

namespace Overseer

namespace Event

def child? : Event → Option ProcessNumber
  | .applicationStarted child => some child
  | _ => none

def command? : Event → Option String
  | .commandReceived name => some name
  | _ => none

def isExit : Event → Bool
  | .applicationExited _ => true
  | _ => false

end Event

deriving instance DecidableEq for RunResult

/-- What is told of a round. -/
structure Passage where
  round : Nat
  /-- What is told while the round lasts. -/
  told : List Event
  code : Option Int

/-- While a round lasts it is told which child was started for it and which commands were
received. -/
structure Tells (spawned : List Offspring) (round : Nat) (told : List Event) : Prop where
  kinds : ∀ event ∈ told,
    (∃ child, event = .applicationStarted child) ∨ ∃ name, event = .commandReceived name
  started : told.filterMap Event.child? =
    (spawned.filter (·.round = round)).map Offspring.child

namespace Passage

def text (passage : Passage) : List Event :=
  passage.told ++ [.applicationExited passage.code]

/-- The passages of rounds that another one has followed. -/
def chapters (passages : List Passage) : List Event :=
  passages.flatMap fun passage => passage.text ++ [.restartScheduled]

/-- The passages of all rounds of a run. -/
def script (passages : List Passage) : List Event :=
  [.restartScheduled].intercalate (passages.map text)

theorem chapters_concat (passages : List Passage) (last : Passage) :
    chapters (passages ++ [last]) =
      chapters passages ++ (last.text ++ [.restartScheduled]) := by
  unfold chapters
  rw [List.flatMap_append, List.flatMap_singleton]

theorem script_concat (passages : List Passage) (last : Passage) :
    script (passages ++ [last]) = chapters passages ++ last.text := by
  unfold script
  induction passages with
  | nil => rw [List.nil_append, List.map_singleton, List.intercalate_singleton]; rfl
  | cons first rest induction =>
      have more : (rest ++ [last]).map text ≠ [] := by simp
      rw [List.cons_append, List.map_cons, List.intercalate_cons_of_ne_nil more, induction]
      unfold chapters
      rw [List.flatMap_cons, List.append_assoc _ _ last.text]

end Passage

namespace Tells

variable {spawned births : List Offspring} {round : Nat} {told : List Event}

theorem nil (unborn : ∀ offspring ∈ spawned, offspring.round ≠ round) :
    Tells spawned round [] := by
  have none : spawned.filter (·.round = round) = [] := by
    apply List.filter_eq_nil_iff.mpr
    intro offspring member
    simpa using unborn offspring member
  exact ⟨fun _ member => absurd member List.not_mem_nil, by rw [none]; rfl⟩

theorem command (tells : Tells spawned round told) (name : String) :
    Tells spawned round (told ++ [.commandReceived name]) := by
  constructor
  · intro event member
    rcases List.mem_append.mp member with earlier | last
    · exact tells.kinds event earlier
    · exact .inr ⟨name, List.mem_singleton.mp last⟩
  · rw [List.filterMap_append, tells.started]
    exact List.append_nil _

theorem born (tells : Tells spawned round told)
    (own : ∀ offspring ∈ births, offspring.round = round) :
    Tells (spawned ++ births) round (told ++ births.map Offspring.birth) := by
  have all : births.filter (·.round = round) = births :=
    List.filter_eq_self.mpr fun offspring member => decide_eq_true (own offspring member)
  constructor
  · intro event member
    rcases List.mem_append.mp member with earlier | fresh
    · exact tells.kinds event earlier
    · obtain ⟨offspring, _, is⟩ := List.mem_map.mp fresh
      exact .inl ⟨offspring.child, is.symm⟩
  · rw [List.filterMap_append, tells.started, List.filter_append, List.map_append, all,
      List.filterMap_map]
    have children : Event.child? ∘ Offspring.birth = some ∘ Offspring.child := rfl
    rw [children, List.filterMap_eq_map]

theorem others (tells : Tells spawned round told)
    (apart : ∀ offspring ∈ births, offspring.round ≠ round) :
    Tells (spawned ++ births) round told := by
  have none : births.filter (·.round = round) = [] := by
    apply List.filter_eq_nil_iff.mpr
    intro offspring member
    simpa using apart offspring member
  refine ⟨tells.kinds, ?_⟩
  rw [tells.started, List.filter_append, none, List.append_nil]

theorem once (tells : Tells spawned round told)
    (distinct : (spawned.map Offspring.round).Nodup) :
    (told.filterMap Event.child?).length ≤ 1 := by
  rw [tells.started, List.length_map]
  have few := (List.nodup_iff_count_le_one.mp distinct) round
  rw [List.count_eq_length_filter, List.filter_map, List.length_map] at few
  exact few

end Tells

namespace Annals

open Chronicle (Happening)

open Passage

def results (annals : Annals) : List RunResult :=
  (annals.site.supervisor? 0).elim [] Supervisor.results

variable {settings : Settings} {before last annals next final : Annals} {happening : Happening}
  {text posted : List Event} {opened added : List Nat} {passages : List Passage}
  {waits : Option RunStage} {supervisor : Supervisor}

theorem results_of_held (held : annals.site.supervisor? 0 = some supervisor) :
    annals.results = supervisor.results := by
  unfold results
  rw [held]
  rfl

theorem gate?_of_held (held : annals.site.supervisor? 0 = some supervisor) :
    annals.gate? = supervisor.channel.gate := by
  unfold gate?
  rw [held]
  rfl

/-- The job of a round has exited, and it had exited the moment before, unless the round was
opened since. -/
structure Ended (last annals : Annals) (round : Nat) : Prop where
  exited : (annals.site.job round).exitFlag = true
  before : (last.site.job round).exitFlag = true ∨ last.site.charter? round = none

/-- A passage of a round that has ended. -/
structure Complete (last annals : Annals) (passage : Passage) : Prop where
  ended : Ended last annals passage.round
  tells : Tells annals.chronicle.spawned passage.round passage.told

/-- What was told since then, and of which rounds; these passages are complete. -/
structure Account (before last annals : Annals) (text : List Event) (opened : List Nat)
    (passages : List Passage) : Prop where
  log : annals.site.log = before.site.log ++ text
  rounds : annals.site.rounds = before.site.rounds ++ opened
  begun : passages.map Passage.round <+: opened
  exits : text.countP Event.isExit = passages.length
  complete : ∀ passage ∈ passages, Complete last annals passage

/-- The commands that were told since then are the first ones that were queued. -/
def Receives (before annals : Annals) (text : List Event) : Prop :=
  ∃ queued, annals.queued = before.queued ++ queued ∧
    text.filterMap Event.command? <+: queued.map Command.name

/-- The page of a round that goes on: these passages are complete, and these commands were
taken from the queue of the gate. -/
structure Page (before last annals : Annals) (passages : List Passage) (round : Nat)
    (told : List Event) (gate : Nat) (taken : List Command) : Prop where
  account : Account before last annals (chapters passages ++ told)
    (passages.map Passage.round ++ [round]) passages
  tells : Tells annals.chronicle.spawned round told
  isOpen : annals.gate? = some gate
  queued : annals.queued = before.queued ++ (taken ++ annals.site.queue gate)
  received : (chapters passages ++ told).filterMap Event.command? = taken.map Command.name

/-- How far the journal of a run has come. -/
inductive Standing (before last annals : Annals) : Prop where
  | called (isAt : annals.course.IsAt (some .called))
      (account : Account before last annals [] [] [])
      (queued : annals.queued = before.queued) (results : annals.results = before.results)
  | listens {round gate : Nat} {deadline : Instant} {passages : List Passage}
      {told : List Event} {taken : List Command}
      (isAt : annals.course.IsAt (some (.listening round deadline)))
      (page : Page before last annals passages round told gate taken)
      (results : annals.results = before.results)
  | closes {code : Option Int} {gate : Nat} {call : StopCall} {passages : List Passage}
      (isAt : annals.course.IsAt (some (.closing code gate call))) (some : passages ≠ [])
      (account : Account before last annals (script passages) (passages.map Passage.round) passages)
      (receives : Receives before annals (script passages))
      (results : annals.results = before.results)
  | returned {code : Option Int} {passages : List Passage} (isAt : annals.course.IsAt none)
      (some : passages ≠ [])
      (account : Account before last annals (script passages ++ [.supervisorStopped])
        (passages.map Passage.round) passages)
      (receives : Receives before annals (script passages))
      (results : annals.results = before.results ++ [.returned (.ok code)])
  | broken {text : List Event} {opened : List Nat} {passages : List Passage}
      {result : RunResult} (isAt : annals.course.IsAt none)
      (account : Account before last annals text opened passages)
      (results : annals.results = before.results ++ [result])
      (other : ∀ code, result ≠ .returned (.ok code))

/-! ## Beside the run -/

/-- Only the round that the run listens to spawns a child. -/
theorem listens_of_birth {births : List Offspring} {offspring : Offspring}
    (sound : annals.Sound settings)
    (lasts : Chronicle.Lasts births annals.chronicle next.chronicle)
    (member : offspring ∈ births) (isAt : annals.course.IsAt waits) :
    ∃ deadline, waits = some (.listening offspring.round deadline) := by
  obtain ⟨⟨graces, attended⟩, entering, _⟩ := lasts.enters offspring member
  obtain ⟨deadline, listens⟩ := sound.heard _ entering offspring.round graces rfl attended
  exact ⟨deadline, (isAt _).mp listens⟩

/-- Elsewhere no child is spawned. -/
theorem lasts_nil {births : List Offspring} (sound : annals.Sound settings)
    (lasts : Chronicle.Lasts births annals.chronicle next.chronicle)
    (isAt : annals.course.IsAt waits)
    (elsewhere : ∀ round deadline, waits ≠ some (.listening round deadline)) :
    Chronicle.Lasts [] annals.chronicle next.chronicle := by
  have none : births = [] := by
    apply List.eq_nil_iff_forall_not_mem.mpr
    intro offspring member
    obtain ⟨deadline, listens⟩ := listens_of_birth sound lasts member isAt
    exact elsewhere _ _ listens
  subst none
  exact lasts

theorem results_of_lasts {births : List Offspring} (sound : annals.Sound settings)
    (lasts : Chronicle.Lasts births annals.chronicle next.chronicle) :
    next.results = annals.results ∧ next.gate? = annals.gate? := by
  obtain ⟨supervisor, holds, _⟩ := sound.chronicle.course.supervised
  obtain ⟨after, kept, channel, results⟩ := lasts.written.keeps supervisor holds.held
  rw [results_of_held kept, results_of_held holds.held, gate?_of_held kept,
    gate?_of_held holds.held, channel]
  exact ⟨results, rfl⟩

/-- The account when children of other rounds than the complete ones are spawned. -/
theorem Account.stays {births : List Offspring}
    (account : Account before last annals text opened passages)
    (lasts : Chronicle.Lasts births annals.chronicle next.chronicle)
    (apart : ∀ offspring ∈ births, offspring.round ∉ passages.map Passage.round) :
    Account before annals next (text ++ births.map Offspring.birth) opened passages := by
  constructor
  · rw [lasts.written.log, account.log, List.append_assoc]
  · exact lasts.written.rounds.trans account.rounds
  · exact account.begun
  · rw [List.countP_append, account.exits, List.countP_map]
    have none : births.countP (Event.isExit ∘ Offspring.birth) = 0 :=
      List.countP_eq_zero.mpr fun _ _ => Bool.false_ne_true
    rw [none, Nat.add_zero]
  · intro passage member
    obtain ⟨⟨exited, _⟩, tells⟩ := account.complete passage member
    refine ⟨⟨lasts.written.exited passage.round exited, .inl exited⟩, ?_⟩
    rw [lasts.spawned]
    apply tells.others
    intro offspring born same
    exact apart offspring born (same ▸ List.mem_map_of_mem member)

theorem Account.idles (account : Account before last annals text opened passages)
    (lasts : Chronicle.Lasts [] annals.chronicle next.chronicle) :
    Account before annals next text opened passages := by
  have stays := account.stays lasts fun _ member => absurd member List.not_mem_nil
  rw [List.map_nil, List.append_nil] at stays
  exact stays

theorem Receives.step (receives : Receives before annals text)
    (steps : annals.step? happening = some next) : Receives before next text := by
  obtain ⟨queued, since, first⟩ := receives
  refine ⟨queued ++ annals.gate?.elim [] (annals.site.gains next.site), ?_, ?_⟩
  · rw [queued_of_step? steps, since, List.append_assoc]
  · rw [List.map_append]
    exact first.trans (List.prefix_append _ _)

theorem Account.distinct (account : Account before last annals text opened passages) :
    opened.Nodup := by
  have distinct := annals.site.nodup_rounds
  rw [account.rounds] at distinct
  exact distinct.of_append_right

theorem queued_of_shut (sound : annals.Sound settings) (isAt : annals.course.IsAt waits)
    (shut : waits = none ∨ waits = some .called) (steps : annals.step? happening = some next) :
    next.queued = annals.queued := by
  obtain ⟨supervisor, holds, _⟩ := sound.chronicle.course.supervised
  have gate := (sound.minds supervisor waits holds.held isAt).shut shut
  rw [queued_of_step? steps, gate?_of_held holds.held, gate]
  exact List.append_nil _

theorem Page.stays {births : List Offspring} {round gate : Nat} {told : List Event}
    {taken : List Command} (page : Page before last annals passages round told gate taken)
    (sound : annals.Sound settings) (steps : annals.step? happening = some next)
    (lasts : Chronicle.Lasts births annals.chronicle next.chronicle)
    (own : ∀ offspring ∈ births, offspring.round = round) :
    Page before annals next passages round (told ++ births.map Offspring.birth) gate taken := by
  have apart : ∀ offspring ∈ births, offspring.round ∉ passages.map Passage.round := by
    intro offspring member earlier
    have distinct := List.disjoint_of_nodup_append page.account.distinct
    exact distinct earlier (by rw [own offspring member]; exact List.mem_singleton.mpr rfl)
  have silent : (births.map Offspring.birth).filterMap Event.command? = [] := by
    rw [List.filterMap_map]
    exact List.filterMap_eq_nil_iff.mpr fun _ _ => rfl
  constructor
  · rw [← List.append_assoc]
    exact page.account.stays lasts apart
  · rw [lasts.spawned]
    exact page.tells.born own
  · exact (results_of_lasts sound lasts).2.trans page.isOpen
  · rw [queued_of_step? steps, page.isOpen, page.queued, lasts.written.queue]
    simp only [Option.elim_some, List.append_assoc]
  · rw [← List.append_assoc, List.filterMap_append, silent, List.append_nil]
    exact page.received

theorem Standing.stays {births : List Offspring} (standing : Standing before last annals)
    (sound : annals.Sound settings) (steps : annals.step? happening = some next)
    (lasts : Chronicle.Lasts births annals.chronicle next.chronicle)
    (same : ∀ stage,
      .run 0 stage ∈ next.course.tasks ↔ .run 0 stage ∈ annals.course.tasks) :
    Standing before annals next := by
  have results := (results_of_lasts sound lasts).1
  have moved : ∀ {waits}, annals.course.IsAt waits → next.course.IsAt waits :=
    fun isAt stage => (same stage).trans (isAt stage)
  -- Only while the run listens may a child be spawned beside it.
  have quiet : ∀ {waits}, annals.course.IsAt waits →
      (∀ round deadline, waits ≠ some (.listening round deadline)) →
        Chronicle.Lasts [] annals.chronicle next.chronicle :=
    fun isAt elsewhere => lasts_nil sound lasts isAt elsewhere
  cases standing with
  | listens isAt page still =>
      refine .listens (moved isAt) (page.stays sound steps lasts ?_) (results.trans still)
      intro offspring member
      obtain ⟨_, listens⟩ := listens_of_birth sound lasts member isAt
      cases listens
      rfl
  | called isAt account queued still =>
      have idle := quiet isAt fun _ _ same => nomatch same
      exact .called (moved isAt) (account.idles idle)
        ((queued_of_shut sound isAt (.inr rfl) steps).trans queued) (results.trans still)
  | closes isAt some account receives still =>
      have idle := quiet isAt fun _ _ same => nomatch same
      exact .closes (moved isAt) some (account.idles idle) (receives.step steps)
        (results.trans still)
  | returned isAt some account receives still =>
      have idle := quiet isAt fun _ _ same => nomatch same
      exact .returned (moved isAt) some (account.idles idle) (receives.step steps)
        (results.trans still)
  | broken isAt account still other =>
      have idle := quiet isAt fun _ _ same => nomatch same
      exact .broken (moved isAt) (account.idles idle) (results.trans still) other

/-! ## Turns of the run -/

/-- What every turn of the run leaves to the journal. -/
structure Turns (annals next : Annals) (waits : Option RunStage) : Prop where
  deeds : Site.Deeds 0 annals.site next.site
  isAt : next.course.IsAt waits
  spawned : next.chronicle.spawned = annals.chronicle.spawned

/-- The account after a turn that posts these events and opens these rounds, and in which
these passages become complete. -/
theorem Account.turns {fresh : List Passage}
    (account : Account before last annals text opened passages)
    (turns : Turns annals next waits) (log : next.site.log = annals.site.log ++ posted)
    (rounds : next.site.rounds = annals.site.rounds ++ added)
    (begun : (passages ++ fresh).map Passage.round <+: opened ++ added)
    (exits : posted.countP Event.isExit = fresh.length)
    (completed : ∀ passage ∈ fresh, Complete annals next passage) :
    Account before annals next (text ++ posted) (opened ++ added) (passages ++ fresh) := by
  constructor
  · rw [log, account.log, List.append_assoc]
  · rw [rounds, account.rounds, List.append_assoc]
  · exact begun
  · rw [List.countP_append, account.exits, exits, List.length_append]
  · intro passage member
    rcases List.mem_append.mp member with earlier | last
    · obtain ⟨⟨exited, _⟩, tells⟩ := account.complete passage earlier
      rw [← turns.spawned] at tells
      exact ⟨⟨Site.exited_of_deeds turns.deeds exited, .inl exited⟩, tells⟩
    · exact completed passage last

theorem Account.follows (account : Account before last annals text opened passages)
    (turns : Turns annals next waits) (log : next.site.log = annals.site.log ++ posted)
    (rounds : next.site.rounds = annals.site.rounds ++ added)
    (silent : posted.countP Event.isExit = 0) :
    Account before annals next (text ++ posted) (opened ++ added) passages := by
  have begun : (passages ++ []).map Passage.round <+: opened ++ added := by
    rw [List.append_nil]
    exact account.begun.trans (List.prefix_append _ _)
  have follows := account.turns turns log rounds begun silent (List.forall_mem_nil _)
  rw [List.append_nil passages] at follows
  exact follows

theorem tells_of_absent (sound : annals.Sound settings) {round : Nat}
    (absent : annals.site.charter? round = none) : Tells annals.chronicle.spawned round [] := by
  apply Tells.nil
  intro offspring member same
  apply sound.bears.known offspring member
  rw [same]
  exact absent

/-- A round is launched, and its page is empty. -/
theorem standing_of_embarks {fresh gate : Nat} {taken : List Command}
    (sound : annals.Sound settings) (turns : Turns annals next waits)
    (embarks : Site.Embarks annals.site annals.results gate posted fresh next.site waits)
    (account : Account before annals next (chapters passages)
      (passages.map Passage.round ++ [fresh]) passages)
    (queued : next.queued = before.queued ++ (taken ++ annals.site.queue gate))
    (received : (chapters passages).filterMap Event.command? = taken.map Command.name)
    (results : annals.results = before.results) : Standing before annals next := by
  obtain ⟨deadline, listens⟩ := embarks.listens
  obtain ⟨supervisor, kept, isOpen, still⟩ := embarks.supervised
  have isAt := turns.isAt
  rw [listens] at isAt
  have tells : Tells next.chronicle.spawned fresh [] := by
    rw [turns.spawned]
    exact tells_of_absent sound embarks.absent
  have page : Page before annals next passages fresh [] gate taken := by
    refine ⟨?_, tells, (gate?_of_held kept).trans isOpen, ?_, ?_⟩
    · rw [List.append_nil]
      exact account
    · rw [embarks.queue]
      exact queued
    · rw [List.append_nil]
      exact received
  exact .listens isAt page (((results_of_held kept).trans still).trans results)

/-- The last passage is complete, and the run closes its gate or returns. -/
theorem Account.closes {fresh : List Passage}
    (account : Account before last annals text opened passages)
    (turns : Turns annals next waits)
    (closes : Site.Closes annals.site annals.results posted added next.site waits)
    (whole : text ++ posted = script (passages ++ fresh))
    (begun : opened ++ added = (passages ++ fresh).map Passage.round)
    (exits : posted.countP Event.isExit = fresh.length)
    (completed : ∀ passage ∈ fresh, Complete annals next passage)
    (some : passages ++ fresh ≠ []) (receives : Receives before next (script (passages ++ fresh)))
    (results : annals.results = before.results) : Standing before annals next := by
  have isAt := turns.isAt
  have ordered : (passages ++ fresh).map Passage.round <+: opened ++ added :=
    begun ▸ List.prefix_rfl
  cases closes with
  | closing code gate call closing log rounds supervised =>
      obtain ⟨supervisor, kept, still⟩ := supervised
      have complete := account.turns turns log rounds ordered exits completed
      rw [whole, begun] at complete
      rw [closing] at isAt
      exact .closes isAt some complete receives
        (((results_of_held kept).trans still).trans results)
  | returns code finished log rounds supervised =>
      obtain ⟨supervisor, kept, _, still⟩ := supervised
      have silent : (posted ++ [Event.supervisorStopped]).countP Event.isExit =
          fresh.length := by
        rw [List.countP_append, exits]
        rfl
      have complete := account.turns turns log rounds ordered silent completed
      rw [← List.append_assoc, whole, begun] at complete
      rw [finished] at isAt
      rw [results] at still
      exact .returned isAt some complete receives ((results_of_held kept).trans still)

theorem Account.breaks (account : Account before last annals text opened passages)
    (turns : Turns annals next waits)
    (breaks : Site.Breaks annals.site annals.results added next.site waits)
    (results : annals.results = before.results) : Standing before annals next := by
  obtain ⟨supervisor, result, kept, _, still, other⟩ := breaks.supervised
  have isAt := turns.isAt
  have broken := account.follows turns (breaks.log.trans (List.append_nil _).symm)
    breaks.rounds rfl
  rw [breaks.ended] at isAt
  rw [results] at still
  exact .broken isAt broken ((results_of_held kept).trans still) other

theorem standing_of_called (sound : annals.Sound settings)
    (steps : annals.step? happening = some next) (turns : Turns annals next waits)
    (isAt : annals.course.IsAt (some .called))
    (held : annals.site.supervisor? 0 = some supervisor)
    (writes : Site.Writes annals.site supervisor .called next.site waits)
    (account : Account before last annals [] [] []) (queued : annals.queued = before.queued)
    (results : annals.results = before.results) : Standing before annals next := by
  have same := results_of_held held
  have waiting := (queued_of_shut sound isAt (.inr rfl) steps).trans queued
  cases writes with
  | @begins gate round _ _ absent embarks =>
      rw [← same] at embarks
      have launched : Account before annals next (chapters [])
          (List.map Passage.round [] ++ [round]) [] :=
        account.follows turns embarks.log embarks.rounds rfl
      -- The gate is a new one.
      have empty : annals.site.queue gate = [] :=
        Site.queue_of_other (by rw [absent]; exact fun same => nomatch same)
      have none : next.queued = before.queued ++ ([] ++ annals.site.queue gate) := by
        rw [waiting, empty]
        exact (List.append_nil _).symm
      exact standing_of_embarks sound turns embarks launched none rfl results
  | @withdraws round _ _ code absent exited closes =>
      rw [← same] at closes
      -- The run was told to stop before it began, so the passage of its only round is empty.
      have receives : Receives before next (script [Passage.mk round [] code]) :=
        ⟨[], waiting.trans (List.append_nil _).symm, List.nil_prefix⟩
      have tells := tells_of_absent sound absent
      rw [← turns.spawned] at tells
      have complete : Complete annals next ⟨round, [], code⟩ :=
        ⟨⟨exited, .inr absent⟩, tells⟩
      exact account.closes turns closes rfl rfl rfl (List.forall_mem_singleton.mpr complete)
        (List.cons_ne_nil _ _) receives results
  | breaks breaks =>
      rw [← same] at breaks
      exact account.breaks turns breaks results

variable {round gate : Nat} {told : List Event} {taken : List Command} {deadline : Instant}

theorem Page.receives (page : Page before last annals passages round told gate taken) :
    Receives before annals (chapters passages ++ told) := by
  refine ⟨_, page.queued, ?_⟩
  rw [page.received, List.map_append]
  exact List.prefix_append _ _

theorem Page.queued_of_turn (page : Page before last annals passages round told gate taken)
    (steps : annals.step? happening = some next)
    (shorter : (next.site.queue gate).length ≤ (annals.site.queue gate).length) :
    next.queued = before.queued ++ (taken ++ annals.site.queue gate) := by
  have none : annals.site.gains next.site gate = [] := List.drop_eq_nil_of_le shorter
  rw [queued_of_step? steps, page.isOpen, Option.elim_some, none, List.append_nil]
  exact page.queued

theorem Page.takes (page : Page before last annals passages round told gate taken)
    (steps : annals.step? happening = some next) (turns : Turns annals next waits)
    {command : Command} {rest : List Command}
    (queue : annals.site.queue gate = command :: rest) (left : next.site.queue gate = rest)
    (log : next.site.log = annals.site.log ++ [.commandReceived command.name])
    (rounds : next.site.rounds = annals.site.rounds) (open' : next.gate? = some gate) :
    Page before annals next passages round (told ++ [.commandReceived command.name]) gate
      (taken ++ [command]) := by
  have account := page.account.follows turns log (rounds.trans (List.append_nil _).symm) rfl
  rw [List.append_nil (_ ++ [round]), List.append_assoc] at account
  have shorter : (next.site.queue gate).length ≤ (annals.site.queue gate).length := by
    rw [left, queue]
    exact Nat.le_succ _
  refine ⟨account, ?_, open', ?_, ?_⟩
  · rw [turns.spawned]
    exact page.tells.command command.name
  · rw [page.queued_of_turn steps shorter, queue, left, List.append_assoc]
    rfl
  · rw [← List.append_assoc, List.filterMap_append, page.received, List.map_append]
    rfl

theorem Page.completes (page : Page before last annals passages round told gate taken)
    (turns : Turns annals next waits) (exited : (annals.site.job round).exitFlag = true)
    (code : Option Int) :
    ∀ passage ∈ [Passage.mk round told code], Complete annals next passage := by
  have tells := page.tells
  rw [← turns.spawned] at tells
  have ended : Ended annals next round := ⟨Site.exited_of_deeds turns.deeds exited, .inl exited⟩
  exact List.forall_mem_singleton.mpr ⟨ended, tells⟩

theorem Page.renews {fresh : Nat} {code : Option Int} (sound : annals.Sound settings)
    (page : Page before last annals passages round told gate taken)
    (steps : annals.step? happening = some next) (turns : Turns annals next waits)
    (exited : (annals.site.job round).exitFlag = true)
    (embarks : Site.Embarks annals.site annals.results gate
      [.applicationExited code, .restartScheduled] fresh next.site waits)
    (results : annals.results = before.results) : Standing before annals next := by
  have begun : (passages ++ [Passage.mk round told code]).map Passage.round <+:
      (passages.map Passage.round ++ [round]) ++ [fresh] := by
    rw [List.map_append]
    exact List.prefix_append _ _
  have account := page.account.turns turns embarks.log embarks.rounds begun rfl
    (page.completes turns exited code)
  have text : chapters (passages ++ [Passage.mk round told code]) =
      (chapters passages ++ told) ++ [.applicationExited code, .restartScheduled] := by
    rw [chapters_concat, Passage.text]
    simp only [List.append_assoc, List.singleton_append]
  have opened : (passages ++ [Passage.mk round told code]).map Passage.round ++ [fresh] =
      (passages.map Passage.round ++ [round]) ++ [fresh] := by
    rw [List.map_append]
    rfl
  rw [← text, ← opened] at account
  have queued := page.queued_of_turn steps (Nat.le_of_eq (congrArg _ embarks.queue))
  refine standing_of_embarks sound turns embarks account queued ?_ results
  rw [text, List.filterMap_append, page.received]
  exact List.append_nil _

theorem Page.concludes {code : Option Int}
    (page : Page before last annals passages round told gate taken)
    (steps : annals.step? happening = some next) (turns : Turns annals next waits)
    (exited : (annals.site.job round).exitFlag = true)
    (closes : Site.Closes annals.site annals.results [.applicationExited code] [] next.site
      waits)
    (results : annals.results = before.results) : Standing before annals next := by
  have whole : (chapters passages ++ told) ++ [.applicationExited code] =
      script (passages ++ [Passage.mk round told code]) := by
    rw [script_concat, List.append_assoc]
    rfl
  have begun : (passages.map Passage.round ++ [round]) ++ [] =
      (passages ++ [Passage.mk round told code]).map Passage.round := by
    rw [List.append_nil, List.map_append]
    rfl
  have receives : Receives before next (script (passages ++ [Passage.mk round told code])) := by
    obtain ⟨queued, since, first⟩ := page.receives.step steps
    refine ⟨queued, since, ?_⟩
    rw [← whole, List.filterMap_append]
    exact (List.append_nil _).symm ▸ first
  exact page.account.closes turns closes whole begun rfl (page.completes turns exited code)
    (List.append_ne_nil_of_right_ne_nil _ (List.cons_ne_nil _ _)) receives results

theorem standing_of_listening (sound : annals.Sound settings)
    (page : Page before last annals passages round told gate taken)
    (steps : annals.step? happening = some next) (turns : Turns annals next waits)
    (held : annals.site.supervisor? 0 = some supervisor)
    (writes : Site.Writes annals.site supervisor (.listening round deadline) next.site waits)
    (results : annals.results = before.results) : Standing before annals next := by
  have same := results_of_held held
  have isOpen := (gate?_of_held held).symm.trans page.isOpen
  cases writes with
  | polls later still =>
      have kept : next.site.supervisor? 0 = some supervisor := by
        rw [still]
        exact held
      have account := page.account.follows turns
        ((congrArg Site.log still).trans (List.append_nil _).symm)
        ((congrArg Site.rounds still).trans (List.append_nil _).symm) rfl
      rw [List.append_nil, List.append_nil] at account
      have queued := page.queued_of_turn steps (Nat.le_of_eq (by rw [still]))
      have next' : Page before annals next passages round told gate taken := by
        refine ⟨account, ?_, (gate?_of_held kept).trans isOpen, ?_, page.received⟩
        · rw [turns.spawned]
          exact page.tells
        · rw [still]
          exact queued
      exact .listens turns.isAt next' ((results_of_held kept).trans (same.symm.trans results))
  | takes later open' queue left log rounds kept =>
      cases isOpen.symm.trans open'
      exact .listens turns.isAt
        (page.takes steps turns queue left log rounds ((gate?_of_held kept).trans isOpen))
        ((results_of_held kept).trans (same.symm.trans results))
  | renews code exited open' embarks =>
      cases isOpen.symm.trans open'
      rw [← same] at embarks
      exact page.renews sound steps turns exited embarks results
  | concludes code exited closes =>
      rw [← same] at closes
      exact page.concludes steps turns exited closes results
  | breaks breaks =>
      rw [← same] at breaks
      exact page.account.breaks turns breaks results

theorem standing_of_closing {code : Option Int} {call : StopCall}
    (steps : annals.step? happening = some next) (turns : Turns annals next waits)
    (held : annals.site.supervisor? 0 = some supervisor)
    (writes : Site.Writes annals.site supervisor (.closing code gate call) next.site waits)
    (some : passages ≠ [])
    (account : Account before last annals (script passages) (passages.map Passage.round) passages)
    (receives : Receives before annals (script passages))
    (results : annals.results = before.results) : Standing before annals next := by
  have same := results_of_held held
  have whole : script passages ++ [] = script (passages ++ []) := by simp
  have begun : passages.map Passage.round ++ [] = (passages ++ []).map Passage.round := by simp
  have received : Receives before next (script (passages ++ [])) := by
    rw [List.append_nil]
    exact receives.step steps
  cases writes with
  | closes closes =>
      rw [← same] at closes
      exact account.closes turns closes whole begun rfl (List.forall_mem_nil _)
        (by simpa using some) received results
  | breaks breaks =>
      rw [← same] at breaks
      exact account.breaks turns breaks results

theorem Standing.turns {stage : RunStage} (standing : Standing before last annals)
    (sound : annals.Sound settings) (steps : annals.step? happening = some next)
    (turns : Turns annals next waits) (waited : annals.course.IsAt (some stage))
    (held : annals.site.supervisor? 0 = some supervisor)
    (writes : Site.Writes annals.site supervisor stage next.site waits) :
    Standing before annals next := by
  cases standing with
  | called isAt account queued results =>
      cases isAt.unique waited
      exact standing_of_called sound steps turns isAt held writes account queued results
  | listens isAt page results =>
      cases isAt.unique waited
      exact standing_of_listening sound page steps turns held writes results
  | closes isAt some account receives results =>
      cases isAt.unique waited
      exact standing_of_closing steps turns held writes some account receives results
  | returned isAt _ _ _ _ | broken isAt _ _ _ => cases isAt.unique waited

/-! ## Runs -/

theorem Standing.step (standing : Standing before last annals) (sound : annals.Sound settings)
    (other : happening ≠ call) (steps : annals.step? happening = some next) :
    Standing before annals next := by
  cases goes_of_step sound steps with
  | stays _ lasts same => exact standing.stays sound steps lasts same
  | calls _ _ _ _ => exact absurd rfl other
  | turns _ waited held deeds writes isAt spawned =>
      exact standing.turns sound steps ⟨deeds, isAt, spawned⟩ waited held writes

/-- A run that is called has told nothing. -/
theorem standing_of_call (sound : before.Sound settings)
    (calls : before.step? call = some annals) : Standing before before annals := by
  have goes := goes_of_step sound calls
  generalize called : call = happening at goes
  cases goes with
  | stays other _ _ => exact absurd called.symm other
  | turns other _ _ _ _ _ _ => exact absurd called.symm other
  | calls idle isAt site spawned =>
      refine .called isAt ⟨?_, ?_, List.prefix_rfl, rfl, List.forall_mem_nil _⟩
        (queued_of_shut sound idle (.inl rfl) calls) ?_
      · rw [site, List.append_nil]
      · rw [site, List.append_nil]
      · unfold results
        rw [site]

/-- Every exit that was told since then is of a round whose job has ended: the exits are
those of the first rounds that were opened. -/
def Evident (before last annals : Annals) : Prop :=
  ∃ text opened, annals.site.log = before.site.log ++ text ∧
    annals.site.rounds = before.site.rounds ++ opened ∧
    ∀ round ∈ opened.take (text.countP Event.isExit), Ended last annals round

theorem Account.evident (account : Account before last annals text opened passages) :
    Evident before last annals := by
  refine ⟨text, opened, account.log, account.rounds, ?_⟩
  intro round member
  have complete : opened.take passages.length = passages.map Passage.round := by
    have first := List.prefix_iff_eq_take.mp account.begun
    rw [List.length_map] at first
    exact first.symm
  rw [account.exits, complete] at member
  obtain ⟨passage, known, is⟩ := List.mem_map.mp member
  rw [← is]
  exact (account.complete passage known).ended

theorem Standing.evident (standing : Standing before last annals) : Evident before last annals := by
  cases standing with
  | called _ account _ _ => exact account.evident
  | listens _ page _ => exact page.account.evident
  | closes _ _ account _ _ => exact account.evident
  | returned _ _ account _ _ => exact account.evident
  | broken _ account _ _ => exact account.evident

/-- What is told of a round, once it is over. -/
structure IsFaithful (annals : Annals) (passage : Passage) : Prop where
  tells : Tells annals.chronicle.spawned passage.round passage.told
  once : (passage.told.filterMap Event.child?).length ≤ 1
  exited : (annals.site.job passage.round).exitFlag = true

/-- The journal of a run that was called then and has returned. -/
structure Journal (before final : Annals) (passages : List Passage) : Prop where
  some : passages ≠ []
  log : final.site.log = before.site.log ++ (script passages ++ [.supervisorStopped])
  rounds : final.site.rounds = before.site.rounds ++ passages.map Passage.round
  faithful : ∀ passage ∈ passages, final.IsFaithful passage
  receives : Receives before final (script passages)

theorem Standing.journal {code : Option Int} (standing : Standing before last final)
    (sound : final.Sound settings)
    (returned : final.results = before.results ++ [.returned (.ok code)]) :
    ∃ passages, Journal before final passages := by
  have unreturned : final.results ≠ before.results := by
    rw [returned]
    simp
  cases standing with
  | called _ _ _ results => exact absurd results unreturned
  | listens _ _ results => exact absurd results unreturned
  | closes _ _ _ _ results => exact absurd results unreturned
  | broken _ _ results other =>
      rw [returned] at results
      cases List.append_cancel_left results
      exact absurd rfl (other code)
  | @returned _ passages _ some account receives _ =>
      refine ⟨passages, some, account.log, account.rounds, ?_, receives⟩
      intro passage member
      obtain ⟨ended, tells⟩ := account.complete passage member
      exact ⟨tells, tells.once sound.bears.distinct, ended.exited⟩

/-- Since the call the journal stands somewhere, and every happening moves it on. -/
theorem standing_of_run {called : Annals} {happenings : List Happening}
    (sound : before.Sound settings) (calls : before.step? call = some called)
    (meanwhile : call ∉ happenings) (runs : called.run? happenings = some final) :
    final.Sound settings ∧ ∃ last, Standing before last final := by
  have start : ∃ last, Standing before last called := ⟨before, standing_of_call sound calls⟩
  refine keeps_run (fun annals => ∃ last, Standing before last annals)
    (sound_step sound calls) start ?_ runs
  intro annals next happening sound standing member steps
  obtain ⟨last, standing⟩ := standing
  exact ⟨annals, standing.step sound (fun same => meanwhile (same ▸ member)) steps⟩

/-- A run that opens its channel and returns has told its rounds one after the other, each
of them faithfully, and then that the supervisor has stopped; the commands are the first
ones that were queued, in their order.  Whatever happened in the run, every exit that was
told by then is of a round whose job had exited before. -/
theorem journal_of_run {host : Host} {settings : Settings}
    {inherited : List (String × List UInt8)} {earlier during : List Happening}
    {before called final : Annals} {code : Option Int}
    (reaches : (fresh host (Supervisor.fresh settings inherited)).run? earlier = some before)
    (calls : before.step? call = some called) (runs : called.run? during = some final)
    (meanwhile : call ∉ during)
    (returned : final.results = before.results ++ [.returned (.ok code)]) :
    (∃ passages, Journal before final passages) ∧
      ∀ first happening rest last moment, during = first ++ happening :: rest →
        called.run? first = some last → last.step? happening = some moment →
          Evident before last moment := by
  have sound := sound_run (sound_fresh host settings inherited) reaches
  constructor
  · obtain ⟨sound, last, standing⟩ := standing_of_run sound calls meanwhile runs
    exact standing.journal sound returned
  · intro first happening rest last moment split goes steps
    rw [split] at meanwhile
    have uncalled : call ∉ first := fun member => meanwhile (List.mem_append_left _ member)
    have other : happening ≠ call := by
      intro same
      apply meanwhile
      rw [same]
      exact List.mem_append_right _ List.mem_cons_self
    obtain ⟨sound, _, standing⟩ := standing_of_run sound calls uncalled goes
    exact (standing.step sound other steps).evident

def turn (position : Nat) : Happening :=
  .occurs (.turns position)

def sends (command : Command) : Happening :=
  .occurs (.acts fun host =>
    (host.sendCommand "/run/control" (Duration.ofSeconds 1) command).1)

def plain : Annals :=
  fresh (Course.plainHost []) (Supervisor.fresh
    (Course.plainSettings (Duration.ofSeconds 10) (Duration.ofSeconds 5)) [])

/-- A command restarts the round, and the next round is stopped by a caller; a command of a
client overtakes its end. -/
def overtaken : List Happening :=
  [turn 0, turn 1, turn 1, .occurs Course.reacts, sends .restart, turn 1, turn 2,
    turn 2, turn 0, turn 3, .occurs Course.reacts, turn 0, turn 1, turn 3,
    .occurs Course.reacts, sends .stop, turn 0, turn 3, turn 3,
    .occurs .stops, .occurs Course.reacts, turn 2, .occurs (.overtakes 1), turn 3,
    turn 1, turn 3]

/-- The journal of two rounds and two commands. -/
theorem journal_of_overtaken_end :
    ∃ called final : Annals, plain.step? call = some called ∧
      called.run? overtaken = some final ∧
      final.results = plain.results ++ [.returned (.ok (some 0))] ∧
      final.site.log =
        [.applicationStarted (Host.numberOf 0), .commandReceived Command.restart.name,
          .applicationExited (some 130), .restartScheduled,
          .applicationStarted (Host.numberOf 1), .commandReceived Command.stop.name,
          .applicationExited (some 130), .supervisorStopped] ∧
      ∃ passages, Journal plain final passages := by
  have ran : ((plain.step? call).bind fun called => (called.run? overtaken).map fun final =>
      (final.results, final.site.log)) =
        some ([.returned (.ok (some 0))],
          [.applicationStarted (Host.numberOf 0), .commandReceived Command.restart.name,
            .applicationExited (some 130), .restartScheduled,
            .applicationStarted (Host.numberOf 1), .commandReceived Command.stop.name,
            .applicationExited (some 130), .supervisorStopped]) := by
    decide +kernel
  obtain ⟨called, calls, rest⟩ := Option.bind_eq_some_iff.mp ran
  obtain ⟨final, runs, both⟩ := Option.map_eq_some_iff.mp rest
  obtain ⟨results, log⟩ := Prod.mk.inj both
  have reaches : plain.run? [] = some plain := rfl
  have meanwhile : call ∉ overtaken := by
    simp [call, overtaken, turn, sends, Course.reacts]
  have returned : final.results = plain.results ++ [.returned (.ok (some 0))] := results
  exact ⟨called, final, calls, runs, returned, log,
    (journal_of_run reaches calls runs meanwhile returned).1⟩

end Annals

end Overseer
