import Mathlib.Data.List.Basic
import Overseer.Proofs.Channel.Visit

/-!
# The books of a gate

The books of a gate hold, beside the gate itself, which connections it accepted,
which commands were taken from its queue and which bytes were delivered over each
connection.  They are `Balanced` if the commands that were taken, those in the
queue and the one that is offered are the first commands of the connections that
were served, in the order in which these were accepted.

Each lemma is one thing that can happen to a gate that stays open.
-/

namespace Overseer

open Decoding

/-- A gate, what it waits for, and what went through it. -/
structure Books where
  sockets : Sockets
  gate : Gate
  watch : Gate.Watch
  /-- The connections that were accepted, the oldest first. -/
  accepted : List Nat
  /-- When the gate last looked for a connection. -/
  since : Instant
  /-- The commands that were taken from the queue, the oldest first. -/
  returned : List Command
  /-- What was delivered over each connection while both its sides were open. -/
  delivered : Nat → List UInt8

namespace Gate

def Watch.connections : Watch → List Nat
  | .reading connection _ _ => [connection]
  | .accepting | .offering _ => []

/-- The command that waits for room in the queue, if any. -/
def Watch.commands : Watch → List Command
  | .offering command => [command]
  | .accepting | .reading _ _ _ => []

@[simp] theorem Watch.connections_accepting :
    Watch.accepting.connections = [] := rfl

@[simp] theorem Watch.connections_reading (connection : Nat)
    (reader : FrameReader) (deadline : Instant) :
    (Watch.reading connection reader deadline).connections = [connection] := rfl

@[simp] theorem Watch.connections_offering (command : Command) :
    (Watch.offering command).connections = [] := rfl

@[simp] theorem Watch.connections_behind (first : Option Command) :
    (Watch.behind first).connections = [] := by
  cases first <;> rfl

@[simp] theorem Watch.commands_behind (first : Option Command) :
    (Watch.behind first).commands = first.toList := by
  cases first <;> rfl

theorem Watch.behind_ne_reading {first : Option Command} {connection : Nat}
    {reader : FrameReader} {deadline : Instant} :
    Watch.behind first ≠ .reading connection reader deadline := by
  cases first <;> exact Watch.noConfusion

end Gate

namespace Books

/-- Connections that were made to the gate and not accepted. -/
def backlog (books : Books) : List Nat :=
  (books.sockets.listener books.gate.listener).backlog

def first? (books : Books) (connection : Nat) : Option Command :=
  firstCommand? FrameReader.defaultBodyLimit (books.delivered connection)

/-- The books are balanced when these connections were served. -/
structure Balanced (books : Books) (served : List Nat) : Prop where
  listens : books.gate.listener < books.sockets.listeners.size
  roomy : books.gate.queue.length ≤ Gate.capacity
  distinct : (books.accepted ++ books.backlog).Nodup
  known : ∀ connection ∈ books.accepted ++ books.backlog,
    connection < books.sockets.connections.size
  untouched : ∀ connection, books.sockets.connections.size ≤ connection →
    books.delivered connection = []
  pending : ∀ connection ∈ books.backlog,
    (books.sockets.connection connection).dropped = false ∧
      (books.sockets.connection connection).arrived =
        books.delivered connection
  attended : ∀ connection reader deadline,
    books.watch = .reading connection reader deadline →
      Gate.Attended books.sockets connection reader
        (books.delivered connection)
  timely : ∀ connection reader deadline,
    books.watch = .reading connection reader deadline →
      deadline = books.since.deadline books.gate.connectionTimeout
  order : books.accepted = served ++ books.watch.connections
  closed : ∀ connection ∈ served,
    (books.sockets.connection connection).dropped = true
  conserved : books.returned ++ books.gate.queue ++ books.watch.commands =
    served.filterMap books.first?

def record (delivered : Nat → List UInt8) (connection : Nat) (bytes : List UInt8) :
    Nat → List UInt8 :=
  fun other =>
    if other = connection then delivered other ++ bytes else delivered other

theorem record_self (delivered : Nat → List UInt8) (connection : Nat)
    (bytes : List UInt8) :
    record delivered connection bytes connection =
      delivered connection ++ bytes := by
  simp [record]

theorem record_of_ne (delivered : Nat → List UInt8) {connection other : Nat}
    (different : other ≠ connection) (bytes : List UInt8) :
    record delivered connection bytes other = delivered other := by
  simp [record, different]

theorem record_nil (delivered : Nat → List UInt8) (connection : Nat) :
    record delivered connection [] = delivered := by
  funext other
  by_cases here : other = connection
  · rw [here, record_self, List.append_nil]
  · exact record_of_ne delivered here []

variable {before after : Books} {served : List Nat}

theorem Balanced.unserved (balanced : Balanced before served) {connection : Nat}
    {reader : FrameReader} {deadline : Instant}
    (reading : before.watch = .reading connection reader deadline) :
    connection ∉ served := by
  intro member
  have dropped := balanced.closed connection member
  rw [(balanced.attended connection reader deadline reading).kept] at dropped
  exact Bool.noConfusion dropped

/-- Where one connection changes and none is accepted, what remains to be shown
is about that connection, the watch and the queue. -/
theorem Balanced.frame (balanced : Balanced before served) {connection : Nat}
    {served' : List Nat}
    (apart : Sockets.Apart connection before.sockets after.sockets)
    (listener : after.gate.listener = before.gate.listener)
    (accepted : after.accepted = before.accepted)
    (others : ∀ other, other ≠ connection →
      after.delivered other = before.delivered other)
    (absent : before.sockets.connections.size ≤ connection →
      after.delivered connection = [])
    (roomy : after.gate.queue.length ≤ Gate.capacity)
    (pending : connection ∈ before.backlog →
      (after.sockets.connection connection).dropped = false ∧
        (after.sockets.connection connection).arrived =
          after.delivered connection)
    (attended : ∀ connection reader deadline,
      after.watch = .reading connection reader deadline →
        Gate.Attended after.sockets connection reader
          (after.delivered connection))
    (timely : ∀ connection reader deadline,
      after.watch = .reading connection reader deadline →
        deadline = after.since.deadline after.gate.connectionTimeout)
    (order : before.accepted = served' ++ after.watch.connections)
    (closed : ∀ connection ∈ served',
      (after.sockets.connection connection).dropped = true)
    (conserved : after.returned ++ after.gate.queue ++ after.watch.commands =
      served'.filterMap after.first?) :
    Balanced after served' := by
  have backlog : after.backlog = before.backlog := by
    unfold Books.backlog
    rw [listener, apart.listener]
  refine ⟨?_, roomy, ?_, ?_, ?_, ?_, attended, timely, ?_, closed, conserved⟩
  · rw [listener, apart.listeners]
    exact balanced.listens
  · rw [accepted, backlog]
    exact balanced.distinct
  · rw [accepted, backlog, apart.size]
    exact balanced.known
  · intro other beyond
    rw [apart.size] at beyond
    by_cases here : other = connection
    · rw [here] at beyond ⊢
      exact absent beyond
    · rw [others other here]
      exact balanced.untouched other beyond
  · intro other waits
    rw [backlog] at waits
    by_cases here : other = connection
    · rw [here] at waits ⊢
      exact pending waits
    · rw [apart.others other here, others other here]
      exact balanced.pending other waits
  · rw [accepted]
    exact order

/-! ## What clients do -/

/-- What comes over a connection is delivered, and changes nothing else. -/
theorem Balanced.comes (balanced : Balanced before served) {connection : Nat}
    {bytes : List UInt8} {sockets : Sockets}
    (comes : Sockets.Comes connection bytes before.sockets sockets) :
    Balanced
      { before with
        sockets := sockets
        delivered := record before.delivered connection bytes } served := by
  have known : before.sockets.connections.size ≤ connection → bytes = [] := by
    intro beyond
    rcases comes.taken with nothing | kept
    · exact nothing
    · have known := Sockets.lt_size_of_not_dropped kept
      omega
  have ignored : connection ∈ served → bytes = [] := by
    intro member
    rcases comes.taken with nothing | kept
    · exact nothing
    · rw [balanced.closed connection member] at kept
      exact absurd kept Bool.noConfusion
  refine balanced.frame comes.apart rfl rfl
    (fun other different => record_of_ne _ different bytes) ?_ balanced.roomy ?_ ?_
    balanced.timely balanced.order ?_ ?_
  · intro beyond
    dsimp only
    rw [record_self, balanced.untouched connection beyond, known beyond]
    rfl
  · intro waits
    obtain ⟨kept, arrived⟩ := balanced.pending connection waits
    dsimp only
    rw [comes.dropped, comes.arrived, record_self, arrived]
    exact ⟨kept, rfl⟩
  · intro other reader deadline reading
    have attended := balanced.attended other reader deadline reading
    dsimp only
    by_cases here : other = connection
    · subst here
      rw [record_self]
      exact attended.extend bytes (Nat.le_of_eq comes.apart.size.symm)
        comes.arrived comes.dropped
    · have same := comes.apart.others other here
      have extended := attended.extend [] (Nat.le_of_eq comes.apart.size.symm)
        (by rw [same, List.append_nil]) (by rw [same])
      rw [List.append_nil] at extended
      rw [record_of_ne _ here]
      exact extended
  · intro other member
    dsimp only
    by_cases here : other = connection
    · rw [here] at member ⊢
      rw [comes.dropped]
      exact balanced.closed connection member
    · rw [comes.apart.others other here]
      exact balanced.closed other member
  · refine balanced.conserved.trans (List.filterMap_congr ?_)
    intro other member
    unfold first?
    dsimp only
    by_cases here : other = connection
    · subst here
      rw [ignored member, record_nil]
    · rw [record_of_ne _ here]

/-- One more connection, to this gate or to somebody else. -/
theorem Balanced.connect (balanced : Balanced before served) (listener : Nat) :
    Balanced { before with sockets := (before.sockets.connect listener).1 }
      served := by
  have old {connection : Nat}
      (member : connection ∈ before.accepted ++ before.backlog) :
      (before.sockets.connect listener).1.connection connection =
        before.sockets.connection connection :=
    Sockets.connection_connect_of_lt (balanced.known connection member) listener
  have backlog :=
    Sockets.backlog_connect before.sockets listener before.gate.listener
  refine ⟨?_, balanced.roomy, ?_, ?_, ?_, ?_, ?_, balanced.timely, balanced.order,
    ?_, balanced.conserved⟩
  · exact Nat.lt_of_lt_of_eq balanced.listens
      (Sockets.listeners_size_connect _ _).symm
  · unfold Books.backlog
    rcases backlog with same | more
    · rw [same]
      exact balanced.distinct
    · rw [more, ← List.append_assoc]
      refine List.nodup_append.mpr ⟨balanced.distinct, by simp, ?_⟩
      intro connection member made last
      rw [List.mem_singleton.mp last]
      exact Nat.ne_of_lt (balanced.known connection member)
  · intro connection member
    rw [Sockets.size_connect]
    unfold Books.backlog at member
    rcases backlog with same | more
    · rw [same] at member
      exact Nat.lt_succ_of_lt (balanced.known connection member)
    · rw [more, ← List.append_assoc] at member
      rcases List.mem_append.mp member with earlier | last
      · exact Nat.lt_succ_of_lt (balanced.known connection earlier)
      · rw [List.mem_singleton.mp last]
        exact Nat.lt_succ_self _
  · intro connection beyond
    rw [Sockets.size_connect] at beyond
    exact balanced.untouched connection (by omega)
  · intro connection waits
    have found : connection ∈ before.backlog ∨
        connection = before.sockets.connections.size := by
      unfold Books.backlog at waits
      rcases backlog with same | more
      · rw [same] at waits
        exact .inl waits
      · rw [more] at waits
        simpa [Books.backlog] using waits
    dsimp only
    rcases found with earlier | made
    · rw [old (List.mem_append_right _ earlier)]
      exact balanced.pending connection earlier
    · rw [Sockets.connection_connect, if_pos made,
        balanced.untouched connection (Nat.le_of_eq made.symm)]
      exact ⟨rfl, rfl⟩
  · intro connection reader deadline reading
    have attended := balanced.attended connection reader deadline reading
    refine attended.unchanged ?_
      (Sockets.connection_connect_of_lt attended.known listener)
    rw [Sockets.size_connect]
    exact Nat.le_succ _
  · intro connection member
    have accepted : connection ∈ before.accepted := by
      rw [balanced.order]
      exact List.mem_append_left _ member
    rw [old (List.mem_append_left _ accepted)]
    exact balanced.closed connection member

/-! ## What the gate does -/

theorem Balanced.accept (balanced : Balanced before served) (now : Instant)
    (idle : before.watch = .accepting) {sockets : Sockets} {connection : Nat}
    (accepted : before.sockets.accept? before.gate.listener =
      some (sockets, connection)) :
    Balanced
      { before with
        sockets := sockets
        watch := .reading connection FrameReader.fresh
          (now.deadline before.gate.connectionTimeout)
        accepted := before.accepted ++ [connection]
        since := now } served := by
  obtain ⟨oldest, listeners, connections⟩ :=
    Sockets.accept?_eq_some balanced.listens accepted
  have same (other : Nat) :
      sockets.connection other = before.sockets.connection other := by
    unfold Sockets.connection
    rw [connections]
  have earlier : before.backlog =
      connection :: (sockets.listener before.gate.listener).backlog := oldest
  have first : connection ∈ before.backlog := by
    rw [earlier]
    exact List.mem_cons_self
  have distinct := balanced.distinct
  have known := balanced.known
  rw [earlier, List.append_cons] at distinct known
  refine ⟨?_, balanced.roomy, distinct, ?_, ?_, ?_, ?_, ?_, ?_, ?_, ?_⟩
  · rw [listeners]
    exact balanced.listens
  · intro other member
    rw [connections]
    exact known other member
  · intro other beyond
    rw [connections] at beyond
    exact balanced.untouched other beyond
  · intro other waits
    rw [same]
    refine balanced.pending other ?_
    rw [earlier]
    exact List.mem_cons_of_mem _ waits
  · intro other reader until' reading
    obtain ⟨rfl, rfl, rfl⟩ : connection = other ∧
        FrameReader.fresh = reader ∧
          now.deadline before.gate.connectionTimeout = until' := by
      simpa using reading
    obtain ⟨kept, arrived⟩ := balanced.pending connection first
    have attended := Gate.attended_fresh
      (balanced.known connection (List.mem_append_right _ first)) kept
    rw [arrived] at attended
    exact attended.unchanged (Nat.le_of_eq (by rw [connections]))
      (same connection)
  · intro other reader until' reading
    cases reading
    rfl
  · have order := balanced.order
    rw [idle, Gate.Watch.connections, List.append_nil] at order
    rw [order]
    rfl
  · intro other member
    rw [same]
    exact balanced.closed other member
  · have conserved := balanced.conserved
    rw [idle] at conserved
    exact conserved

/-- A step of the gate at a connection keeps the books balanced; if it leaves the
connection, this is served now. -/
theorem Balanced.visit (balanced : Balanced before served) {now : Instant}
    {connection : Nat} {reader : FrameReader} {deadline : Instant}
    (reading : before.watch = .reading connection reader deadline)
    {step : Gate.Step}
    (visit : Gate.Visit now before.sockets before.gate connection deadline
      (before.delivered connection) step) :
    ∃ watch served', step.waits = some watch ∧
      Balanced
        { before with sockets := step.sockets, gate := step.gate, watch := watch }
        served' := by
  have order := balanced.order
  have conserved := balanced.conserved
  have attended := balanced.attended connection reader deadline reading
  have member : connection ∈ before.accepted := by
    rw [order, reading]
    exact List.mem_append_right _ List.mem_cons_self
  have unpending : connection ∉ before.backlog := fun waits =>
    (List.nodup_append.mp balanced.distinct).2.2 connection member connection waits rfl
  rw [reading] at order conserved
  cases visit with
  | stays apart attended' =>
      refine ⟨_, served, rfl, balanced.frame apart rfl rfl (fun _ _ => rfl) ?_
        balanced.roomy ?_ ?_ ?_ order ?_ conserved⟩
      · exact fun beyond => balanced.untouched connection beyond
      · exact fun waits => absurd waits unpending
      · intro other reader' until' same
        obtain ⟨rfl, rfl, rfl⟩ := by simpa using same
        exact attended'
      · intro other reader' until' same
        cases same
        exact balanced.timely connection reader deadline reading
      · intro other served
        rw [apart.others other ?_]
        · exact balanced.closed other served
        · intro here
          exact balanced.unserved reading (here ▸ served)
  | leaves apart dropped reason =>
      refine ⟨_, served ++ [connection], rfl, balanced.frame apart rfl rfl
        (fun _ _ => rfl) ?_ balanced.roomy ?_ ?_ ?_ ?_ ?_ ?_⟩
      · exact fun beyond => balanced.untouched connection beyond
      · exact fun waits => absurd waits unpending
      · intro other reader' until' same
        exact absurd same Gate.Watch.behind_ne_reading
      · intro other reader' until' same
        exact absurd same Gate.Watch.behind_ne_reading
      · rw [Gate.Watch.connections_behind, List.append_nil]
        exact order
      · intro other member
        by_cases here : other = connection
        · rw [here]
          exact dropped
        · rw [apart.others other here]
          refine balanced.closed other ?_
          simpa [here] using member
      · rw [List.filterMap_append, Gate.Watch.commands_behind]
        unfold Gate.Watch.commands at conserved
        rw [List.append_nil] at conserved
        rw [conserved]
        simp only [first?, List.filterMap_cons, List.filterMap_nil]
        cases firstCommand? FrameReader.defaultBodyLimit
          (before.delivered connection) <;> rfl

/-- The command that is offered goes into the queue, if there is room. -/
theorem Balanced.offer (balanced : Balanced before served) {command : Command}
    (offering : before.watch = .offering command) :
    let step := before.gate.offer before.sockets command
    ∃ watch, step.waits = some watch ∧ watch.connections = [] ∧
      Balanced
        { before with sockets := step.sockets, gate := step.gate, watch := watch }
        served := by
  have order := balanced.order
  have conserved := balanced.conserved
  rw [offering] at order conserved
  unfold Gate.offer
  by_cases room : before.gate.queue.length < Gate.capacity
  · rw [if_pos room]
    refine ⟨_, rfl, rfl, balanced.listens, ?_, balanced.distinct, balanced.known,
      balanced.untouched, balanced.pending, ?_, ?_, order, balanced.closed, ?_⟩
    · rw [List.length_append]
      exact room
    · intro _ _ _ reading
      cases reading
    · intro _ _ _ reading
      cases reading
    · rw [Gate.Watch.commands, List.append_nil, ← List.append_assoc]
      exact conserved
  · rw [if_neg room]
    refine ⟨_, rfl, rfl, balanced.listens, balanced.roomy, balanced.distinct,
      balanced.known, balanced.untouched, balanced.pending, ?_, ?_, order,
      balanced.closed, conserved⟩
    · intro _ _ _ reading
      cases reading
    · intro _ _ _ reading
      cases reading

/-- The books after a step of the gate that waits for `watch` then.  A gate that
had no connection before has accepted the one that it has now. -/
def advance (books : Books) (now : Instant) (step : Gate.Step)
    (watch : Gate.Watch) : Books :=
  { books with
    sockets := step.sockets
    gate := step.gate
    watch := watch
    accepted :=
      if books.watch.connections.isEmpty then books.accepted ++ watch.connections
      else books.accepted
    since := if books.watch.connections.isEmpty then now else books.since }

/-- While no connection is read, it does not matter when the gate last looked. -/
theorem Balanced.look (balanced : Balanced before served)
    (idle : before.watch.connections = []) (now : Instant) :
    Balanced { before with since := now } served := by
  refine ⟨balanced.listens, balanced.roomy, balanced.distinct, balanced.known,
    balanced.untouched, balanced.pending, balanced.attended, ?_, balanced.order,
    balanced.closed, balanced.conserved⟩
  intro connection reader deadline reading
  rw [show before.watch = _ from reading] at idle
  exact absurd idle (by simp)

/-- Any step of a gate that nobody stops keeps the books balanced. -/
theorem Balanced.step (balanced : Balanced before served) (now : Instant) :
    let step := before.gate.step now false before.sockets before.watch
    ∃ watch served', step.waits = some watch ∧
      Balanced (before.advance now step watch) served' := by
  unfold Gate.step
  dsimp only
  cases waits : before.watch with
  | accepting =>
      have idle : before.watch.connections = [] := by rw [waits]; rfl
      cases accepted : before.sockets.accept? before.gate.listener with
      | none =>
          refine ⟨.accepting, served, rfl, ?_⟩
          have next := balanced.look idle now
          simpa [advance, waits] using waits ▸ next
      | some found =>
          obtain ⟨sockets, connection⟩ := found
          refine ⟨_, served, rfl, ?_⟩
          simpa [advance, waits, Gate.turnTo] using
            balanced.accept now waits accepted
  | reading connection reader deadline =>
      have visit := @Gate.read_visit now before.sockets before.gate connection
        deadline _ reader
        (balanced.attended connection reader deadline waits)
      obtain ⟨watch, served', goesOn, next⟩ := balanced.visit waits visit
      refine ⟨watch, served', goesOn, ?_⟩
      simpa [advance, waits] using next
  | offering command =>
      obtain ⟨watch, goesOn, away, next⟩ := balanced.offer waits
      refine ⟨watch, served, goesOn, ?_⟩
      have looked := @Balanced.look _ _ next away now
      simpa [advance, waits, away] using looked

theorem Balanced.take (balanced : Balanced before served) {command : Command}
    {rest : List Command} (queued : before.gate.queue = command :: rest) :
    Balanced
      { before with
        gate := { before.gate with queue := rest }
        returned := before.returned ++ [command] } served := by
  have roomy := balanced.roomy
  have conserved := balanced.conserved
  rw [queued] at roomy conserved
  refine ⟨balanced.listens, ?_, balanced.distinct, balanced.known,
    balanced.untouched, balanced.pending, balanced.attended, balanced.timely,
    balanced.order, balanced.closed, ?_⟩
  · exact Nat.le_of_succ_le roomy
  · rw [List.append_cons] at conserved
    exact conserved

end Books

end Overseer
