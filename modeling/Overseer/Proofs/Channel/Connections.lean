import Overseer.Host.Socket

/-!
# Connections and listeners of a host

What each operation on the sockets changes, and that it leaves everything else
as it is.  `Apart` says that two states differ in one connection at most.
-/

namespace Overseer

namespace Sockets

/-! ## Lookup -/

theorem connection_setConnection (sockets : Sockets) (number : Nat)
    (held : Connection) (other : Nat) :
    (sockets.setConnection number held).connection other =
      if other = number ∧ number < sockets.connections.size then held
      else sockets.connection other := by
  unfold connection setConnection
  simp only [Array.getD_eq_getD_getElem?, Array.getElem?_setIfInBounds]
  by_cases same : number = other
  · subst same
    by_cases known : number < sockets.connections.size
    · simp [known]
    · simp [known]
  · simp [same, Ne.symm same]

theorem connection_setConnection_self {sockets : Sockets} {number : Nat}
    (known : number < sockets.connections.size) (held : Connection) :
    (sockets.setConnection number held).connection number = held := by
  simp [connection_setConnection, known]

theorem connection_setConnection_of_ne {number other : Nat}
    (different : other ≠ number) (sockets : Sockets) (held : Connection) :
    (sockets.setConnection number held).connection other =
      sockets.connection other := by
  simp [connection_setConnection, different]

@[simp] theorem size_setConnection (sockets : Sockets) (number : Nat)
    (held : Connection) :
    (sockets.setConnection number held).connections.size =
      sockets.connections.size := by
  simp [setConnection]

theorem listener_setListener (sockets : Sockets) (number : Nat)
    (held : Listener) (other : Nat) :
    (sockets.setListener number held).listener other =
      if other = number ∧ number < sockets.listeners.size then held
      else sockets.listener other := by
  unfold listener setListener
  simp only [Array.getD_eq_getD_getElem?, Array.getElem?_setIfInBounds]
  by_cases same : number = other
  · subst same
    by_cases known : number < sockets.listeners.size
    · simp [known]
    · simp [known]
  · simp [same, Ne.symm same]

@[simp] theorem connections_setListener (sockets : Sockets) (number : Nat)
    (held : Listener) :
    (sockets.setListener number held).connections = sockets.connections := rfl

@[simp] theorem connection_setListener (sockets : Sockets) (number : Nat)
    (held : Listener) (other : Nat) :
    (sockets.setListener number held).connection other =
      sockets.connection other := rfl

@[simp] theorem size_setListener (sockets : Sockets) (number : Nat)
    (held : Listener) :
    (sockets.setListener number held).listeners.size =
      sockets.listeners.size := by
  simp [setListener]

theorem connection_of_size_le {sockets : Sockets} {number : Nat}
    (beyond : sockets.connections.size ≤ number) :
    sockets.connection number = ⟨[], true, none, true⟩ := by
  simp [connection, beyond]

/-! ## A change of one connection -/

/-- Two states of the sockets that differ in one connection at most. -/
structure Apart (number : Nat) (before after : Sockets) : Prop where
  listeners : after.listeners = before.listeners
  size : after.connections.size = before.connections.size
  others : ∀ other, other ≠ number →
    after.connection other = before.connection other

theorem Apart.refl (number : Nat) (sockets : Sockets) :
    Apart number sockets sockets :=
  ⟨rfl, rfl, fun _ _ => rfl⟩

theorem Apart.trans {number : Nat} {first second third : Sockets}
    (earlier : Apart number first second) (later : Apart number second third) :
    Apart number first third := by
  refine ⟨later.listeners.trans earlier.listeners,
    later.size.trans earlier.size, ?_⟩
  intro other different
  rw [later.others other different, earlier.others other different]

theorem apart_setConnection (sockets : Sockets) (number : Nat)
    (held : Connection) : Apart number sockets (sockets.setConnection number held) :=
  ⟨rfl, size_setConnection sockets number held,
    fun _ different => connection_setConnection_of_ne different sockets held⟩

theorem Apart.listener {number : Nat} {before after : Sockets}
    (apart : Apart number before after) (other : Nat) :
    after.listener other = before.listener other := by
  unfold Sockets.listener
  rw [apart.listeners]

theorem apart_drop (sockets : Sockets) (number : Nat) :
    Apart number sockets (sockets.drop number) :=
  apart_setConnection sockets number _

theorem dropped_drop (sockets : Sockets) (number : Nat) :
    ((sockets.drop number).connection number).dropped = true := by
  by_cases known : number < sockets.connections.size
  · simp [drop, connection_setConnection_self known]
  · rw [connection_of_size_le]
    simpa [drop] using known

/-! ## What a client does -/

theorem lt_size_of_not_dropped {sockets : Sockets} {number : Nat}
    (kept : (sockets.connection number).dropped = false) :
    number < sockets.connections.size := by
  rcases Nat.lt_or_ge number sockets.connections.size with known | beyond
  · exact known
  · rw [connection_of_size_le beyond] at kept
    exact absurd kept Bool.noConfusion

/-- Another state of a connection that keeps what arrived keeps it, also when
there is no such connection. -/
theorem arrived_setConnection {sockets : Sockets} {number : Nat}
    {held : Connection}
    (arrived : held.arrived = (sockets.connection number).arrived) :
    ((sockets.setConnection number held).connection number).arrived =
      (sockets.connection number).arrived := by
  rw [connection_setConnection]
  split
  · exact arrived
  · rfl

theorem dropped_setConnection {sockets : Sockets} {number : Nat}
    {held : Connection}
    (dropped : held.dropped = (sockets.connection number).dropped) :
    ((sockets.setConnection number held).connection number).dropped =
      (sockets.connection number).dropped := by
  rw [connection_setConnection]
  split
  · exact dropped
  · rfl

/-- A client's act at a connection: `bytes` come, unless it was dropped. -/
structure Comes (number : Nat) (bytes : List UInt8) (before after : Sockets) :
    Prop where
  apart : Apart number before after
  arrived : (after.connection number).arrived =
    (before.connection number).arrived ++ bytes
  dropped : (after.connection number).dropped =
    (before.connection number).dropped
  taken : bytes = [] ∨ (before.connection number).dropped = false

theorem Comes.refl (number : Nat) (sockets : Sockets) :
    Comes number [] sockets sockets :=
  ⟨.refl number sockets, (List.append_nil _).symm, rfl, .inl rfl⟩

theorem comes_setConnection {sockets : Sockets} {number : Nat}
    {held : Connection}
    (arrived : held.arrived = (sockets.connection number).arrived)
    (dropped : held.dropped = (sockets.connection number).dropped) :
    Comes number [] sockets (sockets.setConnection number held) := by
  refine ⟨apart_setConnection sockets number held, ?_, ?_, .inl rfl⟩
  · rw [arrived_setConnection arrived, List.append_nil]
  · exact dropped_setConnection dropped

theorem comes_finish (sockets : Sockets) (number : Nat) :
    Comes number [] sockets (sockets.finish number) :=
  comes_setConnection rfl rfl

theorem comes_fail (sockets : Sockets) (number : Nat) (error : SystemError) :
    Comes number [] sockets (sockets.fail number error) := by
  unfold fail
  dsimp only
  split
  · exact .refl number sockets
  · exact comes_setConnection rfl rfl

/-- Which bytes of a client are taken over by a connection. -/
def taken (sockets : Sockets) (number : Nat) (bytes : List UInt8) : List UInt8 :=
  if (sockets.connection number).ended || (sockets.connection number).dropped then
    []
  else bytes

theorem comes_send (sockets : Sockets) (number : Nat) (bytes : List UInt8) :
    Comes number (sockets.taken number bytes) sockets
      (sockets.send number bytes) := by
  unfold send taken
  dsimp only
  split
  · exact .refl number sockets
  · rename_i taken
    obtain ⟨_, kept⟩ : (sockets.connection number).ended = false ∧
        (sockets.connection number).dropped = false := by simpa using taken
    have known := lt_size_of_not_dropped kept
    refine ⟨apart_setConnection sockets number _, ?_, ?_, .inr kept⟩
    · rw [connection_setConnection_self known]
    · rw [connection_setConnection_self known]

/-! ## Connections that are made -/

@[simp] theorem size_connect (sockets : Sockets) (number : Nat) :
    (sockets.connect number).1.connections.size =
      sockets.connections.size + 1 := by
  simp [connect]

theorem connection_connect (sockets : Sockets) (number other : Nat) :
    (sockets.connect number).1.connection other =
      if other = sockets.connections.size then ⟨[], false, none, false⟩
      else sockets.connection other := by
  simp only [connect, connection_setListener]
  unfold connection
  simp only [Array.getD_eq_getD_getElem?, Array.getElem?_push]
  by_cases made : other = sockets.connections.size
  · simp [made]
  · simp [made]

theorem connection_connect_of_lt {sockets : Sockets} {other : Nat}
    (earlier : other < sockets.connections.size) (number : Nat) :
    (sockets.connect number).1.connection other = sockets.connection other := by
  rw [connection_connect, if_neg (Nat.ne_of_lt earlier)]

theorem listener_connect (sockets : Sockets) (number other : Nat) :
    (sockets.connect number).1.listener other =
      if other = number ∧ number < sockets.listeners.size then
        { sockets.listener number with
          backlog := (sockets.listener number).backlog ++
            [sockets.connections.size] }
      else sockets.listener other := by
  simp only [connect]
  rw [listener_setListener]
  rfl

/-- The backlog of a listener stays as it is or gets the new connection. -/
theorem backlog_connect (sockets : Sockets) (number other : Nat) :
    let held := ((sockets.connect number).1.listener other).backlog
    held = (sockets.listener other).backlog ∨
      held = (sockets.listener other).backlog ++ [sockets.connections.size] := by
  intro held
  simp only [held, listener_connect]
  split
  · rename_i here
    rw [here.1]
    exact .inr rfl
  · exact .inl rfl

@[simp] theorem listeners_size_connect (sockets : Sockets) (number : Nat) :
    (sockets.connect number).1.listeners.size = sockets.listeners.size := by
  simp [connect]

/-- A connection that is accepted was the oldest of the backlog, and nothing else
changes. -/
theorem accept?_eq_some {sockets after : Sockets} {number connection : Nat}
    (listens : number < sockets.listeners.size)
    (accepted : sockets.accept? number = some (after, connection)) :
    (sockets.listener number).backlog =
        connection :: (after.listener number).backlog ∧
      after.listeners.size = sockets.listeners.size ∧
      after.connections = sockets.connections := by
  unfold accept? at accepted
  dsimp only at accepted
  split at accepted
  · exact absurd accepted (by simp)
  · rename_i oldest rest held
    obtain ⟨rfl, rfl⟩ := Prod.mk.inj (Option.some.inj accepted)
    rw [listener_setListener, if_pos ⟨rfl, listens⟩]
    exact ⟨held, size_setListener _ _ _, rfl⟩

/-! ## Reading a connection -/

/-- What a read of a connection finds: nothing yet, its end, or its first
bytes. -/
inductive Hands (sockets : Sockets) (number count : Nat) :
    Option (Delivery × Sockets) → Prop where
  | nothing (empty : (sockets.connection number).arrived = [])
      (goesOn : (sockets.connection number).ended = false) :
      Hands sockets number count none
  | ending (empty : (sockets.connection number).arrived = [])
      (ended : (sockets.connection number).ended = true) :
      Hands sockets number count
        (some ((sockets.connection number).ending, sockets))
  | bytes (arrived : (sockets.connection number).arrived ≠ []) :
      Hands sockets number count
        (some (.bytes ((sockets.connection number).arrived.take count),
          sockets.setConnection number
            { sockets.connection number with
              arrived := (sockets.connection number).arrived.drop count }))

theorem inlet_hands (sockets : Sockets) (number count : Nat) :
    Hands sockets number count (inlet number sockets count) := by
  unfold inlet
  dsimp only
  split
  · rename_i empty
    by_cases ended : (sockets.connection number).ended = true
    · rw [if_pos ended]
      exact .ending empty ended
    · rw [if_neg ended]
      exact .nothing empty (by simpa using ended)
  · rename_i arrived
    exact .bytes arrived

end Sockets

end Overseer
