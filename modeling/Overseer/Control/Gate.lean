import Overseer.Host.Socket
import Overseer.Lifecycle.Job
import Overseer.Timers

/-!
# The gate of a control channel

The gate accepts one connection at a time and takes at most one command from it,
which it puts into a queue of bounded length.  A connection that ends, fails or
is silent for too long contributes nothing.  When the stop flag is raised the
gate closes, whatever it waits for.

`Gate.step` is one step of the gate: to accept a connection, to read a chunk of
it, or to put a command into the queue.
-/

namespace Overseer

/-- The gate of a channel. -/
structure Gate where
  listener : Nat
  /-- How long a connection has to deliver its command. -/
  connectionTimeout : Duration
  /-- Commands that nobody has taken, the oldest first. -/
  queue : List Command

namespace Gate

/-- How many commands the queue holds. -/
def capacity : Nat := 100

/-- How long a connection has, unless told otherwise. -/
def defaultConnectionTimeout : Duration := Duration.ofSeconds 5

/-- What the gate waits for. -/
inductive Watch where
  /-- A connection. -/
  | accepting
  | reading (connection : Nat) (reader : FrameReader) (deadline : Instant)
  /-- Room in the queue. -/
  | offering (command : Command)

/-- What a step of the gate came to; it waits nowhere if it has closed. -/
structure Step where
  sockets : Sockets
  gate : Gate
  notices : List Notice
  waits : Option Watch

def leave (sockets : Sockets) (gate : Gate) (connection : Nat)
    (notices : List Notice) (next : Option Watch) : Step :=
  ⟨sockets.drop connection, gate, notices, next⟩

/-- The gate leaves a connection that was silent for too long. -/
def expire (sockets : Sockets) (gate : Gate) (connection : Nat)
    (notices : List Notice) : Step :=
  gate.leave sockets connection
    (notices ++ [.connectionSilent gate.connectionTimeout]) (some .accepting)

/-- The gate turns to a connection.  What has arrived is read even if there is no
time to wait for more. -/
def turnTo (now : Instant) (sockets : Sockets) (gate : Gate) (connection : Nat) :
    Step :=
  ⟨sockets, gate, [],
    some (.reading connection FrameReader.fresh
      (now.deadline gate.connectionTimeout))⟩

def read (now : Instant) (sockets : Sockets) (gate : Gate) (connection : Nat)
    (reader : FrameReader) (deadline : Instant) : Step :=
  let call := reader.read (Sockets.inlet connection) sockets
  let next := call.progress.reader
  let notices := call.progress.notices
  match call.progress.command with
  | some command =>
      gate.leave call.connection connection notices (some (.offering command))
  | none =>
      if next.closed then
        gate.leave call.connection connection notices (some .accepting)
      else if call.waiting && deadline ≤ now then
        gate.expire call.connection connection notices
      else
        ⟨call.connection, gate, notices, some (.reading connection next deadline)⟩

/-- The gate puts a command into the queue if there is room. -/
def offer (sockets : Sockets) (gate : Gate) (command : Command) : Step :=
  if gate.queue.length < capacity then
    ⟨sockets, { gate with queue := gate.queue ++ [command] }, [], some .accepting⟩
  else ⟨sockets, gate, [], some (.offering command)⟩

/-- The gate closes, whatever it waits for. -/
def shut (sockets : Sockets) (gate : Gate) : Watch → Step
  | .reading connection _ _ => gate.leave sockets connection [] none
  | .accepting | .offering _ => ⟨sockets, gate, [], none⟩

def step (now : Instant) (stopFlag : Bool) (sockets : Sockets) (gate : Gate)
    (watch : Watch) : Step :=
  if stopFlag then gate.shut sockets watch
  else
    match watch with
    | .accepting =>
        match sockets.accept? gate.listener with
        | none => ⟨sockets, gate, [], some .accepting⟩
        | some (sockets, connection) => gate.turnTo now sockets connection
    | .reading connection reader deadline =>
        gate.read now sockets connection reader deadline
    | .offering command => gate.offer sockets command

def isReady (now : Instant) (stopFlag : Bool) (sockets : Sockets) (gate : Gate) :
    Watch → Bool
  | .accepting =>
      stopFlag || !(sockets.listener gate.listener).backlog.isEmpty
  | .reading connection reader deadline =>
      stopFlag || !reader.carried.isEmpty || sockets.isReadable connection ||
        deadline ≤ now
  | .offering _ => stopFlag || gate.queue.length < capacity

/-- Until when the gate waits at most. -/
def deadline : Watch → Option Instant
  | .reading _ _ deadline => some deadline
  | .accepting | .offering _ => none

end Gate

end Overseer
