import Overseer.Control.FrameReader
import Overseer.Host.FileTree

/-!
# Sockets

A listener holds the connections that were made to it and not accepted yet, in
the order in which they were made.  A connection carries bytes from its client
to the listener; the client may end it, and it may fail.
-/

namespace Overseer

/-- Somebody who waits for connections. -/
structure Listener where
  isOpen : Bool
  /-- Connections that were not accepted, the oldest first. -/
  backlog : List Nat

/-- What a client sent over a connection and nobody read. -/
structure Connection where
  arrived : List UInt8
  /-- The client sends no more. -/
  ended : Bool
  /-- Why the client sends no more, if the connection failed. -/
  failure : Option SystemError
  /-- The listener's side is closed. -/
  dropped : Bool

/-- What a connection hands over behind its last bytes. -/
def Connection.ending (connection : Connection) : Delivery :=
  match connection.failure with
  | none => .ended
  | some error => .failed error

/-- The listeners and connections of a host. -/
structure Sockets where
  listeners : Array Listener
  connections : Array Connection

namespace Sockets

def empty : Sockets := ⟨#[], #[]⟩

def listener (sockets : Sockets) (number : Nat) : Listener :=
  sockets.listeners.getD number ⟨false, []⟩

def connection (sockets : Sockets) (number : Nat) : Connection :=
  sockets.connections.getD number ⟨[], true, none, true⟩

def setListener (sockets : Sockets) (number : Nat) (listener : Listener) :
    Sockets :=
  { sockets with
    listeners := sockets.listeners.setIfInBounds number listener }

def setConnection (sockets : Sockets) (number : Nat) (connection : Connection) :
    Sockets :=
  { sockets with
    connections := sockets.connections.setIfInBounds number connection }

/-- One more listener, and its number. -/
def listen (sockets : Sockets) : Sockets × Nat :=
  ({ sockets with listeners := sockets.listeners.push ⟨true, []⟩ },
    sockets.listeners.size)

/-- One more connection to a listener, and its number. -/
def connect (sockets : Sockets) (number : Nat) : Sockets × Nat :=
  let made := sockets.connections.size
  let held := sockets.listener number
  ({ sockets with
      connections := sockets.connections.push ⟨[], false, none, false⟩ }
      |>.setListener number { held with backlog := held.backlog ++ [made] },
    made)

/-- Bytes from the client of a connection; nobody gets them if either side is
closed. -/
def send (sockets : Sockets) (number : Nat) (bytes : List UInt8) : Sockets :=
  let held := sockets.connection number
  if held.ended || held.dropped then sockets
  else
    sockets.setConnection number { held with arrived := held.arrived ++ bytes }

/-- The client of a connection sends no more. -/
def finish (sockets : Sockets) (number : Nat) : Sockets :=
  sockets.setConnection number { sockets.connection number with ended := true }

/-- A connection fails behind what has arrived. -/
def fail (sockets : Sockets) (number : Nat) (error : SystemError) : Sockets :=
  let held := sockets.connection number
  if held.ended then sockets
  else
    sockets.setConnection number { held with ended := true, failure := some error }

/-- The listener's side of a connection is closed. -/
def drop (sockets : Sockets) (number : Nat) : Sockets :=
  sockets.setConnection number
    { sockets.connection number with arrived := [], dropped := true }

/-- A listener is closed, with the connections that were not accepted. -/
def close (sockets : Sockets) (number : Nat) : Sockets :=
  ((sockets.listener number).backlog.foldl drop sockets).setListener number
    ⟨false, []⟩

/-- The oldest connection that was not accepted. -/
def accept? (sockets : Sockets) (number : Nat) : Option (Sockets × Nat) :=
  let held := sockets.listener number
  match held.backlog with
  | [] => none
  | oldest :: rest =>
      some (sockets.setListener number { held with backlog := rest }, oldest)

/-- How the bytes of a connection are handed over. -/
def inlet (number : Nat) : Inlet Sockets := fun sockets count =>
  let held := sockets.connection number
  match held.arrived with
  | [] => if held.ended then some (held.ending, sockets) else none
  | arrived =>
      some (.bytes (arrived.take count),
        sockets.setConnection number { held with arrived := arrived.drop count })

/-- Whether there is something to read from a connection. -/
def isReadable (sockets : Sockets) (number : Nat) : Bool :=
  let held := sockets.connection number
  !held.arrived.isEmpty || held.ended

end Sockets

/-- The address of a socket at a path: the system takes short paths only. -/
def checkAddress (path : String) : Except SystemError Unit :=
  if Path.holdsNul path then
    .error (.stated .invalidInput "paths must not contain interior null bytes")
  else if 108 ≤ path.utf8ByteSize then
    .error (.stated .invalidInput "path must be shorter than SUN_LEN")
  else .ok ()

end Overseer
