import Overseer.Control.FrameWriter
import Overseer.Control.Gate
import Overseer.Host.Host
import Overseer.Notice

/-!
# The control channel

A channel has a path.  Its owner opens it and takes the commands that come in; a
client makes a connection for every command that it sends.  This module holds
what a channel is and what its clients do.
-/

namespace Overseer

structure Channel where
  path : String
  /-- How long a client tries to reach the gate. -/
  connectTimeout : Duration
  connectionTimeout : Duration
  /-- Where the job of the gate is, while the channel is open. -/
  gate : Option Nat

namespace Channel

/-- How long a client tries to reach a gate, unless told otherwise. -/
def defaultConnectTimeout : Duration := Duration.ofSeconds 5

/-- How long the gate has to close before it is terminated. -/
def closeTimeout : Duration := Duration.ofSeconds 2

def closed (path : String) : Channel :=
  { path := path
    connectTimeout := defaultConnectTimeout
    connectionTimeout := Gate.defaultConnectionTimeout
    gate := none }

def isOpen (channel : Channel) : Bool :=
  channel.gate.isSome

end Channel

namespace Sockets

/-- The error of bytes for a connection whose other side is closed. -/
def brokenPipe : SystemError := .number 32

/-- How a client's side of a connection takes bytes: all of them at once. -/
def outlet (number : Nat) : Outlet Sockets :=
  { write := fun sockets bytes =>
      if (sockets.connection number).dropped then (.fails brokenPipe, sockets)
      else (.takes bytes.length, sockets.send number bytes)
    flush := fun sockets => (none, sockets) }

end Sockets

namespace Host

/-- The error of a gate that was not reached in time. -/
def connectTimedOut : SystemError := .stated .timedOut "connect timed out"

/-- The frame of a command, sent over a connection that is then closed. -/
def sendFrame (host : Host) (connection : Nat) (command : Command) :
    Host × Except Fault Unit :=
  let written :=
    FrameWriter.write (Sockets.outlet connection) command.frame.length command
      host.sockets
  ({ host with sockets := written.connection.finish connection },
    match written.result with
    | some (.error error) => .error (.system error)
    | _ => .ok ())

/-- A command sent by a client to whoever listens at a path.  A gate is never
reached at once, so without any time it is not reached at all. -/
def sendCommand (host : Host) (path : String) (connectTimeout : Duration)
    (command : Command) : Host × Except Fault Unit :=
  match host.connect path with
  | .error error => (host, .error (.connect path error))
  | .ok (reached, connection) =>
      if connectTimeout = Duration.zero then
        ({ reached with sockets := reached.sockets.finish connection },
          .error (.connect path connectTimedOut))
      else reached.sendFrame connection command

end Host

end Overseer
