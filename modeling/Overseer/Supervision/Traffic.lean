import Overseer.Supervision.Bodies

/-!
# Opening, closing and reading channels

A channel that is opened takes its path as a rendezvous and starts its gate.  A
channel that is closed stops its gate, removes the rendezvous and forgets the
commands that nobody took.
-/

namespace Overseer

namespace Site

/-- Opens a channel.  The position of the job of its gate is told if it was
opened now. -/
def openChannel (site : Site) (channel : Channel) :
    Site × Except Fault (Channel × Option Nat) :=
  if channel.isOpen then (site, .ok (channel, none))
  else
    match site.host.listen channel.path with
    | (host, .error error) => ({ site with host := host }, .error (.system error))
    | (host, .ok listener) =>
        let gate : Gate :=
          { listener := listener
            connectionTimeout := channel.connectionTimeout
            queue := [] }
        let job := Job.fresh "command-stream" defaultKillGrace
        match job.start with
        | .error notice =>
            ({ site with host := host }.report notice, .ok (channel, none))
        | .ok job =>
            let (site, index) :=
              { site with host := host }.addPost ⟨job, .gate gate⟩
            (site, .ok ({ channel with gate := some index }, some index))

def removeRendezvous (site : Site) (path : String) :
    Site × Except SystemError Unit :=
  match site.host.tree.removeIfPresent path with
  | .error error => (site, .error error)
  | .ok tree => ({ site with host := { site.host with tree := tree } }, .ok ())

/-- The last part of closing a channel, when its gate has been stopped. -/
def clearChannel (site : Site) (path : String) (index : Nat) : Site :=
  let (removed, result) := site.removeRendezvous path
  let told :=
    match result with
    | .ok () => removed
    | .error error => removed.report (.removalFailed path error)
  match told.gate? index with
  | none => told
  | some gate =>
      let cleared := told.setGate index { gate with queue := [] }
      if gate.queue.isEmpty then cleared
      else cleared.report (.commandsDiscarded gate.queue.length)

/-- A channel is given up without being closed. -/
def abandonChannel (site : Site) (channel : Channel) : Site :=
  match channel.gate with
  | none => site
  | some index =>
      let aborted := site.setJob index (site.job index).abort
      (aborted.removeRendezvous channel.path).1

def takeCommand? (site : Site) (index : Nat) : Option (Site × Command) :=
  match site.gate? index with
  | none => none
  | some gate =>
      match gate.queue with
      | [] => none
      | command :: rest =>
          some (site.setGate index { gate with queue := rest }, command)

def hasCommand (site : Site) (index : Nat) : Bool :=
  (site.gate? index).any fun gate => !gate.queue.isEmpty

/-- A command sent by a client. -/
def sendCommand (site : Site) (path : String) (connectTimeout : Duration)
    (command : Command) : Site × Except Fault Unit :=
  let (host, result) := site.host.sendCommand path connectTimeout command
  ({ site with host := host }, result)

end Site

end Overseer
