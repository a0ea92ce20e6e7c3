import Overseer.Rehearsal.Play

/-!
# Scripted channels

A script that opens, reads and closes a channel, lets clients send commands or
any bytes, and changes the files at its path.  After every step whatever can
happen has happened.
-/

namespace Overseer.Rehearsal

/-- What can be put at a path. -/
inductive Obstacle where
  | file
  | directory
  | deadSocket

/-- A step of a script for a channel. -/
inductive ChannelCue where
  | openChannel
  | closeChannel
  | dropChannel
  | read (timeout : Duration)
  | drain (timeout : Duration)
  | write (path : Option String) (commands : List Command)
  /-- Sends commands with the patience of the channel itself. -/
  | writeOwn (commands : List Command)
  | connect (client : Nat)
  | send (client : Nat) (bytes : List UInt8)
  | finish (client : Nat)
  | hangUp (client : Nat)
  | sleep (time : Duration)
  | make (path : String) (obstacle : Obstacle)
  | unlink (path : String)
  | stat (path : String)

/-- What a step came to. -/
inductive ChannelResult where
  | nothing
  | opened (result : Except Fault Unit)
  | command (command : Option Command)
  | drained (commands : List Command)
  | written (results : List (Except Fault Unit))
  | connected (reached : Bool)
  | node (node : Option Node)

/-- What a step shows. -/
structure ChannelSight where
  isOpen : Bool
  node : Option Node
  time : Instant
  result : ChannelResult
  notices : List Notice

/-- What the script keeps. -/
structure ChannelDesk where
  channel : Channel
  /-- The connections of raw clients. -/
  clients : List (Nat × Nat)
  /-- The result of a step that is not shown yet. -/
  held : ChannelResult
  /-- Commands that were drained, the oldest first. -/
  drained : List Command
  sights : List ChannelSight

namespace ChannelDesk

/-- A step that is over, but for what happens after it. -/
def settle (play : Play ChannelDesk) (result : ChannelResult)
    (begun : List Activity) : Move ChannelDesk Unit :=
  ⟨{ play with own := { play.own with held := result } }, .error .calm, begun⟩

/-- A step that waits for something. -/
def hold (play : Play ChannelDesk) (hold : Hold) : Move ChannelDesk Unit :=
  ⟨play, .error hold, []⟩

def withSite (play : Play ChannelDesk) (site : Site) : Play ChannelDesk :=
  { play with site := site }

def withChannel (play : Play ChannelDesk) (channel : Channel) :
    Play ChannelDesk :=
  { play with own := { play.own with channel := channel } }

def openStep (play : Play ChannelDesk) : Move ChannelDesk Unit :=
  match play.site.openChannel play.own.channel with
  | (site, .error fault) =>
      settle (withSite play site) (.opened (.error fault)) []
  | (site, .ok (channel, gate)) =>
      settle (withChannel (withSite play site) channel) (.opened (.ok ()))
        (gate.toList.map .enter)

/-- The gate is being stopped. -/
def closeStep (play : Play ChannelDesk) (gate : Nat)
    (standing : StopCall.Standing) : Move ChannelDesk Unit :=
  match stopOutcome gate standing with
  | .error waits => hold play waits
  | .ok () =>
      let channel := play.own.channel
      let site := play.site.clearChannel channel.path gate
      settle (withChannel (withSite play site) { channel with gate := none })
        .nothing []

/-- A command that is waited for. -/
def readStep (play : Play ChannelDesk) (gate : Nat) (deadline : Instant) :
    Move ChannelDesk Unit :=
  match play.site.takeCommand? gate with
  | some (site, command) =>
      settle (withSite play site) (.command (some command)) []
  | none =>
      if deadline ≤ play.site.now then settle play (.command none) []
      else hold play (.command gate deadline)

/-- All commands that are in the queue, and then those that come in time. -/
def drainStep (play : Play ChannelDesk) (gate : Nat) (timeout : Duration)
    (deadline : Instant) : Move ChannelDesk Unit :=
  match play.site.takeCommand? gate with
  | some (site, command) =>
      let desk := { play.own with drained := play.own.drained ++ [command] }
      hold ⟨site, desk⟩ (.command gate (play.site.now.deadline timeout))
  | none =>
      if deadline ≤ play.site.now then
        settle { play with own := { play.own with drained := [] } }
          (.drained play.own.drained) []
      else hold play (.command gate deadline)

def sendAll (site : Site) (path : String) (patience : Duration) :
    List Command → Site × List (Except Fault Unit)
  | [] => (site, [])
  | command :: rest =>
      let (site, result) := site.sendCommand path patience command
      let (site, results) := sendAll site path patience rest
      (site, result :: results)

def connection? (desk : ChannelDesk) (client : Nat) : Option Nat :=
  desk.clients.lookup client

def withConnection (play : Play ChannelDesk) (client : Nat)
    (change : Sockets → Nat → Sockets) : Play ChannelDesk :=
  match play.own.connection? client with
  | none => play
  | some number =>
      withSite play (play.site.setSockets (change play.site.host.sockets number))

/-- The raw client has no connection any more. -/
def hangUp (play : Play ChannelDesk) (client : Nat) : Play ChannelDesk :=
  let closed := withConnection play client Sockets.finish
  { closed with
    own := { closed.own with
      clients := closed.own.clients.filter (·.1 ≠ client) } }

def connect (play : Play ChannelDesk) (client : Nat) : Move ChannelDesk Unit :=
  match play.site.host.connect play.own.channel.path with
  | .error _ => settle play (.connected false) []
  | .ok (host, number) =>
      let closed := hangUp (withSite play { play.site with host := host }) client
      settle
        { closed with
          own := { closed.own with clients := (client, number) :: closed.own.clients } }
        (.connected true) []

def withTree (play : Play ChannelDesk) (tree : FileTree) : Play ChannelDesk :=
  withSite play { play.site with host := { play.site.host with tree := tree } }

/-- Something is put at a path, if that is possible. -/
def obstruct (play : Play ChannelDesk) (path : String) :
    Obstacle → Play ChannelDesk
  | .file => withTree play (play.site.host.tree.write path [])
  | .directory => withTree play (play.site.host.tree.makeDirectory path).1
  | .deadSocket =>
      let (sockets, listener) := play.site.host.sockets.listen
      match checkAddress path *> play.site.host.tree.bind path listener with
      | .error _ => play
      | .ok tree =>
          withTree (withSite play (play.site.setSockets (sockets.close listener)))
            tree

/-- A file or a socket at a path is removed; a directory stays. -/
def clear (play : Play ChannelDesk) (path : String) : Play ChannelDesk :=
  match play.site.host.tree.remove path with
  | .error _ => play
  | .ok tree => withTree play tree

def begin (play : Play ChannelDesk) : ChannelCue → Move ChannelDesk Unit
  | .openChannel => openStep play
  | .closeChannel =>
      match play.own.channel.gate with
      | none => settle play .nothing []
      | some gate =>
          let (site, standing) := play.site.beginStop gate Channel.closeTimeout
          closeStep (withSite play site) gate standing
  | .dropChannel =>
      let channel := play.own.channel
      settle
        (withChannel (withSite play (play.site.abandonChannel channel))
          { channel with gate := none })
        .nothing []
  | .read timeout =>
      match play.own.channel.gate with
      | none => settle play (.command none) []
      | some gate => readStep play gate (play.site.now.deadline timeout)
  | .drain timeout =>
      match play.own.channel.gate with
      | none => settle play (.drained []) []
      | some gate => drainStep play gate timeout (play.site.now.deadline timeout)
  | .write path commands =>
      let (site, results) :=
        sendAll play.site (path.getD play.own.channel.path)
          Channel.defaultConnectTimeout commands
      settle (withSite play site) (.written results) []
  | .writeOwn commands =>
      let (site, results) :=
        sendAll play.site play.own.channel.path play.own.channel.connectTimeout
          commands
      settle (withSite play site) (.written results) []
  | .connect client => connect play client
  | .send client bytes =>
      settle
        (withConnection play client fun sockets number =>
          sockets.send number bytes)
        .nothing []
  | .finish client => settle (withConnection play client Sockets.finish) .nothing []
  | .hangUp client => settle (hangUp play client) .nothing []
  | .sleep time => hold play (.clockAt (play.site.now.deadline time))
  | .make path obstacle => settle (obstruct play path obstacle) .nothing []
  | .unlink path => settle (clear play path) .nothing []
  | .stat path => settle play (.node (play.site.host.tree.at? path)) []

/-- How a step goes on. -/
def resume (play : Play ChannelDesk) (cue : ChannelCue) :
    Hold → Move ChannelDesk Unit
  | .stopping gate call =>
      let (site, standing) := play.site.resumeStop gate call
      closeStep (withSite play site) gate standing
  | .command gate deadline =>
      match cue with
      | .drain timeout => drainStep play gate timeout deadline
      | _ => readStep play gate deadline
  | .clockAt _ => settle play .nothing []
  | _ => ⟨play, .ok (), []⟩

/-- Shows what a step came to. -/
def display (play : Play ChannelDesk) (_ : ChannelCue) (_ : Unit) :
    Play ChannelDesk :=
  let (site, notices) := takeNotices play.site
  let sight : ChannelSight :=
    { isOpen := play.own.channel.isOpen
      node := site.host.tree.at? play.own.channel.path
      time := site.now
      result := play.own.held
      notices := notices }
  ⟨site, { play.own with held := .nothing, sights := sight :: play.own.sights }⟩

/-- The rules of a script for a channel. -/
def direction : Direction ChannelDesk ChannelCue Unit :=
  { begin := begin
    resume := resume
    display := display }

/-- What the steps of a script show. -/
def perform (host : Host) (channel : Channel) (cues : List ChannelCue) :
    List ChannelSight :=
  let desk : ChannelDesk := ⟨channel, [], .nothing, [], []⟩
  (direction.stage ⟨Site.fresh host, desk⟩ cues).own.sights.reverse

end ChannelDesk

end Overseer.Rehearsal
