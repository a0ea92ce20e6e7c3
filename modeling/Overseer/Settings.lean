import Overseer.Environment
import Overseer.Path

/-!
# Settings of a supervisor

Where the control socket and the pidfile are, how long the supervisor waits for
what, and which program it runs.  `Settings.ofEnvironment` resolves them from
the environment; an `Adjustment` overrides one of them.
-/

namespace Overseer

/-- How long each step of an escalation waits, unless told otherwise. -/
def defaultKillGrace : Duration := Duration.ofSeconds 5

namespace Environment

def temporaryDirectory (environment : Environment) : String :=
  ((environment.value? "TMPDIR").map Utf8.decodeLossy).getD "/tmp"

def home? (environment : Environment) : Option String :=
  match environment.value? "HOME" with
  | none | some [] => environment.accountHome
  | some bytes => some (Utf8.decodeLossy bytes)

def dataDirectory (environment : Environment) : String :=
  match ((environment.value? "XDG_DATA_HOME").map Utf8.decodeLossy).filter
      Path.isAbsolute with
  | some directory => directory
  | none =>
      match environment.home? with
      | some home => Path.join home ".local/share"
      | none => "~/.local/share"

def socketPath (environment : Environment) : String :=
  (environment.text? .socket).getD
    (Path.join environment.temporaryDirectory "appvisor.sock")

/-- Where the application writes its process number. -/
def pidfilePath (environment : Environment) : String :=
  (environment.text? .pidfile).getD
    (Path.join (Path.join environment.dataDirectory "appvisor") "app.pid")

/-- A duration whose variable counts units of it, or else its default. -/
def duration (environment : Environment) (setting : Variable)
    (ofCount : UInt64 → Duration) (default : UInt64) : Duration × List Notice :=
  let (number, notices) := environment.number? setting
  (ofCount ((number.map UInt64.ofNat).getD default), notices)

/-- How long the supervisor waits for a command before it looks around. -/
def pollTimeout (environment : Environment) : Duration × List Notice :=
  environment.duration .pollTimeout Duration.ofMillis 1000

/-- How long an application has to stop before it is terminated. -/
def stopTimeout (environment : Environment) : Duration × List Notice :=
  environment.duration .stopTimeout Duration.ofSeconds 10

/-- How long a client tries to reach the control socket. -/
def connectTimeout (environment : Environment) : Duration × List Notice :=
  environment.duration .connectTimeout Duration.ofMillis 5000

end Environment

/-- The settings of a supervisor. -/
structure Settings where
  socketPath : String
  pidfilePath : String
  pollTimeout : Duration
  stopTimeout : Duration
  killGrace : Duration
  connectTimeout : Duration
  program : String
  arguments : List String

/-- A setting that is given explicitly. -/
inductive Adjustment where
  | socketPath (path : String)
  | pidfilePath (path : String)
  | pollTimeout (timeout : Duration)
  | stopTimeout (timeout : Duration)
  | killGrace (grace : Duration)
  | connectTimeout (timeout : Duration)
  | arguments (arguments : List String)

namespace Settings

def ofEnvironment (environment : Environment) (program : String) : Settings :=
  { socketPath := environment.socketPath
    pidfilePath := environment.pidfilePath
    pollTimeout := environment.pollTimeout.1
    stopTimeout := environment.stopTimeout.1
    killGrace := defaultKillGrace
    connectTimeout := environment.connectTimeout.1
    program := program
    arguments := [] }

def adjust (settings : Settings) : Adjustment → Settings
  | .socketPath path => { settings with socketPath := path }
  | .pidfilePath path => { settings with pidfilePath := path }
  | .pollTimeout timeout => { settings with pollTimeout := timeout }
  | .stopTimeout timeout => { settings with stopTimeout := timeout }
  | .killGrace grace => { settings with killGrace := grace }
  | .connectTimeout timeout => { settings with connectTimeout := timeout }
  | .arguments arguments => { settings with arguments := arguments }

end Settings

end Overseer
