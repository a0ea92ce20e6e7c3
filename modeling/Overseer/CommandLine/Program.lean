import Overseer.CommandLine.Arguments
import Overseer.CommandLine.DotEnv
import Overseer.Supervision.Activity

/-!
# The command as a program

What a call of the command does on a site, and how it ends.  A refused call and a
call that sends a command end at once; a call that supervises ends with the run
of its supervisor, whose exit code becomes its own.
-/

namespace Overseer

def Fault.account (fault : Fault) : String :=
  "Error: " ++ fault.message ++
    match fault.cause? with
    | none => ""
    | some cause => "\n\nCaused by:\n    " ++ cause

/-- What the command prints. -/
inductive Output where
  | help
  | version

def usageText : String :=
  "Usage: appvisor run [OPTIONS] <COMMAND>...\n" ++
    "       appvisor stop [--socket <SOCKET>] [--connect-timeout-ms <MILLIS>]\n" ++
    "       appvisor restart [--socket <SOCKET>] [--connect-timeout-ms <MILLIS>]\n"

def Output.text : Output → String
  | .help => usageText
  | .version => "appvisor 0.1.0\n"

/-- How a call of the command ends. -/
structure Ending where
  code : Nat
  output : Option Output
  fault : Option Fault

namespace Ending

/-- The end of a call that succeeded. -/
def success : Ending := ⟨0, none, none⟩

/-- The end of a call that failed. -/
def failure (fault : Fault) : Ending := ⟨1, none, some fault⟩

/-- The end of a call that could not go on. -/
def crash : Ending := ⟨101, none, none⟩

/-- The end of a call that was refused. -/
def ofRefusal : Refusal → Ending
  | .usage => ⟨2, none, none⟩
  | .help => ⟨0, some .help, none⟩
  | .version => ⟨0, some .version, none⟩

/-- The end of a call whose run has ended; the system keeps 8 bits of an exit
code. -/
def ofRun : RunResult → Ending
  | .returned (.ok code) => ⟨((code.getD 0) % 256).toNat, none, none⟩
  | .returned (.error fault) => failure fault
  | .crashed => crash

end Ending

namespace Options

/-- The settings that the options of a run override. -/
def adjustments (options : Options) : List Adjustment :=
  (options.socket.map Adjustment.socketPath).toList ++
    (options.connectTimeout.map fun millis =>
      Adjustment.connectTimeout (Duration.ofMillis (UInt64.ofNat millis))).toList ++
    (options.pidfile.map Adjustment.pidfilePath).toList ++
    (options.pollTimeout.map fun millis =>
      Adjustment.pollTimeout (Duration.ofMillis (UInt64.ofNat millis))).toList ++
    (options.stopTimeout.map fun seconds =>
      Adjustment.stopTimeout (Duration.ofSeconds (UInt64.ofNat seconds))).toList

def settings (options : Options) (environment : Environment) (program : String)
    (arguments : List String) : Settings :=
  options.adjustments.foldl Settings.adjust
    ((Settings.ofEnvironment environment program).adjust (.arguments arguments))

end Options

def Settings.account (settings : Settings) : String :=
  "\n".intercalate
    ["socket: " ++ settings.socketPath,
      "pidfile: " ++ settings.pidfilePath,
      "poll timeout: " ++ settings.pollTimeout.text,
      "stop timeout: " ++ settings.stopTimeout.text,
      "connect timeout: " ++ settings.connectTimeout.text,
      "program: " ++ " ".intercalate (settings.program :: settings.arguments)] ++
    "\n"

/-- A call of the command. -/
inductive Program where
  | ended (ending : Ending)
  | supervises (supervisor : Nat)

def Program.ending? (site : Site) : Program → Option Ending
  | .ended ending => some ending
  | .supervises index =>
      (site.supervisor? index).bind fun supervisor =>
        supervisor.results.head?.map Ending.ofRun

namespace Site

def callControl (site : Site) (environment : Environment) (options : Options)
    (command : Command) : Site × Program × List Activity :=
  let settings := options.settings environment "" []
  let (site, result) :=
    site.sendCommand settings.socketPath settings.connectTimeout command
  match result with
  | .ok () => (site, .ended Ending.success, [])
  | .error fault => (site, .ended (Ending.failure fault), [])

def callRun (site : Site) (environment : Environment) (options : Options)
    (program : String) (arguments : List String) : Site × Program × List Activity :=
  let settings := options.settings environment program arguments
  let (site, index) :=
    site.addSupervisor (Supervisor.fresh settings environment.values)
  (site, .supervises index, [.run index .called])

def callWith (site : Site) (environment : Environment) (arguments : List String) :
    Site × Program × List Activity :=
  match Arguments.read arguments with
  | .error refusal => (site, .ended (Ending.ofRefusal refusal), [])
  | .ok (.stop options) => site.callControl environment options .stop
  | .ok (.restart options) => site.callControl environment options .restart
  | .ok (.run options program arguments) =>
      site.callRun environment options program arguments

/-- A call of the command that is handed an environment, to which a file of
variables in the working directory adds. -/
def call (site : Site) (environment : Environment) (arguments : List String) :
    Site × Program × List Activity :=
  let received := environment.received
  let loaded :=
    match (site.host.tree.read? ".env").bind Utf8.decode? with
    | none => some received
    | some text => received.load text
  match loaded with
  | none => (site, .ended Ending.crash, [])
  | some environment => site.callWith environment arguments

end Site

end Overseer
