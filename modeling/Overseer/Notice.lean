import Overseer.Fault

/-!
# Notices

What the supervisor reports while it works.  A notice names what happened; its
level and its wording are given once, here.
-/

namespace Overseer

/-- How urgent a notice is. -/
inductive Level where
  | error
  | warning
  | info
  | debug
  deriving DecidableEq, Repr

def Level.label : Level → String
  | .error => "ERROR"
  | .warning => "WARN"
  | .info => "INFO"
  | .debug => "DEBUG"

/-- Something worth reporting. -/
inductive Notice where
  | alreadyStarted
  | bodyFailed (fault : Fault)
  | stopTimedOut (fault : Fault)
  | jobKilled (grace : Duration)
  | childKilled (grace : Duration)
  | frameDropped (fault : Fault)
  /-- More bytes than a frame may have came without a terminator. -/
  | frameOversized (limit : Nat)
  /-- A connection could not be read. -/
  | receiveFailed (error : SystemError)
  /-- A connection sent no complete command in time. -/
  | connectionSilent (timeout : Duration)
  /-- The control socket could not be removed. -/
  | removalFailed (path : String) (error : SystemError)
  /-- Commands were left in the queue when it was closed. -/
  | commandsDiscarded (count : Nat)
  | settingIgnored (setting value : String)
  | applicationKilled
  /-- A restart was asked for while no application ran. -/
  | nothingToRestart
  deriving DecidableEq

namespace Notice

def level : Notice → Level
  | .bodyFailed _ => .error
  | .commandsDiscarded _ => .debug
  | _ => .warning

def message : Notice → String
  | .alreadyStarted => "Process already started"
  | .bodyFailed fault => "Process main failed: " ++ fault.message
  | .stopTimedOut fault => fault.message ++ ", terminating"
  | .jobKilled grace =>
      "Process did not terminate within " ++ grace.text ++ ", killing"
  | .childKilled grace =>
      "Application did not terminate within " ++ grace.text ++ ", killing"
  | .frameDropped fault => "Dropping malformed command frame: " ++ fault.message
  | .frameOversized limit =>
      "Command frame exceeded " ++ toString limit ++
        " bytes without a terminator, discarding"
  | .receiveFailed error =>
      "Failed to read from control connection: " ++ error.text
  | .connectionSilent timeout =>
      "Control connection sent no complete command within " ++ timeout.text
  | .removalFailed path error =>
      "Failed to remove control socket " ++ path ++ ": " ++ error.text
  | .commandsDiscarded count =>
      "Discarded " ++ toString count ++ " queued commands on close"
  | .settingIgnored setting value =>
      "Ignoring invalid " ++ setting ++ "=" ++ Quoted.quote value
  | .applicationKilled => "Killing application"
  | .nothingToRestart => "Restart requested with no application running"

def line (notice : Notice) : String :=
  notice.level.label ++ " " ++ notice.message

end Notice

end Overseer
