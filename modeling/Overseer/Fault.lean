import Overseer.Duration
import Overseer.Json.Reader
import Overseer.SystemError
import Overseer.Text.Quoted

/-!
# Faults

Every way in which an operation of the supervisor fails is a value that names
the cause.  The wording of a fault is given once, by `Fault.message`.
-/

namespace Overseer

/-- What a JSON document violates that should describe a command. -/
inductive Violation where
  | notAnObject
  | wrongType (found : Option String)
  | missingName
  | argumentsNotAnObject
  | unknownCommand (name : String)
  | invalidArguments (name : String)
  | stated (reason : String)
  deriving DecidableEq, Repr

namespace Violation

def reason : Violation → String
  | .notAnObject => "command frame is not a JSON object"
  | .wrongType found =>
      "expected type `command`, got " ++ Quoted.quoteOption found
  | .missingName => "missing `command` field"
  | .argumentsNotAnObject => "`args` must be a JSON object"
  | .unknownCommand name => "unknown command `" ++ name ++ "`"
  | .invalidArguments name => "invalid arguments for `" ++ name ++ "`"
  | .stated reason => reason

end Violation

/-- Why the arguments of a command are refused. -/
inductive ArgumentFault where
  | unexpected (name : String)
  deriving DecidableEq, Repr

/-- The wording of a refusal of arguments. -/
def ArgumentFault.message : ArgumentFault → String
  | .unexpected name => "unexpected argument `" ++ name ++ "`"

/-- Why an operation failed. -/
inductive Fault where
  /-- The frame is no JSON text. -/
  | decode (rejection : Json.Rejection)
  /-- The frame is JSON, but describes no known command. -/
  | protocol (violation : Violation) (cause : Option ArgumentFault)
  /-- A client could not reach the control socket. -/
  | connect (path : String) (cause : SystemError)
  /-- A wait came to its deadline. -/
  | timeout (operation : String) (after : Duration)
  | spawn (program : String) (cause : SystemError)
  /-- An input or output operation failed. -/
  | system (error : SystemError)
  deriving DecidableEq

namespace Fault

def message : Fault → String
  | .decode _ => "failed to decode command frame"
  | .protocol violation _ => "protocol error: " ++ violation.reason
  | .connect path cause =>
      "cannot connect to control socket " ++ path ++ ": " ++ cause.text
  | .timeout operation after =>
      operation ++ " timed out after " ++ after.text
  | .spawn program cause =>
      "failed to spawn `" ++ program ++ "`: " ++ cause.text
  | .system error => error.text

/-- The wording of the cause that is attached to a fault. -/
def cause? : Fault → Option String
  | .protocol _ cause => cause.map ArgumentFault.message
  | .connect _ cause => some cause.text
  | .spawn _ cause => some cause.text
  | .decode _ | .timeout _ _ | .system _ => none

/-- Whether a fault is a wait that came to its deadline. -/
def isTimeout : Fault → Bool
  | .timeout _ _ => true
  | _ => false

end Fault

end Overseer
