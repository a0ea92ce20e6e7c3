import Overseer.Json.Printer
import Overseer.Notice
import Overseer.Signal

/-!
# Events of a supervisor

What a supervisor posts about its application.  An event is written as a JSON
object whose first member names the event, and it is announced in the log as a
message with fields.
-/

namespace Overseer

/-- Something that happened to the supervised application. -/
inductive Event where
  | applicationStarted (process : ProcessNumber)
  | applicationExited (code : Option Int)
  | commandReceived (name : String)
  | restartScheduled
  | supervisorStopped
  deriving DecidableEq

/-- A line of the log: its level, its message, and its fields as text. -/
structure Announcement where
  level : Level
  message : String
  fields : List (String × String)

namespace Event

def name : Event → String
  | .applicationStarted _ => "application_started"
  | .applicationExited _ => "application_exited"
  | .commandReceived _ => "command_received"
  | .restartScheduled => "restart_scheduled"
  | .supervisorStopped => "supervisor_stopped"

def codeValue : Option Int → Json.Value
  | none => .null
  | some code => Json.Value.ofInt code

def details : Event → List (String × Json.Value)
  | .applicationStarted process => [("pid", Json.Value.ofInt process.toNat)]
  | .applicationExited code => [("code", codeValue code)]
  | .commandReceived name => [("name", .string name)]
  | .restartScheduled | .supervisorStopped => []

def document (event : Event) : Json.Value :=
  .object (("event", .string event.name) :: event.details)

/-- An exit code in the log. -/
def codeText : Option Int → String
  | none => "None"
  | some code => "Some(" ++ toString code ++ ")"

def announcement : Event → Announcement
  | .applicationStarted process =>
      ⟨.info, "Application started", [("pid", toString process.toNat)]⟩
  | .applicationExited code =>
      ⟨.info, "Application exited", [("code", codeText code)]⟩
  | .commandReceived name =>
      ⟨.info, "Control command received", [("command", name)]⟩
  | .restartScheduled => ⟨.info, "Application restart scheduled", []⟩
  | .supervisorStopped => ⟨.info, "Supervisor stopped", []⟩

end Event

end Overseer
