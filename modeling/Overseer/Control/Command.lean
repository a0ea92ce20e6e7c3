import Overseer.Fault
import Overseer.Json.Printer

/-!
# Control commands

A control command asks the supervisor to stop or to restart its application.
On the wire it is a frame: a JSON object with the members `type`, `command` and
`args`, followed by a byte 0x00, which no JSON text contains.

`Command.ofBody` reads the body of a frame.  It checks in turn that the text is
JSON, that it is an object, its type, that it has a name, the shape of its
arguments, the name, and that there are no arguments; the first check that fails
is reported.
-/

namespace Overseer

/-- A request to the supervisor. -/
inductive Command where
  | stop
  | restart
  deriving DecidableEq, Repr

namespace Command

/-- The byte that ends a frame. -/
def terminator : UInt8 := 0

def frameType : String := "command"

/-- The commands in the order of their registration. -/
def all : List Command := [.stop, .restart]

def name : Command → String
  | .stop => "StopCommand"
  | .restart => "RestartCommand"

def ofName? (name : String) : Option Command :=
  all.find? fun command => command.name == name

/-- The command with this name and these arguments, of which there may be none. -/
def ofParts (name : String) (arguments : List (String × Json.Value)) :
    Except Fault Command :=
  match ofName? name with
  | none => .error (.protocol (.unknownCommand name) none)
  | some command =>
      match Json.smallestName? arguments with
      | some argument =>
          .error (.protocol (.invalidArguments name) (some (.unexpected argument)))
      | none => .ok command

/-- The arguments of a document; left out or null, there are none. -/
def arguments? (members : List (String × Json.Value)) :
    Option (List (String × Json.Value)) :=
  match Json.field? "args" members with
  | none | some .null => some []
  | some (.object arguments) => some arguments
  | some _ => none

def ofDocument : Json.Value → Except Fault Command
  | .object members =>
      let found := (Json.field? "type" members).bind Json.Value.text?
      if found ≠ some frameType then
        .error (.protocol (.wrongType found) none)
      else
        match (Json.field? "command" members).bind Json.Value.text? with
        | none => .error (.protocol .missingName none)
        | some name =>
            match arguments? members with
            | none => .error (.protocol .argumentsNotAnObject none)
            | some arguments => ofParts name arguments
  | _ => .error (.protocol .notAnObject none)

/-- The command that the body of a frame describes. -/
def ofBody (body : List UInt8) : Except Fault Command :=
  match Json.read body with
  | .error rejection => .error (.decode rejection)
  | .ok document => ofDocument document

/-- The document that describes a command, its members in ascending order. -/
def document (command : Command) : Json.Value :=
  .object [("args", .object []), ("command", .string command.name),
    ("type", .string frameType)]

def body (command : Command) : List UInt8 :=
  Utf8.encode command.document.render

def frame (command : Command) : List UInt8 :=
  command.body ++ [terminator]

/-- Something that can be stopped and restarted: what each request does to it. -/
structure Target (α : Type) where
  stop : α
  restart : α

def execute {α : Type} (target : Target α) : Command → α
  | .stop => target.stop
  | .restart => target.restart

end Command

end Overseer
