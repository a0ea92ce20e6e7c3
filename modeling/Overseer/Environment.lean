import Overseer.Notice
import Overseer.Text.Blank
import Overseer.Text.Numeral
import Overseer.Text.Utf8

/-!
# Environment variables

The environment gives names a value, which is any string of bytes.  A process is
handed its environment as entries `NAME=value`, so that a name with an equals
sign in it does not come out as it went in.  A variable that is not well-formed
text, or is blank, counts as absent.  A variable that should be a number and is
none is ignored, with a notice that shows its value as it was given.
-/

namespace Overseer

/-- The variables that the supervisor reads. -/
inductive Variable where
  | socket
  | pidfile
  | pollTimeout
  | stopTimeout
  | connectTimeout
  deriving DecidableEq, Repr

namespace Variable

def name : Variable → String
  | .socket => "APPVISOR_SOCKET"
  | .pidfile => "APPVISOR_PIDFILE"
  | .pollTimeout => "APPVISOR_POLL_TIMEOUT_MS"
  | .stopTimeout => "APPVISOR_STOP_TIMEOUT_SECS"
  | .connectTimeout => "APPVISOR_CONNECT_TIMEOUT_MS"

/-- The variables in the order of their declaration. -/
def all : List Variable :=
  [.socket, .pidfile, .pollTimeout, .stopTimeout, .connectTimeout]

end Variable

/-- The values of the variables that are set, and the home directory that the
account has without them. -/
structure Environment where
  values : List (String × List UInt8)
  accountHome : Option String

namespace Environment

def assign (values : List (String × List UInt8)) (name : String)
    (value : List UInt8) : List (String × List UInt8) :=
  values.filter (·.1 ≠ name) ++ [(name, value)]

def overlay (values given : List (String × List UInt8)) :
    List (String × List UInt8) :=
  given.foldl (fun values entry => assign values entry.1 entry.2) values

/-- A variable as the process sees it that is handed the entry `NAME=value`: the
name ends at the first equals sign that is not its first character. -/
def received? (entry : String × List UInt8) : Option (String × List UInt8) :=
  match entry.1.toList with
  | [] => none
  | first :: rest =>
      let name := String.ofList (first :: rest.takeWhile (· ≠ '='))
      match rest.dropWhile (· ≠ '=') with
      | [] => some (name, entry.2)
      | _ :: more => some (name, Utf8.encode (String.ofList more) ++ 0x3d :: entry.2)

/-- Values as the process sees them that is handed them; of two for one name the
later one counts. -/
def seen (values : List (String × List UInt8)) : List (String × List UInt8) :=
  overlay [] (values.filterMap received?)

/-- The environment as the process sees it that is handed this one. -/
def received (environment : Environment) : Environment :=
  { environment with values := environment.values.filterMap received? }

def value? (environment : Environment) (name : String) : Option (List UInt8) :=
  environment.values.lookup name

/-- What follows a text and an equals sign in the first entry that begins with
them.  For a name that is its value; a text with an equals sign in it may reach
into a value. -/
def after? (environment : Environment) (text : String) : Option (List UInt8) :=
  if text.isEmpty then none
  else
    environment.values.findSome? fun entry =>
      (Utf8.encode text ++ [0x3d]).isPrefixOf?
        (Utf8.encode entry.1 ++ 0x3d :: entry.2)

def set (environment : Environment) (name : String) (value : List UInt8) :
    Environment :=
  { environment with values := assign environment.values name value }

def text? (environment : Environment) (setting : Variable) : Option String :=
  ((environment.value? setting.name).bind Utf8.decode?).filter
    fun text => !(trimBlanks text.toList).isEmpty

/-- What a text says as a setting: a number below 2^64, with blanks around it. -/
def numberOf? (text : String) : Option Nat :=
  Numeral.read? UInt64.size (trimBlanks text.toList)

/-- The number that a variable gives, and a notice if it gives none. -/
def number? (environment : Environment) (setting : Variable) :
    Option Nat × List Notice :=
  match environment.text? setting with
  | none => (none, [])
  | some text =>
      match numberOf? text with
      | some number => (some number, [])
      | none => (none, [.settingIgnored setting.name text])

end Environment

end Overseer
