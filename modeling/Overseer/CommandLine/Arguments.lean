import Overseer.Text.Numeral

/-!
# Arguments of the command

`run` supervises a program, `stop` and `restart` send a command.  Options come
before the program; the program and whatever follows it are taken as they are.
Every option takes a value, as the next argument or after an equals sign, and may
be given once.  A request for help is granted where it is met, before anything
that follows it is looked at.
-/

namespace Overseer

/-- The options of the command. -/
inductive Flag where
  | socket
  | connectTimeout
  | pidfile
  | pollTimeout
  | stopTimeout
  deriving DecidableEq, Repr

/-- How an option is written. -/
def Flag.spelling : Flag → String
  | .socket => "--socket"
  | .connectTimeout => "--connect-timeout-ms"
  | .pidfile => "--pidfile"
  | .pollTimeout => "--poll-timeout-ms"
  | .stopTimeout => "--stop-timeout-secs"

structure Options where
  socket : Option String
  connectTimeout : Option Nat
  pidfile : Option String
  pollTimeout : Option Nat
  stopTimeout : Option Nat

def Options.none : Options :=
  { socket := .none
    connectTimeout := .none
    pidfile := .none
    pollTimeout := .none
    stopTimeout := .none }

/-- What the command is asked to do. -/
inductive Invocation where
  | run (options : Options) (program : String) (arguments : List String)
  | stop (options : Options)
  | restart (options : Options)

/-- Why nothing is done. -/
inductive Refusal where
  /-- The arguments make no sense. -/
  | usage
  | help
  | version
  deriving DecidableEq, Repr

namespace Arguments

/-- What may follow the name of a subcommand. -/
structure Form where
  flags : List Flag
  takesProgram : Bool

def runForm : Form :=
  ⟨[.socket, .connectTimeout, .pidfile, .pollTimeout, .stopTimeout], true⟩

/-- The form of `stop` and `restart`. -/
def controlForm : Form := ⟨[.socket, .connectTimeout], false⟩

def givenPath (held : Option String) (value : String) :
    Except Refusal (Option String) :=
  if held.isSome || value.isEmpty then .error .usage else .ok (some value)

def givenNumber (held : Option Nat) (value : String) :
    Except Refusal (Option Nat) :=
  match held, Numeral.read? UInt64.size value.toList with
  | none, some number => .ok (some number)
  | _, _ => .error .usage

def give (options : Options) (flag : Flag) (value : String) :
    Except Refusal Options :=
  match flag with
  | .socket =>
      (givenPath options.socket value).map fun held =>
        { options with socket := held }
  | .pidfile =>
      (givenPath options.pidfile value).map fun held =>
        { options with pidfile := held }
  | .connectTimeout =>
      (givenNumber options.connectTimeout value).map fun held =>
        { options with connectTimeout := held }
  | .pollTimeout =>
      (givenNumber options.pollTimeout value).map fun held =>
        { options with pollTimeout := held }
  | .stopTimeout =>
      (givenNumber options.stopTimeout value).map fun held =>
        { options with stopTimeout := held }

/-- What an argument looks like. -/
inductive Shape where
  /-- Everything that follows is taken as it is. -/
  | escape
  | help
  | flag (flag : Flag) (value : Option String)
  /-- Something that begins like an option and is none. -/
  | strange
  | word
  deriving DecidableEq

/-- A text up to its first equals sign, and what follows it. -/
def splitAtEquals (text : String) : String × Option String :=
  let chars := text.toList
  (String.ofList (chars.takeWhile (· ≠ '=')),
    match chars.dropWhile (· ≠ '=') with
    | [] => none
    | _ :: value => some (String.ofList value))

/-- The shape of an argument that begins with two dashes. -/
def longShape (form : Form) (argument : String) : Shape :=
  let (spelling, value) := splitAtEquals argument
  if spelling = "--help" then (if value.isSome then .strange else .help)
  else
    match form.flags.find? (·.spelling = spelling) with
    | some flag => .flag flag value
    | none => .strange

/-- Whether letters after one dash ask for help.  Where a program may come, they
do so only if no other letter is among them. -/
def asksForHelp (form : Form) (letters : List Char) : Bool :=
  if form.takesProgram then letters.all (· == 'h') else letters.head? == some 'h'

def shape (form : Form) (argument : String) : Shape :=
  match argument.toList with
  | ['-', '-'] => .escape
  | '-' :: '-' :: _ => longShape form argument
  | '-' :: letter :: letters =>
      if asksForHelp form (letter :: letters) then .help else .strange
  | _ => .word

/-- Whether an argument, which is neither an option nor a request, can be a
value or a program. -/
def isPlain (form : Form) (argument : String) : Shape → Bool
  | .word => true
  | .strange => form.takesProgram && (splitAtEquals argument).1 ≠ "--help"
  | _ => false

/-- Reads the options, and gives them with the arguments that follow them;
`pending` is an option that has no value yet. -/
def scan (form : Form) (pending : Option Flag) (options : Options) :
    List String → Except Refusal (Options × List String)
  | [] => if pending.isSome then .error .usage else .ok (options, [])
  | argument :: rest =>
      match pending, shape form argument with
      | none, .escape => .ok (options, rest)
      | none, .help => .error .help
      | none, .flag flag none => scan form (some flag) options rest
      | none, .flag flag (some value) => do
          scan form none (← give options flag value) rest
      | some flag, found =>
          if isPlain form argument found then do
            scan form none (← give options flag argument) rest
          else .error .usage
      | none, found =>
          if form.takesProgram && isPlain form argument found then
            .ok (options, argument :: rest)
          else .error .usage

def readRun (arguments : List String) : Except Refusal Invocation := do
  match ← scan runForm none Options.none arguments with
  | (_, []) => .error .usage
  | (options, program :: rest) => .ok (.run options program rest)

/-- Reads what follows `stop` and `restart`. -/
def readControl (arguments : List String) : Except Refusal Options := do
  match ← scan controlForm none Options.none arguments with
  | (options, []) => .ok options
  | (_, _ :: _) => .error .usage

/-- The names that help can be asked for. -/
def topics : List String := ["run", "stop", "restart", "help"]

def readHelp : List String → Refusal
  | [] => .help
  | [topic] => if topics.contains topic then .help else .usage
  | _ => .usage

/-- What the command says when it is asked for something else than a
subcommand. -/
def readOther (argument : String) : Refusal :=
  if argument = "--help" then .help
  else if argument = "--version" then .version
  else
    match argument.toList with
    | '-' :: 'h' :: _ => .help
    | '-' :: 'V' :: _ => .version
    | _ => .usage

def read : List String → Except Refusal Invocation
  | [] => .error .usage
  | argument :: rest =>
      if argument = "run" then readRun rest
      else if argument = "stop" then (readControl rest).map .stop
      else if argument = "restart" then (readControl rest).map .restart
      else if argument = "help" then .error (readHelp rest)
      else .error (readOther argument)

end Arguments

end Overseer
