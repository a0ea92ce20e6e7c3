import Overseer.Environment
import Overseer.Host.Process
import Overseer.Host.Socket

/-!
# The host

The files, sockets and processes that the supervisor works with.  Processes act
only when `Host.react` lets them, one after the other in the order in which they
were spawned.
-/

namespace Overseer

/-- A process that has nothing to do with the supervisor. -/
inductive Bystander where
  | absent
  | alive
  | ended (signal : Nat)
  deriving DecidableEq

/-- The system that the supervisor runs on. -/
structure Host where
  tree : FileTree
  sockets : Sockets
  programPath : String
  /-- The conduct of its runs; the last one repeats. -/
  conducts : List Conduct
  /-- The processes, in the order in which they were spawned. -/
  processes : Array Process
  bystander : Bystander
  /-- The runs that are told to exit. -/
  told : List Nat

namespace Host

def firstNumber : Nat := 1900000000

/-- The number of the process of a run, counted from zero. -/
def numberOf (run : Nat) : ProcessNumber :=
  UInt32.ofNat (firstNumber + 1 + run)

def bystanderNumber : ProcessNumber := UInt32.ofNat firstNumber

/-- The conduct of a run, counted from zero. -/
def conductOf (host : Host) (run : Nat) : Conduct :=
  (host.conducts[run]?.or host.conducts.getLast?).getD
    ⟨.dies, .dies, .ownNumber, .runsOn⟩

def run? (host : Host) (number : ProcessNumber) : Option Nat :=
  host.processes.toList.findIdx? (·.number == number)

def process? (host : Host) (number : ProcessNumber) : Option Process :=
  host.processes.toList.find? (·.number == number)

def status? (host : Host) (number : ProcessNumber) : Option ExitStatus :=
  (host.process? number).bind Process.status?

def strikeBystander (host : Host) (signal : Nat) : Host :=
  if host.bystander = .alive && !isHarmless signal then
    { host with bystander := .ended signal }
  else host

def deliver (host : Host) (call : SignalCall) : Host :=
  match call.signal with
  | none => host
  | some signal =>
      let hit (process : Process) : Process :=
        if call.target = process.number.toNat then process.send signal.number
        else process
      let struck :=
        if call.target = bystanderNumber.toNat then
          host.strikeBystander signal.number
        else host
      { struck with processes := struck.processes.map hit }

/-- The error of a text with a NUL that is handed to a program. -/
def nulInProgram : SystemError :=
  .stated .invalidInput "nul byte found in provided data"

/-- Why a name without a slash cannot be run: no program is called like that, and
a directory is no program. -/
def nameRefusal (name : String) : SystemError :=
  if FileTree.nameLimit < name.utf8ByteSize then FileTree.nameTooLong
  else if name = "." ∨ name = ".." then .denied
  else .missing

/-- Why a program cannot be run, if it cannot. -/
def refusal? (host : Host) (program : String) : Option SystemError :=
  if program = host.programPath then none
  else if !program.toList.contains '/' then some (nameRefusal program)
  else
    match host.tree.node program with
    | .error error => some error
    | .ok _ => some .denied

/-- Runs a program, with its arguments and its environment. -/
def spawn (host : Host) (program : String) (report : Report) :
    Except SystemError (Host × ProcessNumber) :=
  let texts := program :: report.arguments ++ report.environment.map Prod.fst
  if texts.any Path.holdsNul || report.environment.any (·.2.contains 0) then
    .error nulInProgram
  else
    match host.refusal? program with
    | some error => .error error
    | none =>
        let run := host.processes.size
        let number := numberOf run
        let process : Process :=
          { number := number
            conduct := host.conductOf run
            report := ⟨report.arguments, Environment.seen report.environment⟩
            liveness := .starting
            pending := []
            told := host.told.contains (run + 1) }
        .ok ({ host with processes := host.processes.push process }, number)

def pidfileText? (process : Process) : Option String :=
  match process.conduct.pidfile with
  | .ownNumber => some (toString process.number.toNat ++ "\n")
  | .nothing => none
  | .bystanderNumber => some (toString bystanderNumber.toNat ++ "\n")
  | .text content => some content

def writePidfile (host : Host) (process : Process) : Host :=
  match process.report.environment.lookup "APPVISOR_PIDFILE",
      pidfileText? process with
  | some path, some text =>
      { host with
        tree := host.tree.write (Utf8.decodeLossy path) (Utf8.encode text) }
  | _, _ => host

def setProcess (host : Host) (run : Nat) (process : Process) : Host :=
  { host with processes := host.processes.setIfInBounds run process }

def act (host : Host) (run : Nat) (process : Process) : Host :=
  match process.liveness with
  | .starting =>
      (host.writePidfile process).setProcess run
        { process with liveness := .running }.pursue
  | .running | .halted =>
      let taken := process.takeSignals
      host.setProcess run
        (if taken.liveness = .running && taken.heedsCall then taken.pursue
        else taken)
  | .ended _ => host

/-- The first process that has something to do acts; nothing if there is none. -/
def react (host : Host) : Option Host :=
  match host.processes.toList.findIdx? Process.isBusy with
  | none => none
  | some run => (host.processes[run]?).map (host.act run)

/-- A run, counted from one, is told to exit. -/
def tell (host : Host) (run : Nat) : Host :=
  { host with
    told := run :: host.told
    processes := host.processes.modify (run - 1) fun process =>
      { process with told := true } }

/-- The report of a run, counted from one, once its process is up. -/
def report? (host : Host) (run : Nat) : Option Report :=
  (host.processes[run - 1]?).bind fun process =>
    if process.liveness = .starting then none else some process.report

/-- Reaches the listener whose rendezvous is at a path. -/
def connect (host : Host) (path : String) : Except SystemError (Host × Nat) := do
  checkAddress path
  match ← host.tree.node path with
  | .socket listener _ =>
      if (host.sockets.listener listener).isOpen then
        let (sockets, connection) := host.sockets.connect listener
        .ok ({ host with sockets := sockets }, connection)
      else .error .refused
  | .directory _ | .file _ => .error .refused

/-- Puts the rendezvous of a new listener at a free path, for its owner only. -/
def bind (host : Host) (path : String) : Except SystemError (Host × Nat) := do
  checkAddress path
  let (sockets, listener) := host.sockets.listen
  let bound ← host.tree.bind path listener
  .ok ({ host with tree := bound.setMode path 0o600, sockets := sockets }, listener)

/-- Takes a path as the rendezvous of a new listener: what was there is removed,
and missing directories are made. -/
def listen (host : Host) (path : String) : Host × Except SystemError Nat :=
  match host.tree.removeIfPresent path with
  | .error error => (host, .error error)
  | .ok cleared =>
      let (furnished, failure) := cleared.makeParents path
      let host := { host with tree := furnished }
      match failure with
      | some error => (host, .error error)
      | none =>
          match host.bind path with
          | .error error => (host, .error error)
          | .ok (bound, listener) => (bound, .ok listener)

end Host

end Overseer
