import Overseer.CommandLine.Program

/-!
# The command

The outermost layer of the command.  It collects the arguments, the environment
and the file of variables, and carries out what they ask for as far as plain
input and output go: a command is written to the standard output as its frame,
for the caller to connect to the control socket, and a run is answered with the
settings that it would have.
-/

namespace Overseer

/-- The names of the variables that make a difference. -/
def environmentNames : List String :=
  Variable.all.map Variable.name ++ ["TMPDIR", "HOME", "XDG_DATA_HOME"]

/-- The environment of this process, without the file of variables. -/
def inheritedEnvironment : IO Environment := do
  let values ← environmentNames.filterMapM fun name => do
    return (← IO.getEnv name).map fun value => (name, Utf8.encode value)
  return ⟨values, none⟩

/-- The environment of this process with the file of variables, if it can be
set. -/
def loadedEnvironment : IO (Option Environment) := do
  let environment ← inheritedEnvironment
  try
    let bytes ← IO.FS.readBinFile ".env"
    match Utf8.decode? bytes.toList with
    | none => return some environment
    | some text => return environment.load text
  catch _ => return some environment

def sendFrame (command : Command) : IO UInt32 := do
  let output ← IO.getStdout
  output.write ⟨command.frame.toArray⟩
  output.flush
  return 0

/-- Answers a call that was refused. -/
def answerRefusal (refusal : Refusal) : IO UInt32 := do
  let ending := Ending.ofRefusal refusal
  match ending.output with
  | some output => IO.print output.text
  | none => IO.eprint usageText
  return UInt32.ofNat ending.code

end Overseer

/-- Carries out a call of the command. -/
def main (arguments : List String) : IO UInt32 := do
  match ← Overseer.loadedEnvironment with
  | none => return UInt32.ofNat Overseer.Ending.crash.code
  | some environment =>
      match Overseer.Arguments.read arguments with
      | .error refusal => Overseer.answerRefusal refusal
      | .ok (.stop _) => Overseer.sendFrame .stop
      | .ok (.restart _) => Overseer.sendFrame .restart
      | .ok (.run options program rest) => do
          IO.print (options.settings environment program rest).account
          return 0
