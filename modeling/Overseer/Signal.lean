import Overseer.Text.Blank
import Overseer.Text.Numeral
import Overseer.Text.Utf8

/-!
# Process numbers and signals

A process number has 32 bits, but the system takes only numbers from 1 to
2^31 - 1 for single processes; zero and negative numbers would address whole
groups.  `SignalCall.toProcess?` is the only way from a process number to a call
of the system.

A pidfile holds a process number as text, with blanks around it.
-/

namespace Overseer

abbrev ProcessNumber := UInt32

/-- The signals that the supervisor sends. -/
inductive Signal where
  | interrupt
  | terminate
  | kill
  deriving DecidableEq, Repr

def Signal.number : Signal → Nat
  | .interrupt => 2
  | .terminate => 15
  | .kill => 9

/-- A call that sends a signal, or only looks whether the process exists. -/
structure SignalCall where
  target : Int
  signal : Option Signal
  deriving DecidableEq

namespace SignalCall

/-- The call for a single process; there is none for numbers out of range. -/
def toProcess? (process : ProcessNumber) (signal : Option Signal) :
    Option SignalCall :=
  if 0 < process.toNat ∧ process.toNat < UInt32.size / 2 then
    some { target := process.toNat, signal := signal }
  else none

/-- Whether a call is made and succeeds, where `exists` tells the processes that
can be signalled. -/
def succeeds (existing : Int → Bool) (call : Option SignalCall) : Bool :=
  call.any fun call => existing call.target

end SignalCall

namespace Pidfile

def read? (content : List UInt8) : Option ProcessNumber :=
  ((Utf8.decode? content).bind fun text =>
    Numeral.read? UInt32.size (trimBlanks text.toList)).bind fun number =>
      if 0 < number then some (UInt32.ofNat number) else none

end Pidfile

end Overseer
