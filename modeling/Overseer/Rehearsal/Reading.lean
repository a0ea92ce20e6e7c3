import Overseer.Control.FrameReader

/-!
# Scripted reading

A scripted connection is a queue of segments: bytes, an end that stays, or one
failure.  One read takes bytes of the first segment only.  A script appends
segments and calls the reader.
-/

namespace Overseer.Rehearsal

/-- A part of a scripted connection. -/
inductive Segment where
  | bytes (bytes : List UInt8)
  | ending
  | failure (error : SystemError)

def Segment.size : Segment → Nat
  | .bytes held => held.length
  | .ending | .failure _ => 0

/-- Hands over the head of the first segment; without segments a read waits. -/
def segments : Inlet (List Segment)
  | [], _ => none
  | .bytes bytes :: rest, count =>
      let left := bytes.drop count
      some (.bytes (bytes.take count),
        if left.isEmpty then rest else .bytes left :: rest)
  | .ending :: rest, _ => some (.ended, .ending :: rest)
  | .failure error :: rest, _ => some (.failed error, rest)

/-- A step of a script for a reader. -/
inductive ReadingStep where
  | append (segment : Segment)
  | reconnect
  | read (count : Nat)
  | drain (limit : Nat)

/-- What can be seen after a call. -/
structure Sight where
  /-- The command of the call; none at all if the call waits. -/
  command : Option (Option Command)
  buffered : Nat
  closed : Bool
  left : Nat
  notices : List Notice

/-- A call that returned a command or reported something. -/
structure Hit where
  number : Nat
  sight : Sight

/-- What a step shows. -/
inductive ReadingAnswer where
  | sight (sight : Sight)
  | drained (reads : Nat) (hits : List Hit) (peak : Nat) (last : Option Sight)

/-- A reader and its connection. -/
structure ReadingStage where
  reader : FrameReader
  connection : List Segment

namespace ReadingStage

/-- One call and what it shows. -/
def look (stage : ReadingStage) : ReadingStage × Sight :=
  let call := stage.reader.read segments stage.connection
  let next : ReadingStage := ⟨call.progress.reader, call.connection⟩
  (next,
    { command := if call.waiting then none else some call.progress.command
      buffered := next.reader.buffered
      closed := next.reader.closed
      left := next.connection.foldl (fun total segment => total + segment.size) 0
      notices := call.progress.notices })

/-- `count` calls and what each shows. -/
def lookTimes (stage : ReadingStage) : Nat → ReadingStage × List Sight
  | 0 => (stage, [])
  | count + 1 =>
      let first := stage.look
      let others := first.1.lookTimes count
      (others.1, first.2 :: others.2)

/-- Calls until one waits or the reader is closed, at most `calls` of them;
`reads`, `hits` and `peak` are those of the calls so far. -/
def drain (stage : ReadingStage) (reads : Nat) (hits : List Hit) (peak : Nat)
    (last : Option Sight) : (calls : Nat) → ReadingStage × ReadingAnswer
  | 0 => (stage, .drained reads hits.reverse peak last)
  | calls + 1 =>
      let (next, sight) := stage.look
      let number := reads + 1
      let isHit := sight.notices ≠ [] || (sight.command.bind id).isSome
      let hits := if isHit then ⟨number, sight⟩ :: hits else hits
      let peak := max peak sight.buffered
      if sight.command.isNone || sight.closed then
        (next, .drained number hits.reverse peak (some sight))
      else next.drain number hits peak (some sight) calls

/-- One step of a script and its answers. -/
def step (stage : ReadingStage) : ReadingStep → ReadingStage × List ReadingAnswer
  | .append (.bytes []) => (stage, [])
  | .append segment =>
      ({ stage with connection := stage.connection ++ [segment] }, [])
  | .reconnect => ({ stage with connection := [] }, [])
  | .read count =>
      let (next, sights) := stage.lookTimes count
      (next, sights.map ReadingAnswer.sight)
  | .drain limit =>
      let (next, answer) := stage.drain 0 [] 0 none limit
      (next, [answer])

/-- A whole script. -/
def play (stage : ReadingStage) : List ReadingStep → List ReadingAnswer
  | [] => []
  | first :: rest =>
      let (next, answers) := stage.step first
      answers ++ next.play rest

end ReadingStage

end Overseer.Rehearsal
