import Mathlib.Data.List.Forall2
import Overseer.Proofs.Framing.Delivery
import Overseer.Proofs.Framing.Emission
import Overseer.Proofs.Json.Control

/-!
# Transparent framing

The terminator stands in no body that describes a command, so that the frames of any
such bodies, one after the other, decode to their commands and nothing else.  The
reader lets out the same, whatever pieces the stream arrives in, and the writer
produces such a stream.
-/

namespace Overseer

open Decoding

namespace Command

def frames (bodies : List (List UInt8)) : List UInt8 :=
  bodies.flatMap (· ++ [terminator])

theorem terminator_not_mem {body : List UInt8} {command : Command}
    (accepted : ofBody body = .ok command) : terminator ∉ body := by
  unfold ofBody at accepted
  split at accepted
  · cases accepted
  · rename_i document reads
    exact Json.not_mem_of_read Json.isControl_zero reads

theorem frames_map_body (commands : List Command) :
    frames (commands.map body) = commands.flatMap frame := by
  rw [frames, List.flatMap_map]
  rfl

end Command

open Command

namespace Decoding

theorem decodeFrom_frame {limit : Nat} (assembled body rest : List UInt8)
    (unbroken : terminator ∉ body)
    (short : (assembled ++ body).length ≤ limit) :
    decodeFrom limit assembled (body ++ terminator :: rest) =
      verdict (assembled ++ body) :: decodeFrom limit [] rest := by
  rw [decodeFrom_append assembled body _ unbroken short]
  simp [decodeFrom]

theorem verdict_eq_command_iff {body : List UInt8} {command : Command} :
    verdict body = .command command ↔ ofBody body = .ok command := by
  unfold verdict
  cases ofBody body with
  | ok found => simp
  | error fault => simp

/-- A command is read off the body that describes it. -/
theorem ofBody_body (command : Command) : ofBody command.body = .ok command := by
  apply verdict_eq_command_iff.mp
  cases command with
  | stop => decide +kernel
  | restart => decide +kernel

theorem decode_frames {limit : Nat} {bodies : List (List UInt8)}
    {commands : List Command}
    (accepted : List.Forall₂ (fun body command => ofBody body = .ok command)
      bodies commands)
    (short : ∀ body ∈ bodies, body.length ≤ limit) :
    decode limit (frames bodies) = commands.map .command := by
  rw [← decodeFrom_nil]
  induction accepted with
  | nil => rfl
  | @cons body command bodies commands first _ induction =>
      have later := induction fun other member =>
        short other (List.mem_cons_of_mem body member)
      have frame := decodeFrom_frame [] body (frames bodies) (terminator_not_mem first)
        (short body List.mem_cons_self)
      rw [List.nil_append, verdict_eq_command_iff.mpr first, later] at frame
      simpa [frames] using frame

end Decoding

namespace Reception

open FrameWriter Receipt

/-- A stream conveys commands: whatever pieces it arrives in and however many calls
wait meanwhile, a fresh reader lets out these commands in order and nothing else, and
after enough calls it has let out all of them. -/
def Conveys (limit chunkSize : Nat) (bytes : List UInt8) (commands : List Command) :
    Prop :=
  ∀ {moves : List Move} {ending : Option StreamEnd}, Brings moves bytes ending →
    (∀ error, ending ≠ some (.failed error)) → ∀ {calls : Nat}, bytes.length < calls →
      let met := (fresh limit chunkSize).run moves
      met.outcomes <+: commands.map .command ∧
        (met.run (List.replicate calls .call)).outcomes = commands.map .command

theorem conveys_of_decode {limit : Nat} (chunkSize : Nat) {bytes : List UInt8}
    {commands : List Command} (decoded : decode limit bytes = commands.map .command) :
    Conveys limit chunkSize bytes commands := by
  intro moves ending brings unfailed calls enough
  have accounts : Accounts limit ((fresh limit chunkSize).run moves) bytes ending :=
    accounts_of_brings brings
  have quiet : ending.elim [] StreamEnd.outcomes = [] := by
    rcases ending with _ | _ | error
    · rfl
    · rfl
    · exact absurd rfl (unfailed error)
  have before := accounts.outcomes_prefix
  rw [quiet, decoded, List.append_nil] at before
  refine ⟨before, ?_⟩
  rw [outcomes_of_brings brings enough, quiet, decoded, List.append_nil]

/-- The terminator is in no body that describes a command; the frames of such bodies
convey their commands.  So does what a connection receives for commands that were all
written to it, as they are to a reliable one. -/
theorem framing_transparent (limit chunkSize : Nat) :
    (∀ (body : List UInt8) (command : Command),
      ofBody body = .ok command → terminator ∉ body) ∧
    (∀ (bodies : List (List UInt8)) (commands : List Command),
      List.Forall₂ (fun body command => ofBody body = .ok command) bodies commands →
      (∀ body ∈ bodies, body.length ≤ limit) →
        Conveys limit chunkSize (frames bodies) commands) ∧
    ∀ (σ : Type) (outlet : Outlet σ) (calls : Nat) (connection : σ)
      (commands : List Command),
      (∀ command ∈ commands, command.body.length ≤ limit) →
      ((∀ result ∈ (attemptEach outlet calls commands connection).1,
          result = some (.ok ())) →
        Conveys limit chunkSize
          (received (attemptEach outlet.recorded calls commands (connection, [])).2.2)
          commands) ∧
      (outlet.IsReliable → (∀ command ∈ commands, command.frame.length ≤ calls) →
        ∀ result ∈ (attemptEach outlet calls commands connection).1,
          result = some (.ok ())) := by
  have conveys (bodies : List (List UInt8)) (commands : List Command)
      (accepted : List.Forall₂ (fun body command => ofBody body = .ok command)
        bodies commands)
      (short : ∀ body ∈ bodies, body.length ≤ limit) :
      Conveys limit chunkSize (frames bodies) commands :=
    conveys_of_decode chunkSize (decode_frames accepted short)
  refine ⟨fun body command => terminator_not_mem, conveys, ?_⟩
  intro σ outlet calls connection commands short
  refine ⟨fun written => ?_, accepted_of_reliable⟩
  rw [received_of_accepted written, ← frames_map_body]
  apply conveys
  · rw [List.forall₂_map_left_iff, List.forall₂_same]
    exact fun command _ => ofBody_body command
  · intro body member
    obtain ⟨command, requested, rfl⟩ := List.mem_map.mp member
    exact short command requested

/-- A body with a blank, an escape and a member given twice and then a plain one, in
two pieces; and both commands on a connection that takes five bytes at a time. -/
theorem framing_transparent_of_two_bodies :
    let unusual := Utf8.encode
      " \x7b\"t\\u0079pe\":\"command\",\"command\":[],\"command\":\"StopCommand\"\x7d"
    let bodies := [unusual, Command.restart.body]
    let moves : List Move :=
      [.call, .arrives ((frames bodies).take 7), .call,
        .arrives ((frames bodies).drop 7)]
    let fives : Outlet Unit := ⟨fun _ _ => (.takes 5, ()), fun _ => (none, ())⟩
    let commands : List Command := [.stop, .restart]
    (∀ body ∈ bodies, terminator ∉ body ∧ body.length ≤ 200) ∧
      (frames bodies).length < 400 ∧
      (((fresh 200 3).run moves).run (List.replicate 400 .call)).outcomes =
        [.command .stop, .command .restart] ∧
      (attemptEach fives 99 commands ()).1 = [some (.ok ()), some (.ok ())] ∧
      Conveys 200 3 (received (attemptEach fives.recorded 99 commands ((), [])).2.2)
        commands := by
  intro unusual bodies moves fives commands
  have stops : verdict unusual = .command .stop := by decide +kernel
  have accepted : ofBody unusual = .ok .stop := verdict_eq_command_iff.mp stops
  obtain ⟨unbroken, conveys, writes⟩ := framing_transparent 200 3
  have plain : ofBody Command.restart.body = .ok .restart := ofBody_body .restart
  have short : ∀ body ∈ bodies, body.length ≤ 200 := by decide +kernel
  have small : (frames bodies).length < 400 := by decide +kernel
  have cut (bytes : List UInt8) : Brings
      [.call, .arrives (bytes.take 7), .call, .arrives (bytes.drop 7)] bytes none := by
    have brings : Brings [.call, .arrives (bytes.take 7), .call, .arrives (bytes.drop 7)]
        (bytes.take 7 ++ bytes.drop 7) none :=
      .arrives _ (.call (.arrives _ (.call .nothing)))
    rwa [List.take_append_drop] at brings
  have reliable : fives.IsReliable := ⟨fun _ _ => ⟨4, (), rfl⟩, fun _ => rfl⟩
  obtain ⟨conveyed, succeeds⟩ := writes Unit fives 99 () commands (by decide +kernel)
  refine ⟨?_, small, ?_, by rfl, conveyed (succeeds reliable (by decide +kernel))⟩
  · intro body member
    refine ⟨?_, short body member⟩
    rcases List.mem_cons.mp member with rfl | later
    · exact unbroken _ _ accepted
    · obtain rfl := List.mem_singleton.mp later
      exact unbroken _ _ plain
  · have both : List.Forall₂ (fun body command => ofBody body = .ok command)
        bodies [.stop, .restart] := .cons accepted (.cons plain .nil)
    exact (conveys bodies [.stop, .restart] both short (cut _) (by simp) small).2

end Reception

end Overseer
