import Overseer.Proofs.Framing.Transparency
import Overseer.Proofs.Json.Nesting

/-!
# Frames behind an overflow

A body that grows beyond the limit is discarded, and the reader goes on as if the next byte
began a frame.  It does not wait for a terminator first: what is left of the noise is taken
for the beginning of the frame that follows.  `command_behind_noise` says when that frame is
understood all the same: when both fit the limit and what is left of the noise is blank.
-/

namespace Overseer

open Decoding

namespace Decoding

variable {limit : Nat} {piece rest : List UInt8}

/-- What a stream comes to up to its first terminator, and what behind it. -/
theorem decode_piece (limit : Nat) (rest : List UInt8) (unbroken : Command.terminator ∉ piece) :
    decode limit (piece ++ Command.terminator :: rest) =
      overflows limit piece ++ verdict (remainder limit piece) :: decode limit rest := by
  obtain ⟨next, others, pieces⟩ :=
    List.exists_cons_of_ne_nil (List.splitOn_ne_nil Command.terminator rest)
  unfold decode
  rw [List.splitOn_append_cons_self_of_not_mem unbroken, pieces, decodePieces]

theorem length_remainder_le (limit : Nat) (piece : List UInt8) :
    (remainder limit piece).length ≤ limit := by
  have bounded : piece.length % (limit + 1) ≤ piece.length := Nat.mod_le _ _
  have below : piece.length % (limit + 1) < limit + 1 := Nat.mod_lt _ limit.succ_pos
  rw [remainder, List.length_drop]
  omega

/-- The bodies that a piece fills are reported, and what follows joins the remainder. -/
theorem overflows_append_remainder (limit : Nat) (piece rest : List UInt8) :
    overflows limit (piece ++ rest) =
        overflows limit piece ++ overflows limit (remainder limit piece ++ rest) ∧
      remainder limit (piece ++ rest) = remainder limit (remainder limit piece ++ rest) := by
  induction size : piece.length / (limit + 1) generalizing piece with
  | zero =>
      have less := (Nat.div_eq_zero_iff_lt limit.succ_pos).mp size
      have short : piece.length ≤ limit := by omega
      rw [overflows_of_length_le short, remainder_of_length_le short]
      exact ⟨rfl, rfl⟩
  | succ count induction =>
      have long : limit + 1 ≤ piece.length := (Nat.div_pos_iff.mp (by omega)).2
      have full : (piece.take (limit + 1)).length = limit + 1 := List.length_take_of_le long
      have fewer : (piece.drop (limit + 1)).length / (limit + 1) = count := by
        rw [Nat.div_eq_sub_div limit.succ_pos long] at size
        rw [List.length_drop]
        exact Nat.succ.inj size
      obtain ⟨reports, left⟩ := induction (piece.drop (limit + 1)) fewer
      rw [← List.take_append_drop (limit + 1) piece, List.append_assoc,
        overflows_append full, overflows_append full, remainder_append full,
        remainder_append full, reports, left]
      exact ⟨rfl, rfl⟩

/-- What follows a remainder and is too long with it loses its beginning. -/
theorem remainder_append_of_lt (short : piece.length ≤ limit)
    (long : limit < (piece ++ rest).length) :
    ∃ lost, 0 < lost ∧ remainder limit (piece ++ rest) = rest.drop lost := by
  have full : ((piece ++ rest).take (limit + 1)).length = limit + 1 :=
    List.length_take_of_le long
  have behind : (piece ++ rest).drop (limit + 1) = rest.drop (limit + 1 - piece.length) := by
    rw [List.drop_append, List.drop_of_length_le (by omega), List.nil_append]
  obtain ⟨more, left⟩ : ∃ more, remainder limit ((piece ++ rest).drop (limit + 1)) =
      ((piece ++ rest).drop (limit + 1)).drop more := ⟨_, rfl⟩
  refine ⟨limit + 1 - piece.length + more, by omega, ?_⟩
  rw [← List.take_append_drop (limit + 1) (piece ++ rest), remainder_append full, left, behind,
    List.drop_drop]

end Decoding

namespace Command

open Json

variable {body : List UInt8} {command : Command}

theorem text_of_ofBody (accepted : ofBody body = .ok command) :
    ∃ members, Text body (.object members) := by
  unfold ofBody at accepted
  split at accepted
  · cases accepted
  · rename_i document reads
    cases document with
    | object members => exact ⟨members, read_eq_ok_iff.mp reads⟩
    | _ => cases accepted

theorem ofBody_append {blanks : List UInt8} (leads : AreBlanks blanks)
    (accepted : ofBody body = .ok command) : ofBody (blanks ++ body) = .ok command := by
  unfold ofBody at accepted
  split at accepted
  · cases accepted
  · rename_i document reads
    have text : Text (blanks ++ body) document := by
      obtain ⟨before, writes, trails⟩ := read_eq_ok_iff.mp reads
      rw [← List.append_assoc]
      exact .between (leads.append before) writes trails
    unfold ofBody
    rw [read_eq_ok_iff.mpr text]
    exact accepted

theorem standsAlone_body (command : Command) : StandsAlone command.body := by
  obtain ⟨members, text⟩ := text_of_ofBody (ofBody_body command)
  refine ⟨?_, text.balanced, ?_⟩
  · cases command <;> decide +kernel
  · intro place inside
    cases place with
    | outside => exact absurd rfl inside
    | quoted => cases command <;> decide +kernel
    | escaped => cases command <;> decide +kernel

/-- A body that has lost its beginning describes no command. -/
theorem ofBody_drop_body (command other : Command) {lost : Nat} (some_lost : 0 < lost) :
    ofBody (command.body.drop lost) ≠ .ok other := by
  intro accepted
  obtain ⟨members, text⟩ := text_of_ofBody accepted
  by_cases within : lost < command.body.length
  · have back := text.balanced.returns 0
    have astray : ∀ lost < command.body.length, 0 < lost →
        Scan.past ⟨.outside, 0⟩ (command.body.drop lost) ≠ ⟨.outside, 0⟩ := by
      cases command <;> decide +kernel
    exact astray lost within some_lost back
  · rw [List.drop_of_length_le (Nat.le_of_not_lt within)] at text
    obtain ⟨before, inside, behind, split, _⟩ := text.braces
    simp at split

/-- What stands before a body and is no blank spoils it. -/
theorem areBlanks_of_ofBody_append {noise : List UInt8} {other : Command}
    (accepted : ofBody (noise ++ command.body) = .ok other) : AreBlanks noise := by
  obtain ⟨members, text⟩ := text_of_ofBody accepted
  exact areBlanks_of_text_append (standsAlone_body command) text

end Command

namespace Decoding

open Json

variable {limit : Nat} {noise : List UInt8} {command : Command}

theorem verdict_eq_frameDropped {body : List UInt8}
    (refused : ∀ command, Command.ofBody body ≠ .ok command) :
    ∃ fault, verdict body = .notice (.frameDropped fault) := by
  unfold verdict
  cases answer : Command.ofBody body with
  | ok command => exact absurd answer (refused command)
  | error fault => exact ⟨fault, rfl⟩

/-- What the frame of a command comes to behind noise: the command, if both fit the limit
and the rest of the noise is blank, and otherwise a dropped frame. -/
theorem verdict_behind_noise (limit : Nat) (noise : List UInt8) (command : Command) :
    ((remainder limit noise).length + command.body.length ≤ limit ∧
        AreBlanks (remainder limit noise) →
      verdict (remainder limit (noise ++ command.body)) = .command command ∧
        overflows limit (noise ++ command.body) = overflows limit noise) ∧
    (¬ ((remainder limit noise).length + command.body.length ≤ limit ∧
        AreBlanks (remainder limit noise)) →
      ∃ fault, verdict (remainder limit (noise ++ command.body)) =
        .notice (.frameDropped fault)) := by
  obtain ⟨reports, left⟩ := overflows_append_remainder limit noise command.body
  rw [reports, left]
  generalize remaining : remainder limit noise = rest
  have short : rest.length ≤ limit := remaining ▸ length_remainder_le limit noise
  by_cases fits : (rest ++ command.body).length ≤ limit
  · rw [remainder_of_length_le fits, overflows_of_length_le fits, List.append_nil]
    rw [List.length_append] at fits
    constructor
    · rintro ⟨_, blanks⟩
      have accepted := Command.ofBody_append blanks (ofBody_body command)
      exact ⟨verdict_eq_command_iff.mpr accepted, rfl⟩
    · intro spoils
      apply verdict_eq_frameDropped
      intro other accepted
      exact spoils ⟨fits, Command.areBlanks_of_ofBody_append accepted⟩
  · obtain ⟨lost, some_lost, cut⟩ := remainder_append_of_lt short (Nat.lt_of_not_le fits)
    rw [List.length_append] at fits
    constructor
    · rintro ⟨both, _⟩
      exact absurd both fits
    · intro _
      rw [cut]
      exact verdict_eq_frameDropped fun other => Command.ofBody_drop_body command other some_lost

end Decoding

namespace Reception

open Json

/-- The frame of a command behind any noise without a terminator, however the stream is cut
and whatever follows: the command comes out if what the overflows have left of the noise is
blank and fits the limit together with the body; otherwise the frame is dropped, and the
stream goes on behind it. -/
theorem command_behind_noise (limit chunkSize : Nat) {noise rest : List UInt8}
    {command : Command} {moves : List Move} {ending : Option StreamEnd} {calls : Nat}
    (unbroken : Command.terminator ∉ noise)
    (brings : Brings moves (noise ++ (command.frame ++ rest)) ending)
    (enough : (noise ++ (command.frame ++ rest)).length < calls) :
    let left := remainder limit noise
    let final := ((fresh limit chunkSize).run moves).run (List.replicate calls .call)
    let later := decode limit rest ++ ending.elim [] StreamEnd.outcomes
    (left.length + command.body.length ≤ limit ∧ AreBlanks left →
      final.outcomes = overflows limit noise ++ .command command :: later) ∧
    (¬ (left.length + command.body.length ≤ limit ∧ AreBlanks left) →
      ∃ fault, final.outcomes = overflows limit (noise ++ command.body) ++
        .notice (.frameDropped fault) :: later) := by
  intro left final later
  have whole : Command.terminator ∉ noise ++ command.body := by
    have clean := Command.terminator_not_mem (ofBody_body command)
    simp [unbroken, clean]
  have split : noise ++ (command.frame ++ rest) =
      (noise ++ command.body) ++ Command.terminator :: rest := by
    simp [Command.frame]
  have outcomes : final.outcomes = overflows limit (noise ++ command.body) ++
      verdict (remainder limit (noise ++ command.body)) :: later := by
    have all : final.outcomes = _ := outcomes_of_brings brings enough
    rw [split, decode_piece limit rest whole, List.append_assoc, List.cons_append] at all
    exact all
  obtain ⟨understood, dropped⟩ := verdict_behind_noise limit noise command
  rw [outcomes]
  constructor
  · intro clear
    obtain ⟨requested, same⟩ := understood clear
    rw [requested, same]
  · intro spoilt
    obtain ⟨fault, refused⟩ := dropped spoilt
    exact ⟨fault, by rw [refused]⟩

/-- Behind 65 bytes and four blanks a frame is understood; behind one byte more it is not,
but the frame behind that is. -/
theorem command_behind_noise_of_blanks :
    let blank := List.replicate 65 0x78 ++ List.replicate 4 0x20
    let solid := blank ++ [0x78]
    let frames := Command.stop.frame ++ Command.restart.frame
    let heard (noise : List UInt8) := (((fresh 64 16).run [.arrives (noise ++ frames)]).run
      (List.replicate 200 .call)).outcomes
    heard blank = [.notice (.frameOversized 64), .command .stop, .command .restart] ∧
      ∃ fault, heard solid =
        [.notice (.frameOversized 64), .notice (.frameDropped fault), .command .restart] := by
  intro blank solid frames heard
  have brings (bytes : List UInt8) : Brings [.arrives bytes] bytes none :=
    .arrives bytes .nothing
  have next : decode 64 Command.restart.frame = [.command .restart] := by decide +kernel
  constructor
  · have clear : (remainder 64 blank).length + Command.stop.body.length ≤ 64 ∧
        ∀ byte ∈ remainder 64 blank, isJsonBlank byte = true := by decide +kernel
    have reported : overflows 64 blank = [.notice (.frameOversized 64)] := by decide
    have enough : (blank ++ frames).length < 200 := by decide +kernel
    have told := (command_behind_noise 64 16 (by decide : Command.terminator ∉ blank)
      (brings (blank ++ frames)) enough).1 clear
    rw [reported, next] at told
    exact told
  · have spoilt : ¬ ((remainder 64 solid).length + Command.stop.body.length ≤ 64 ∧
        ∀ byte ∈ remainder 64 solid, isJsonBlank byte = true) := by decide +kernel
    have reported : overflows 64 (solid ++ Command.stop.body) =
        [.notice (.frameOversized 64)] := by decide +kernel
    have enough : (solid ++ frames).length < 200 := by decide +kernel
    obtain ⟨fault, told⟩ := (command_behind_noise 64 16
      (by decide : Command.terminator ∉ solid) (brings (solid ++ frames)) enough).2 spoilt
    rw [reported, next] at told
    exact ⟨fault, told⟩

theorem Brings.calls {moves : List Move} {bytes : List UInt8} {ending : Option StreamEnd}
    (brings : Brings moves bytes ending) (calls : Nat) :
    Brings (moves ++ List.replicate calls .call) bytes ending := by
  induction calls with
  | zero => rwa [List.replicate_zero, List.append_nil]
  | succ calls induction =>
      rw [List.replicate_succ', ← List.append_assoc]
      exact induction.call

/-- One byte that is left of the noise, and the frame behind it is lost, however often the
reader is called. -/
theorem overflow_spoils_command :
    let noise := List.replicate 66 0x78
    let bytes := noise ++ Command.stop.frame
    Command.terminator ∉ noise ∧ 64 < noise.length ∧
      (∀ command : Command, command.body.length ≤ 64) ∧
      Brings [.arrives bytes] bytes none ∧
      ∀ calls, .command .stop ∉
        (((fresh 64 1024).run [.arrives bytes]).run (List.replicate calls .call)).outcomes := by
  intro noise bytes
  have brings : Brings [.arrives bytes] bytes none := .arrives bytes .nothing
  refine ⟨by decide, by decide, ?_, brings, ?_⟩
  · intro command
    cases command <;> decide +kernel
  · intro calls requested
    have accounts : Accounts 64 ((fresh 64 1024).run _) bytes none :=
      accounts_of_brings (brings.calls calls)
    rw [run_append] at accounts
    have decoded := accounts.outcomes_prefix.subset requested
    have silent : .command .stop ∉ decode 64 bytes := by decide +kernel
    simp [silent] at decoded

end Reception

end Overseer
