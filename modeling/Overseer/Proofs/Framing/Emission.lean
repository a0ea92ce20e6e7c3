import Overseer.Control.FrameWriter

/-!
# What a connection receives from the writer of frames

A connection may take any part of what it is offered, interrupt a call, fail or
take nothing, and it may fail to flush.  `Outlet.recorded` is any connection with
a record of its calls: the bytes that each write call took, the errors, and what
came of each flush.  That record is the connection's own; the writer's `taken`
plays no part in it.

`write_recorded` tells how the record of one frame ends, and
`every_frame_or_an_error` what the records of several commands are together.  A
write without a result is one whose calls ran out; as each call that takes bytes
brings the end nearer, nearly all of its calls were interrupted then.
-/

namespace Overseer

/-- A call of a connection, as the connection itself saw it. -/
inductive Receipt where
  | took (bytes : List UInt8)
  | failed (error : SystemError)
  | flushed
  | unflushed (error : SystemError)

namespace Receipt

/-- The bytes that came with a call. -/
def bytes : Receipt → List UInt8
  | took bytes => bytes
  | _ => []

/-- Whether a call was interrupted, so that it may be tried again. -/
def isInterruption : Receipt → Bool
  | failed error => error.isInterrupted
  | _ => false

/-- What a write call leaves in the record. -/
def ofWrite (offered : List UInt8) : Acceptance → Receipt
  | .takes count => took (offered.take count)
  | .fails error => failed error

/-- What a flush leaves in the record. -/
def ofFlush : Option SystemError → Receipt
  | none => flushed
  | some error => unflushed error

/-- The bytes of some calls, in their order. -/
def received (receipts : List Receipt) : List UInt8 :=
  receipts.flatMap bytes

/-- How many of some calls were interrupted. -/
def interruptions (receipts : List Receipt) : Nat :=
  receipts.countP isInterruption

@[simp] theorem received_nil : received [] = [] := rfl

@[simp] theorem received_cons (receipt : Receipt) (receipts : List Receipt) :
    received (receipt :: receipts) = receipt.bytes ++ received receipts := rfl

@[simp] theorem received_append (earlier later : List Receipt) :
    received (earlier ++ later) = received earlier ++ received later :=
  List.flatMap_append

@[simp] theorem bytes_ofFlush (answer : Option SystemError) :
    (ofFlush answer).bytes = [] := by
  cases answer <;> rfl

end Receipt

open Receipt

/-- A connection that keeps a record of its calls, the latest at the end. -/
def Outlet.recorded {σ : Type} (outlet : Outlet σ) : Outlet (σ × List Receipt) where
  write connection offered :=
    let answer := outlet.write connection.1 offered
    (answer.1, answer.2, connection.2 ++ [ofWrite offered answer.1])
  flush connection :=
    let answer := outlet.flush connection.1
    (answer.1, answer.2, connection.2 ++ [ofFlush answer.1])

/-- A connection that takes something at every call and never fails. -/
structure Outlet.IsReliable {σ : Type} (outlet : Outlet σ) : Prop where
  takes : ∀ connection offered, ∃ count next,
    outlet.write connection offered = (.takes (count + 1), next)
  flushes : ∀ connection, (outlet.flush connection).1 = none

namespace FrameWriter

/-! ## Offering the bytes of a frame -/

/-- How the record of an offer ends: with all bytes, with the error that is its
result, or without a result when its calls ran out. -/
inductive Offered (calls : Nat) (bytes : List UInt8) (receipts : List Receipt) :
    Option (Except SystemError Unit) → Prop
  | whole (all : received receipts = bytes) :
      Offered calls bytes receipts (some (.ok ()))
  | refused (error : SystemError) (part : received receipts <+: bytes)
      (cut : received receipts ≠ bytes)
      (lasting : error.isInterrupted = false)
      (last : receipts.getLast? = some (.failed error)) :
      Offered calls bytes receipts (some (.error error))
  | untaken (part : received receipts <+: bytes) (cut : received receipts ≠ bytes)
      (last : receipts.getLast? = some (.took [])) :
      Offered calls bytes receipts (some (.error writeZero))
  | broken (part : received receipts <+: bytes) (cut : received receipts ≠ bytes)
      (spent : calls < bytes.length + interruptions receipts) :
      Offered calls bytes receipts none

namespace Offered

variable {calls : Nat} {bytes : List UInt8} {receipts : List Receipt}
  {result : Option (Except SystemError Unit)}

theorem getLast?_cons_of_some {first last : Receipt}
    (found : receipts.getLast? = some last) :
    (first :: receipts).getLast? = some last := by
  rw [List.getLast?_cons, found]
  rfl

theorem interrupt {error : SystemError} (interrupted : error.isInterrupted = true)
    (offered : Offered calls bytes receipts result) :
    Offered (calls + 1) bytes (.failed error :: receipts) result := by
  have nothing : received (.failed error :: receipts) = received receipts := rfl
  cases offered with
  | whole all => exact .whole (nothing.trans all)
  | refused error' part cut lasting last =>
      exact .refused error' (nothing ▸ part) (nothing ▸ cut) lasting
        (getLast?_cons_of_some last)
  | untaken part cut last =>
      exact .untaken (nothing ▸ part) (nothing ▸ cut) (getLast?_cons_of_some last)
  | broken part cut spent =>
      have more : interruptions (.failed error :: receipts) =
          interruptions receipts + 1 :=
        List.countP_cons_of_pos interrupted
      exact .broken (nothing ▸ part) (nothing ▸ cut) (by omega)

theorem take {taken : List UInt8} (something : taken ≠ [])
    (offered : Offered calls bytes receipts result) :
    Offered (calls + 1) (taken ++ bytes) (.took taken :: receipts) result := by
  have gained : received (.took taken :: receipts) = taken ++ received receipts := rfl
  have part (part : received receipts <+: bytes) :
      received (.took taken :: receipts) <+: taken ++ bytes := by
    rw [gained]
    exact (List.prefix_append_right_inj taken).mpr part
  have cut (cut : received receipts ≠ bytes) :
      received (.took taken :: receipts) ≠ taken ++ bytes := by
    rw [gained]
    exact fun same => cut (List.append_cancel_left same)
  cases offered with
  | whole all => exact .whole (by rw [gained, all])
  | refused error less missing lasting last =>
      exact .refused error (part less) (cut missing) lasting
        (getLast?_cons_of_some last)
  | untaken less missing last =>
      exact .untaken (part less) (cut missing) (getLast?_cons_of_some last)
  | broken less missing spent =>
      have same : interruptions (.took taken :: receipts) = interruptions receipts :=
        List.countP_cons_of_neg Bool.false_ne_true
      have positive : 0 < taken.length := List.length_pos_iff.mpr something
      exact .broken (part less) (cut missing) (by
        rw [same, List.length_append]
        omega)

end Offered

variable {σ : Type} (outlet : Outlet σ)

/-- An offer to a recorded connection comes to the same as one to the connection
itself, and the record accounts for its bytes. -/
theorem writeAll_recorded (calls : Nat) (connection : σ) (history : List Receipt)
    (taken bytes : List UInt8) :
    ∃ receipts,
      writeAll outlet.recorded calls (connection, history) taken bytes =
        { connection :=
            ((writeAll outlet calls connection taken bytes).connection,
              history ++ receipts)
          taken := taken ++ received receipts
          result := (writeAll outlet calls connection taken bytes).result } ∧
      Offered calls bytes receipts
        (writeAll outlet calls connection taken bytes).result := by
  induction calls generalizing connection history taken bytes with
  | zero =>
      cases bytes with
      | nil => exact ⟨[], by simp [writeAll], .whole rfl⟩
      | cons byte rest =>
          exact ⟨[], by simp [writeAll],
            .broken List.nil_prefix (List.cons_ne_nil byte rest).symm
              (Nat.lt_add_right _ (Nat.zero_lt_succ _))⟩
  | succ calls induction =>
      cases bytes with
      | nil => exact ⟨[], by simp [writeAll], .whole rfl⟩
      | cons byte rest =>
          have missing : [] ≠ byte :: rest := (List.cons_ne_nil byte rest).symm
          rcases answered : outlet.write connection (byte :: rest) with ⟨answer, next⟩
          have recorded : outlet.recorded.write (connection, history) (byte :: rest) =
              (answer, next, history ++ [ofWrite (byte :: rest) answer]) := by
            simp [Outlet.recorded, answered]
          cases answer with
          | fails error =>
              by_cases interrupted : error.isInterrupted
              · obtain ⟨receipts, same, offered⟩ := induction next
                  (history ++ [.failed error]) taken (byte :: rest)
                refine ⟨.failed error :: receipts, ?_, ?_⟩
                · simpa [writeAll, answered, recorded, interrupted, ofWrite,
                    Receipt.bytes] using same
                · simpa [writeAll, answered, interrupted] using
                    offered.interrupt interrupted
              · have lasting : error.isInterrupted = false :=
                  Bool.eq_false_iff.mpr interrupted
                have refused : Offered (calls + 1) (byte :: rest) [.failed error]
                    (some (.error error)) :=
                  .refused error List.nil_prefix missing lasting rfl
                refine ⟨[.failed error], ?_, ?_⟩
                · simp [writeAll, answered, recorded, lasting, ofWrite,
                    Receipt.bytes]
                · simpa [writeAll, answered, lasting] using refused
          | takes count =>
              cases count with
              | zero =>
                  have untaken : Offered (calls + 1) (byte :: rest) [.took []]
                      (some (.error writeZero)) :=
                    .untaken List.nil_prefix missing rfl
                  refine ⟨[.took []], ?_, ?_⟩
                  · simp [writeAll, answered, recorded, ofWrite, Receipt.bytes]
                  · simpa [writeAll, answered] using untaken
              | succ count =>
                  obtain ⟨receipts, same, offered⟩ := induction next
                    (history ++ [.took ((byte :: rest).take (count + 1))])
                    (taken ++ (byte :: rest).take (count + 1))
                    ((byte :: rest).drop (count + 1))
                  refine ⟨.took ((byte :: rest).take (count + 1)) :: receipts, ?_, ?_⟩
                  · simpa [writeAll, answered, recorded, ofWrite,
                      Receipt.bytes] using same
                  · have some : (byte :: rest).take (count + 1) ≠ [] := by simp
                    have whole := offered.take some
                    rw [List.take_append_drop] at whole
                    simpa [writeAll, answered] using whole

/-! ## Writing frames -/

/-- A command that was written: the calls that this took, and the result. -/
structure Emission where
  command : Command
  receipts : List Receipt
  result : Option (Except SystemError Unit)

/-- The record of a command and its result tell the same, when `calls` calls
were allowed for the bytes of its frame. -/
structure Emission.IsHonest (calls : Nat) (emission : Emission) : Prop where
  part : received emission.receipts <+: emission.command.frame
  accepted : emission.result = some (.ok ()) →
    received emission.receipts = emission.command.frame ∧
      (received emission.receipts).getLast? = some 0 ∧
      emission.receipts.getLast? = some .flushed
  whole : received emission.receipts = emission.command.frame →
    emission.result = some (.ok ()) ∨
      ∃ error, emission.result = some (.error error) ∧
        emission.receipts.getLast? = some (.unflushed error)
  cut : received emission.receipts ≠ emission.command.frame →
    (∃ error, emission.result = some (.error error) ∧
      (emission.receipts.getLast? = some (.failed error) ∧
          error.isInterrupted = false ∨
        emission.receipts.getLast? = some (.took []) ∧ error = writeZero)) ∨
    emission.result = none ∧
      calls < emission.command.frame.length + interruptions emission.receipts

/-- What a flush makes of a frame that was taken whole. -/
def flushResult : Option SystemError → Except SystemError Unit
  | none => .ok ()
  | some error => .error error

/-- A write has a result if its calls are enough for the bytes of its frame and
for the interruptions. -/
theorem Emission.IsHonest.has_result {calls : Nat} {emission : Emission}
    (honest : emission.IsHonest calls)
    (enough : emission.command.frame.length + interruptions emission.receipts ≤ calls) :
    emission.result ≠ none := by
  intro missing
  by_cases all : received emission.receipts = emission.command.frame
  · rcases honest.whole all with accepted | ⟨error, failed, _⟩
    · simp [missing] at accepted
    · simp [missing] at failed
  · rcases honest.cut all with ⟨error, failed, _⟩ | ⟨_, spent⟩
    · simp [missing] at failed
    · omega

theorem Emission.isHonest_of_flush {calls : Nat} {command : Command}
    {receipts : List Receipt} (all : received receipts = command.frame)
    (answer : Option SystemError) :
    Emission.IsHonest calls
      ⟨command, receipts ++ [ofFlush answer], some (flushResult answer)⟩ := by
  have complete : received (receipts ++ [ofFlush answer]) = command.frame := by
    simp [all]
  have last : (receipts ++ [ofFlush answer]).getLast? = some (ofFlush answer) :=
    List.getLast?_concat
  have terminated : command.frame.getLast? = some 0 := List.getLast?_concat
  constructor
  · exact ⟨[], by rw [List.append_nil, complete]⟩
  · intro accepted
    cases answer with
    | none => exact ⟨complete, complete ▸ terminated, last⟩
    | some error => cases accepted
  · intro _
    cases answer with
    | none => exact .inl rfl
    | some error => exact .inr ⟨error, rfl, last⟩
  · intro cut
    exact absurd complete cut

theorem Emission.isHonest_of_offered {calls : Nat} {command : Command}
    {receipts : List Receipt} {result : Option (Except SystemError Unit)}
    (offered : Offered calls command.frame receipts result)
    (unfinished : result ≠ some (.ok ())) :
    Emission.IsHonest calls ⟨command, receipts, result⟩ := by
  cases offered with
  | whole all => exact absurd rfl unfinished
  | refused error part cut lasting last =>
      exact ⟨part, nofun, fun all => absurd all cut,
        fun _ => .inl ⟨error, rfl, .inl ⟨last, lasting⟩⟩⟩
  | untaken part cut last =>
      exact ⟨part, nofun, fun all => absurd all cut,
        fun _ => .inl ⟨writeZero, rfl, .inr ⟨last, rfl⟩⟩⟩
  | broken part cut spent =>
      exact ⟨part, nofun, fun all => absurd all cut, fun _ => .inr ⟨rfl, spent⟩⟩

/-- The write of a command to a recorded connection comes to the same as to the
connection itself, and its record is in keeping with the result. -/
theorem write_recorded (calls : Nat) (command : Command) (connection : σ)
    (history : List Receipt) :
    ∃ receipts,
      (write outlet.recorded calls command (connection, history)).connection =
        ((write outlet calls command connection).connection, history ++ receipts) ∧
      (write outlet.recorded calls command (connection, history)).result =
        (write outlet calls command connection).result ∧
      Emission.IsHonest calls
        ⟨command, receipts, (write outlet calls command connection).result⟩ := by
  obtain ⟨receipts, same, offered⟩ :=
    writeAll_recorded outlet calls connection history [] command.frame
  unfold write
  rw [same]
  generalize writeAll outlet calls connection [] command.frame = written at offered
  obtain ⟨next, taken, result⟩ := written
  dsimp only at offered ⊢
  by_cases finished : result = some (.ok ())
  · subst finished
    obtain ⟨all⟩ := offered
    have flushed : Emission.IsHonest calls _ :=
      Emission.isHonest_of_flush all (outlet.flush next).1
    refine ⟨receipts ++ [ofFlush (outlet.flush next).1], ?_⟩
    rcases answered : outlet.flush next with ⟨answer, later⟩
    rw [answered] at flushed
    cases answer <;> exact ⟨by simp [Outlet.recorded, answered],
      by simp [Outlet.recorded, answered], flushed⟩
  · refine ⟨receipts, ?_⟩
    have honest := Emission.isHonest_of_offered offered finished
    rcases result with _ | error | ⟨⟩
    · exact ⟨rfl, rfl, honest⟩
    · exact ⟨rfl, rfl, honest⟩
    · exact absurd rfl finished

/-- The commands one after the other: the results, and the connection in the end.
After a write without a result no other is begun. -/
def attemptEach {σ : Type} (outlet : Outlet σ) (calls : Nat) :
    List Command → σ → List (Option (Except SystemError Unit)) × σ
  | [], connection => ([], connection)
  | command :: rest, connection =>
      let written := write outlet calls command connection
      match written.result with
      | none => ([none], written.connection)
      | some result =>
          let later := attemptEach outlet calls rest written.connection
          (some result :: later.1, later.2)

/-- Writing some commands to a recorded connection: each write adds its own calls
to the record. -/
theorem attemptEach_recorded (calls : Nat) (commands : List Command) (connection : σ)
    (history : List Receipt) :
    ∃ (emissions : List Emission) (final : σ),
      attemptEach outlet calls commands connection =
        (emissions.map Emission.result, final) ∧
      attemptEach outlet.recorded calls commands (connection, history) =
        (emissions.map Emission.result, final,
          history ++ emissions.flatMap Emission.receipts) ∧
      (∀ emission ∈ emissions, emission.IsHonest calls) ∧
      emissions.map Emission.command <+: commands ∧
      (emissions.map Emission.command = commands ∨
        none ∈ emissions.map Emission.result) := by
  induction commands generalizing connection history with
  | nil =>
      exact ⟨[], connection, rfl, by simp [attemptEach], by simp, List.nil_prefix,
        .inl rfl⟩
  | cons command rest induction =>
      obtain ⟨receipts, moved, settled, honest⟩ :=
        write_recorded outlet calls command connection history
      cases result : (write outlet calls command connection).result with
      | none =>
          rw [result] at honest settled
          refine ⟨[⟨command, receipts, none⟩],
            (write outlet calls command connection).connection, ?_, ?_, ?_, ?_, ?_⟩
          · simp [attemptEach, result]
          · simp [attemptEach, settled, moved]
          · simpa using honest
          · exact ⟨rest, rfl⟩
          · exact .inr (by simp)
      | some outcome =>
          rw [result] at honest settled
          obtain ⟨emissions, final, plain, recorded, honesty, begun, complete⟩ :=
            induction (write outlet calls command connection).connection
              (history ++ receipts)
          refine ⟨⟨command, receipts, some outcome⟩ :: emissions, final,
            ?_, ?_, ?_, ?_, ?_⟩
          · simp [attemptEach, result, plain]
          · simp [attemptEach, settled, moved, recorded]
          · exact List.forall_mem_cons.mpr ⟨honest, honesty⟩
          · exact (List.prefix_cons_inj command).mpr begun
          · rcases complete with all | missing
            · exact .inl (congrArg (command :: ·) all)
            · exact .inr (List.mem_cons_of_mem _ missing)

/-- Whatever a connection does, what it receives for some commands is, one after
the other, a first part of each frame.  A write that succeeds gave the whole frame
and flushed it; one that gave less has the error of its last call, and a whole
frame has an error only if its flush failed.  A write comes to a result within as
many calls as its frame has bytes and the connection interrupts it. -/
theorem every_frame_or_an_error (calls : Nat) (commands : List Command)
    (connection : σ) :
    ∃ (emissions : List Emission) (final : σ),
      attemptEach outlet calls commands connection =
        (emissions.map Emission.result, final) ∧
      attemptEach outlet.recorded calls commands (connection, []) =
        (emissions.map Emission.result, final,
          emissions.flatMap Emission.receipts) ∧
      received (emissions.flatMap Emission.receipts) =
        emissions.flatMap (fun emission => received emission.receipts) ∧
      (∀ emission ∈ emissions, emission.IsHonest calls) ∧
      emissions.map Emission.command <+: commands ∧
      (emissions.map Emission.command = commands ∧
          (∀ emission ∈ emissions, emission.result ≠ none) ∨
        ∃ emission ∈ emissions,
          calls < emission.command.frame.length + interruptions emission.receipts) := by
  obtain ⟨emissions, final, plain, recorded, honest, begun, complete⟩ :=
    attemptEach_recorded outlet calls commands connection []
  refine ⟨emissions, final, plain, recorded, List.flatMap_assoc, honest, begun, ?_⟩
  by_cases missing : none ∈ emissions.map Emission.result
  · obtain ⟨emission, member, unsettled⟩ := List.mem_map.mp missing
    have short := mt (honest emission member).has_result (not_not_intro unsettled)
    exact .inr ⟨emission, member, Nat.lt_of_not_le short⟩
  · refine .inl ⟨complete.resolve_right missing, ?_⟩
    intro emission member unsettled
    exact missing (List.mem_map.mpr ⟨emission, member, unsettled⟩)

/-- A connection that takes twenty bytes at a time interrupts its second call, and breaks
in its seventh one, while the second frame is written. -/
theorem every_frame_or_an_error_of_broken_pipe :
    let pipe : Outlet Nat :=
      { write := fun call _ =>
          if call = 1 then (.fails (.kind .interrupted), call + 1)
          else if call < 6 then (.takes 20, call + 1)
          else (.fails (.kind .brokenPipe), call + 1)
        flush := fun call => (none, call) }
    let stops := Utf8.encode
      "\x7b\"args\":\x7b\x7d,\"command\":\"StopCommand\",\"type\":\"command\"\x7d" ++ [0]
    let restarts := Utf8.encode
      "\x7b\"args\":\x7b\x7d,\"command\":\"RestartCommand\",\"type\":\"command\"\x7d" ++ [0]
    ∃ (first second : Emission) (final : Nat),
      attemptEach pipe.recorded 99 [.stop, .restart] (0, []) =
        ([some (.ok ()), some (.error (.kind .brokenPipe))], final,
          first.receipts ++ second.receipts) ∧
      received first.receipts = stops ∧ first.receipts.getLast? = some .flushed ∧
      received second.receipts = restarts.take 40 ∧
      second.receipts.getLast? = some (.failed (.kind .brokenPipe)) := by
  intro pipe stops restarts
  have stopFrame : Command.stop.frame = stops := by decide +kernel
  have cutFrame : restarts.take 40 ≠ Command.restart.frame := by decide +kernel
  have total : received (attemptEach pipe.recorded 99 [.stop, .restart] (0, [])).2.2 =
      stops ++ restarts.take 40 := by decide +kernel
  obtain ⟨emissions, final, plain, recorded, _, honest, begun, _⟩ :=
    every_frame_or_an_error pipe 99 [.stop, .restart] 0
  have results : emissions.map Emission.result =
      [some (.ok ()), some (.error (.kind .brokenPipe))] :=
    (congrArg Prod.fst plain).symm
  obtain ⟨first, rest, is, accepted, others⟩ := List.map_eq_cons_iff.mp results
  obtain ⟨second, last, also, refused, none⟩ := List.map_eq_cons_iff.mp others
  rw [List.map_eq_nil_iff.mp none] at also
  subst also is
  have commands := begun.eq_of_length rfl
  simp only [List.map_cons, List.map_nil, List.cons.injEq, and_true] at commands
  obtain ⟨whole, _, flushed⟩ := (honest first (by simp)).accepted accepted
  rw [commands.1, stopFrame] at whole
  have part : received second.receipts = restarts.take 40 := by
    rw [recorded] at total
    simpa [whole] using total
  refine ⟨first, second, final, ?_, whole, flushed, part, ?_⟩
  · simp [recorded, accepted, refused]
  · have cut : received second.receipts ≠ second.command.frame := by
      rw [part, commands.2]
      exact cutFrame
    rcases (honest second (by simp)).cut cut with ⟨error, failed, ended⟩ | ⟨missing, _⟩
    · cases refused.symm.trans failed
      exact (ended.resolve_right fun untaken => nomatch untaken.2).1
    · cases refused.symm.trans missing

/-! ## Commands that are all written -/

variable {outlet} {calls : Nat} {commands : List Command} {connection : σ}

/-- What a connection receives for commands that are all written is their frames. -/
theorem received_of_accepted
    (accepted : ∀ result ∈ (attemptEach outlet calls commands connection).1,
      result = some (.ok ())) :
    received (attemptEach outlet.recorded calls commands (connection, [])).2.2 =
      commands.flatMap Command.frame := by
  obtain ⟨emissions, final, plain, recorded, honest, _, complete⟩ :=
    attemptEach_recorded outlet calls commands connection []
  rw [plain] at accepted
  have all : emissions.map Emission.command = commands := by
    apply complete.resolve_right
    intro missing
    cases accepted none missing
  have frames : emissions.flatMap (received ∘ Emission.receipts) =
      emissions.flatMap (Command.frame ∘ Emission.command) := by
    rw [List.flatMap_def, List.flatMap_def]
    refine congrArg List.flatten (List.map_congr_left fun emission member => ?_)
    exact ((honest emission member).accepted
      (accepted _ (List.mem_map_of_mem member))).1
  calc received (attemptEach outlet.recorded calls commands (connection, [])).2.2
      = received (emissions.flatMap Emission.receipts) := by rw [recorded, List.nil_append]
    _ = emissions.flatMap (received ∘ Emission.receipts) := List.flatMap_assoc
    _ = emissions.flatMap (Command.frame ∘ Emission.command) := frames
    _ = commands.flatMap Command.frame := by rw [← all, List.flatMap_map]; rfl

theorem writeAll_of_reliable (reliable : outlet.IsReliable) {taken bytes : List UInt8}
    (enough : bytes.length ≤ calls) :
    (writeAll outlet calls connection taken bytes).result = some (.ok ()) := by
  induction calls generalizing connection taken bytes with
  | zero =>
      rw [List.eq_nil_of_length_eq_zero (Nat.le_zero.mp enough)]
      rfl
  | succ calls induction =>
      cases bytes with
      | nil => rfl
      | cons byte rest =>
          obtain ⟨count, next, takes⟩ := reliable.takes connection (byte :: rest)
          simp only [writeAll, takes]
          apply induction
          rw [List.length_drop]
          omega

theorem write_of_reliable (reliable : outlet.IsReliable) {command : Command}
    (enough : command.frame.length ≤ calls) :
    (write outlet calls command connection).result = some (.ok ()) := by
  have taken : (writeAll outlet calls connection [] command.frame).result = some (.ok ()) :=
    writeAll_of_reliable reliable enough
  have flushed := reliable.flushes (writeAll outlet calls connection [] command.frame).connection
  simp only [write, taken]
  split
  · rfl
  · rename_i fails
    rw [fails] at flushed
    cases flushed

/-- A reliable connection takes all commands, if enough calls are allowed. -/
theorem accepted_of_reliable (reliable : outlet.IsReliable)
    (enough : ∀ command ∈ commands, command.frame.length ≤ calls) :
    ∀ result ∈ (attemptEach outlet calls commands connection).1, result = some (.ok ()) := by
  induction commands generalizing connection with
  | nil => exact fun _ member => absurd member List.not_mem_nil
  | cons command rest induction =>
      have first : (write outlet calls command connection).result = some (.ok ()) :=
        write_of_reliable reliable (enough command List.mem_cons_self)
      intro result member
      simp only [attemptEach, first] at member
      rcases List.mem_cons.mp member with is | later
      · exact is
      · exact induction (fun other among => enough other (List.mem_cons_of_mem _ among))
          result later

end FrameWriter

end Overseer
