import Overseer.Proofs.Framing.Delivery

/-!
# Readers within bounds, and connections read to their end

A reader may be called on any connections, one after the other, and any of its calls may be
given up while it waits.  It never holds more than a body within its limit or, behind a
terminator, less than one chunk (`Reached.inBounds`).

`Drains` is the loop that calls a reader on one connection until the reader is closed.  A call of
an open reader that comes back has gone through some bytes or has closed the reader
(`read_goesThrough`), so the loop ends, with at most one call for each byte and one for the end
(`ends_of_delivers`).  The bytes that the reader carries over when the loop begins count as well:
where they come from another connection, the loop may take more calls than its own connection
accounts for.
-/

namespace Overseer

open Decoding Rehearsal

def Delivery.content : Delivery → List UInt8
  | .bytes held => held
  | .ended | .failed _ => []

namespace Inlet

variable {σ : Type}

/-- No read hands over more bytes than it was asked for. -/
def IsMeasured (inlet : Inlet σ) : Prop :=
  ∀ {connection rest : σ} {count : Nat} {bytes : List UInt8},
    inlet connection count = some (.bytes bytes, rest) → bytes.length ≤ count

/-- A connection that keeps the bytes that it has handed over. -/
def recorded (inlet : Inlet σ) : Inlet (σ × List UInt8) := fun connection count =>
  (inlet connection.1 count).map fun (delivery, rest) =>
    (delivery, rest, connection.2 ++ delivery.content)

end Inlet

namespace FrameReader

/-! ## What a reader holds -/

/-- What a reader with these limits holds between two calls. -/
structure InBounds (limit chunkSize : Nat) (reader : FrameReader) : Prop where
  bodyLimit : reader.bodyLimit = limit
  asks : reader.chunkSize = max 1 chunkSize
  bounded : reader.buffered ≤ limit
  unbroken : Command.terminator ∉ reader.assembled
  /-- Bytes are carried over only from behind a terminator. -/
  empty : reader.carried ≠ [] → reader.assembled = #[]
  /-- The terminator was in the same chunk. -/
  carried : reader.carried.length < max 1 chunkSize
  settled : reader.closed = true → reader.carried = []

variable {limit chunkSize : Nat} {reader : FrameReader}

namespace InBounds

theorem push (inBounds : reader.InBounds limit chunkSize) (settled : reader.carried = [])
    {byte : UInt8} (ordinary : byte ≠ Command.terminator) :
    (reader.push byte).1.InBounds limit chunkSize := by
  unfold FrameReader.push
  split
  · rename_i fits
    exact { inBounds with
      bounded := by simpa [buffered, inBounds.bodyLimit] using fits
      unbroken := by simp [inBounds.unbroken, ordinary.symm]
      empty := fun carries => absurd settled carries }
  · exact { inBounds with
      bounded := Nat.zero_le limit
      unbroken := by simp
      empty := fun _ => rfl }

theorem feed (inBounds : reader.InBounds limit chunkSize) (isOpen : reader.closed = false)
    (settled : reader.carried = []) (notices : List Notice) {bytes : List UInt8}
    (few : bytes.length ≤ max 1 chunkSize) :
    (reader.feed notices bytes).reader.InBounds limit chunkSize := by
  induction bytes generalizing reader notices with
  | nil => exact inBounds
  | cons byte rest induction =>
      have fewer : rest.length < max 1 chunkSize := few
      unfold FrameReader.feed
      split
      · rw [complete_frame]
        exact { inBounds with
          bounded := Nat.zero_le limit
          unbroken := by simp
          empty := fun _ => rfl
          carried := fewer
          settled := fun closed => by simp [isOpen] at closed }
      · rename_i ordinary
        obtain ⟨assembled, pushed⟩ := push_frame reader byte
        refine induction (inBounds.push settled ordinary) ?_ ?_ _ (Nat.le_of_lt fewer)
        · rw [pushed]
          exact isOpen
        · rw [pushed]
          exact settled

theorem takeUp (inBounds : reader.InBounds limit chunkSize) :
    InBounds limit chunkSize { reader with carried := [] } :=
  { inBounds with
    empty := fun carries => absurd rfl carries
    carried := Nat.lt_of_lt_of_le Nat.zero_lt_one (Nat.le_max_left 1 chunkSize)
    settled := fun _ => rfl }

theorem digest (inBounds : reader.InBounds limit chunkSize) :
    reader.digest.1.reader.InBounds limit chunkSize := by
  by_cases settled : reader.carried = []
  · rw [digest_of_nil settled]
    exact inBounds
  · have isOpen : reader.closed = false := by
      rw [← Bool.not_eq_true]
      exact fun closed => settled (inBounds.settled closed)
    rw [digest_of_ne_nil settled]
    exact inBounds.takeUp.feed isOpen rfl [] (Nat.le_of_lt inBounds.carried)

theorem close (inBounds : reader.InBounds limit chunkSize) (settled : reader.carried = []) :
    InBounds limit chunkSize { reader with closed := true } :=
  { inBounds with settled := fun _ => settled }

theorem receive (inBounds : reader.InBounds limit chunkSize) (isOpen : reader.closed = false)
    (settled : reader.carried = []) (notices : List Notice) {delivery : Delivery}
    (few : delivery.content.length ≤ max 1 chunkSize) :
    (reader.receive notices delivery).reader.InBounds limit chunkSize := by
  cases delivery with
  | bytes bytes =>
      cases bytes with
      | nil => exact inBounds.close settled
      | cons byte rest => exact inBounds.feed isOpen settled notices few
  | ended => exact inBounds.close settled
  | failed error => exact inBounds.close settled

end InBounds

theorem inBounds_withLimits (limit chunkSize : Nat) :
    (withLimits limit chunkSize).InBounds limit chunkSize :=
  { bodyLimit := rfl
    asks := rfl
    bounded := Nat.zero_le limit
    unbroken := by simp [withLimits]
    empty := fun _ => rfl
    carried := Nat.lt_of_lt_of_le Nat.zero_lt_one (Nat.le_max_left 1 chunkSize)
    settled := fun _ => rfl }

/-- A call keeps a reader within its bounds, whether it comes back or waits. -/
theorem InBounds.read {σ : Type} {inlet : Inlet σ} (inBounds : reader.InBounds limit chunkSize)
    (measured : inlet.IsMeasured) (connection : σ) :
    (reader.read inlet connection).progress.reader.InBounds limit chunkSize := by
  have reads := read_reads inlet reader connection
  generalize reader.read inlet connection = call at reads ⊢
  cases reads with
  | content idle => exact inBounds.digest
  | waits wants nothing => exact inBounds.digest
  | @takes delivery rest wants hands =>
      obtain ⟨isOpen, settled, _⟩ := of_digest_wants wants
      refine inBounds.digest.receive (by rw [digest_closed, isOpen]) settled _ ?_
      cases delivery with
      | bytes bytes =>
          rw [← inBounds.asks]
          exact measured hands
      | ended => exact Nat.zero_le _
      | failed error => exact Nat.zero_le _

/-- A reader with these limits after calls on any connections, those that waited and were given
up included. -/
inductive Reached (limit chunkSize : Nat) : FrameReader → Prop where
  | fresh : Reached limit chunkSize (withLimits limit chunkSize)
  | read {reader : FrameReader} {σ : Type} {inlet : Inlet σ} (connection : σ)
      (measured : inlet.IsMeasured) (reached : Reached limit chunkSize reader) :
      Reached limit chunkSize (reader.read inlet connection).progress.reader

theorem Reached.inBounds (reached : Reached limit chunkSize reader) :
    reader.InBounds limit chunkSize := by
  induction reached with
  | fresh => exact inBounds_withLimits limit chunkSize
  | read connection measured _ inBounds => exact inBounds.read measured connection

/-- What a reader has in prospect is what all the bytes decode to that it holds and that come. -/
theorem InBounds.outlook_eq (inBounds : reader.InBounds limit chunkSize) (bytes : List UInt8) :
    reader.outlook bytes =
      decode limit (reader.assembled.toList ++ reader.carried ++ bytes) := by
  have unbroken : Command.terminator ∉ reader.assembled.toList := by
    simpa using inBounds.unbroken
  have short : ([] ++ reader.assembled.toList).length ≤ limit := by
    simpa [buffered] using inBounds.bounded
  have assembled := decodeFrom_append [] _ (reader.carried ++ bytes) unbroken short
  rw [List.nil_append] at assembled
  rw [outlook, inBounds.bodyLimit, ← assembled, decodeFrom_nil, List.append_assoc]

/-! ## What a call goes through -/

/-- A reader that was handed these bytes has gone through some of those that it held or got, and
it carries over the others. -/
def GoesThrough (reader : FrameReader) (handed consumed : List UInt8) (next : FrameReader) :
    Prop :=
  reader.carried ++ handed = consumed ++ next.carried

theorem feed_carried_suffix (notices : List Notice) (bytes : List UInt8)
    (settled : reader.carried = []) :
    (reader.feed notices bytes).reader.carried <:+ bytes := by
  induction bytes generalizing reader notices with
  | nil => simp [feed, settled]
  | cons byte rest induction =>
      unfold feed
      split
      · rw [complete_frame]
        exact List.suffix_cons byte rest
      · obtain ⟨assembled, pushed⟩ := push_frame reader byte
        refine (induction _ ?_).trans (List.suffix_cons byte rest)
        rw [pushed]
        exact settled

theorem feed_goesThrough (notices : List Notice) {bytes : List UInt8}
    (settled : reader.carried = []) (nonempty : bytes ≠ []) :
    ∃ consumed, consumed ≠ [] ∧
      bytes = consumed ++ (reader.feed notices bytes).reader.carried := by
  obtain ⟨consumed, split⟩ := feed_carried_suffix notices bytes settled
  refine ⟨consumed, ?_, split.symm⟩
  rintro rfl
  have fewer := feed_carried_length reader notices bytes settled nonempty
  rw [List.nil_append] at split
  exact absurd (congrArg List.length split) (Nat.ne_of_lt fewer)

theorem digest_goesThrough (carries : reader.carried ≠ []) :
    ∃ consumed, consumed ≠ [] ∧ reader.carried = consumed ++ reader.digest.1.reader.carried := by
  have settled : FrameReader.carried { reader with carried := [] } = [] := rfl
  rw [digest_of_ne_nil carries]
  exact feed_goesThrough [] settled carries

theorem recorded_eq_some {σ : Type} {inlet : Inlet σ} {connection : σ} {count : Nat}
    {delivery : Delivery} {rest : σ × List UInt8}
    (hands : inlet.recorded (connection, []) count = some (delivery, rest)) :
    rest.2 = delivery.content := by
  obtain ⟨handed, _, kept⟩ := Option.map_eq_some_iff.mp hands
  obtain ⟨rfl, rfl⟩ := Prod.mk.inj kept
  rfl

/-- A call that comes back and leaves the reader open has gone through some bytes. -/
theorem read_goesThrough {σ : Type} (inlet : Inlet σ) (reader : FrameReader) (connection : σ) :
    let call := reader.read inlet.recorded (connection, [])
    call.waiting = false → call.progress.reader.closed = false →
      ∃ consumed, consumed ≠ [] ∧
        reader.GoesThrough call.connection.2 consumed call.progress.reader := by
  have reads := read_reads inlet.recorded reader (connection, [])
  dsimp only
  generalize reader.read inlet.recorded (connection, []) = call at reads ⊢
  intro back isOpen
  cases reads with
  | content idle =>
      have carries : reader.carried ≠ [] :=
        (of_not_digest_wants idle).resolve_left (by simpa using isOpen)
      obtain ⟨consumed, some_consumed, split⟩ := digest_goesThrough carries
      exact ⟨consumed, some_consumed, by simpa [GoesThrough] using split⟩
  | waits wants nothing => cases back
  | @takes delivery rest wants hands =>
      obtain ⟨_, settled, _⟩ := of_digest_wants wants
      have record := recorded_eq_some hands
      cases delivery with
      | bytes bytes =>
          have nonempty : bytes ≠ [] := by
            rintro rfl
            cases isOpen
          obtain ⟨consumed, some_consumed, split⟩ :=
            feed_goesThrough reader.digest.1.notices settled nonempty
          refine ⟨reader.carried ++ consumed, by simp [some_consumed], ?_⟩
          dsimp only [GoesThrough]
          rw [record, receive_bytes _ _ nonempty, List.append_assoc, ← split]
          rfl
      | ended => cases isOpen
      | failed error => cases isOpen

/-! ## Reading a connection to its end -/

/-- Read in chunks of this size, a connection hands over these bytes, cut in any way, and then
this end.  Where a read has to wait, the connection is meanwhile changed by `wake`. -/
inductive Delivers {σ : Type} (inlet : Inlet σ) (wake : σ → σ) (chunkSize : Nat)
    (ending : StreamEnd) : σ → List UInt8 → Prop where
  | ends {connection rest : σ}
      (last : inlet connection chunkSize = some (ending.delivery, rest)) :
      Delivers inlet wake chunkSize ending connection []
  | hands {connection rest : σ} {piece bytes : List UInt8} (nonempty : piece ≠ [])
      (given : inlet connection chunkSize = some (.bytes piece, rest))
      (later : Delivers inlet wake chunkSize ending rest bytes) :
      Delivers inlet wake chunkSize ending connection (piece ++ bytes)
  | waits {connection : σ} {bytes : List UInt8}
      (nothing : inlet connection chunkSize = none)
      (later : Delivers inlet wake chunkSize ending (wake connection) bytes) :
      Delivers inlet wake chunkSize ending connection bytes

/-- The loop that calls a reader on a connection until it is closed: how many calls came back,
what they let out, and the reader in the end.  A call that waits goes on when the connection has
changed. -/
inductive Drains {σ : Type} (inlet : Inlet σ) (wake : σ → σ) :
    FrameReader → σ → Nat → List Outcome → FrameReader → Prop where
  | closed {reader : FrameReader} {connection : σ} (isClosed : reader.closed = true) :
      Drains inlet wake reader connection 0 [] reader
  | waits {reader last : FrameReader} {connection : σ} {call : Call σ} {reads : Nat}
      {outcomes : List Outcome} (isOpen : reader.closed = false)
      (calls : reader.read inlet connection = call) (waiting : call.waiting = true)
      (later : Drains inlet wake call.progress.reader (wake call.connection) reads outcomes
        last) :
      Drains inlet wake reader connection reads (call.progress.outcomes ++ outcomes) last
  | returns {reader last : FrameReader} {connection : σ} {call : Call σ} {reads : Nat}
      {outcomes : List Outcome} (isOpen : reader.closed = false)
      (calls : reader.read inlet connection = call) (back : call.waiting = false)
      (later : Drains inlet wake call.progress.reader call.connection reads outcomes last) :
      Drains inlet wake reader connection (reads + 1) (call.progress.outcomes ++ outcomes) last

variable {σ : Type} {inlet : Inlet σ} {wake : σ → σ} {connection : σ} {ending : StreamEnd}
  {bytes : List UInt8}

theorem Drains.isClosed {reads : Nat} {outcomes : List Outcome} {last : FrameReader}
    (drains : Drains inlet wake reader connection reads outcomes last) :
    last.closed = true := by
  induction drains with
  | closed isClosed => exact isClosed
  | waits _ _ _ _ closed => exact closed
  | returns _ _ _ _ closed => exact closed

theorem Drains.reached {reads : Nat} {outcomes : List Outcome} {last : FrameReader}
    (drains : Drains inlet wake reader connection reads outcomes last)
    (measured : inlet.IsMeasured) (reached : Reached limit chunkSize reader) :
    Reached limit chunkSize last := by
  induction drains with
  | closed => exact reached
  | waits _ calls _ _ induction => exact induction (calls ▸ reached.read _ measured)
  | returns _ calls _ _ induction => exact induction (calls ▸ reached.read _ measured)

/-- The loop goes in one way only. -/
theorem Drains.unique {reads others : Nat} {outcomes different : List Outcome}
    {last final : FrameReader} (drains : Drains inlet wake reader connection reads outcomes last)
    (again : Drains inlet wake reader connection others different final) :
    reads = others ∧ outcomes = different ∧ last = final := by
  induction drains generalizing others different final with
  | closed isClosed =>
      cases again with
      | closed => exact ⟨rfl, rfl, rfl⟩
      | waits isOpen => simp [isOpen] at isClosed
      | returns isOpen => simp [isOpen] at isClosed
  | waits isOpen calls waiting _ induction =>
      cases again with
      | closed isClosed => simp [isOpen] at isClosed
      | waits _ same _ later =>
          obtain rfl := calls.symm.trans same
          obtain ⟨rfl, rfl, rfl⟩ := induction later
          exact ⟨rfl, rfl, rfl⟩
      | returns _ same back =>
          obtain rfl := calls.symm.trans same
          simp [waiting] at back
  | returns isOpen calls back _ induction =>
      cases again with
      | closed isClosed => simp [isOpen] at isClosed
      | waits _ same waiting =>
          obtain rfl := calls.symm.trans same
          simp [waiting] at back
      | returns _ same _ later =>
          obtain rfl := calls.symm.trans same
          obtain ⟨rfl, rfl, rfl⟩ := induction later
          exact ⟨rfl, rfl, rfl⟩

/-- The loop ends, within a call for each byte and one for the end of the connection, and what
was in prospect has been let out. -/
def Ends (inlet : Inlet σ) (wake : σ → σ) (ending : StreamEnd) (reader : FrameReader)
    (connection : σ) (bytes : List UInt8) : Prop :=
  ∃ reads outcomes last, Drains inlet wake reader connection reads outcomes last ∧
    reads ≤ reader.carried.length + bytes.length + 1 ∧
      outcomes = reader.outlook bytes ++ ending.outcomes

namespace Ends

/-- A call that is content with what the reader carried over. -/
theorem of_idle (isOpen : reader.closed = false) (idle : reader.digest.2 = false)
    (ends : Ends inlet wake ending reader.digest.1.reader connection bytes) :
    Ends inlet wake ending reader connection bytes := by
  obtain ⟨reads, outcomes, last, drains, few, all⟩ := ends
  have carries : reader.carried ≠ [] :=
    (of_not_digest_wants idle).resolve_left (by simp [isOpen])
  have fewer := (digest_carried_length reader).2 carries
  have called : reader.read inlet connection = ⟨reader.digest.1, connection, false⟩ := by
    simp [read, idle]
  refine ⟨reads + 1, _, last, .returns isOpen called rfl drains, by omega, ?_⟩
  rw [all, ← List.append_assoc, digest_conserves]

/-- A call that has to wait. -/
theorem of_none (wants : reader.digest.2 = true)
    (nothing : inlet connection reader.chunkSize = none)
    (ends : Ends inlet wake ending reader.digest.1.reader (wake connection) bytes) :
    Ends inlet wake ending reader connection bytes := by
  obtain ⟨reads, outcomes, last, drains, few, all⟩ := ends
  have fewer := (digest_carried_length reader).1
  have called : reader.read inlet connection = ⟨reader.digest.1, connection, true⟩ := by
    simp [read, wants, nothing]
  refine ⟨reads, _, last, .waits (of_digest_wants wants).1 called rfl drains, by omega, ?_⟩
  rw [all, ← List.append_assoc, digest_conserves]

theorem of_piece {rest : σ} {piece : List UInt8} (wants : reader.digest.2 = true)
    (nonempty : piece ≠ [])
    (given : inlet connection reader.chunkSize = some (.bytes piece, rest))
    (ends : Ends inlet wake ending
      (reader.digest.1.reader.receive reader.digest.1.notices (.bytes piece)).reader rest bytes) :
    Ends inlet wake ending reader connection (piece ++ bytes) := by
  obtain ⟨reads, outcomes, last, drains, few, all⟩ := ends
  obtain ⟨isOpen, settled, _⟩ := of_digest_wants wants
  have fewer := feed_carried_length _ reader.digest.1.notices piece settled nonempty
  rw [← receive_bytes _ _ nonempty] at fewer
  have called : reader.read inlet connection =
      ⟨reader.digest.1.reader.receive reader.digest.1.notices (.bytes piece), rest, false⟩ := by
    simp [read, wants, given]
  refine ⟨reads + 1, _, last, .returns isOpen called rfl drains, ?_, ?_⟩
  · rw [List.length_append]
    omega
  · rw [all, ← List.append_assoc, receive_conserves wants nonempty]

theorem of_ending {rest : σ} (wants : reader.digest.2 = true)
    (last : inlet connection reader.chunkSize = some (ending.delivery, rest)) :
    Ends inlet wake ending reader connection [] := by
  obtain ⟨closes, out⟩ := receive_ending wants ending
  have called : reader.read inlet connection =
      ⟨reader.digest.1.reader.receive reader.digest.1.notices ending.delivery, rest, false⟩ := by
    simp [read, wants, last]
  refine ⟨1, _, _, .returns (of_digest_wants wants).1 called rfl (.closed (by rw [closes])),
    by omega, ?_⟩
  rw [out, List.append_nil]

/-- The calls that are content with what is carried over come first, and there are no more of them
than bytes are carried over. -/
theorem of_wanting {count : Nat}
    (ends : ∀ reader : FrameReader, reader.chunkSize = count → reader.digest.2 = true →
      Ends inlet wake ending reader connection bytes)
    (isOpen : reader.closed = false) (asks : reader.chunkSize = count) :
    Ends inlet wake ending reader connection bytes := by
  induction size : reader.carried.length using Nat.strongRecOn generalizing reader with
  | ind size induction =>
      by_cases wants : reader.digest.2 = true
      · exact ends reader asks wants
      · have idle : reader.digest.2 = false := by simpa using wants
        have carries : reader.carried ≠ [] :=
          (of_not_digest_wants idle).resolve_left (by simp [isOpen])
        have fewer := (digest_carried_length reader).2 carries
        exact of_idle isOpen idle (induction _ (size ▸ fewer) (by simpa using isOpen)
          (by simpa using asks) rfl)

end Ends

theorem ends_of_delivers {count : Nat}
    (delivers : Delivers inlet wake count ending connection bytes)
    (isOpen : reader.closed = false) (asks : reader.chunkSize = count) :
    Ends inlet wake ending reader connection bytes := by
  induction delivers generalizing reader with
  | ends last =>
      refine Ends.of_wanting (fun reader asks wants => ?_) isOpen asks
      subst asks
      exact .of_ending wants last
  | hands nonempty given _ induction =>
      refine Ends.of_wanting (fun reader asks wants => ?_) isOpen asks
      subst asks
      refine .of_piece wants nonempty given (induction ?_ ?_)
      · simpa [receive_bytes _ _ nonempty] using (of_digest_wants wants).1
      · simp [receive_bytes _ _ nonempty]
  | waits nothing _ induction =>
      refine Ends.of_wanting (fun reader asks wants => ?_) isOpen asks
      subst asks
      exact .of_none wants nothing (induction (by simpa using (of_digest_wants wants).1) (by simp))

theorem segments_isMeasured : Inlet.IsMeasured segments := by
  intro connection rest count bytes hands
  match connection with
  | .bytes held :: _ =>
      obtain ⟨taken, _⟩ := Prod.mk.inj (Option.some.inj hands)
      rw [← Delivery.bytes.inj taken]
      exact List.length_take_le count held

/-- However often and on whatever connections a reader was called: it is within its bounds, and a
call that comes back and leaves it open goes through some bytes and returns one command at most.
So a loop on a connection that delivers its end is over within one call for each byte that the
reader carries over or the connection delivers, and one for the end.  By then all that was held
and delivered has been let out. -/
theorem in_bounds_until_drained {limit chunkSize : Nat} {reader : FrameReader}
    (reached : Reached limit chunkSize reader) :
    reader.InBounds limit chunkSize ∧
    (∀ {σ : Type} (inlet : Inlet σ) (connection : σ),
      let call := reader.read inlet.recorded (connection, [])
      call.waiting = false → call.progress.reader.closed = false →
        (∃ consumed, consumed ≠ [] ∧
          reader.GoesThrough call.connection.2 consumed call.progress.reader) ∧
        (call.progress.outcomes.filterMap Outcome.command?).length ≤ 1) ∧
    ∀ {σ : Type} {inlet : Inlet σ} {wake : σ → σ} {connection : σ} {bytes : List UInt8}
      {ending : StreamEnd},
      Delivers inlet wake (max 1 chunkSize) ending connection bytes →
      (∃ reads outcomes last, Drains inlet wake reader connection reads outcomes last) ∧
      ∀ {reads : Nat} {outcomes : List Outcome} {last : FrameReader},
        Drains inlet wake reader connection reads outcomes last →
        reads ≤ reader.carried.length + bytes.length + 1 ∧ last.closed = true ∧
          (reader.closed = false → outcomes =
            decode limit (reader.assembled.toList ++ reader.carried ++ bytes) ++
              ending.outcomes) := by
  have inBounds : reader.InBounds limit chunkSize := reached.inBounds
  refine ⟨inBounds, ?_, ?_⟩
  · intro σ inlet connection call back isOpen
    refine ⟨read_goesThrough inlet reader connection back isOpen, ?_⟩
    rw [Progress.commands]
    exact Option.length_toList_le
  · intro σ inlet wake connection bytes ending delivers
    cases state : reader.closed with
    | true =>
        have none_left : Drains inlet wake reader connection 0 [] reader := .closed state
        refine ⟨⟨0, [], reader, none_left⟩, fun drains => ?_⟩
        obtain ⟨rfl, rfl, rfl⟩ := none_left.unique drains
        exact ⟨Nat.zero_le _, state, fun isOpen => nomatch isOpen⟩
    | false =>
        obtain ⟨reads, outcomes, last, drained, few, all⟩ :=
          ends_of_delivers delivers state inBounds.asks
        refine ⟨⟨reads, outcomes, last, drained⟩, fun drains => ?_⟩
        obtain ⟨rfl, rfl, rfl⟩ := drained.unique drains
        exact ⟨few, drains.isClosed, fun _ => by rw [all, inBounds.outlook_eq]⟩

/-- A reader that carries a frame over to a connection on which another one comes in two pieces:
the loop waits between them, returns both commands and ends. -/
theorem in_bounds_until_drained_of_cut_frame :
    let frame := Command.restart.frame
    let first : List Segment := [.bytes (Command.stop.frame ++ frame)]
    let reader := ((withLimits 64 1024).read segments first).progress.reader
    let wake : List Segment → List Segment := fun _ => [.bytes (frame.drop 10), .ending]
    Reached 64 1024 reader ∧ reader.carried = frame ∧
      Delivers segments wake 1024 .ended [.bytes (frame.take 10)] frame ∧
      ∃ reads last, reads ≤ 2 * frame.length + 1 ∧
        Drains segments wake reader [.bytes (frame.take 10)] reads
          [.command .restart, .command .restart] last ∧
        last.closed = true := by
  intro frame first reader wake
  have reached : Reached 64 1024 reader := .read first segments_isMeasured .fresh
  have carried : reader.carried = frame := by decide +kernel
  have delivers : Delivers segments wake 1024 .ended [.bytes (frame.take 10)]
      (frame.take 10 ++ (frame.drop 10 ++ [])) := by
    refine .hands (by decide +kernel) rfl (.waits rfl (.hands (by decide +kernel) rfl (.ends rfl)))
  rw [List.append_nil, List.take_append_drop] at delivers
  have isOpen : reader.closed = false := by decide +kernel
  have decoded : decode 64 (reader.assembled.toList ++ reader.carried ++ frame) =
      [.command .restart, .command .restart] := by decide +kernel
  obtain ⟨_, _, loops⟩ := in_bounds_until_drained reached
  obtain ⟨⟨reads, outcomes, last, drains⟩, always⟩ := loops delivers
  obtain ⟨few, closed, all⟩ := always drains
  rw [all isOpen, decoded] at drains
  rw [carried] at few
  exact ⟨reached, carried, delivers, reads, last, by omega, drains, closed⟩

/-- Two frames come at once, and the second is carried over to a connection that ends without a
byte: the loop takes two calls there.  A call of the closed reader comes back and goes through
nothing. -/
theorem outlasts_connection :
    let first : List Segment := [.bytes (Command.stop.frame ++ Command.stop.frame)]
    let reader := ((withLimits 64 1024).read segments first).progress.reader
    Reached 64 1024 reader ∧ Delivers segments id 1024 .ended [.ending] [] ∧
      ∃ outcomes last, Drains segments id reader [.ending] 2 outcomes last ∧
        ¬ 2 ≤ ([] : List UInt8).length + 1 ∧
        let further := last.read segments.recorded ([.ending], [])
        further.waiting = false ∧ last.closed = true ∧
          ∀ consumed, last.GoesThrough further.connection.2 consumed further.progress.reader →
            consumed = [] := by
  intro first reader
  have reached : Reached 64 1024 reader := .read first segments_isMeasured .fresh
  obtain ⟨outcomes, last, drains⟩ :
      ∃ outcomes last, Drains segments id reader [.ending] 2 outcomes last :=
    ⟨_, _, .returns (by decide +kernel) rfl (by decide +kernel)
      (.returns (by decide +kernel) rfl (by decide +kernel) (.closed (by decide +kernel)))⟩
  have settled : last.carried = [] :=
    (drains.reached segments_isMeasured reached).inBounds.settled drains.isClosed
  refine ⟨reached, .ends rfl, outcomes, last, drains, by decide, ?_⟩
  rw [read_of_closed drains.isClosed settled]
  refine ⟨rfl, drains.isClosed, fun consumed through => ?_⟩
  simpa [GoesThrough, settled] using through.symm

end FrameReader

end Overseer
