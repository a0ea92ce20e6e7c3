import Overseer.Proofs.Framing.Conservation
import Overseer.Rehearsal.Reading

/-!
# Streams that arrive in pieces

A stream reaches a reader in pieces of any size, at any time, and calls of the
reader come before, between and after them; a call that finds nothing waits and
is given up.  `outcomes_eq_decode` states that the calls let out exactly what
the whole stream decodes to, so that neither the pieces nor the calls matter.

The invariant is `Accounts`: what was let out and what is in prospect are
together what the stream up to now decodes to, whatever comes later.
-/

namespace Overseer

open Decoding Rehearsal

inductive StreamEnd where
  | ended
  | failed (error : SystemError)

namespace StreamEnd

def segment : StreamEnd → Segment
  | .ended => .ending
  | .failed error => .failure error

/-- What a read of the end of a stream hands over. -/
def delivery : StreamEnd → Delivery
  | .ended => .ended
  | .failed error => .failed error

def outcomes : StreamEnd → List Outcome
  | .ended => []
  | .failed error => [.notice (.receiveFailed error)]

end StreamEnd

/-- The end of a connection closes the reader, and what was in prospect is let out. -/
theorem FrameReader.receive_ending {reader : FrameReader} (wants : reader.digest.2 = true)
    (ending : StreamEnd) :
    let progress := reader.digest.1.reader.receive reader.digest.1.notices ending.delivery
    progress.reader = { reader.digest.1.reader with closed := true } ∧
      progress.outcomes = reader.outlook [] ++ ending.outcomes := by
  obtain ⟨_, settled, quiet⟩ := of_digest_wants wants
  have reported : reader.outlook [] = reader.digest.1.notices.map Outcome.notice := by
    rw [← digest_conserves, outlook_nil settled]
    simp [Progress.outcomes, quiet]
  rw [reported]
  cases ending with
  | ended => exact ⟨rfl, rfl⟩
  | failed error =>
      refine ⟨rfl, ?_⟩
      simp [receive, Progress.outcomes, StreamEnd.delivery, StreamEnd.outcomes]

/-- A reader, its connection, and what its calls have let out. -/
structure Reception where
  reader : FrameReader
  connection : List Segment
  outcomes : List Outcome

namespace Reception

/-- What can happen to a reception. -/
inductive Move where
  | arrives (bytes : List UInt8)
  | ends (ending : StreamEnd)
  | call

/-- A reception before anything has arrived. -/
def fresh (bodyLimit chunkSize : Nat) : Reception :=
  ⟨FrameReader.withLimits bodyLimit chunkSize, [], []⟩

def after (reception : Reception) : Move → Reception
  | .arrives [] => reception
  | .arrives bytes =>
      { reception with connection := reception.connection ++ [.bytes bytes] }
  | .ends ending =>
      { reception with connection := reception.connection ++ [ending.segment] }
  | .call =>
      let call := reception.reader.read segments reception.connection
      ⟨call.progress.reader, call.connection,
        reception.outcomes ++ call.progress.outcomes⟩

def run (reception : Reception) (moves : List Move) : Reception :=
  moves.foldl after reception

theorem run_append (reception : Reception) (first second : List Move) :
    reception.run (first ++ second) = (reception.run first).run second :=
  List.foldl_append

/-- The moves bring these bytes, cut in any way, and then this end, if any. -/
inductive Brings : List Move → List UInt8 → Option StreamEnd → Prop where
  | nothing : Brings [] [] none
  | arrives {moves : List Move} {bytes : List UInt8} (more : List UInt8) :
      Brings moves bytes none →
      Brings (moves ++ [.arrives more]) (bytes ++ more) none
  | ends {moves : List Move} {bytes : List UInt8} (ending : StreamEnd) :
      Brings moves bytes none →
      Brings (moves ++ [.ends ending]) bytes (some ending)
  | call {moves : List Move} {bytes : List UInt8} {ending : Option StreamEnd} :
      Brings moves bytes ending →
      Brings (moves ++ [.call]) bytes ending

/-- How the outcomes of a reception account for the bytes and the end that were
brought: while the reader is open the rest is in prospect, and once it is closed
everything is out. -/
inductive Accounts (limit : Nat) :
    Reception → List UInt8 → Option StreamEnd → Prop where
  | reading {reader : FrameReader} {pieces : List (List UInt8)}
      {outcomes : List Outcome} {bytes : List UInt8} {ending : Option StreamEnd}
      (isOpen : reader.closed = false)
      (bounded : reader.bodyLimit = limit)
      (asks : 1 ≤ reader.chunkSize)
      (solid : ∀ piece ∈ pieces, piece ≠ [])
      (unread : reader.carried.length + pieces.flatten.length ≤ bytes.length)
      (conserved : ∀ later,
        outcomes ++ reader.outlook (pieces.flatten ++ later) =
          decode limit (bytes ++ later)) :
      Accounts limit
        ⟨reader, pieces.map .bytes ++ ending.toList.map StreamEnd.segment, outcomes⟩
        bytes ending
  | done {reader : FrameReader} {connection : List Segment}
      {outcomes : List Outcome} {bytes : List UInt8} {ending : StreamEnd}
      (isClosed : reader.closed = true)
      (settled : reader.carried = [])
      (complete : outcomes = decode limit bytes ++ ending.outcomes) :
      Accounts limit ⟨reader, connection, outcomes⟩ bytes (some ending)

theorem accounts_fresh (limit chunkSize : Nat) :
    Accounts limit (fresh limit chunkSize) [] none := by
  let reader := FrameReader.withLimits limit chunkSize
  have conserved (later : List UInt8) :
      [] ++ reader.outlook (([] : List (List UInt8)).flatten ++ later) =
        decode limit ([] ++ later) := by
    simp [reader, FrameReader.outlook, FrameReader.withLimits, decodeFrom_nil]
  have start : Accounts limit
      ⟨reader, ([] : List (List UInt8)).map .bytes ++
        (none : Option StreamEnd).toList.map StreamEnd.segment, []⟩ [] none :=
    .reading rfl rfl (Nat.le_max_left 1 chunkSize) (by simp) (Nat.le_refl 0)
      conserved
  exact start

theorem Accounts.arrives {limit : Nat} {reception : Reception}
    {bytes : List UInt8} (accounts : Accounts limit reception bytes none)
    (more : List UInt8) :
    Accounts limit (reception.after (.arrives more)) (bytes ++ more) none := by
  cases accounts with
  | @reading reader pieces outcomes _ _ isOpen bounded asks solid unread
      conserved =>
      cases more with
      | nil =>
          rw [List.append_nil]
          exact .reading isOpen bounded asks solid unread conserved
      | cons byte more =>
          have reached : Accounts limit
              ⟨reader, (pieces ++ [byte :: more]).map .bytes ++
                (none : Option StreamEnd).toList.map StreamEnd.segment, outcomes⟩
              (bytes ++ byte :: more) none := by
            refine .reading isOpen bounded asks ?_ ?_ ?_
            · intro piece member
              rcases List.mem_append.mp member with earlier | last
              · exact solid piece earlier
              · simp [List.mem_singleton.mp last]
            · simp only [List.flatten_append, List.length_append] at unread ⊢
              simp only [List.flatten_singleton]
              omega
            · intro later
              have extended := conserved (byte :: more ++ later)
              simpa using extended
          simpa [after] using reached

theorem Accounts.ends {limit : Nat} {reception : Reception}
    {bytes : List UInt8} (accounts : Accounts limit reception bytes none)
    (ending : StreamEnd) :
    Accounts limit (reception.after (.ends ending)) bytes (some ending) := by
  cases accounts with
  | @reading reader pieces outcomes _ _ isOpen bounded asks solid unread
      conserved =>
      have reached : Accounts limit
          ⟨reader, pieces.map .bytes ++ (some ending).toList.map StreamEnd.segment,
            outcomes⟩ bytes (some ending) :=
        .reading isOpen bounded asks solid unread conserved
      simpa [after] using reached

/-! ## A call -/

/-- The bytes that a reception has not gone through. -/
def unread (reception : Reception) : Nat :=
  reception.connection.foldr (fun segment total => segment.size + total)
    reception.reader.carried.length

private theorem unread_pieces (pieces : List (List UInt8))
    (ending : Option StreamEnd) (carried : Nat) :
    (pieces.map Segment.bytes ++ ending.toList.map StreamEnd.segment).foldr
      (fun segment total => segment.size + total) carried =
        carried + pieces.flatten.length := by
  have last : (ending.toList.map StreamEnd.segment).foldr
      (fun segment total => segment.size + total) carried = carried := by
    rcases ending with _ | _ | _
    · rfl
    · exact Nat.zero_add carried
    · exact Nat.zero_add carried
  rw [List.foldr_append, last]
  induction pieces with
  | nil => rfl
  | cons piece pieces induction =>
      rw [List.map_cons, List.foldr_cons, induction, List.flatten_cons,
        List.length_append, Segment.size]
      omega

/-- A read of a connection that holds a piece takes the head of that piece. -/
private theorem segments_of_piece {piece : List UInt8}
    {others : List (List UInt8)}
    (solid : ∀ held ∈ piece :: others, held ≠ []) (last : List Segment)
    {count : Nat} (asks : 1 ≤ count) :
    ∃ left : List (List UInt8), (∀ held ∈ left, held ≠ []) ∧
      segments ((piece :: others).map .bytes ++ last) count =
        some (.bytes (piece.take count), left.map .bytes ++ last) ∧
      piece.take count ≠ [] ∧
      piece.take count ++ left.flatten = (piece :: others).flatten := by
  have taken : piece.take count ≠ [] := by
    intro nothing
    rcases List.take_eq_nil_iff.mp nothing with zero | empty
    · omega
    · exact solid piece List.mem_cons_self empty
  have later : ∀ held ∈ others, held ≠ [] :=
    fun held member => solid held (List.mem_cons_of_mem piece member)
  by_cases whole : piece.drop count = []
  · refine ⟨others, later, by simp [segments, whole], taken, ?_⟩
    have all := List.take_append_drop count piece
    rw [whole, List.append_nil] at all
    rw [all, List.flatten_cons]
  · refine ⟨piece.drop count :: others, ?_, by simp [segments, whole], taken, ?_⟩
    · intro held member
      rcases List.mem_cons.mp member with first | other
      · simpa [first] using whole
      · exact later held other
    · rw [List.flatten_cons, ← List.append_assoc, List.take_append_drop,
        List.flatten_cons]

private theorem segments_of_ending (ending : StreamEnd) (count : Nat) :
    ∃ rest, segments [ending.segment] count = some (ending.delivery, rest) := by
  cases ending with
  | ended => exact ⟨_, rfl⟩
  | failed error => exact ⟨_, rfl⟩

/-- A reader that takes the end of its connection is closed, and nothing is left
in prospect. -/
theorem Accounts.takes_ending {reader : FrameReader} {outcomes : List Outcome}
    {bytes : List UInt8} (ending : StreamEnd) (rest : List Segment)
    (wants : reader.digest.2 = true)
    (conserved : outcomes ++ reader.outlook [] = decode reader.bodyLimit bytes) :
    let progress :=
      reader.digest.1.reader.receive reader.digest.1.notices ending.delivery
    Accounts reader.bodyLimit
      ⟨progress.reader, rest, outcomes ++ progress.outcomes⟩ bytes
      (some ending) := by
  intro progress
  obtain ⟨_, settled, _⟩ := FrameReader.of_digest_wants wants
  obtain ⟨closes, out⟩ := FrameReader.receive_ending wants ending
  refine .done (by rw [closes]) (by rw [closes]; exact settled) ?_
  rw [out, ← List.append_assoc, conserved]

/-- A reader that takes some bytes keeps the account and carries over fewer. -/
theorem Accounts.takes_bytes {reader : FrameReader}
    {pieces left : List (List UInt8)} {outcomes : List Outcome}
    {bytes taken : List UInt8} (ending : Option StreamEnd)
    (asks : 1 ≤ reader.chunkSize) (solid : ∀ piece ∈ left, piece ≠ [])
    (unread : reader.carried.length + pieces.flatten.length ≤ bytes.length)
    (conserved : ∀ later,
      outcomes ++ reader.outlook (pieces.flatten ++ later) =
        decode reader.bodyLimit (bytes ++ later))
    (wants : reader.digest.2 = true) (nonempty : taken ≠ [])
    (split : taken ++ left.flatten = pieces.flatten) :
    let progress :=
      reader.digest.1.reader.receive reader.digest.1.notices (.bytes taken)
    Accounts reader.bodyLimit
        ⟨progress.reader,
          left.map .bytes ++ ending.toList.map StreamEnd.segment,
          outcomes ++ progress.outcomes⟩ bytes ending ∧
      progress.reader.carried.length < taken.length := by
  intro progress
  obtain ⟨isOpen, settled, _⟩ := FrameReader.of_digest_wants wants
  have fed : progress = reader.digest.1.reader.feed reader.digest.1.notices taken :=
    FrameReader.receive_bytes _ _ nonempty
  have shorter : progress.reader.carried.length < taken.length := by
    rw [fed]
    exact FrameReader.feed_carried_length _ _ _ settled nonempty
  have total := congrArg List.length split
  rw [List.length_append] at total
  refine ⟨.reading ?_ ?_ ?_ solid (by omega) ?_, shorter⟩
  · simpa [fed] using isOpen
  · simp [fed]
  · simpa [fed] using asks
  · intro later
    rw [List.append_assoc,
      FrameReader.receive_conserves wants nonempty (left.flatten ++ later),
      ← List.append_assoc, split]
    exact conserved later

/-- A call keeps the account; it closes the reader or goes through some bytes, unless
it has gone through all bytes and the end has not come. -/
theorem Accounts.call {limit : Nat} {reception : Reception}
    {bytes : List UInt8} {ending : Option StreamEnd}
    (accounts : Accounts limit reception bytes ending) :
    Accounts limit (reception.after .call) bytes ending ∧
      ((reception.after .call).reader.closed = true ∨
        (reception.after .call).unread < reception.unread ∨
        ending = none ∧ (reception.after .call).unread = 0) := by
  cases accounts with
  | @done reader connection outcomes _ ending isClosed settled complete =>
      have same : (Reception.mk reader connection outcomes).after .call =
          ⟨reader, connection, outcomes⟩ := by
        simp [after, FrameReader.read_of_closed isClosed settled]
      rw [same]
      exact ⟨.done isClosed settled complete, .inl isClosed⟩
  | @reading reader pieces outcomes _ _ isOpen bounded asks solid unread
      conserved =>
      subst bounded
      have digested (later : List UInt8) :
          outcomes ++ reader.digest.1.outcomes ++
              reader.digest.1.reader.outlook (pieces.flatten ++ later) =
            decode reader.bodyLimit (bytes ++ later) := by
        rw [List.append_assoc, FrameReader.digest_conserves]
        exact conserved later
      have shorter := FrameReader.digest_carried_length reader
      have kept : Accounts reader.bodyLimit
          ⟨reader.digest.1.reader,
            pieces.map .bytes ++ ending.toList.map StreamEnd.segment,
            outcomes ++ reader.digest.1.outcomes⟩ bytes ending :=
        .reading (by simpa using isOpen) (by simp) (by simpa using asks) solid
          (by omega) digested
      have reads := FrameReader.read_reads segments reader
        (pieces.map .bytes ++ ending.toList.map StreamEnd.segment)
      unfold after
      dsimp only
      generalize reader.read segments _ = call at reads ⊢
      cases reads with
      | content idle =>
          have carries : reader.carried ≠ [] := by
            rcases FrameReader.of_not_digest_wants idle with closed | carries
            · simp [isOpen] at closed
            · exact carries
          refine ⟨kept, .inr (.inl ?_)⟩
          simp only [Reception.unread, unread_pieces]
          exact Nat.add_lt_add_right (shorter.2 carries) _
      | waits wants nothing =>
          refine ⟨kept, .inr (.inr ?_)⟩
          obtain ⟨_, settled, _⟩ := FrameReader.of_digest_wants wants
          cases pieces with
          | nil =>
              rcases ending with _ | last
              · simp [Reception.unread, settled]
              · cases last <;> simp [segments, StreamEnd.segment] at nothing
          | cons piece others => simp [segments] at nothing
      | @takes delivery rest wants hands =>
          cases pieces with
          | nil =>
              cases ending with
              | none => simp [segments] at hands
              | some last =>
                  obtain ⟨left, ended⟩ := segments_of_ending last reader.chunkSize
                  obtain ⟨rfl, rfl⟩ : last.delivery = delivery ∧ left = rest := by
                    simpa [ended] using hands
                  have closes := Accounts.takes_ending last left wants
                    (by simpa using conserved [])
                  refine ⟨closes, .inl ?_⟩
                  cases last <;> rfl
          | cons piece others =>
              obtain ⟨left, remains, taken, nonempty, split⟩ :=
                segments_of_piece solid (ending.toList.map StreamEnd.segment) asks
              obtain ⟨rfl, rfl⟩ := Prod.mk.inj
                (Option.some.inj (taken.symm.trans hands))
              obtain ⟨account, less⟩ := Accounts.takes_bytes ending asks remains
                unread conserved wants nonempty split
              refine ⟨account, .inr (.inl ?_)⟩
              have total := congrArg List.length split
              rw [List.length_append] at total
              simp only [Reception.unread, unread_pieces]
              omega

/-! ## Whole histories -/

theorem accounts_of_brings {limit chunkSize : Nat} {moves : List Move}
    {bytes : List UInt8} {ending : Option StreamEnd}
    (brings : Brings moves bytes ending) :
    Accounts limit ((fresh limit chunkSize).run moves) bytes ending := by
  induction brings with
  | nothing => exact accounts_fresh limit chunkSize
  | arrives more _ induction =>
      rw [run_append]
      exact induction.arrives more
  | ends ending _ induction =>
      rw [run_append]
      exact induction.ends ending
  | call _ induction =>
      rw [run_append]
      exact induction.call.1

theorem Accounts.closes {limit : Nat} {reception : Reception}
    {bytes : List UInt8} {ending : StreamEnd}
    (accounts : Accounts limit reception bytes (some ending)) (calls : Nat)
    (enough : reception.reader.closed = true ∨ reception.unread < calls) :
    let last := reception.run (List.replicate calls .call)
    Accounts limit last bytes (some ending) ∧ last.reader.closed = true := by
  induction calls generalizing reception with
  | zero =>
      rcases enough with closed | less
      · exact ⟨accounts, closed⟩
      · exact absurd less (Nat.not_lt_zero _)
  | succ calls induction =>
      obtain ⟨next, progress⟩ := accounts.call
      refine induction next ?_
      rcases enough with closed | less
      · refine .inl ?_
        cases accounts with
        | done isClosed settled complete =>
            simpa [after, FrameReader.read_of_closed isClosed settled] using isClosed
        | reading isOpen => simp [isOpen] at closed
      · rcases progress with closed | fewer | ⟨unended, _⟩
        · exact .inl closed
        · exact .inr (by omega)
        · cases unended

theorem Accounts.reader_open {limit : Nat} {reception : Reception} {bytes : List UInt8}
    (accounts : Accounts limit reception bytes none) :
    reception.reader.closed = false := by
  cases accounts with
  | reading isOpen => exact isOpen

/-- On a connection that stays open, enough calls go through all that has arrived. -/
theorem Accounts.drains {limit : Nat} {reception : Reception} {bytes : List UInt8}
    (accounts : Accounts limit reception bytes none) (calls : Nat)
    (enough : reception.unread ≤ calls) :
    let last := reception.run (List.replicate calls .call)
    Accounts limit last bytes none ∧ last.unread = 0 := by
  induction calls generalizing reception with
  | zero => exact ⟨accounts, Nat.eq_zero_of_le_zero enough⟩
  | succ calls induction =>
      obtain ⟨next, progress⟩ := accounts.call
      refine induction next ?_
      rcases progress with closed | fewer | ⟨_, drained⟩
      · simp [next.reader_open] at closed
      · omega
      · omega

theorem Accounts.unread_le {limit : Nat} {reception : Reception}
    {bytes : List UInt8} {ending : Option StreamEnd}
    (accounts : Accounts limit reception bytes ending) :
    reception.reader.closed = true ∨ reception.unread ≤ bytes.length := by
  cases accounts with
  | done isClosed _ _ => exact .inl isClosed
  | @reading reader pieces _ _ _ _ _ _ _ unread _ =>
      refine .inr ?_
      simp only [Reception.unread, unread_pieces]
      exact unread

theorem Accounts.outcomes_prefix {limit : Nat} {reception : Reception}
    {bytes : List UInt8} {ending : Option StreamEnd}
    (accounts : Accounts limit reception bytes ending) :
    reception.outcomes <+: decode limit bytes ++ ending.elim [] StreamEnd.outcomes := by
  cases accounts with
  | done _ _ complete => exact complete ▸ List.prefix_rfl
  | @reading reader pieces outcomes _ _ _ _ _ _ _ conserved =>
      have whole := conserved []
      rw [List.append_nil, List.append_nil] at whole
      rw [← whole, List.append_assoc]
      exact List.prefix_append _ _

theorem Accounts.outcomes_of_closed {limit : Nat} {reception : Reception}
    {bytes : List UInt8} {ending : StreamEnd}
    (accounts : Accounts limit reception bytes (some ending))
    (closed : reception.reader.closed = true) :
    reception.outcomes = decode limit bytes ++ ending.outcomes := by
  cases accounts with
  | done _ _ complete => exact complete
  | reading isOpen => simp [isOpen] at closed

theorem Accounts.outcomes_of_drained {limit : Nat} {reception : Reception}
    {bytes : List UInt8} (accounts : Accounts limit reception bytes none)
    (drained : reception.unread = 0) : reception.outcomes = decode limit bytes := by
  cases accounts with
  | @reading reader pieces outcomes _ _ _ _ _ _ _ conserved =>
      simp only [Reception.unread, unread_pieces] at drained
      have settled : reader.carried = [] := List.eq_nil_of_length_eq_zero (by omega)
      have arrived : pieces.flatten = [] := List.eq_nil_of_length_eq_zero (by omega)
      simpa [settled, arrived, FrameReader.outlook, decodeFrom] using conserved []

/-- After calls enough everything that a stream and its end decode to is out. -/
theorem outcomes_of_brings {limit chunkSize : Nat} {moves : List Move}
    {bytes : List UInt8} {ending : Option StreamEnd} (brings : Brings moves bytes ending)
    {calls : Nat} (enough : bytes.length < calls) :
    (((fresh limit chunkSize).run moves).run (List.replicate calls .call)).outcomes =
      decode limit bytes ++ ending.elim [] StreamEnd.outcomes := by
  have accounts : Accounts limit ((fresh limit chunkSize).run moves) bytes ending :=
    accounts_of_brings brings
  have near := accounts.unread_le.imp_right fun unread => Nat.lt_of_le_of_lt unread enough
  cases ending with
  | none =>
      have bounded := near.resolve_left (by simp [accounts.reader_open])
      obtain ⟨last, drained⟩ := accounts.drains calls (Nat.le_of_lt bounded)
      rw [last.outcomes_of_drained drained]
      exact (List.append_nil _).symm
  | some ending =>
      obtain ⟨last, closed⟩ := accounts.closes calls near
      exact last.outcomes_of_closed closed

/-- However a stream is cut, whenever its pieces arrive and however many calls
wait meanwhile: nothing else is ever let out than what the stream decodes to, and
once there were calls enough all of it is out and the reader is closed. -/
theorem outcomes_eq_decode {limit chunkSize : Nat} {moves : List Move}
    {bytes : List UInt8} {ending : StreamEnd}
    (brings : Brings moves bytes (some ending)) {calls : Nat}
    (enough : bytes.length < calls) :
    let met := (fresh limit chunkSize).run moves
    let last := met.run (List.replicate calls .call)
    met.outcomes <+: decode limit bytes ++ ending.outcomes ∧
      last.outcomes = decode limit bytes ++ ending.outcomes ∧
      last.reader.closed = true := by
  intro met last
  have accounts : Accounts limit met bytes (some ending) :=
    accounts_of_brings brings
  have near : met.reader.closed = true ∨ met.unread < calls := by
    rcases accounts.unread_le with closed | bounded
    · exact .inl closed
    · exact .inr (Nat.lt_of_le_of_lt bounded enough)
  obtain ⟨final, closed⟩ := accounts.closes calls near
  exact ⟨accounts.outcomes_prefix, final.outcomes_of_closed closed, closed⟩

/-- A frame that arrives in two pieces on a connection that then fails, read one
byte at a time, with calls that wait. -/
theorem outcomes_of_cut_frame :
    let moves : List Move :=
      [.call, .arrives (Command.stop.frame.take 10), .call,
        .arrives (Command.stop.frame.drop 10), .ends (.failed (.number 104))]
    Brings moves Command.stop.frame (some (.failed (.number 104))) ∧
      Command.stop.frame.length < 100 ∧
      (((fresh 8192 0).run moves).run (List.replicate 100 .call)).outcomes =
        [.command .stop, .notice (.receiveFailed (.number 104))] := by
  intro moves
  have brings : Brings moves
      ([] ++ Command.stop.frame.take 10 ++ Command.stop.frame.drop 10)
      (some (.failed (.number 104))) :=
    .ends _ (.arrives _ (.call (.arrives _ (.call .nothing))))
  rw [List.nil_append, List.take_append_drop] at brings
  have small : Command.stop.frame.length < 100 := by decide
  have decoded : decode 8192 Command.stop.frame = [.command .stop] := by
    decide +kernel
  obtain ⟨_, all, _⟩ := @outcomes_eq_decode 8192 0 _ _ _ brings _ small
  exact ⟨brings, small, by rw [all, decoded]; rfl⟩

end Reception

end Overseer
