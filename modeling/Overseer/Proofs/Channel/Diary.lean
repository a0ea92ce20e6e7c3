import Mathlib.Data.List.Basic
import Overseer.Control.Command

/-!
# Diaries of streams

A diary tells when streams were opened, closed and dropped, which commands their gates
decoded and which of them their owners were given.  A diary is `Orderly` if every entry
was due when it was written: in particular a command is given to the owner of a stream
only by the gate with which the stream was opened last, and it is the first one that this
gate decoded and did not give away.
-/

namespace Overseer

namespace Diary

/-- What happened to a stream or to the gate at a post. -/
inductive Entry where
  /-- A stream was opened, with its gate at a post; so many connections were made before. -/
  | opened (stream post made : Nat)
  | closed (stream : Nat)
  | dropped (stream : Nat)
  | decoded (post connection : Nat) (command : Command)
  | returned (stream post : Nat) (command : Command)
  deriving DecidableEq

namespace Entry

def Changes (index : Nat) : Entry → Prop
  | .opened stream _ _ | .closed stream | .dropped stream => stream = index
  | .decoded _ _ _ | .returned _ _ _ => False

/-- The entry tells something about the gate at a post. -/
def Mentions (post : Nat) : Entry → Prop
  | .opened _ gate _ | .decoded gate _ _ | .returned _ gate _ => gate = post
  | .closed _ | .dropped _ => False

def decoded? (post : Nat) : Entry → Option Command
  | .decoded gate _ command => if gate = post then some command else none
  | _ => none

def returned? (post : Nat) : Entry → Option Command
  | .returned _ gate command => if gate = post then some command else none
  | _ => none

end Entry

end Diary

/-- What happened to streams, the latest first. -/
abbrev Diary := List Diary.Entry

namespace Diary

/-- Where the gate of a stream is, if the stream was opened and neither closed nor dropped
since. -/
def session? (index : Nat) : Diary → Option Nat
  | [] => none
  | .opened stream post _ :: earlier =>
      if stream = index then some post else session? index earlier
  | .closed stream :: earlier | .dropped stream :: earlier =>
      if stream = index then none else session? index earlier
  | .decoded _ _ _ :: earlier | .returned _ _ _ :: earlier => session? index earlier

/-- The commands that a gate decoded, the oldest first. -/
def decodedBy (post : Nat) (diary : Diary) : List Command :=
  (diary.filterMap (Entry.decoded? post)).reverse

/-- The commands that a gate gave away, the oldest first. -/
def returnedBy (post : Nat) (diary : Diary) : List Command :=
  (diary.filterMap (Entry.returned? post)).reverse

variable {index post : Nat} {entry : Entry} {diary newer earlier : Diary}

/-! ## Sessions -/

theorem session?_cons (unchanged : ¬ entry.Changes index) (earlier : Diary) :
    session? index (entry :: earlier) = session? index earlier := by
  cases entry with
  | opened stream post made => exact if_neg unchanged
  | closed stream => exact if_neg unchanged
  | dropped stream => exact if_neg unchanged
  | decoded post connection command => rfl
  | returned stream post command => rfl

theorem session?_append (unchanged : ∀ entry ∈ newer, ¬ entry.Changes index)
    (earlier : Diary) : session? index (newer ++ earlier) = session? index earlier := by
  induction newer with
  | nil => rfl
  | cons entry newer induction =>
      rw [List.cons_append, session?_cons (unchanged entry List.mem_cons_self)]
      exact induction fun other member => unchanged other (List.mem_cons_of_mem entry member)

/-- A session goes back to an opening after which nothing was done to the stream. -/
theorem session?_eq_some_iff :
    session? index diary = some post ↔
      ∃ newer made earlier, diary = newer ++ .opened index post made :: earlier ∧
        ∀ entry ∈ newer, ¬ entry.Changes index := by
  constructor
  · intro session
    induction diary with
    | nil => cases session
    | cons entry earlier induction =>
        by_cases changes : entry.Changes index
        · cases entry with
          | opened stream gate made =>
              cases changes
              obtain rfl : gate = post := by simpa [session?] using session
              exact ⟨[], made, earlier, rfl, by simp⟩
          | closed stream =>
              cases changes
              simp [session?] at session
          | dropped stream =>
              cases changes
              simp [session?] at session
          | decoded gate connection command => cases changes
          | returned stream gate command => cases changes
        · rw [session?_cons changes] at session
          obtain ⟨newer, made, oldest, rfl, unchanged⟩ := induction session
          refine ⟨entry :: newer, made, oldest, rfl, ?_⟩
          intro other member
          rcases List.mem_cons.mp member with rfl | member
          · exact changes
          · exact unchanged other member
  · rintro ⟨newer, made, earlier, rfl, unchanged⟩
    rw [session?_append unchanged]
    exact if_pos rfl

theorem exists_opened_of_session? (session : session? index diary = some post) :
    ∃ made, .opened index post made ∈ diary := by
  obtain ⟨newer, made, earlier, rfl, _⟩ := session?_eq_some_iff.mp session
  exact ⟨made, List.mem_append_right newer List.mem_cons_self⟩

/-! ## Commands -/

theorem decodedBy_append (post : Nat) (newer earlier : Diary) :
    decodedBy post (newer ++ earlier) = decodedBy post earlier ++ decodedBy post newer := by
  simp [decodedBy]

theorem returnedBy_append (post : Nat) (newer earlier : Diary) :
    returnedBy post (newer ++ earlier) = returnedBy post earlier ++ returnedBy post newer := by
  simp [returnedBy]

theorem decodedBy_eq_nil (unmentioned : ∀ entry ∈ diary, ¬ entry.Mentions post) :
    decodedBy post diary = [] := by
  unfold decodedBy
  rw [List.reverse_eq_nil_iff, List.filterMap_eq_nil_iff]
  intro entry member
  have silent := unmentioned entry member
  cases entry with
  | decoded gate connection command => exact if_neg silent
  | opened | closed | dropped | returned => rfl

theorem returnedBy_eq_nil (unmentioned : ∀ entry ∈ diary, ¬ entry.Mentions post) :
    returnedBy post diary = [] := by
  unfold returnedBy
  rw [List.reverse_eq_nil_iff, List.filterMap_eq_nil_iff]
  intro entry member
  have silent := unmentioned entry member
  cases entry with
  | returned stream gate command => exact if_neg silent
  | opened | closed | dropped | decoded => rfl

/-! ## Order -/

/-- When an entry may be written. -/
inductive Entry.Follows : Entry → Diary → Prop where
  /-- A stream that has no session is opened with a gate of its own. -/
  | opened {index post made : Nat} {earlier : Diary} (closed : earlier.session? index = none)
      (unmentioned : ∀ entry ∈ earlier, ¬ entry.Mentions post) :
      Follows (.opened index post made) earlier
  | closed {index : Nat} {earlier : Diary} (isOpen : earlier.session? index ≠ none) :
      Follows (.closed index) earlier
  | dropped {index : Nat} {earlier : Diary} (isOpen : earlier.session? index ≠ none) :
      Follows (.dropped index) earlier
  /-- A gate decodes for an open stream, from a connection that was made since. -/
  | decoded {index post connection : Nat} {command : Command} {earlier : Diary}
      (session : earlier.session? index = some post)
      (recent : ∀ index made, .opened index post made ∈ earlier → made ≤ connection) :
      Follows (.decoded post connection command) earlier
  /-- A gate gives away the oldest command that it decoded and did not give away. -/
  | returned {index post : Nat} {command : Command} {earlier : Diary} (rest : List Command)
      (session : earlier.session? index = some post)
      (oldest : earlier.decodedBy post = earlier.returnedBy post ++ command :: rest) :
      Follows (.returned index post command) earlier

/-- Every entry was due when it was written. -/
inductive Orderly : Diary → Prop where
  | empty : Orderly []
  | writes {entry : Entry} {earlier : Diary} (follows : entry.Follows earlier)
      (orderly : Orderly earlier) : Orderly (entry :: earlier)

theorem Orderly.of_append (orderly : Orderly (newer ++ earlier)) : Orderly earlier := by
  induction newer with
  | nil => exact orderly
  | cons entry newer induction =>
      cases orderly with
      | writes _ orderly => exact induction orderly

theorem Orderly.follows (orderly : Orderly (newer ++ entry :: earlier)) :
    entry.Follows earlier := by
  cases orderly.of_append with
  | writes follows _ => exact follows

/-- Two streams do not share a gate. -/
theorem Orderly.session?_injective {other : Nat} (orderly : Orderly diary)
    (first : diary.session? index = some post) (second : diary.session? other = some post) :
    index = other := by
  obtain ⟨newer, made, earlier, same, _⟩ := session?_eq_some_iff.mp first
  obtain ⟨later, since, older, split, _⟩ := session?_eq_some_iff.mp second
  rw [same] at split
  have mentioned (stream made : Nat) : (Entry.opened stream post made).Mentions post := rfl
  rw [same] at orderly
  rcases List.append_eq_append_iff.mp split with ⟨middle, rfl, tail⟩ | ⟨middle, rfl, tail⟩
  · cases middle with
    | nil => cases tail; rfl
    | cons entry middle =>
        obtain ⟨rfl, rfl⟩ := List.cons.inj tail
        cases orderly.follows with
        | opened _ unmentioned =>
            exact absurd (mentioned other since) (unmentioned _ (by simp))
  · cases middle with
    | nil => cases tail; rfl
    | cons entry middle =>
        obtain ⟨rfl, rfl⟩ := List.cons.inj tail
        rw [List.append_assoc] at orderly
        cases orderly.follows with
        | opened _ unmentioned =>
            exact absurd (mentioned index made) (unmentioned _ (by simp))

end Diary

end Overseer
