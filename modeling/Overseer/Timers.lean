import Overseer.Duration

/-!
# Timers

A wait that is to last for a duration is left to a timer, and ends when the timer fires.
The timers are not of this library: all that is known of them is what they promise, that no
wait is over before its duration has elapsed (`Timers.NeverEarly`).  Where exact times are
told they are taken to fire as soon as it has (`Timers.OnTime`).  What becomes of a duration
that no clock holds is their affair; an instant that this library computes by itself may be
beyond the clock (`Instant.after?`).
-/

namespace Overseer

/-- The timers that waits are left to. -/
class Timers where
  /-- When a timer fires that is set at an instant for a duration. -/
  deadline : Instant → Duration → Instant

/-- When a timer fires that is set now. -/
def Instant.deadline [Timers] (now : Instant) (duration : Duration) : Instant :=
  Timers.deadline now duration

namespace Timers

/-- No timer fires before its duration is over. -/
def NeverEarly [Timers] : Prop :=
  ∀ (now : Instant) (duration : Duration), now + duration.nanos ≤ now.deadline duration

/-- Every timer fires as soon as its duration is over. -/
def OnTime [Timers] : Prop :=
  ∀ (now : Instant) (duration : Duration), now.deadline duration = now + duration.nanos

/-- Timers as they are meant to be, which everything runs with unless others are given. -/
instance exact : Timers where
  deadline now duration := now + duration.nanos

theorem onTime_exact : OnTime :=
  fun _ _ => rfl

theorem OnTime.neverEarly [Timers] (onTime : OnTime) : NeverEarly :=
  fun now duration => Nat.le_of_eq (onTime now duration).symm

end Timers

end Overseer
