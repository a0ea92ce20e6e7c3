import Overseer.Proofs.Channel.Connections
import Overseer.Proofs.Supervision.Posts
import Overseer.Supervision.Traffic

/-!
# Meeting at a path

What a channel that was opened begins with, and what it means that a client has
reached a listener.
-/

namespace Overseer

/-- A computation that succeeds has a first part that succeeds. -/
theorem exists_of_bind_eq_ok {ε α β : Type} {first : Except ε α}
    {rest : α → Except ε β} {value : β} (done : first >>= rest = .ok value) :
    ∃ middle, first = .ok middle ∧ rest middle = .ok value := by
  cases first with
  | error error => cases done
  | ok middle => exact ⟨middle, rfl, done⟩

namespace Host

theorem connect_eq_ok {host after : Host} {path : String} {connection : Nat}
    (reached : host.connect path = .ok (after, connection)) :
    ∃ listener,
      after = { host with sockets := (host.sockets.connect listener).1 } := by
  obtain ⟨_, _, looked⟩ := exists_of_bind_eq_ok reached
  obtain ⟨node, _, met⟩ := exists_of_bind_eq_ok looked
  cases node with
  | socket listener mode =>
      dsimp only at met
      split at met
      · obtain ⟨rfl, _⟩ := Prod.mk.inj (Except.ok.inj met)
        exact ⟨listener, rfl⟩
      · cases met
  | directory entries => cases met
  | file content => cases met

end Host

namespace Site

end Site

end Overseer
