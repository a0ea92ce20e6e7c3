import Overseer.Host.Host
import Overseer.Proofs.Channel.Rendezvous
import Overseer.Proofs.Host.Positions

/-!
# What listening makes of a path

`Shows` says what stands where a path leads.  It is known after a listener has taken the
path, and from then on the path can be removed and taken again, whatever listener is
there: nothing that the operations on it do makes or removes a directory.
-/

namespace Overseer

namespace FileTree

open Node Walk

/-- The path leads to an entry with this face, or to a missing one; it leads to no
directory. -/
structure Shows (tree : FileTree) (path : String) (face : Option Face) : Prop where
  leads : ∃ position, tree.Leads path position ∧ faceAt tree.root position = face
  leaf : face ≠ some .directory
  unslashed : Path.endsInSlash path = false

variable {tree : FileTree} {path : String} {face : Option Face}

theorem Shows.at?_eq (visible : tree.Shows path face) : (tree.at? path).map Node.face = face := by
  obtain ⟨position, leads, rfl⟩ := visible.leads
  exact leads.at?_eq visible.leaf visible.unslashed

theorem Shows.missing (visible : tree.Shows path none) : tree.at? path = none :=
  Option.map_eq_none_iff.mp visible.at?_eq

theorem Shows.socket {listener mode : Nat}
    (visible : tree.Shows path (some (.socket listener mode))) :
    tree.at? path = some (.socket listener mode) := by
  obtain ⟨node, found, same⟩ := Option.map_eq_some_iff.mp visible.at?_eq
  rw [found, face_eq_socket_iff.mp same]

theorem node_of_at? {node : Node} (found : tree.at? path = some node) :
    tree.node path = .ok node := by
  unfold at? at found
  split at found
  · rename_i looked
    cases found
    exact looked
  · cases found

theorem Shows.exists_entry (visible : tree.Shows path face) :
    ∃ walk name, tree.place path = .ok (.entry walk name) ∧
      (walk.entries.lookup name).map Node.face = face ∧
      ∀ inner, walk.entries.lookup name ≠ some (.directory inner) := by
  obtain ⟨position, leads, held⟩ := visible.leads
  obtain ⟨walk, name, placed, _, _, found⟩ := leads.exists_lookup
  refine ⟨walk, name, placed, found.trans held, ?_⟩
  intro inner directory
  rw [held, directory] at found
  exact visible.leaf found.symm

theorem shows_change {walk : Walk} {name : String} {entries : List (String × Node)}
    (placed : tree.place path = .ok (.entry walk name))
    (others : ∀ other, other ≠ name → entries.lookup other = walk.entries.lookup other)
    (before : ∀ inner, walk.entries.lookup name ≠ some (.directory inner))
    (after : ∀ inner, entries.lookup name ≠ some (.directory inner))
    (unslashed : Path.endsInSlash path = false) :
    (tree.after { walk with entries := entries }).Shows path
      ((entries.lookup name).map Node.face) := by
  obtain ⟨leads, held⟩ := leads_change placed others before
  refine ⟨⟨_, leads, held⟩, ?_, unslashed⟩
  intro directory
  obtain ⟨node, found, same⟩ := Option.map_eq_some_iff.mp directory
  obtain ⟨inner, rfl⟩ := face_eq_directory_iff.mp same
  exact after inner found

theorem shows_put {walk : Walk} {name : String} {node : Node}
    (placed : tree.place path = .ok (.entry walk name))
    (before : ∀ inner, walk.entries.lookup name ≠ some (.directory inner))
    (leaf : ∀ inner, node ≠ .directory inner) (unslashed : Path.endsInSlash path = false) :
    (tree.after (walk.put name node)).Shows path (some node.face) := by
  have put := lookup_assign_self walk.entries name node
  have changed := shows_change placed
    (fun other apart => lookup_assign_of_ne apart walk.entries node) before
    (by rw [put]; intro inner same; exact leaf inner (Option.some.inj same)) unslashed
  rw [put] at changed
  exact changed

theorem shows_erase {walk : Walk} {name : String}
    (placed : tree.place path = .ok (.entry walk name))
    (before : ∀ inner, walk.entries.lookup name ≠ some (.directory inner))
    (unslashed : Path.endsInSlash path = false) :
    (tree.after (walk.erase name)).Shows path none := by
  have erased := lookup_without_self walk.entries name
  have changed := shows_change placed
    (fun other apart => lookup_without_of_ne apart walk.entries) before
    (by rw [erased]; simp) unslashed
  rw [erased] at changed
  exact changed

/-! ## Removing -/

theorem remove_entry {walk : Walk} {name : String}
    (placed : tree.place path = .ok (.entry walk name)) :
    tree.remove path =
      match walk.entries.lookup name with
      | none => .error .missing
      | some (.directory _) => .error .isADirectory
      | some _ =>
          if Path.endsInSlash path then .error .notADirectory
          else .ok (tree.after (walk.erase name)) := by
  unfold FileTree.remove
  rw [placed]
  rfl

theorem Shows.remove (visible : tree.Shows path face) :
    ∃ removed, tree.removeIfPresent path = .ok removed ∧ removed.Shows path none := by
  obtain ⟨walk, name, placed, held, leaf⟩ := visible.exists_entry
  unfold removeIfPresent
  rw [remove_entry placed]
  cases found : walk.entries.lookup name with
  | none =>
      rw [found] at held
      subst held
      exact ⟨tree, rfl, visible⟩
  | some node =>
      refine ⟨tree.after (walk.erase name), ?_, shows_erase placed leaf visible.unslashed⟩
      cases node with
      | directory inner => exact absurd found (leaf inner)
      | file content => simp [visible.unslashed]
      | socket listener mode => simp [visible.unslashed]

/-- After a removal that is not refused there is nothing at the path. -/
theorem missing_of_removeIfPresent {removed : FileTree}
    (removes : tree.removeIfPresent path = .ok removed) : removed.at? path = none := by
  unfold removeIfPresent at removes
  cases placed : tree.place path with
  | error error =>
      have looked : tree.node path = .error error := by
        unfold node
        rw [placed]
        rfl
      have refused : tree.remove path = .error error := by
        unfold FileTree.remove
        rw [placed]
        rfl
      rw [refused] at removes
      dsimp only at removes
      split at removes
      · cases removes
        unfold at?
        rw [looked]
      · cases removes
  | ok place =>
      cases place with
      | here walk =>
          have refused : tree.remove path = .error .isADirectory := by
            unfold FileTree.remove
            rw [placed]
            rfl
          rw [refused] at removes
          cases removes
      | entry walk name =>
          rw [remove_entry placed] at removes
          cases found : walk.entries.lookup name with
          | none =>
              rw [found] at removes
              cases removes
              unfold at?
              rw [node_entry placed, found]
          | some node =>
              rw [found] at removes
              have erased (leaf : ∀ inner, node ≠ .directory inner)
                  (unslashed : Path.endsInSlash path = false) :
                  (tree.after (walk.erase name)).at? path = none := by
                apply Shows.missing
                refine shows_erase placed ?_ unslashed
                rw [found]
                intro inner same
                exact leaf inner (Option.some.inj same)
              cases slash : Path.endsInSlash path with
              | true => cases node <;> simp [slash] at removes <;> cases removes
              | false =>
                  cases node with
                  | directory inner => cases removes
                  | file content =>
                      simp only [slash, Bool.false_eq_true, if_false] at removes
                      cases removes
                      exact erased (by simp) slash
                  | socket listener mode =>
                      simp only [slash, Bool.false_eq_true, if_false] at removes
                      cases removes
                      exact erased (by simp) slash

/-! ## Taking a path -/

/-- The same is shown where only the order of entries changed. -/
theorem Shows.alike {other : FileTree} (visible : tree.Shows path face)
    (alike : Alike other.root tree.root)
    (same : other.workingDirectory = tree.workingDirectory) : other.Shows path face := by
  obtain ⟨⟨position, leads, held⟩, leaf, unslashed⟩ := visible
  exact ⟨⟨position, leads.congr alike.symm.keepsDirectories same, (alike position).trans held⟩,
    leaf, unslashed⟩

/-- The directories in which an entry lies are there. -/
theorem Shows.makeParents (visible : tree.Shows path face) :
    ∃ furnished, tree.makeParents path = (furnished, none) ∧ furnished.Shows path face := by
  obtain ⟨walk, name, placed, _, _⟩ := visible.exists_entry
  obtain ⟨begin, starts, locates⟩ := exists_start placed
  obtain ⟨_, furnished, furnishes, alike⟩ := furnish_of_locate locates
  refine ⟨tree.after furnished, ?_, visible.alike (alike.trans (alike_start starts)) rfl⟩
  unfold FileTree.makeParents
  rw [starts]
  dsimp only
  rw [Path.names, furnishes]

theorem bind_entry {walk : Walk} {name : String}
    (placed : tree.place path = .ok (.entry walk name)) (listener : Nat) :
    tree.bind path listener =
      match walk.entries.lookup name with
      | some _ => .error addressInUse
      | none =>
          if Path.endsInSlash path then .error .missing
          else .ok (tree.after (walk.put name (.socket listener 0o755))) := by
  unfold FileTree.bind
  rw [placed]
  rfl

theorem Shows.bind (visible : tree.Shows path none) (listener : Nat) :
    ∃ bound, tree.bind path listener = .ok bound := by
  obtain ⟨walk, name, placed, held, _⟩ := visible.exists_entry
  rw [bind_entry placed, Option.map_eq_none_iff.mp held, visible.unslashed]
  exact ⟨_, rfl⟩

theorem shows_of_bind {bound : FileTree} {listener : Nat}
    (binds : tree.bind path listener = .ok bound) :
    bound.Shows path (some (.socket listener 0o755)) := by
  cases placed : tree.place path with
  | error error =>
      unfold FileTree.bind at binds
      rw [placed] at binds
      cases binds
  | ok place =>
      cases place with
      | here walk =>
          unfold FileTree.bind at binds
          rw [placed] at binds
          cases binds
      | entry walk name =>
          rw [bind_entry placed] at binds
          split at binds
          · cases binds
          · rename_i nothing
            split at binds
            · cases binds
            · rename_i unslashed
              cases binds
              exact shows_put placed (by rw [nothing]; simp) (by simp)
                (Bool.eq_false_iff.mpr unslashed)

theorem Shows.setMode {listener before : Nat}
    (visible : tree.Shows path (some (.socket listener before))) (mode : Nat) :
    (tree.setMode path mode).Shows path (some (.socket listener mode)) := by
  obtain ⟨walk, name, placed, held, leaf⟩ := visible.exists_entry
  obtain ⟨node, found, same⟩ := Option.map_eq_some_iff.mp held
  unfold FileTree.setMode
  rw [placed]
  dsimp only
  rw [found, face_eq_socket_iff.mp same]
  exact shows_put placed leaf (by simp) visible.unslashed

end FileTree

/-! ## Listeners and clients -/

namespace Host

open FileTree

variable {host after : Host} {path : String} {listener : Nat}

/-- Listening changes the files, and adds a listener if it succeeds. -/
theorem listen_cases (host : Host) (path : String) :
    (∃ tree error, host.listen path = ({ host with tree := tree }, .error error)) ∨
      ∃ tree, host.listen path =
        ({ host with tree := tree, sockets := host.sockets.listen.1 },
          .ok host.sockets.listen.2) := by
  unfold listen
  split
  · rename_i error _
    exact .inl ⟨host.tree, error, rfl⟩
  · dsimp only
    split
    · rename_i error _
      exact .inl ⟨_, error, rfl⟩
    · split
      · rename_i error _
        exact .inl ⟨_, error, rfl⟩
      · rename_i bound
        obtain ⟨_, _, listening⟩ := exists_of_bind_eq_ok bound
        obtain ⟨tree, _, made⟩ := exists_of_bind_eq_ok listening
        cases made
        exact .inr ⟨_, rfl⟩

theorem shows_of_listen (listens : host.listen path = (after, .ok listener)) :
    after.tree.Shows path (some (.socket listener 0o600)) ∧ checkAddress path = .ok () := by
  unfold listen at listens
  split at listens
  · cases listens
  · dsimp only at listens
    split at listens
    · cases listens
    · split at listens
      · cases listens
      · rename_i bound
        cases listens
        obtain ⟨checked, address, listening⟩ := exists_of_bind_eq_ok bound
        obtain ⟨tree, binds, made⟩ := exists_of_bind_eq_ok listening
        obtain ⟨rfl, rfl⟩ := Prod.mk.inj (Except.ok.inj made)
        exact ⟨(shows_of_bind binds).setMode 0o600, address⟩

/-- A path that was taken once can be taken again. -/
theorem listen_of_shows {face : Option Face} (visible : host.tree.Shows path face)
    (address : checkAddress path = .ok ()) :
    ∃ after listener, host.listen path = (after, .ok listener) := by
  obtain ⟨cleared, removes, missing⟩ := visible.remove
  obtain ⟨furnished, furnishes, missing⟩ := missing.makeParents
  obtain ⟨bound, binds⟩ := missing.bind host.sockets.listen.2
  unfold listen
  rw [removes]
  dsimp only
  rw [furnishes]
  dsimp only
  unfold Host.bind
  rw [address]
  simp only [binds]
  exact ⟨_, _, rfl⟩

theorem connect_of_shows {mode : Nat}
    (visible : host.tree.Shows path (some (.socket listener mode)))
    (address : checkAddress path = .ok ())
    (listens : (host.sockets.listener listener).isOpen = true) :
    host.connect path = .ok
      ({ host with sockets := (host.sockets.connect listener).1 },
        (host.sockets.connect listener).2) := by
  unfold Host.connect
  rw [address, node_of_at? visible.socket]
  show (if (host.sockets.listener listener).isOpen = true then _ else _) = _
  rw [if_pos listens]
  rfl

end Host

end Overseer
