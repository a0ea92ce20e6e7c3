import Overseer.Proofs.Host.Listening

/-!
# Paths that can be taken

A listener can take a path if directories lead to it as far as anything is there, if what
is missing has ordinary names, and if no directory is at its end: the missing directories
are made on the way.
-/

namespace Overseer

/-- A name of an entry: no step that stays or goes up, and not too long. -/
structure Path.IsPlain (name : String) : Prop where
  stays : name ≠ "."
  above : name ≠ ".."
  short : ¬ FileTree.nameLimit < name.utf8ByteSize

namespace Walk

open Node

/-- Directories lead along these names as far as anything is there, and no directory is at
their end. -/
def Admits (walk : Walk) : List String → Prop
  | [] => False
  | [name] => Path.IsPlain name ∧ ∀ inner, walk.entries.lookup name ≠ some (.directory inner)
  | name :: rest =>
      match walk.enter name with
      | .ok inner => inner.Admits rest
      | .error error => error = .missing ∧ ∀ next ∈ rest, Path.IsPlain next

variable {walk other furnished : Walk} {name last : String} {names rest : List String}

theorem locate_plain (plain : Path.IsPlain name) (walk : Walk) :
    walk.locate [name] = .ok (.entry walk name) := by
  rw [locate, if_neg (not_or.mpr ⟨plain.stays, plain.above⟩), if_neg plain.short]

theorem enter_missing (plain : Path.IsPlain name) (missing : walk.entries.lookup name = none) :
    walk.enter name = .error .missing := by
  rw [enter, if_neg plain.stays, if_neg plain.above, if_neg plain.short, missing]

theorem plain_of_enter (enters : walk.enter name = .error .missing) :
    Path.IsPlain name ∧ walk.entries.lookup name = none := by
  unfold enter at enters
  split at enters
  · cases enters
  rename_i stays
  split at enters
  · cases enters
  rename_i above
  split at enters
  · cases enters
  rename_i short
  split at enters
  · rename_i missing
    exact ⟨⟨stays, above, short⟩, missing⟩
  · cases enters
  · cases enters

theorem locate_of_enter {inner : Walk} (enters : walk.enter name = .ok inner) (more : rest ≠ []) :
    walk.locate (name :: rest) = inner.locate rest := by
  cases rest with
  | nil => exact absurd rfl more
  | cons next rest =>
      rw [locate, enters]
      · rfl
      · simp

theorem locate_of_missing (enters : walk.enter name = .error .missing) (more : rest ≠ []) :
    walk.locate (name :: rest) = .error .missing := by
  cases rest with
  | nil => exact absurd rfl more
  | cons next rest =>
      rw [locate, enters]
      · rfl
      · simp

/-- A directory of the tree can be entered. -/
theorem enter_of_faceAt (plain : Path.IsPlain name)
    (directory : faceAt walk.root (walk.position ++ [name]) = some .directory) :
    ∃ inner, walk.enter name = .ok inner ∧ inner.position = walk.position ++ [name] := by
  obtain ⟨held, found⟩ := (lookup_eq_directory_iff walk name).mpr directory
  refine ⟨⟨(name, walk.entries) :: walk.passed, held⟩, ?_, by simp [position]⟩
  rw [enter, if_neg plain.stays, if_neg plain.above, if_neg plain.short, found]

/-- A directory that was made keeps those that were there. -/
theorem keepsDirectories_make (missing : walk.entries.lookup name = none) :
    KeepsDirectories walk.root (root ⟨(name, walk.entries) :: walk.passed, []⟩) := by
  apply keepsDirectories_change
  · exact fun other apart => lookup_assign_of_ne apart walk.entries (.directory [])
  · intro inner found
    rw [missing] at found
    cases found

/-- What was made along names of which nothing was there: the last directory is empty, and
wherever its directories are, the names lead to it. -/
structure Furnishes (walk furnished : Walk) (names : List String) : Prop where
  furnishes : walk.furnish names = (furnished, none)
  empty : furnished.entries = []
  keeps : KeepsDirectories walk.root furnished.root
  leads : ∀ {other : Walk} {last : String}, Path.IsPlain last →
    other.position = walk.position → KeepsDirectories furnished.root other.root →
    ∃ target, other.locate (names ++ [last]) = .ok (.entry target last) ∧
      target.position = furnished.position

/-- A missing directory is made, and then those in it. -/
theorem Furnishes.make (plain : Path.IsPlain name) (missing : walk.entries.lookup name = none)
    (made : Furnishes ⟨(name, walk.entries) :: walk.passed, []⟩ furnished names) :
    Furnishes walk furnished (name :: names) := by
  refine ⟨?_, made.empty, (keepsDirectories_make missing).trans made.keeps, ?_⟩
  · rw [furnish, enter_missing plain missing]
    exact made.furnishes
  · intro other last plain_last same directories
    have within : position ⟨(name, walk.entries) :: walk.passed, []⟩ =
        other.position ++ [name] := by
      rw [same]
      simp [position]
    have there : faceAt other.root (other.position ++ [name]) = some .directory := by
      apply directories
      apply made.keeps
      rw [← within]
      have stood := faceAt_root ⟨(name, walk.entries) :: walk.passed, []⟩ []
      rw [List.append_nil] at stood
      exact stood
    obtain ⟨inner, enters, placed⟩ := enter_of_faceAt plain there
    rw [List.cons_append, locate_of_enter enters (by simp)]
    refine made.leads plain_last (placed.trans within.symm) (directories.trans ?_)
    exact (alike_enter enters).symm.keepsDirectories

theorem exists_furnishes (empty : walk.entries = []) (plain : ∀ name ∈ names, Path.IsPlain name) :
    ∃ furnished, Furnishes walk furnished names := by
  induction names generalizing walk with
  | nil =>
      refine ⟨walk, rfl, empty, fun _ => id, ?_⟩
      intro other last ordinary same _
      exact ⟨other, locate_plain ordinary other, same⟩
  | cons name names induction =>
      obtain ⟨furnished, made⟩ :=
        @induction ⟨(name, walk.entries) :: walk.passed, []⟩ rfl
          fun other member => plain other (List.mem_cons_of_mem name member)
      exact ⟨furnished, made.make (plain name List.mem_cons_self) (by rw [empty]; rfl)⟩

/-- What walking along names that are admitted comes to: an entry that is no directory, or
directories to be made. -/
inductive Arrives (walk : Walk) (names : List String) : Prop where
  | finds {target : Walk} {last : String}
      (locates : walk.locate names = .ok (.entry target last))
      (leaf : ∀ inner, target.entries.lookup last ≠ some (.directory inner))
  | lacks {furnished : Walk} {last : String} (lacks : walk.locate names = .error .missing)
      (furnishes : walk.furnish (names.filter (· ≠ ".")).dropLast = (furnished, none))
      (empty : furnished.entries = []) (keeps : KeepsDirectories walk.root furnished.root)
      (leads : ∀ {other : Walk}, other.position = walk.position →
        KeepsDirectories furnished.root other.root →
        ∃ target, other.locate names = .ok (.entry target last) ∧
          target.position = furnished.position)

theorem filter_plain (plain : ∀ name ∈ names, Path.IsPlain name) :
    names.filter (· ≠ ".") = names := by
  rw [List.filter_eq_self]
  intro name member
  simpa using (plain name member).stays

theorem Admits.arrives (admits : walk.Admits names) : Arrives walk names ∧
    names.filter (· ≠ ".") ≠ [] := by
  induction names generalizing walk with
  | nil => exact admits.elim
  | cons name rest induction =>
      cases rest with
      | nil =>
          obtain ⟨plain, leaf⟩ := admits
          refine ⟨.finds (locate_plain plain walk) leaf, ?_⟩
          simpa using plain.stays
      | cons next rest =>
          rw [Admits] at admits
          · cases enters : walk.enter name with
            | ok inner =>
                rw [enters] at admits
                obtain ⟨arrives, more⟩ := induction admits
                have nonempty : (name :: next :: rest).filter (· ≠ ".") ≠ [] := by
                  intro nothing
                  apply more
                  rw [List.filter_eq_nil_iff] at nothing ⊢
                  exact fun other member => nothing other (List.mem_cons_of_mem name member)
                refine ⟨?_, nonempty⟩
                cases arrives with
                | finds locates leaf =>
                    refine .finds ?_ leaf
                    rw [locate_of_enter enters (by simp)]
                    exact locates
                | @lacks furnished last lacks furnishes empty keeps leads =>
                    refine @Arrives.lacks _ _ furnished last ?_ ?_ empty ?_ ?_
                    · rw [locate_of_enter enters (by simp)]
                      exact lacks
                    · by_cases stays : name = "."
                      · have here : walk = inner := by simpa [enter, stays] using enters
                        rw [List.filter_cons_of_neg (by simpa using stays), here]
                        exact furnishes
                      · rw [List.filter_cons_of_pos (by simpa using stays),
                          List.dropLast_cons_of_ne_nil more, furnish, enters]
                        exact furnishes
                    · exact (alike_enter enters).symm.keepsDirectories.trans keeps
                    · intro other same directories
                      obtain ⟨within, enters', placed, _⟩ := enter_congr same
                        ((alike_enter enters).symm.keepsDirectories.trans
                          (keeps.trans directories)) enters
                      rw [locate_of_enter enters' (by simp)]
                      exact leads placed
                        (directories.trans (alike_enter enters').symm.keepsDirectories)
            | error error =>
                rw [enters] at admits
                obtain ⟨rfl, plain_rest⟩ := admits
                obtain ⟨plain, missing⟩ := plain_of_enter enters
                have split : (next :: rest).dropLast ++ [(next :: rest).getLast (by simp)] =
                    next :: rest := List.dropLast_concat_getLast (by simp)
                generalize (next :: rest).dropLast = names at split
                generalize (next :: rest).getLast _ = last at split
                rw [← split] at plain_rest ⊢
                have plain_names : ∀ other ∈ names, Path.IsPlain other :=
                  fun other member => plain_rest other (List.mem_append_left [last] member)
                have plain_last : Path.IsPlain last := plain_rest last (by simp)
                obtain ⟨furnished, made⟩ :=
                  @exists_furnishes ⟨(name, walk.entries) :: walk.passed, []⟩ names rfl plain_names
                have whole := made.make plain missing
                have same : (name :: (names ++ [last])).filter (· ≠ ".") =
                    name :: names ++ [last] := by
                  apply filter_plain
                  intro other member
                  rcases List.mem_cons.mp member with rfl | member
                  · exact plain
                  · exact plain_rest other member
                rw [same]
                refine ⟨@Arrives.lacks _ _ furnished last
                  (locate_of_missing enters (by simp)) ?_ whole.empty whole.keeps
                  (whole.leads plain_last), by simp⟩
                rw [same, List.dropLast_concat]
                exact whole.furnishes
          · simp

end Walk

namespace FileTree

open Node Walk

/-- A listener can take the path. -/
structure Welcomes (tree : FileTree) (path : String) : Prop where
  address : checkAddress path = .ok ()
  unslashed : Path.endsInSlash path = false
  admits : ∃ walk, tree.start path = .ok walk ∧ walk.Admits (Path.steps path)

variable {tree : FileTree} {path : String}

theorem place_of_start {other : FileTree} {walk : Walk} (address : checkAddress path = .ok ())
    (named : Path.steps path ≠ []) (starts : other.start path = .ok walk) :
    other.place path = walk.locate (Path.steps path) := by
  unfold checkAddress at address
  split at address
  · cases address
  rename_i clean
  split at address
  · cases address
  rename_i short
  unfold place
  rw [if_neg clean, if_neg (by unfold pathLimit; omega)]
  have nonempty : ¬ path.isEmpty = true := by
    intro empty
    apply named
    rw [String.isEmpty_iff.mp empty]
    rfl
  rw [if_neg nonempty, starts]
  rfl

end FileTree

namespace Host

open FileTree Node Walk

theorem shows_of_place {tree : FileTree} {path : String} {target : Walk} {last : String}
    (placed : tree.place path = .ok (.entry target last))
    (leaf : ∀ inner, target.entries.lookup last ≠ some (.directory inner))
    (unslashed : Path.endsInSlash path = false) : ∃ face, tree.Shows path face := by
  have leads := leads_of_place placed
  obtain ⟨_, _, placed', _, _, found⟩ := leads.exists_lookup
  rw [placed] at placed'
  cases placed'
  refine ⟨_, ⟨_, leads, rfl⟩, ?_, unslashed⟩
  rw [← found]
  intro directory
  obtain ⟨node, held, face⟩ := Option.map_eq_some_iff.mp directory
  obtain ⟨inner, rfl⟩ := face_eq_directory_iff.mp face
  exact leaf inner held

/-- Where the directories of a path were made there is room for a socket. -/
theorem bind_of_furnished {tree : FileTree} {path : String} {walk furnished : Walk}
    {last : String} (address : checkAddress path = .ok ()) (named : Path.steps path ≠ [])
    (unslashed : Path.endsInSlash path = false) (starts : tree.start path = .ok walk)
    (empty : furnished.entries = []) (keeps : KeepsDirectories walk.root furnished.root)
    (leads : ∀ {other : Walk}, other.position = walk.position →
      KeepsDirectories furnished.root other.root →
      ∃ target, other.locate (Path.steps path) = .ok (.entry target last) ∧
        target.position = furnished.position) (listener : Nat) :
    ∃ bound, (tree.after furnished).bind path listener = .ok bound := by
  obtain ⟨next, starts', position, _⟩ := start_congr starts
    ((alike_start starts).symm.keepsDirectories.trans keeps : KeepsDirectories tree.root
      (tree.after furnished).root) rfl
  have same : Alike next.root furnished.root := alike_start starts'
  obtain ⟨target, locates, placed⟩ := leads position same.symm.keepsDirectories
  have free : target.entries.lookup last = none := by
    have shown := faceAt_root target [last]
    have nothing : faceAt [] [last] = none := rfl
    rw [(alike_locate locates).trans same, placed, faceAt_root, empty, nothing,
      faceAt_singleton] at shown
    exact Option.map_eq_none_iff.mp shown.symm
  have placed' := place_of_start address named starts'
  rw [locates] at placed'
  rw [bind_entry placed', free, unslashed]
  exact ⟨_, rfl⟩

theorem listen_of_welcomes {host : Host} {path : String} (welcomes : host.tree.Welcomes path) :
    ∃ after listener, host.listen path = (after, .ok listener) := by
  obtain ⟨address, unslashed, walk, starts, admits⟩ := welcomes
  obtain ⟨arrives, more⟩ := admits.arrives
  have named : Path.steps path ≠ [] := by
    intro nothing
    rw [nothing] at more
    exact more rfl
  have placed := place_of_start address named starts
  cases arrives with
  | finds locates leaf =>
      rw [locates] at placed
      obtain ⟨face, visible⟩ := shows_of_place placed leaf unslashed
      exact listen_of_shows visible address
  | @lacks furnished last lacks furnishes empty keeps leads =>
      rw [lacks] at placed
      have clears : host.tree.removeIfPresent path = .ok host.tree := by
        unfold removeIfPresent FileTree.remove
        rw [placed]
        rfl
      have furnishes' : host.tree.makeParents path = (host.tree.after furnished, none) := by
        unfold makeParents
        rw [starts]
        dsimp only
        rw [Path.names, furnishes]
      obtain ⟨bound, binds⟩ := bind_of_furnished address named unslashed starts empty keeps
        leads host.sockets.listen.2
      unfold listen
      rw [clears]
      dsimp only
      rw [furnishes']
      dsimp only
      unfold Host.bind
      rw [address]
      simp only [binds]
      exact ⟨_, _, rfl⟩

end Host

end Overseer
