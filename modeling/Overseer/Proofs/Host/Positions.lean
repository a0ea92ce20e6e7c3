import Overseer.Host.FileTree

/-!
# Positions in a file tree

A walk may put the entries of a directory into another order, so trees are compared by
what stands at each position, a list of names straight down from the root: its `Face`.
Walking a path asks only which positions are directories.  So two trees with the same
directories lead along a path to the same position, whatever the leaves are.
-/

namespace Overseer

/-- What stands at a position; what a directory holds is told by the positions in it. -/
inductive Face where
  | directory
  | file (content : List UInt8)
  | socket (listener : Nat) (mode : Nat)
  deriving DecidableEq

namespace Node

def face : Node → Face
  | .directory _ => .directory
  | .file content => .file content
  | .socket listener mode => .socket listener mode

/-- What stands at a position below these entries. -/
def faceAt (entries : List (String × Node)) : (position : List String) → Option Face
  | [] => some .directory
  | name :: rest =>
      match entries.lookup name with
      | none => none
      | some (.directory inner) => faceAt inner rest
      | some node => if rest = [] then some node.face else none

/-- The same stands at each position. -/
def Alike (first second : List (String × Node)) : Prop :=
  ∀ position, faceAt first position = faceAt second position

/-- The directories of one tree are directories of another one. -/
def KeepsDirectories (first second : List (String × Node)) : Prop :=
  ∀ position, faceAt first position = some .directory →
    faceAt second position = some .directory

theorem Alike.keepsDirectories {first second : List (String × Node)}
    (alike : Alike first second) : KeepsDirectories first second :=
  fun position directory => (alike position).symm.trans directory

theorem Alike.symm {first second : List (String × Node)} (alike : Alike first second) :
    Alike second first :=
  fun position => (alike position).symm

theorem Alike.trans {first second third : List (String × Node)}
    (earlier : Alike first second) (later : Alike second third) : Alike first third :=
  fun position => (earlier position).trans (later position)

theorem KeepsDirectories.trans {first second third : List (String × Node)}
    (earlier : KeepsDirectories first second) (later : KeepsDirectories second third) :
    KeepsDirectories first third :=
  fun position directory => later position (earlier position directory)

variable {entries others : List (String × Node)} {name other : String} {node : Node}
  {rest : List String}

/-! ## Entries -/

theorem lookup_without_self (entries : List (String × Node)) (name : String) :
    (without entries name).lookup name = none := by
  rw [List.lookup_eq_none_iff]
  intro entry member
  have kept := (List.mem_filter.mp member).2
  exact bne_iff_ne.mpr (Ne.symm (of_decide_eq_true kept))

theorem lookup_without_of_ne (apart : other ≠ name) (entries : List (String × Node)) :
    (without entries name).lookup other = entries.lookup other := by
  induction entries with
  | nil => rfl
  | cons entry entries induction =>
      unfold without at induction ⊢
      rw [List.filter_cons]
      split
      · rw [List.lookup_cons, List.lookup_cons, induction]
      · rename_i same
        have same : entry.1 = name := by simpa using same
        rw [induction, List.lookup_cons, same, beq_eq_false_iff_ne.mpr apart]

theorem lookup_assign_self (entries : List (String × Node)) (name : String) (node : Node) :
    (assign entries name node).lookup name = some node := by
  unfold assign
  rw [List.lookup_append, lookup_without_self]
  simp

theorem lookup_assign_of_ne (apart : other ≠ name) (entries : List (String × Node))
    (node : Node) : (assign entries name node).lookup other = entries.lookup other := by
  unfold assign
  rw [List.lookup_append, lookup_without_of_ne apart]
  simp [List.lookup_cons, beq_eq_false_iff_ne.mpr apart]

/-! ## Faces -/

theorem face_eq_directory_iff : node.face = .directory ↔ ∃ inner, node = .directory inner := by
  cases node <;> simp [face]

theorem face_eq_socket_iff {listener mode : Nat} :
    node.face = .socket listener mode ↔ node = .socket listener mode := by
  cases node <;> simp [face]

theorem faceAt_singleton (entries : List (String × Node)) (name : String) :
    faceAt entries [name] = (entries.lookup name).map face := by
  unfold faceAt
  cases entries.lookup name with
  | none => rfl
  | some node => cases node <;> rfl

theorem faceAt_cons_congr (same : entries.lookup name = others.lookup name)
    (rest : List String) : faceAt entries (name :: rest) = faceAt others (name :: rest) := by
  unfold faceAt
  rw [same]

theorem faceAt_assign_directory (entries inner : List (String × Node)) (name : String)
    (rest : List String) :
    faceAt (assign entries name (.directory inner)) (name :: rest) = faceAt inner rest := by
  rw [faceAt, lookup_assign_self]

theorem faceAt_below_leaf (leaf : ∀ inner, entries.lookup name ≠ some (.directory inner))
    (below : rest ≠ []) : faceAt entries (name :: rest) = none := by
  unfold faceAt
  cases found : entries.lookup name with
  | none => rfl
  | some node =>
      cases node with
      | directory inner => exact absurd found (leaf inner)
      | file content => exact if_neg below
      | socket listener mode => exact if_neg below

end Node

/-! ## Walks -/

namespace Walk

open Node

/-- The position of the directory that is stood in. -/
def position (walk : Walk) : List String :=
  (walk.passed.map Prod.fst).reverse

theorem position_cons (name : String) (outer entries : List (String × Node))
    (passed : List (String × List (String × Node))) :
    position ⟨(name, outer) :: passed, entries⟩ =
      position ⟨passed, assign outer name (.directory entries)⟩ ++ [name] := by
  simp [position]

/-- What stands in the directory of a walk stands at its position in the tree. -/
theorem faceAt_root (walk : Walk) (names : List String) :
    faceAt walk.root (walk.position ++ names) = faceAt walk.entries names := by
  obtain ⟨passed, entries⟩ := walk
  induction passed generalizing entries names with
  | nil => rfl
  | cons step passed induction =>
      obtain ⟨name, outer⟩ := step
      rw [position_cons, List.append_assoc]
      exact (induction _ _).trans (faceAt_assign_directory outer entries name names)

/-- Elsewhere it does not matter what the directory of a walk holds. -/
theorem faceAt_root_elsewhere {passed : List (String × List (String × Node))}
    {entries : List (String × Node)} (others : List (String × Node)) {names : List String}
    (elsewhere : ¬ position ⟨passed, entries⟩ <+: names) :
    faceAt (root ⟨passed, entries⟩) names = faceAt (root ⟨passed, others⟩) names := by
  induction passed generalizing entries others with
  | nil => exact absurd List.nil_prefix elsewhere
  | cons step passed induction =>
      obtain ⟨name, outer⟩ := step
      show faceAt (root ⟨passed, assign outer name (.directory entries)⟩) names =
        faceAt (root ⟨passed, assign outer name (.directory others)⟩) names
      by_cases through : position ⟨passed, assign outer name (.directory entries)⟩ <+: names
      · obtain ⟨rest, rfl⟩ := through
        rw [faceAt_root]
        refine Eq.trans ?_ (faceAt_root ⟨passed, assign outer name (.directory others)⟩ rest).symm
        cases rest with
        | nil => rfl
        | cons next rest =>
            have apart : next ≠ name := by
              rintro rfl
              apply elsewhere
              rw [position_cons]
              exact ⟨rest, by rw [List.append_assoc]; rfl⟩
            apply faceAt_cons_congr
            rw [lookup_assign_of_ne apart, lookup_assign_of_ne apart]
      · exact induction _ through

theorem alike_root {passed : List (String × List (String × Node))}
    {entries others : List (String × Node)} (alike : Alike entries others) :
    Alike (root ⟨passed, entries⟩) (root ⟨passed, others⟩) := by
  intro names
  by_cases within : position ⟨passed, entries⟩ <+: names
  · obtain ⟨rest, rfl⟩ := within
    rw [faceAt_root]
    exact (alike rest).trans (faceAt_root ⟨passed, others⟩ rest).symm
  · exact faceAt_root_elsewhere others within

/-! ## Entering directories -/

variable {walk inner : Walk} {name : String}

/-- Entering a directory leaves the tree as it is. -/
theorem alike_enter (enters : walk.enter name = .ok inner) : Alike inner.root walk.root := by
  unfold enter at enters
  split at enters
  · cases enters
    exact fun _ => rfl
  split at enters
  · cases enters
    unfold up
    split
    · exact fun _ => rfl
    · rename_i same
      obtain ⟨passed, entries⟩ := walk
      cases same
      exact fun _ => rfl
  split at enters
  · cases enters
  split at enters
  · cases enters
  · rename_i held found
    cases enters
    obtain ⟨passed, entries⟩ := walk
    have reordered : Alike (assign entries name (.directory held)) entries := by
      intro names
      cases names with
      | nil => rfl
      | cons next rest =>
          apply faceAt_cons_congr
          by_cases here : next = name
          · rw [here, lookup_assign_self]
            exact found.symm
          · rw [lookup_assign_of_ne here]
    have same : Alike (root ⟨passed, assign entries name (.directory held)⟩)
        (root ⟨passed, entries⟩) := alike_root reordered
    exact same
  · cases enters

theorem passed_eq_nil_iff (walk : Walk) : walk.passed = [] ↔ walk.position = [] := by
  simp [position]

theorem position_up (walk : Walk) : walk.up.position = walk.position.dropLast := by
  unfold up
  split
  · rename_i nothing
    rw [(passed_eq_nil_iff walk).mp nothing]
    rfl
  · rename_i same
    obtain ⟨passed, entries⟩ := walk
    cases same
    rw [position_cons, List.dropLast_concat]

/-- The entry at a name is a directory where the tree has one. -/
theorem lookup_eq_directory_iff (walk : Walk) (name : String) :
    (∃ inner, walk.entries.lookup name = some (.directory inner)) ↔
      faceAt walk.root (walk.position ++ [name]) = some .directory := by
  rw [faceAt_root, faceAt_singleton, Option.map_eq_some_iff]
  constructor
  · rintro ⟨inner, found⟩
    exact ⟨_, found, rfl⟩
  · rintro ⟨node, found, face⟩
    obtain ⟨inner, rfl⟩ := face_eq_directory_iff.mp face
    exact ⟨inner, found⟩

theorem enter_congr {other : Walk} (same : other.position = walk.position)
    (directories : KeepsDirectories walk.root other.root)
    (enters : walk.enter name = .ok inner) :
    ∃ next, other.enter name = .ok next ∧ next.position = inner.position ∧
      KeepsDirectories inner.root next.root := by
  have follows {next : Walk} (next_enters : other.enter name = .ok next)
      (position : next.position = inner.position) :
      ∃ next, other.enter name = .ok next ∧ next.position = inner.position ∧
        KeepsDirectories inner.root next.root :=
    ⟨next, next_enters, position,
      (alike_enter enters).keepsDirectories.trans
        (directories.trans (alike_enter next_enters).symm.keepsDirectories)⟩
  by_cases stays : name = "."
  · have stands : other.enter name = .ok other := by simp [enter, stays]
    refine follows stands ?_
    have here : walk = inner := by simpa [enter, stays] using enters
    rw [same, here]
  by_cases above : name = ".."
  · have climbs : other.enter name = .ok other.up := by simp [enter, above]
    refine follows climbs ?_
    have here : walk.up = inner := by simpa [enter, above] using enters
    rw [position_up, same, ← position_up, here]
  · unfold enter at enters
    rw [if_neg stays, if_neg above] at enters
    split at enters
    · cases enters
    rename_i short
    split at enters
    · cases enters
    · rename_i held found
      cases enters
      have directory := directories _ ((lookup_eq_directory_iff walk name).mp ⟨held, found⟩)
      rw [← same] at directory
      obtain ⟨met, leads⟩ := (lookup_eq_directory_iff other name).mpr directory
      have descends : other.enter name = .ok ⟨(name, other.entries) :: other.passed, met⟩ := by
        unfold enter
        rw [if_neg stays, if_neg above, if_neg short, leads]
      refine follows descends ?_
      simp only [position, List.reverse_inj] at same
      simp [position, same]
    · cases enters

/-! ## Following names -/

theorem locate_cons {name next : String} {rest : List String} {place : Place}
    (leads : walk.locate (name :: next :: rest) = .ok place) :
    ∃ inner, walk.enter name = .ok inner ∧ inner.locate (next :: rest) = .ok place := by
  rw [locate] at leads
  · cases entered : walk.enter name with
    | error error =>
        rw [entered] at leads
        cases leads
    | ok inner =>
        rw [entered] at leads
        exact ⟨inner, rfl, leads⟩
  · simp

/-- A last name that leads to an entry is no step that stays or goes up. -/
theorem locate_singleton {target : Walk} {last : String}
    (leads : walk.locate [name] = .ok (.entry target last)) :
    name ≠ "." ∧ name ≠ ".." ∧ ¬ FileTree.nameLimit < name.utf8ByteSize ∧ target = walk ∧
      last = name := by
  unfold locate at leads
  split at leads
  · cases entered : walk.enter name with
    | error error =>
        rw [entered] at leads
        cases leads
    | ok inner =>
        rw [entered] at leads
        cases leads
  · rename_i plain
    rw [not_or] at plain
    split at leads
    · cases leads
    · rename_i short
      cases leads
      exact ⟨plain.1, plain.2, short, rfl, rfl⟩

theorem locate_congr {other target : Walk} {last : String} {names : List String}
    (same : other.position = walk.position)
    (directories : KeepsDirectories walk.root other.root)
    (leads : walk.locate names = .ok (.entry target last)) :
    ∃ next, other.locate names = .ok (.entry next last) ∧
      next.position = target.position := by
  induction names generalizing walk other with
  | nil => cases leads
  | cons name rest induction =>
      cases rest with
      | nil =>
          obtain ⟨stays, above, short, rfl, rfl⟩ := locate_singleton leads
          refine ⟨other, ?_, same⟩
          rw [locate, if_neg (not_or.mpr ⟨stays, above⟩), if_neg short]
      | cons next rest =>
          obtain ⟨inner, enters, onward⟩ := locate_cons leads
          obtain ⟨entered, enters', position, directories⟩ :=
            enter_congr same directories enters
          obtain ⟨final, leads, ended⟩ := induction position directories onward
          refine ⟨final, ?_, ended⟩
          rw [locate, enters']
          · exact leads
          · simp

theorem alike_locate {target : Walk} {last : String} {names : List String}
    (leads : walk.locate names = .ok (.entry target last)) : Alike target.root walk.root := by
  induction names generalizing walk with
  | nil => cases leads
  | cons name rest induction =>
      cases rest with
      | nil =>
          obtain ⟨_, _, _, rfl, _⟩ := locate_singleton leads
          exact fun _ => rfl
      | cons next rest =>
          obtain ⟨inner, enters, onward⟩ := locate_cons leads
          exact (induction onward).trans (alike_enter enters)

theorem furnish_of_locate {target : Walk} {last : String} {names : List String}
    (leads : walk.locate names = .ok (.entry target last)) :
    names.filter (· ≠ ".") ≠ [] ∧
      ∃ furnished, walk.furnish (names.filter (· ≠ ".")).dropLast = (furnished, none) ∧
        Alike furnished.root walk.root := by
  induction names generalizing walk with
  | nil => cases leads
  | cons name rest induction =>
      cases rest with
      | nil =>
          obtain ⟨stays, _⟩ := locate_singleton leads
          rw [List.filter_cons_of_pos (by simpa using stays)]
          exact ⟨by simp, walk, rfl, fun _ => rfl⟩
      | cons next rest =>
          obtain ⟨inner, enters, onward⟩ := locate_cons leads
          obtain ⟨some_name, furnished, furnishes, alike⟩ := induction onward
          by_cases stays : name = "."
          · have here : walk = inner := by simpa [enter, stays] using enters
            rw [List.filter_cons_of_neg (by simpa using stays), here]
            exact ⟨some_name, furnished, furnishes, alike⟩
          · rw [List.filter_cons_of_pos (by simpa using stays),
              List.dropLast_cons_of_ne_nil some_name]
            refine ⟨by simp, furnished, ?_, alike.trans (alike_enter enters)⟩
            rw [furnish, enters]
            exact furnishes

theorem keepsDirectories_change {entries : List (String × Node)}
    (others : ∀ other, other ≠ name → entries.lookup other = walk.entries.lookup other)
    (before : ∀ inner, walk.entries.lookup name ≠ some (.directory inner)) :
    KeepsDirectories walk.root (root { walk with entries := entries }) := by
  intro names directory
  obtain ⟨passed, held⟩ := walk
  by_cases within : position ⟨passed, held⟩ <+: names
  · obtain ⟨rest, rfl⟩ := within
    rw [faceAt_root] at directory
    refine (faceAt_root ⟨passed, entries⟩ rest).trans ?_
    cases rest with
    | nil => rfl
    | cons next rest =>
        by_cases here : next = name
        · subst here
          cases rest with
          | nil =>
              rw [faceAt_singleton] at directory
              obtain ⟨node, found, face⟩ := Option.map_eq_some_iff.mp directory
              obtain ⟨inner, rfl⟩ := face_eq_directory_iff.mp face
              exact absurd found (before inner)
          | cons further rest =>
              rw [faceAt_below_leaf before (by simp)] at directory
              cases directory
        · rw [faceAt_cons_congr (others next here) rest]
          exact directory
  · rw [← faceAt_root_elsewhere entries within]
    exact directory

end Walk

/-! ## Paths -/

namespace FileTree

open Node Walk

/-- The path leads to an entry at this position, which may be missing. -/
def Leads (tree : FileTree) (path : String) (position : List String) : Prop :=
  ∃ walk name, tree.place path = .ok (.entry walk name) ∧ walk.position ++ [name] = position ∧
    Alike walk.root tree.root

variable {tree other : FileTree} {path : String} {position : List String}

theorem alike_foldlM_enter {names : List String} {first last : Walk}
    (walks : names.foldlM Walk.enter first = .ok last) : Alike last.root first.root := by
  induction names generalizing first with
  | nil =>
      cases walks
      exact fun _ => rfl
  | cons name names induction =>
      rw [List.foldlM_cons] at walks
      cases entered : first.enter name with
      | error error =>
          rw [entered] at walks
          cases walks
      | ok inner =>
          rw [entered] at walks
          exact (induction walks).trans (alike_enter entered)

theorem alike_start {walk : Walk} (starts : tree.start path = .ok walk) :
    Alike walk.root tree.root := by
  unfold start at starts
  dsimp only at starts
  split at starts
  · cases starts
    exact fun _ => rfl
  · exact alike_foldlM_enter starts

theorem foldlM_enter_congr {names : List String} {first last begin : Walk}
    (same : begin.position = first.position)
    (directories : KeepsDirectories first.root begin.root)
    (walks : names.foldlM Walk.enter first = .ok last) :
    ∃ next, names.foldlM Walk.enter begin = .ok next ∧ next.position = last.position ∧
      KeepsDirectories last.root next.root := by
  induction names generalizing first begin with
  | nil =>
      cases walks
      exact ⟨begin, rfl, same, directories⟩
  | cons name names induction =>
      rw [List.foldlM_cons] at walks ⊢
      cases entered : first.enter name with
      | error error =>
          rw [entered] at walks
          cases walks
      | ok inner =>
          rw [entered] at walks
          obtain ⟨next, enters, position, directories⟩ := enter_congr same directories entered
          rw [enters]
          exact induction position directories walks

theorem exists_start {target : Walk} {name : String}
    (leads : tree.place path = .ok (.entry target name)) :
    ∃ walk, tree.start path = .ok walk ∧
      walk.locate (Path.steps path) = .ok (.entry target name) := by
  unfold place at leads
  split at leads
  · cases leads
  split at leads
  · cases leads
  split at leads
  · cases leads
  cases starts : tree.start path with
  | error error =>
      rw [starts] at leads
      cases leads
  | ok walk =>
      rw [starts] at leads
      exact ⟨walk, rfl, leads⟩

theorem leads_of_place {walk : Walk} {name : String}
    (leads : tree.place path = .ok (.entry walk name)) :
    tree.Leads path (walk.position ++ [name]) := by
  obtain ⟨begin, starts, locates⟩ := exists_start leads
  exact ⟨walk, name, leads, rfl, (alike_locate locates).trans (alike_start starts)⟩

theorem node_entry {walk : Walk} {name : String}
    (placed : tree.place path = .ok (.entry walk name)) :
    tree.node path =
      match walk.entries.lookup name with
      | none => .error .missing
      | some (.directory entries) => .ok (.directory entries)
      | some node => if Path.endsInSlash path then .error .notADirectory else .ok node := by
  unfold node
  rw [placed]
  rfl

theorem start_congr {begin : Walk} (starts : tree.start path = .ok begin)
    (directories : KeepsDirectories tree.root other.root)
    (same : other.workingDirectory = tree.workingDirectory) :
    ∃ next, other.start path = .ok next ∧ next.position = begin.position ∧
      KeepsDirectories begin.root next.root := by
  unfold start at starts ⊢
  dsimp only at starts ⊢
  split at starts
  · rename_i absolute
    cases starts
    rw [if_pos absolute]
    exact ⟨_, rfl, rfl, directories⟩
  · rename_i relative
    rw [if_neg relative, same]
    have same_roots : KeepsDirectories (Walk.root ⟨[], tree.root⟩) (Walk.root ⟨[], other.root⟩) :=
      directories
    have same_place : Walk.position ⟨[], other.root⟩ = Walk.position ⟨[], tree.root⟩ := rfl
    exact foldlM_enter_congr same_place same_roots starts

theorem Leads.congr (leads : tree.Leads path position)
    (directories : KeepsDirectories tree.root other.root)
    (same : other.workingDirectory = tree.workingDirectory) : other.Leads path position := by
  obtain ⟨target, name, placed, rfl, _⟩ := leads
  obtain ⟨begin, starts, locates⟩ := exists_start placed
  obtain ⟨next, starts', position, directories⟩ := start_congr starts directories same
  obtain ⟨final, locates', ended⟩ := locate_congr position directories locates
  have placed' : other.place path = .ok (.entry final name) := by
    unfold place at placed ⊢
    split at placed
    · cases placed
    rename_i clean
    split at placed
    · cases placed
    rename_i short
    split at placed
    · cases placed
    rename_i named
    rw [if_neg clean, if_neg short, if_neg named, starts']
    exact locates'
  rw [← ended]
  exact leads_of_place placed'

theorem Leads.exists_lookup (leads : tree.Leads path position) :
    ∃ walk name, tree.place path = .ok (.entry walk name) ∧ walk.position ++ [name] = position ∧
      Alike walk.root tree.root ∧
      (walk.entries.lookup name).map face = faceAt tree.root position := by
  obtain ⟨walk, name, placed, rfl, alike⟩ := leads
  refine ⟨walk, name, placed, rfl, alike, ?_⟩
  rw [← alike, Walk.faceAt_root, faceAt_singleton]

theorem Leads.at?_eq (leads : tree.Leads path position)
    (leaf : faceAt tree.root position ≠ some .directory)
    (unslashed : Path.endsInSlash path = false) :
    (tree.at? path).map face = faceAt tree.root position := by
  obtain ⟨walk, name, placed, _, _, found⟩ := leads.exists_lookup
  rw [← found] at leaf ⊢
  unfold at?
  rw [node_entry placed]
  cases held : walk.entries.lookup name with
  | none => rfl
  | some node =>
      rw [held] at leaf
      cases node with
      | directory inner => exact absurd rfl leaf
      | file content => simp [unslashed]
      | socket listener mode => simp [unslashed]

theorem leads_change {walk : Walk} {name : String} {entries : List (String × Node)}
    (placed : tree.place path = .ok (.entry walk name))
    (others : ∀ other, other ≠ name → entries.lookup other = walk.entries.lookup other)
    (before : ∀ inner, walk.entries.lookup name ≠ some (.directory inner)) :
    (tree.after { walk with entries := entries }).Leads path (walk.position ++ [name]) ∧
      faceAt (tree.after { walk with entries := entries }).root (walk.position ++ [name]) =
        (entries.lookup name).map face := by
  have leads := leads_of_place placed
  obtain ⟨_, _, placed', _, alike⟩ := leads
  rw [placed] at placed'
  cases placed'
  constructor
  · refine (leads_of_place placed).congr ?_ ?_
    · exact alike.symm.keepsDirectories.trans (keepsDirectories_change others before)
    · rfl
  · exact (Walk.faceAt_root { walk with entries := entries } [name]).trans
      (faceAt_singleton entries name)

end FileTree

end Overseer
