import Overseer.Path
import Overseer.SystemError

/-!
# The file tree

Directories, regular files and sockets.  A directory holds its entries by name,
and a path is walked entry by entry from the root or from the working directory.
Every operation walks its path first; the errors are those of the system.

A `Walk` stands in a directory and remembers the directories around it, so that
the tree can be put together again when the directory was changed.  A `Place` is
where a path leads: a directory itself, or an entry of one that may be missing.
-/

namespace Overseer

/-- What a name can stand for. -/
inductive Node where
  | directory (entries : List (String × Node))
  | file (content : List UInt8)
  /-- The rendezvous of a listener, with its permissions. -/
  | socket (listener : Nat) (mode : Nat)

namespace Node

def without (entries : List (String × Node)) (name : String) :
    List (String × Node) :=
  entries.filter (·.1 ≠ name)

def assign (entries : List (String × Node)) (name : String) (node : Node) :
    List (String × Node) :=
  without entries name ++ [(name, node)]

end Node

namespace FileTree

def nameTooLong : SystemError := .number 36

/-- The error of a name that is taken. -/
def alreadyExists : SystemError := .number 17

def addressInUse : SystemError := .number 98

def nulInPath : SystemError :=
  .stated .invalidInput "file name contained an unexpected NUL byte"

/-- The longest name in bytes. -/
def nameLimit : Nat := 255

/-- How many bytes are too many for a path. -/
def pathLimit : Nat := 4096

end FileTree

/-! ## Walks -/

/-- A directory that is stood in, and the directories around it. -/
structure Walk where
  /-- The directories that were passed, the last one first, each with the name
  that was followed from it. -/
  passed : List (String × List (String × Node))
  entries : List (String × Node)

/-- Where a path leads. -/
inductive Place where
  /-- The directory that is stood in. -/
  | here (walk : Walk)
  /-- An entry of the directory, which may be missing. -/
  | entry (walk : Walk) (name : String)

namespace Walk

/-- One directory up; nothing is above the root. -/
def up (walk : Walk) : Walk :=
  match walk.passed with
  | [] => walk
  | (name, outer) :: passed =>
      ⟨passed, Node.assign outer name (.directory walk.entries)⟩

/-- The entries of the root, with all that was changed on the way. -/
def root (walk : Walk) : List (String × Node) :=
  walk.passed.foldl
    (fun inner step => Node.assign step.2 step.1 (.directory inner)) walk.entries

def put (walk : Walk) (name : String) (node : Node) : Walk :=
  { walk with entries := Node.assign walk.entries name node }

def erase (walk : Walk) (name : String) : Walk :=
  { walk with entries := Node.without walk.entries name }

/-- Follows a name, which must lead to a directory. -/
def enter (walk : Walk) (name : String) : Except SystemError Walk :=
  if name = "." then .ok walk
  else if name = ".." then .ok walk.up
  else if FileTree.nameLimit < name.utf8ByteSize then .error FileTree.nameTooLong
  else
    match walk.entries.lookup name with
    | none => .error .missing
    | some (.directory inner) => .ok ⟨(name, walk.entries) :: walk.passed, inner⟩
    | some _ => .error .notADirectory

/-- Follows names; all but the last must lead to directories. -/
def locate (walk : Walk) : List String → Except SystemError Place
  | [] => .ok (.here walk)
  | [name] =>
      if name = "." ∨ name = ".." then (walk.enter name).map .here
      else if FileTree.nameLimit < name.utf8ByteSize then
        .error FileTree.nameTooLong
      else .ok (.entry walk name)
  | name :: rest => do
      let inner ← walk.enter name
      inner.locate rest

/-- Follows names and makes the directories that are missing.  An error keeps
those that were made before. -/
def furnish (walk : Walk) : List String → Walk × Option SystemError
  | [] => (walk, none)
  | name :: rest =>
      match walk.enter name with
      | .ok inner => inner.furnish rest
      | .error error =>
          if error = .missing then
            furnish ⟨(name, walk.entries) :: walk.passed, []⟩ rest
          else if error = .notADirectory ∧ rest = [] then
            (walk, some FileTree.alreadyExists)
          else (walk, some error)

end Walk

def Place.node? : Place → Option Node
  | .here walk => some (.directory walk.entries)
  | .entry walk name => walk.entries.lookup name

/-! ## The tree -/

/-- The entries of the root, and the names that lead to the working directory. -/
structure FileTree where
  root : List (String × Node)
  workingDirectory : List String

namespace FileTree

def start (tree : FileTree) (path : String) : Except SystemError Walk :=
  let top : Walk := ⟨[], tree.root⟩
  if Path.isAbsolute path then .ok top
  else tree.workingDirectory.foldlM Walk.enter top

def place (tree : FileTree) (path : String) : Except SystemError Place :=
  if Path.holdsNul path then .error nulInPath
  else if pathLimit ≤ path.utf8ByteSize then .error nameTooLong
  else if path.isEmpty then .error .missing
  else do
    let walk ← tree.start path
    walk.locate (Path.steps path)

/-- The node at a path; only a directory may have a slash after it. -/
def node (tree : FileTree) (path : String) : Except SystemError Node := do
  let place ← tree.place path
  match place.node? with
  | none => .error .missing
  | some (.directory entries) => .ok (.directory entries)
  | some node =>
      if Path.endsInSlash path then .error .notADirectory else .ok node

def at? (tree : FileTree) (path : String) : Option Node :=
  match tree.node path with
  | .ok node => some node
  | .error _ => none

def after (tree : FileTree) (walk : Walk) : FileTree :=
  { tree with root := walk.root }

def remove (tree : FileTree) (path : String) : Except SystemError FileTree := do
  match ← tree.place path with
  | .here _ => .error .isADirectory
  | .entry walk name =>
      match walk.entries.lookup name with
      | none => .error .missing
      | some (.directory _) => .error .isADirectory
      | some _ =>
          if Path.endsInSlash path then .error .notADirectory
          else .ok (tree.after (walk.erase name))

def removeIfPresent (tree : FileTree) (path : String) :
    Except SystemError FileTree :=
  match tree.remove path with
  | .error error => if error = .missing then .ok tree else .error error
  | .ok removed => .ok removed

/-- Makes the directories in which a path lies. -/
def makeParents (tree : FileTree) (path : String) :
    FileTree × Option SystemError :=
  match tree.start path with
  | .error error => (tree, some error)
  | .ok walk =>
      let (furnished, error) := walk.furnish (Path.names path).dropLast
      (tree.after furnished, error)

/-- Makes the directory that a path leads to. -/
def makeLast (tree : FileTree) (path : String) : FileTree × Option SystemError :=
  match tree.place path with
  | .error error => (tree, some error)
  | .ok (.here _) => (tree, none)
  | .ok (.entry walk name) =>
      match walk.entries.lookup name with
      | none => (tree.after (walk.put name (.directory [])), none)
      | some (.directory _) => (tree, none)
      | some _ => (tree, some alreadyExists)

/-- Makes a directory and those in which it lies. -/
def makeDirectory (tree : FileTree) (path : String) :
    FileTree × Option SystemError :=
  if Path.holdsNul path then (tree, some nulInPath)
  else if pathLimit ≤ path.utf8ByteSize then (tree, some nameTooLong)
  else
    match tree.makeParents path with
    | (furnished, some error) => (furnished, some error)
    | (furnished, none) => furnished.makeLast path

/-- Puts the rendezvous of a listener at a path where there is nothing. -/
def bind (tree : FileTree) (path : String) (listener : Nat) :
    Except SystemError FileTree := do
  match ← tree.place path with
  | .here _ => .error addressInUse
  | .entry walk name =>
      match walk.entries.lookup name with
      | some _ => .error addressInUse
      | none =>
          if Path.endsInSlash path then .error .missing
          else .ok (tree.after (walk.put name (.socket listener 0o755)))

/-- Changes the permissions of a socket. -/
def setMode (tree : FileTree) (path : String) (mode : Nat) : FileTree :=
  match tree.place path with
  | .ok (.entry walk name) =>
      match walk.entries.lookup name with
      | some (.socket listener _) =>
          tree.after (walk.put name (.socket listener mode))
      | _ => tree
  | _ => tree

def write (tree : FileTree) (path : String) (content : List UInt8) : FileTree :=
  match tree.place path with
  | .ok (.entry walk name) =>
      match walk.entries.lookup name with
      | none | some (.file _) =>
          if Path.endsInSlash path then tree
          else tree.after (walk.put name (.file content))
      | some _ => tree
  | _ => tree

/-- The content of a regular file. -/
def read? (tree : FileTree) (path : String) : Option (List UInt8) :=
  match tree.at? path with
  | some (.file content) => some content
  | _ => none

end FileTree

end Overseer
