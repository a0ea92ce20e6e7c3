/-!
# Paths

A path is a text whose components are separated by slashes; one that starts with
a slash is absolute.
-/

namespace Overseer.Path

/-- Whether a path starts at the root. -/
def isAbsolute (path : String) : Bool :=
  path.toList.head? == some '/'

/-- A path below another; an absolute path stays what it is. -/
def join (base path : String) : String :=
  if isAbsolute path || base.isEmpty then path
  else if base.toList.getLast? == some '/' then base ++ path
  else base ++ "/" ++ path

/-- The parts of a list between the elements that satisfy `cut`. -/
def pieces {α : Type} (cut : α → Bool) : List α → List (List α)
  | [] => [[]]
  | item :: rest =>
      match cut item, pieces cut rest with
      | true, others => [] :: others
      | false, first :: others => (item :: first) :: others
      | false, [] => [[item]]

/-- The texts between slashes. -/
def components (path : String) : List String :=
  (pieces (· == '/') path.toList).map String.ofList

/-- The steps along a path; several slashes are like one. -/
def steps (path : String) : List String :=
  (components path).filter (· ≠ "")

/-- The names along a path: the steps that lead on. -/
def names (path : String) : List String :=
  (steps path).filter (· ≠ ".")

def endsInSlash (path : String) : Bool :=
  path.toList.getLast? == some '/'

/-- Whether a text holds a NUL, which the system takes for its end. -/
def holdsNul (path : String) : Bool :=
  path.toList.contains '\x00'

end Overseer.Path
