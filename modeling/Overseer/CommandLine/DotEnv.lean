import Overseer.Environment
import Overseer.Text.WordChar

/-!
# Files of variables

A file of variables has a line `NAME=value` for each of them.  A value may be
quoted, and a quoted value may span lines; a dollar sign and a name stand for the
value of another variable.  Variables that are set already keep their values.
Reading ends at the first line that is malformed; a value with a NUL cannot be
set, and then there is no environment at all.

`logicalLines` finds where each assignment ends, `assignment?` reads one, and
`Environment.load` carries them out in turn.
-/

namespace Overseer

namespace DotEnv

/-! ## Lines -/

/-- Where a scan for the end of an assignment stands. -/
inductive Scan where
  | plain
  | blank
  | escaped
  | strong
  | strongEscaped
  | weak
  | weakEscaped
  deriving DecidableEq

/-- Where a scan stands after a character outside of quotes. -/
def Scan.afterPlain (char : Char) : Scan :=
  if char = '\\' then .escaped
  else if char = '"' then .weak
  else if char = '\'' then .strong
  else .plain

/-- Where a scan stands after one more character. -/
def Scan.next (scan : Scan) (char : Char) : Scan :=
  match scan with
  | .blank => Scan.afterPlain char
  | .plain =>
      if isBlank char && char != '\n' && char != '\r' then .blank
      else Scan.afterPlain char
  | .escaped => .plain
  | .weak =>
      if char = '\\' then .weakEscaped
      else if char = '"' then .plain
      else .weak
  | .weakEscaped => .weak
  | .strong =>
      if char = '\\' then .strongEscaped
      else if char = '\'' then .plain
      else .strong
  | .strongEscaped => .strong

/-- How a physical line ends: where the scan stands, or before which characters a
comment begins. -/
inductive LineEnd where
  | scanned (scan : Scan)
  | comment (before : List Char)

/-- Scans a physical line; `before` holds the characters scanned, the last one
first. -/
def scanLine (scan : Scan) (before : List Char) : List Char → LineEnd
  | [] => .scanned scan
  | char :: rest =>
      if scan = .blank ∧ char = '#' then .comment before.reverse
      else scanLine (scan.next char) (char :: before) rest

def physicalLines : List Char → List (List Char)
  | [] => []
  | char :: rest =>
      if char = '\n' then ['\n'] :: physicalLines rest
      else
        match physicalLines rest with
        | [] => [[char]]
        | line :: others => (char :: line) :: others

def withoutEnd (line : List Char) : List Char :=
  match line.reverse with
  | '\n' :: '\r' :: rest | '\n' :: rest => rest.reverse
  | _ => line

/-- A line, or nothing where the text ends within an assignment. -/
abbrev Line := Option (List Char)

/-- The lines that hold one assignment each; `begun` is the beginning of one
whose end was not found yet. -/
def logicalLines (begun : List Char) (scan : Scan) :
    List (List Char) → List Line
  | [] => if scan = .plain then [] else [none]
  | line :: rest =>
      let whole := begun ++ line
      if (whole.dropWhile isBlank).head? = some '#' then
        some [] :: logicalLines [] .plain rest
      else
        match scanLine scan [] line with
        | .comment before => some (begun ++ before) :: logicalLines [] .plain rest
        | .scanned .plain => some (withoutEnd whole) :: logicalLines [] .plain rest
        | .scanned scan => logicalLines whole scan rest

/-! ## Values -/

/-- Whether a dollar sign was read, and what name follows it. -/
inductive Substitution where
  | outside
  | name
  | bracedName
  deriving DecidableEq

/-- How much of a value was read. -/
structure Reading where
  strong : Bool
  weak : Bool
  escaped : Bool
  /-- Only blanks or a comment may follow. -/
  ended : Bool
  substitution : Substitution
  /-- The name of a variable, the last character first. -/
  name : List Char
  /-- The value so far, the last character first. -/
  output : List Char

def Reading.start : Reading :=
  ⟨false, false, false, false, .outside, [], []⟩

namespace Reading

/-- One more character of the value. -/
def push (reading : Reading) (char : Char) : Reading :=
  { reading with output := char :: reading.output }

/-- The value of the variable that was named. -/
def substitute (environment : Environment) (reading : Reading) : Reading :=
  let name := String.ofList reading.name.reverse
  let value := ((environment.after? name).bind Utf8.decode?).getD ""
  { reading with name := [], output := value.toList.reverse ++ reading.output }

/-- The character that an escape stands for. -/
def escape? (char : Char) : Option Char :=
  if char = 'n' then some '\n'
  else if ['\\', '\'', '"', '$', ' '].contains char then some char
  else none

/-- One more character of the name of a variable. -/
def readName (environment : Environment) (reading : Reading) (char : Char) :
    Reading :=
  if isWordChar char then { reading with name := char :: reading.name }
  else if reading.substitution = .bracedName then
    if char = '\x7d' then
      { reading.substitute environment with substitution := .outside }
    else { reading with name := char :: reading.name }
  else if char = '\x7b' ∧ reading.name = [] then
    { reading with substitution := .bracedName }
  else
    let substituted := reading.substitute environment
    if char = '$' then { substituted with substitution := .name }
    else { substituted with substitution := .outside }.push char

/-- One more character outside of strong quotes and names. -/
def readPlain (reading : Reading) (char : Char) : Reading :=
  if char = '$' then { reading with substitution := .name }
  else if char = '\\' then { reading with escaped := true }
  else if char = '"' then { reading with weak := !reading.weak }
  else if reading.weak then reading.push char
  else if char = '\'' then { reading with strong := true }
  else if char = ' ' ∨ char = '\t' then { reading with ended := true }
  else reading.push char

/-- One more character of a value that has not ended. -/
def read (environment : Environment) (reading : Reading) (char : Char) :
    Option Reading :=
  if reading.escaped then
    (escape? char).map fun escaped => { reading with escaped := false }.push escaped
  else if reading.strong then
    some (if char = '\'' then { reading with strong := false }
      else reading.push char)
  else if reading.substitution ≠ .outside then
    some (reading.readName environment char)
  else some (reading.readPlain char)

/-- The value, if it is complete. -/
def finish (environment : Environment) (reading : Reading) : Option String :=
  if reading.substitution = .bracedName || reading.strong || reading.weak then none
  else some (String.ofList (reading.substitute environment).output.reverse)

end Reading

/-- The value that characters spell. -/
def value? (environment : Environment) (reading : Reading) :
    List Char → Option String
  | [] => reading.finish environment
  | char :: rest =>
      if reading.ended then
        if char = ' ' ∨ char = '\t' then value? environment reading rest
        else if char = '#' then reading.finish environment
        else none
      else
        (reading.read environment char).bind fun next =>
          value? environment next rest

/-! ## Assignments -/

def beginsName (char : Char) : Bool :=
  char.isAlpha || char == '_'

/-- Whether a character can be part of a name. -/
def continuesName (char : Char) : Bool :=
  char.isAlphanum || char == '_' || char == '.'

/-- A name at the beginning of a line, and what follows it and blanks. -/
def name? (line : List Char) : Option (String × List Char) :=
  if line.head?.any beginsName then
    some (String.ofList (line.takeWhile continuesName),
      (line.dropWhile continuesName).dropWhile isBlank)
  else none

/-- A name and an equals sign, with or without the word `export` before them. -/
def target? (line : List Char) : Option (String × List Char) := do
  let (name, rest) ← name? line
  match rest with
  | '=' :: value => some (name, value)
  | _ =>
      if name = "export" then
        let (name, rest) ← name? rest
        match rest with
        | '=' :: value => some (name, value)
        | _ => none
      else none

/-- What a line says. -/
inductive Statement where
  | nothing
  | assigns (name value : String)
  | malformed

def statement (environment : Environment) (line : List Char) : Statement :=
  let trimmed := trimBlanks line
  if trimmed.head?.all (· == '#') then .nothing
  else
    match target? trimmed with
    | none => .malformed
    | some (name, rest) =>
        let chars := rest.dropWhile isBlank
        if chars.head?.all (· == '#') then .assigns name ""
        else
          match value? environment Reading.start chars with
          | none => .malformed
          | some value => .assigns name value

end DotEnv

namespace Environment

/-- Whether a variable has a value that is text. -/
def hasText (environment : Environment) (name : String) : Bool :=
  ((environment.value? name).bind Utf8.decode?).isSome

/-- Carries out assignments in turn. -/
def loadLines (environment : Environment) : List DotEnv.Line → Option Environment
  | [] | none :: _ => some environment
  | some line :: rest =>
      match DotEnv.statement environment line with
      | .malformed => some environment
      | .nothing => environment.loadLines rest
      | .assigns name value =>
          if environment.hasText name then environment.loadLines rest
          else if value.toList.contains '\x00' then none
          else (environment.set name (Utf8.encode value)).loadLines rest

/-- The environment with the variables of a file; a mark of the byte order at its
beginning is skipped. -/
def load (environment : Environment) (text : String) : Option Environment :=
  let chars :=
    match text.toList with
    | '\uFEFF' :: rest => rest
    | chars => chars
  environment.loadLines
    (DotEnv.logicalLines [] .plain (DotEnv.physicalLines chars))

end Environment

end Overseer
