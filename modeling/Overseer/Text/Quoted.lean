import Overseer.Text.Shapeless

/-!
# Quoted text

A text shown between double quotes, so that every character of it can be seen:
the quote and the backslash are escaped, tabs, line ends and NUL have an escape
of their own, and a character without a shape is shown by its number.
-/

namespace Overseer.Quoted

/-- The escape that shows a character, or the character itself. -/
def escape (char : Char) : List Char :=
  if char = '"' then ['\\', '"']
  else if char = '\\' then ['\\', '\\']
  else if char = '\t' then ['\\', 't']
  else if char = '\r' then ['\\', 'r']
  else if char = '\n' then ['\\', 'n']
  else if char = '\x00' then ['\\', '0']
  else if isShapeless char then
    ['\\', 'u', '\x7b'] ++ Nat.toDigits 16 char.toNat ++ ['\x7d']
  else [char]

/-- The text between quotes, each character escaped as needed. -/
def quote (text : String) : String :=
  String.ofList ('"' :: text.toList.flatMap escape ++ ['"'])

def quoteOption : Option String → String
  | none => "None"
  | some text => "Some(" ++ quote text ++ ")"

end Overseer.Quoted
