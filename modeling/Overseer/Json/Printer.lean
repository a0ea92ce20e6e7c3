import Overseer.Json.Value

/-!
# Writing JSON

Values are written without blanks, members in the order they have in the
value.  In a string the quote, the backslash and control characters are
escaped, by one letter where there is one and by number otherwise.
-/

namespace Overseer.Json

/-- The four hexadecimal digits of a control character. -/
def controlDigits (code : Nat) : List Char :=
  ['0', '0', Nat.digitChar (code / 16), Nat.digitChar (code % 16)]

/-- A character as it stands in a string. -/
def writeChar (char : Char) : List Char :=
  if char = '"' then ['\\', '"']
  else if char = '\\' then ['\\', '\\']
  else if char = '\x08' then ['\\', 'b']
  else if char = '\x0c' then ['\\', 'f']
  else if char = '\n' then ['\\', 'n']
  else if char = '\r' then ['\\', 'r']
  else if char = '\t' then ['\\', 't']
  else if char.toNat < 0x20 then ['\\', 'u'] ++ controlDigits char.toNat
  else [char]

def writeString (text : String) : List Char :=
  '"' :: text.toList.flatMap writeChar ++ ['"']

/-- A number: its sign, its digits and its power of ten unless that is one. -/
def Number.write (number : Number) : List Char :=
  (if number.negative then ['-'] else []) ++
    Nat.toDigits 10 number.significand ++
    (if number.exponent = 0 then []
    else 'e' :: (toString number.exponent).toList)

def joinCommas : List (List Char) → List Char
  | [] => []
  | [last] => last
  | first :: rest => first ++ ',' :: joinCommas rest

mutual

def Value.write : Value → List Char
  | .null => ['n', 'u', 'l', 'l']
  | .bool true => ['t', 'r', 'u', 'e']
  | .bool false => ['f', 'a', 'l', 's', 'e']
  | .number held => held.write
  | .string text => writeString text
  | .array items => '[' :: joinCommas (Value.writeItems items) ++ [']']
  | .object members =>
      '\x7b' :: joinCommas (Value.writeMembers members) ++ ['\x7d']

def Value.writeItems : List Value → List (List Char)
  | [] => []
  | item :: items => item.write :: Value.writeItems items

/-- The characters of each member. -/
def Value.writeMembers : List (String × Value) → List (List Char)
  | [] => []
  | (name, value) :: members =>
      (writeString name ++ ':' :: value.write) :: Value.writeMembers members

end

def Value.render (value : Value) : String :=
  String.ofList value.write

/-- A whole number as a value. -/
def Value.ofInt (value : Int) : Value :=
  .number { negative := value < 0, significand := value.natAbs, exponent := 0 }

end Overseer.Json
