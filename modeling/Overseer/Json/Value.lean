import Overseer.Text.Utf8

/-!
# JSON values

A value keeps the members of an object in the order of the text.  Looking up a
name finds the last member of that name, and the first argument of an object is
the smallest name in the order of UTF-8 bytes.
-/

namespace Overseer.Json

/-- A number as it is read: the digits that are kept and a power of ten. -/
structure Number where
  negative : Bool
  significand : Nat
  exponent : Int

inductive Value where
  | null
  | bool (value : Bool)
  | number (value : Number)
  | string (text : String)
  | array (items : List Value)
  | object (members : List (String × Value))
  deriving Inhabited

/-- The value of the last member called `name`. -/
def field? (name : String) (members : List (String × Value)) : Option Value :=
  (members.reverse.find? fun entry => entry.1 == name).map Prod.snd

def Value.text? : Value → Option String
  | .string text => some text
  | _ => none

/-- Whether the first name comes before the second, byte by byte. -/
def precedes (first second : String) : Bool :=
  (compare (Utf8.encode first) (Utf8.encode second)).isLT

def smallestName? : List (String × Value) → Option String
  | [] => none
  | entry :: rest =>
      match smallestName? rest with
      | none => some entry.1
      | some name => some (if precedes name entry.1 then name else entry.1)

end Overseer.Json
