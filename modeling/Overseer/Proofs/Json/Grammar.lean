import Overseer.Json.Reader

/-!
# The grammar of JSON texts

Which bytes are the text of which value, by the rules of RFC 8259 and with a bound on the
nesting of arrays and objects.  Nothing here reads from left to right: the rules say how
a text is put together, and `Json.Text` is the language that the reader is measured by.

A text is UTF-8: the characters of a string stand for themselves in their encoding, and
every other byte is ASCII.
-/

namespace Overseer.Json

/-- Which bytes are the text of what. -/
abbrev Texts (α : Type) := List UInt8 → α → Prop

def AreBlanks (bytes : List UInt8) : Prop :=
  ∀ byte ∈ bytes, isJsonBlank byte = true

/-! ## Numbers -/

/-- One or more digits. -/
structure Digits (bytes : List UInt8) : Prop where
  some_digit : bytes ≠ []
  all : ∀ byte ∈ bytes, isJsonDigit byte = true

/-- The digits before the point: a single zero, or digits that start with none. -/
structure WholeText (bytes : List UInt8) : Prop where
  digits : Digits bytes
  unpadded : bytes.head? = some 0x30 → bytes = [0x30]

/-- A fraction with its digits; it may be left out. -/
inductive FractionText : Texts (List UInt8) where
  | absent : FractionText [] []
  | point {digits : List UInt8} (some_digits : Digits digits) :
      FractionText (0x2e :: digits) digits

/-- The sign of an exponent, and whether it is a minus. -/
inductive SignText : Texts Bool where
  | absent : SignText [] false
  | plus : SignText [0x2b] false
  | minus : SignText [0x2d] true

/-- An exponent part with the power of ten that it writes; it may be left out. -/
inductive ExponentText : Texts Int where
  | absent : ExponentText [] 0
  | power {mark : UInt8} {sign digits : List UInt8} {negative : Bool}
      (marks : mark = 0x65 ∨ mark = 0x45) (signs : SignText sign negative)
      (some_digits : Digits digits) :
      ExponentText (mark :: (sign ++ digits))
        (if negative then -(powerOf digits : Int) else powerOf digits)

/-- A number without its minus sign. -/
inductive MagnitudeText (negative : Bool) : Texts Number where
  | parts {whole fraction digits exponent : List UInt8} {power : Int}
      (wholes : WholeText whole) (fractions : FractionText fraction digits)
      (exponents : ExponentText exponent power)
      (finite : overflows (Number.ofParts negative whole digits power).significand
        (Number.ofParts negative whole digits power).exponent = false) :
      MagnitudeText negative (whole ++ (fraction ++ exponent))
        (Number.ofParts negative whole digits power)

/-- A number that has a binary approximation. -/
inductive NumberText : Texts Number where
  | positive {bytes : List UInt8} {number : Number}
      (magnitude : MagnitudeText false bytes number) : NumberText bytes number
  | negative {bytes : List UInt8} {number : Number}
      (magnitude : MagnitudeText true bytes number) : NumberText (0x2d :: bytes) number

/-! ## Strings -/

/-- A code unit, as four hexadecimal digits. -/
inductive UnitText : Texts Nat where
  | digits {a b c d : UInt8} {first second third fourth : Nat}
      (a_digit : hexDigit? a = some first) (b_digit : hexDigit? b = some second)
      (c_digit : hexDigit? c = some third) (d_digit : hexDigit? d = some fourth) :
      UnitText [a, b, c, d] (((first * 16 + second) * 16 + third) * 16 + fourth)

/-- The character of a surrogate pair. -/
def pairedChar (leading trailing : Nat) : Char :=
  Char.ofNat (0x10000 + (leading - 0xd800) * 0x400 + (trailing - 0xdc00))

/-- An escaped character, without its backslash. -/
inductive EscapeText : Texts Char where
  | short {letter : UInt8} {char : Char} (stands : shortEscape? letter = some char) :
      EscapeText [letter] char
  | unit {bytes : List UInt8} {unit : Nat} (units : UnitText bytes unit)
      (leads : isLeading unit = false) (trails : isTrailing unit = false) :
      EscapeText (0x75 :: bytes) (Char.ofNat unit)
  /-- A character beyond the first plane is written as a surrogate pair. -/
  | pair {bytes behind : List UInt8} {leading trailing : Nat}
      (first : UnitText bytes leading) (second : UnitText behind trailing)
      (leads : isLeading leading = true) (trails : isTrailing trailing = true) :
      EscapeText (0x75 :: (bytes ++ 0x5c :: 0x75 :: behind)) (pairedChar leading trailing)

/-- Whether a character may stand in a string as it is. -/
def isPlain (char : Char) : Prop :=
  0x20 ≤ char.toNat ∧ char ≠ '"' ∧ char ≠ '\\'

/-- A character of a string. -/
inductive CharText : Texts Char where
  | plain {char : Char} (stands : isPlain char) :
      CharText (String.utf8EncodeChar char) char
  | escaped {bytes : List UInt8} {char : Char} (escape : EscapeText bytes char) :
      CharText (0x5c :: bytes) char

inductive CharsText : Texts (List Char) where
  | nil : CharsText [] []
  | cons {first rest : List UInt8} {char : Char} {chars : List Char}
      (head : CharText first char) (tail : CharsText rest chars) :
      CharsText (first ++ rest) (char :: chars)

/-- A string in its quotes. -/
inductive StringText : Texts String where
  | quoted {bytes : List UInt8} {text : String} (chars : CharsText bytes text.toList) :
      StringText (0x22 :: (bytes ++ [0x22])) text

/-! ## Values -/

section Lists

variable {α : Type} (item : Texts α)

/-- Blanks may stand around an item. -/
inductive Padded : Texts α where
  | between {before bytes behind : List UInt8} {value : α} (leads : AreBlanks before)
      (writes : item bytes value) (trails : AreBlanks behind) :
      Padded (before ++ (bytes ++ behind)) value

/-- One or more items with commas between them. -/
inductive Separated : Texts (List α) where
  | last {bytes : List UInt8} {value : α} (writes : Padded item bytes value) :
      Separated bytes [value]
  | more {bytes rest : List UInt8} {value : α} {values : List α}
      (writes : Padded item bytes value) (others : Separated rest values) :
      Separated (bytes ++ 0x2c :: rest) (value :: values)

/-- What stands between brackets. -/
inductive Listed : Texts (List α) where
  | nothing {gap : List UInt8} (blanks : AreBlanks gap) : Listed gap []
  | items {bytes : List UInt8} {values : List α} (separated : Separated item bytes values) :
      Listed bytes values

end Lists

/-- A member of an object: a string, a colon and a value. -/
inductive MemberText (value : Texts Value) : Texts (String × Value) where
  | named {name gap behind bytes : List UInt8} {text : String} {held : Value}
      (names : StringText name text) (before : AreBlanks gap) (after : AreBlanks behind)
      (writes : value bytes held) :
      MemberText value (name ++ (gap ++ 0x3a :: (behind ++ bytes))) (text, held)

/-- A value, where `inner` is what arrays and objects may hold.  Without `inner` there
are none. -/
inductive ValueWith (inner : Option (Texts Value)) : Texts Value where
  | null : ValueWith inner [0x6e, 0x75, 0x6c, 0x6c] .null
  | yes : ValueWith inner [0x74, 0x72, 0x75, 0x65] (.bool true)
  | no : ValueWith inner [0x66, 0x61, 0x6c, 0x73, 0x65] (.bool false)
  | number {bytes : List UInt8} {number : Number} (writes : NumberText bytes number) :
      ValueWith inner bytes (.number number)
  | string {bytes : List UInt8} {text : String} (writes : StringText bytes text) :
      ValueWith inner bytes (.string text)
  | array {nested : Texts Value} {bytes : List UInt8} {items : List Value}
      (opens : inner = some nested) (listed : Listed nested bytes items) :
      ValueWith inner (0x5b :: (bytes ++ [0x5d])) (.array items)
  | object {nested : Texts Value} {bytes : List UInt8} {members : List (String × Value)}
      (opens : inner = some nested) (listed : Listed (MemberText nested) bytes members) :
      ValueWith inner (0x7b :: (bytes ++ [0x7d])) (.object members)

/-- A value in which arrays and objects nest at most so deep. -/
def ValueText : (depth : Nat) → Texts Value
  | 0 => ValueWith none
  | depth + 1 => ValueWith (some (ValueText depth))

/-- A JSON text: a value with nothing but blanks around it. -/
def Text : Texts Value :=
  Padded (ValueText depthLimit)

end Overseer.Json
