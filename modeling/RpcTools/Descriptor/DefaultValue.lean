/-
Module: RpcTools.Descriptor.DefaultValue
Purpose: Which texts spell a default value of a scalar type.
Main exports: isInteger, isDecimal, isEscaped, spellsScalar
-/
import RpcTools.Schema

namespace RpcTools.Descriptor

/-- The number that decimal digits spell, if there are digits and nothing else. -/
def digitsValue? (digits : List Char) : Option Nat :=
  if digits.isEmpty || !digits.all Char.isDigit then none
  else some (digits.foldl (fun value digit => 10 * value + (digit.toNat - '0'.toNat)) 0)

/-- Whether the text spells a whole number from `low` to `high`.  A plus may stand in
front, and a minus too where there are negative numbers. -/
def isInteger (low high : Int) (text : String) : Bool :=
  let within (value : Option Int) : Bool :=
    match value with
    | some value => low ≤ value && value ≤ high
    | none => false
  match text.toList with
  | '+' :: digits => within ((digitsValue? digits).map Int.ofNat)
  | '-' :: digits => low < 0 && within ((digitsValue? digits).map fun value => -(value : Int))
  | digits => within ((digitsValue? digits).map Int.ofNat)

/-- The characters without one sign in front. -/
def withoutSign : List Char → List Char
  | '+' :: rest => rest
  | '-' :: rest => rest
  | characters => characters

/-- Whether the characters are an exponent, or nothing. -/
def isExponent : List Char → Bool
  | [] => true
  | mark :: rest =>
      (mark = 'e' || mark = 'E') && (digitsValue? (withoutSign rest)).isSome

/-- Whether the characters are digits with at most one point among them and an exponent
after them, if there is one.  One digit is needed, before the point or after it. -/
def isPositional (characters : List Char) : Bool :=
  let whole := characters.takeWhile Char.isDigit
  match characters.dropWhile Char.isDigit with
  | '.' :: rest =>
      (!whole.isEmpty || !(rest.takeWhile Char.isDigit).isEmpty) &&
        isExponent (rest.dropWhile Char.isDigit)
  | rest => !whole.isEmpty && isExponent rest

/-- Whether the text spells a number with fractions; infinities and the lack of a number
are spelled in whatever case. -/
def isDecimal (text : String) : Bool :=
  let unsigned := withoutSign text.toList
  let word := String.ofList (unsigned.map Char.toLower)
  ["inf", "infinity", "nan"].contains word || isPositional unsigned

def isHexDigit (character : Char) : Bool :=
  character.isDigit || ('a' ≤ character && character ≤ 'f') ||
    ('A' ≤ character && character ≤ 'F')

/-- The characters that stand for another one after a backslash. -/
def escapeLetters : List Char :=
  ['a', 'b', 'f', 'n', 'r', 't', 'v', '\\', '?', '\'', '"']

def isOctalDigit (character : Char) : Bool :=
  '0' ≤ character && character ≤ '7'

/-- Whether every backslash starts an escape: a letter of the list, octal digits, or an
`x` with two hexadecimal digits.  Octal digits after the first stand for themselves
here, which decides the same texts. -/
def isEscaped : List Char → Bool
  | [] => true
  | '\\' :: 'x' :: first :: second :: rest =>
      isHexDigit first && isHexDigit second && isEscaped rest
  | '\\' :: 'X' :: first :: second :: rest =>
      isHexDigit first && isHexDigit second && isEscaped rest
  | '\\' :: letter :: rest =>
      (escapeLetters.contains letter || isOctalDigit letter) && isEscaped rest
  | '\\' :: [] => false
  | _ :: rest => isEscaped rest

/-- Whether a text spells a value of a scalar type. -/
def spellsScalar : ScalarType → String → Bool
  | .double, text | .float, text => isDecimal text
  | .int32, text | .sint32, text | .sfixed32, text =>
      isInteger Int32.minValue.toInt Int32.maxValue.toInt text
  | .int64, text | .sint64, text | .sfixed64, text =>
      isInteger Int64.minValue.toInt Int64.maxValue.toInt text
  | .uint32, text | .fixed32, text => isInteger 0 (UInt32.size - 1) text
  | .uint64, text | .fixed64, text => isInteger 0 (UInt64.size - 1) text
  | .bool, text => text = "true" || text = "false"
  | .string, _ => true
  | .bytes, text => isEscaped text.toList

end RpcTools.Descriptor
