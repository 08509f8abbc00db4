/-
Module: RpcTools.Number
Purpose: The numbers of JSON, and how they are displayed.
Main exports: Fraction, Number, Number.text, Number.isNormal, Number.isMark_of_mem_text
-/
namespace RpcTools

/-- Whether numbers are displayed with a character: a digit, a sign, a point or the letter
before an exponent. -/
def Number.isMark (character : Char) : Bool :=
  character.isDigit || ['-', '+', '.', 'e', 'E'].contains character

/-- A floating point number, neither infinite nor undefined.  By which digits it is displayed
is decided elsewhere, and its display comes with it; every function that displays such
numbers with marks of numbers gives these. -/
structure Fraction where
  value : Float
  finite : value.isFinite = true
  display : String
  marks : display.toList.all Number.isMark = true
deriving Repr, DecidableEq

/-- A number. -/
inductive Number where
  /-- A whole number that is not negative. -/
  | whole (value : UInt64)
  /-- A whole number below zero. -/
  | negative (value : Int64) (below : value < 0)
  | fraction (value : Fraction)
deriving Repr, DecidableEq

namespace Number

instance : Inhabited Number := ⟨.whole 0⟩

/-- A number of things that were counted. -/
def ofNat (count : Nat) : Number := .whole (UInt64.ofNat count)

/-- How a number is displayed. -/
def text : Number → String
  | .whole value => toString value.toNat
  | .negative value _ => toString value.toInt
  | .fraction held => held.display

/-- The smallest positive floating point number with all its digits. -/
def leastNormal : Float := Float.ofBits 0x0010000000000000

/-- Whether a number counts as more than zero digits, whatever its sign: neither zero, nor a
floating point number too small to have all its digits. -/
def isNormal : Number → Bool
  | .whole value => value ≠ 0
  | .negative _ _ => true
  | .fraction held => leastNormal ≤ held.value.abs

/-! ### Small laws -/

theorem isMark_of_isDigit {character : Char} (digit : character.isDigit = true) :
    isMark character = true := by
  simp [isMark, digit]

theorem isMark_of_mem_toDigits {character : Char} {count : Nat}
    (member : character ∈ Nat.toDigits 10 count) : isMark character = true :=
  isMark_of_isDigit (Nat.isDigit_of_mem_toDigits (by decide) (by decide) member)

@[simp] theorem toList_text_whole (value : UInt64) :
    (whole value).text.toList = Nat.toDigits 10 value.toNat := by
  simp [text, Nat.toString_eq_repr]

@[simp] theorem toList_text_negative (value : Int64) (below : value < 0) :
    (negative value below).text.toList = '-' :: Nat.toDigits 10 value.toInt.natAbs := by
  have underZero : ¬ 0 ≤ value.toInt := Int.not_le.2 (Int64.lt_iff_toInt_lt.1 below)
  have same : (-value.toInt).toNat = value.toInt.natAbs := by omega
  simp [text, Int.toString_eq_repr, Int.repr_eq_if, underZero, same]

/-- A number is displayed by marks of numbers only. -/
theorem isMark_of_mem_text {number : Number} {character : Char}
    (member : character ∈ number.text.toList) : isMark character = true := by
  cases number with
  | whole value =>
      rw [toList_text_whole] at member
      exact isMark_of_mem_toDigits member
  | negative value below =>
      rw [toList_text_negative] at member
      rcases List.mem_cons.1 member with rfl | digit
      · decide
      · exact isMark_of_mem_toDigits digit
  | fraction held => exact List.all_eq_true.1 held.marks character member

end Number

end RpcTools
