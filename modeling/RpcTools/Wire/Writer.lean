/-
Module: RpcTools.Wire.Writer
Purpose: Writing protobuf messages in binary form.
Main exports: Wire.varint, Wire.numberField, Wire.bytesField, Wire.textField
-/
import RpcTools.Wire

namespace RpcTools.Wire

/-- A number, seven bits a byte and the lowest first; every byte but the last has its
highest bit set. -/
def varint (value : Nat) : Bytes :=
  if value < 128 then [UInt8.ofNat value]
  else UInt8.ofNat (value % 128 + 128) :: varint (value / 128)
termination_by value

/-- A field that holds a number. -/
def numberField (number value : Nat) : Bytes :=
  varint (number * 8) ++ varint value

/-- A field that holds bytes, behind their count. -/
def bytesField (number : Nat) (bytes : Bytes) : Bytes :=
  varint (number * 8 + 2) ++ varint bytes.length ++ bytes

/-- A field that holds a text. -/
def textField (number : Nat) (text : String) : Bytes :=
  bytesField number text.toUTF8.toList

/-! ### Small laws -/

theorem varintWithin_varint (limit value : Nat) (rest : Bytes)
    (small : value < 2 * Nat.pow 128 limit) :
    varintWithin (limit + 1) (varint value ++ rest) = some (value, rest) := by
  induction limit generalizing value with
  | zero =>
      change value < 2 at small
      rw [varint, if_pos (by omega)]
      have byte : (UInt8.ofNat value).toNat = value := by simp; omega
      simp only [List.cons_append, List.nil_append, varintWithin, byte]
      rw [if_pos (by omega), if_neg (by omega)]
  | succ limit inductionHypothesis =>
      rw [varint]
      split
      next less =>
        have byte : (UInt8.ofNat value).toNat = value := by simp; omega
        simp only [List.cons_append, List.nil_append, varintWithin, byte]
        rw [if_pos less, if_neg (by omega)]
      next atLeast =>
        have byte : (UInt8.ofNat (value % 128 + 128)).toNat = value % 128 + 128 := by
          simp; omega
        have smaller : value / 128 < 2 * Nat.pow 128 limit := by
          change value < 2 * (Nat.pow 128 limit * 128) at small
          omega
        rw [List.cons_append, varintWithin, byte, if_neg (by omega),
          inductionHypothesis _ smaller]
        simp only [Option.map_some, Option.some.injEq, Prod.mk.injEq, and_true]
        omega

/-- What is written as a number is read as that number, if it has at most 64 bits. -/
theorem varint?_varint (value : Nat) (rest : Bytes) (small : value < UInt64.size) :
    varint? (varint value ++ rest) = some (value, rest) :=
  varintWithin_varint 9 value rest small

end RpcTools.Wire
