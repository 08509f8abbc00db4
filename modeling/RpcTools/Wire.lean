/-
Module: RpcTools.Wire
Purpose: The binary form of protobuf messages: a row of records, each with a field
  number and a payload.
Main exports: Wire.Bytes, Wire.varint?, Wire.Payload, Wire.Record, Wire.record?,
  Wire.records?
-/
namespace RpcTools.Wire

/-- Binary data. -/
abbrev Bytes := List UInt8

/-! ### Numbers -/

/-- The number that the bytes start with, seven bits a byte and the lowest first, if it
takes at most `limit` bytes, and what follows it.  Of the last byte that is allowed only
one bit counts, as ten times seven bits are more than a number has. -/
def varintWithin : (limit : Nat) → Bytes → Option (Nat × Bytes)
  | 0, _ => none
  | _ + 1, [] => none
  | limit + 1, byte :: rest =>
      if byte.toNat < 128 then
        if limit = 0 ∧ 1 < byte.toNat then none else some (byte.toNat, rest)
      else
        (varintWithin limit rest).map fun (high, rest) =>
          (byte.toNat - 128 + 128 * high, rest)

/-- The number of 64 bits that the bytes start with, and what follows it. -/
def varint? (bytes : Bytes) : Option (Nat × Bytes) :=
  varintWithin 10 bytes

/-- The given count of bytes, and what follows them. -/
def take? (count : Nat) (bytes : Bytes) : Option (Bytes × Bytes) :=
  if count ≤ bytes.length then some (bytes.take count, bytes.drop count) else none

/-! ### Records -/

/-- What a record carries. -/
inductive Payload where
  | number (value : Nat)
  | eightBytes (bytes : Bytes)
  | delimited (bytes : Bytes)
  /-- Records between a start and an end; no field known here is one. -/
  | group
  | fourBytes (bytes : Bytes)
deriving Repr, DecidableEq

/-- A payload filed under a field number. -/
structure Record where
  number : Nat
  payload : Payload
deriving Repr, DecidableEq

/-- The form of a payload, as the key of a record tells it. -/
inductive Form where
  | number
  | eightBytes
  | delimited
  | groupStart
  | groupEnd
  | fourBytes
deriving Repr, DecidableEq

/-- The form with a code. -/
def Form.ofCode? : Nat → Option Form
  | 0 => some .number
  | 1 => some .eightBytes
  | 2 => some .delimited
  | 3 => some .groupStart
  | 4 => some .groupEnd
  | 5 => some .fourBytes
  | _ => none

/-- The field number and the form that a record starts with, and what follows them.
The key has at most 32 bits, and no field has the number 0. -/
def key? (bytes : Bytes) : Option (Nat × Form × Bytes) := do
  let (key, rest) ← varint? bytes
  if key < 8 ∨ UInt32.size ≤ key then none
  let form ← Form.ofCode? (key % 8)
  pure (key / 8, form, rest)

/-- A payload that is no group, and what follows it. -/
def plainPayload? (form : Form) (bytes : Bytes) : Option (Payload × Bytes) :=
  match form with
  | .number => (varint? bytes).map fun (value, rest) => (.number value, rest)
  | .eightBytes => (take? 8 bytes).map fun (taken, rest) => (.eightBytes taken, rest)
  | .delimited =>
      match varint? bytes with
      | none => none
      | some (count, rest) =>
          (take? count rest).map fun (taken, rest) => (.delimited taken, rest)
  | .fourBytes => (take? 4 bytes).map fun (taken, rest) => (.fourBytes taken, rest)
  | .groupStart | .groupEnd => none

/-- What follows the end of the group with a field number.  A record inside needs
`depth` to be left, and a group inside uses one of it up.  Every step takes a byte at
least, so that `steps` need not be more than there are bytes. -/
def afterGroup? : (steps depth number : Nat) → Bytes → Option Bytes
  | 0, _, _, _ => none
  | steps + 1, depth, number, bytes =>
      match key? bytes with
      | none => none
      | some (inner, .groupEnd, rest) => if inner = number then some rest else none
      | some (inner, .groupStart, rest) =>
          match depth with
          | 0 => none
          | deeper + 1 =>
              match afterGroup? steps deeper inner rest with
              | none => none
              | some rest => afterGroup? steps (deeper + 1) number rest
      | some (_, form, rest) =>
          match depth, plainPayload? form rest with
          | deeper + 1, some (_, rest) => afterGroup? steps (deeper + 1) number rest
          | _, _ => none

/-- The record that the bytes start with, and what follows it. -/
def record? (depth : Nat) (bytes : Bytes) : Option (Record × Bytes) :=
  match key? bytes with
  | none => none
  | some (number, .groupStart, rest) =>
      match depth with
      | 0 => none
      | deeper + 1 =>
          (afterGroup? rest.length deeper number rest).map fun rest =>
            (⟨number, .group⟩, rest)
  | some (number, form, rest) =>
      (plainPayload? form rest).map fun (payload, rest) => (⟨number, payload⟩, rest)

/-- The records that the bytes consist of, if `steps` are enough. -/
def recordsWithin : (steps depth : Nat) → Bytes → Option (List Record)
  | _, _, [] => some []
  | 0, _, _ => none
  | steps + 1, depth, bytes =>
      match record? depth bytes with
      | none => none
      | some (record, rest) => (recordsWithin steps depth rest).map (record :: ·)

/-- The records that the bytes consist of.  Each takes a byte at least. -/
def records? (depth : Nat) (bytes : Bytes) : Option (List Record) :=
  recordsWithin bytes.length depth bytes

end RpcTools.Wire
