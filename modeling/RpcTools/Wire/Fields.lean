/-
Module: RpcTools.Wire.Fields
Purpose: Reading a message whose fields are known, and looking fields up.
Main exports: Wire.Shape, Wire.Value, Wire.Fields, Wire.fields?, Wire.Fields.text?,
  Wire.Fields.number?, Wire.Fields.messages, Wire.Fields.merged
-/
import RpcTools.Wire

namespace RpcTools.Wire

/-- What the payload of a known field is; `Kind` names the messages there are. -/
inductive Shape (Kind : Type) where
  | number
  /-- Many numbers, in records of their own or packed into one. -/
  | numbers
  | eightBytes
  | text
  | bytes
  | message (kind : Kind)
deriving Repr, DecidableEq

/-- The value of a field. -/
inductive Value where
  | number (value : Nat)
  | text (value : String)
  | bytes (value : Bytes)
  | message (fields : List (Nat × Value))
deriving Repr, Inhabited

/-- The known fields of a message in the order in which they are written.  A field may
stand there several times. -/
abbrev Fields := List (Nat × Value)

/-- The numbers that the bytes consist of, if `steps` are enough. -/
def varintsWithin : (steps : Nat) → Bytes → Option (List Nat)
  | _, [] => some []
  | 0, _ => none
  | steps + 1, bytes =>
      match varint? bytes with
      | none => none
      | some (value, rest) => (varintsWithin steps rest).map (value :: ·)

/-- The numbers that the bytes consist of. -/
def varints? (bytes : Bytes) : Option (List Nat) :=
  varintsWithin bytes.length bytes

/-- The text that the bytes spell in UTF-8. -/
def text? (bytes : Bytes) : Option String :=
  String.fromUTF8? bytes.toByteArray

/-- The values of a record.  A record whose field is not known is passed over, for which
some depth has to be left; one that does not have the shape of its field is refused.
`inside` reads a message one level deeper. -/
def values? {Kind : Type} (shapeOf : Kind → Nat → Option (Shape Kind))
    (inside : Kind → Bytes → Option Fields) (depth : Nat) (kind : Kind) (record : Record) :
    Option Fields :=
  match shapeOf kind record.number, record.payload with
  | none, _ => if depth = 0 then none else some []
  | some .number, .number value => some [(record.number, .number value)]
  | some .numbers, .number value => some [(record.number, .number value)]
  | some .numbers, .delimited bytes =>
      (varints? bytes).map (·.map fun value => (record.number, .number value))
  | some .eightBytes, .eightBytes bytes => some [(record.number, .bytes bytes)]
  | some .text, .delimited bytes =>
      (text? bytes).map fun text => [(record.number, .text text)]
  | some .bytes, .delimited bytes => some [(record.number, .bytes bytes)]
  | some (.message inner), .delimited bytes =>
      (inside inner bytes).map fun fields => [(record.number, .message fields)]
  | some _, _ => none

/-- The fields of a message of a kind.  Messages may be nested `depth` levels deep. -/
def fields? {Kind : Type} (shapeOf : Kind → Nat → Option (Shape Kind)) :
    (depth : Nat) → Kind → Bytes → Option Fields
  | 0, kind, bytes => do
      let parts ← (← records? 0 bytes).mapM (values? shapeOf (fun _ _ => none) 0 kind)
      pure parts.flatten
  | deeper + 1, kind, bytes => do
      let parts ← (← records? (deeper + 1) bytes).mapM
        (values? shapeOf (fields? shapeOf deeper) (deeper + 1) kind)
      pure parts.flatten

namespace Fields

/-- Every value of a field. -/
def all (fields : Fields) (number : Nat) : List Value :=
  (fields.filter (·.1 == number)).map (·.2)

def numbers (fields : Fields) (number : Nat) : List Nat :=
  (fields.all number).filterMap fun
    | .number value => some value
    | _ => none

def texts (fields : Fields) (number : Nat) : List String :=
  (fields.all number).filterMap fun
    | .text value => some value
    | _ => none

def byteStrings (fields : Fields) (number : Nat) : List Bytes :=
  (fields.all number).filterMap fun
    | .bytes value => some value
    | _ => none

/-- The messages in a field that holds many. -/
def messages (fields : Fields) (number : Nat) : List Fields :=
  (fields.all number).filterMap fun
    | .message inner => some inner
    | _ => none

/-- The number in a field that holds one: the last that is written. -/
def number? (fields : Fields) (number : Nat) : Option Nat :=
  (fields.numbers number).getLast?

/-- The text in a field that holds one: the last that is written. -/
def text? (fields : Fields) (number : Nat) : Option String :=
  (fields.texts number).getLast?

/-- The message in a field that holds one: all that is written is put together. -/
def merged (fields : Fields) (number : Nat) : Fields :=
  (fields.messages number).flatten

/-- The truth value in a field that holds one; every number but 0 is true. -/
def flag (fields : Fields) (number : Nat) : Bool :=
  match fields.number? number with
  | some value => value != 0
  | none => false

/-- A number's low 32 bits, the highest of which is the sign. -/
def signed32 (value : Nat) : Int :=
  Int.bmod value UInt32.size

/-- The number of 32 bits with a sign in a field that holds one. -/
def int32? (fields : Fields) (number : Nat) : Option Int :=
  (fields.number? number).map signed32

/-- The same, or 0 if nothing is written. -/
def int32 (fields : Fields) (number : Nat) : Int :=
  (fields.int32? number).getD 0

end Fields

end RpcTools.Wire
