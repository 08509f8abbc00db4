/-
Module: RpcTools.ParameterType
Purpose: Parameter types of tools, as expressions of a schema builder, and the type of
  a field.
Main exports: ParameterType, ParameterType.text, ParameterType.isOptional, namespaceOfPath?,
  ParameterType.ofScalar, ParameterType.ofElement, ParameterType.ofField
-/
import RpcTools.Error
import RpcTools.Schema
import RpcTools.Text.Segments

namespace RpcTools

/-- A parameter type. -/
inductive ParameterType where
  | number
  | bigInt
  | boolean
  | string
  | bytes
  /-- An enum, in the namespace of the generated module that exports it, if known. -/
  | enumeration (namespaceName : Option String) (name : String)
  | array (element : ParameterType)
  | optional (inner : ParameterType)
deriving Repr, Inhabited, DecidableEq

/-- The namespace of the generated module for a file: the third of its path's segments
from the end, unless that is missing or empty. -/
def namespaceOfPath? (path : String) : Option String :=
  match (Text.split '/' path).reverse with
  | _ :: _ :: third :: _ => if third.isEmpty then none else some third
  | _ => none

namespace ParameterType

/-- The expression's text. -/
def text : ParameterType → String
  | .number => "Type.Number()"
  | .bigInt => "Type.BigInt()"
  | .boolean => "Type.Boolean()"
  | .string => "Type.String()"
  | .bytes => "Type.Uint8Array()"
  | .enumeration (some namespaceName) name => s!"Type.Enum({namespaceName}.{name})"
  | .enumeration none name => s!"Type.Enum({name})"
  | .array element => "Type.Array(" ++ element.text ++ ")"
  | .optional inner => "Type.Optional(" ++ inner.text ++ ")"

/-- Whether a value may be left out. -/
def isOptional : ParameterType → Bool
  | .optional _ => true
  | _ => false

/-- The type of a scalar: a number while 32 bits suffice, a big integer for 64. -/
def ofScalar : ScalarType → ParameterType
  | .double | .float | .int32 | .fixed32 | .uint32 | .sfixed32 | .sint32 => .number
  | .int64 | .uint64 | .fixed64 | .sfixed64 | .sint64 => .bigInt
  | .bool => .boolean
  | .string => .string
  | .bytes => .bytes

/-- Why a map has no parameter type. -/
def mapReason : String := "map fields cannot be expanded"

/-- Why a message has no parameter type. -/
def messageReason (messageName : String) : String :=
  s!"nested message type '{messageName}' cannot be expanded"

/-- The type of one value; a message has none and is answered by the reason. -/
def ofElement : ElementType → Except String ParameterType
  | .scalar scalarType => .ok (ofScalar scalarType)
  | .enumeration reference =>
      .ok (.enumeration (namespaceOfPath? reference.file) reference.name)
  | .message reference => .error (messageReason reference.name)

/-- The type of a field around the type of its values.  A list may be left out, as an
absent list is an empty one. -/
def around (field : Field) (element : ParameterType) : ParameterType :=
  let inner := if field.isRepeated then .array element else element
  if field.isOptional || field.isRepeated then .optional inner else inner

/-- The parameter type of a field.  Maps and messages have none: nested objects are not
expanded. -/
def ofField (field : Field) : Except FieldFault ParameterType :=
  if field.isMap then .error ⟨field.propertyName, mapReason⟩
  else
    match ofElement field.elementType with
    | .error reason => .error ⟨field.propertyName, reason⟩
    | .ok element => .ok (around field element)

end ParameterType

end RpcTools
