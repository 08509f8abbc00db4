/-
Module: RpcTools.Schema
Purpose: The view of a protobuf schema that tools are made from: files with their
  services, services with their methods, methods with the fields of their request and
  response.
Main exports: ScalarType, TypeReference, ElementType, FieldShape, Field, CallingConvention,
  Method, Service, ProtoFile
-/
namespace RpcTools

/-- The scalar types of protobuf. -/
inductive ScalarType where
  | double
  | float
  | int64
  | uint64
  | int32
  | fixed64
  | fixed32
  | bool
  | string
  | bytes
  | uint32
  | sfixed32
  | sfixed64
  | sint32
  | sint64
deriving Repr, Inhabited, DecidableEq

namespace ScalarType

/-- Every scalar type, in the order of the codes. -/
def all : List ScalarType :=
  [.double, .float, .int64, .uint64, .int32, .fixed64, .fixed32, .bool, .string, .bytes,
    .uint32, .sfixed32, .sfixed64, .sint32, .sint64]

/-- The code that descriptors name the type by.  The codes 10, 11 and 14 name groups,
messages and enums. -/
def code : ScalarType → Int
  | .double => 1
  | .float => 2
  | .int64 => 3
  | .uint64 => 4
  | .int32 => 5
  | .fixed64 => 6
  | .fixed32 => 7
  | .bool => 8
  | .string => 9
  | .bytes => 12
  | .uint32 => 13
  | .sfixed32 => 15
  | .sfixed64 => 16
  | .sint32 => 17
  | .sint64 => 18

/-- The keyword that schemas name the type by. -/
def keyword : ScalarType → String
  | .double => "double"
  | .float => "float"
  | .int64 => "int64"
  | .uint64 => "uint64"
  | .int32 => "int32"
  | .fixed64 => "fixed64"
  | .fixed32 => "fixed32"
  | .bool => "bool"
  | .string => "string"
  | .bytes => "bytes"
  | .uint32 => "uint32"
  | .sfixed32 => "sfixed32"
  | .sfixed64 => "sfixed64"
  | .sint32 => "sint32"
  | .sint64 => "sint64"

/-- The scalar type with a code. -/
def ofCode? (code : Int) : Option ScalarType :=
  all.find? (·.code == code)

/-- The scalar type with a keyword. -/
def ofKeyword? (keyword : String) : Option ScalarType :=
  all.find? (·.keyword == keyword)

theorem ofCode?_code (scalar : ScalarType) : ofCode? scalar.code = some scalar := by
  cases scalar <;> rfl

theorem ofKeyword?_keyword (scalar : ScalarType) :
    ofKeyword? scalar.keyword = some scalar := by
  cases scalar <;> decide

end ScalarType

/-- A message or enum declared somewhere in the schema, by its exported name and the
path of the file that declares it. -/
structure TypeReference where
  name : String
  file : String
deriving Repr, Inhabited, DecidableEq

/-- What one value of a field is. -/
inductive ElementType where
  | scalar (scalarType : ScalarType)
  | message (reference : TypeReference)
  | enumeration (reference : TypeReference)
deriving Repr, Inhabited, DecidableEq

namespace ElementType

/-- The scalar type, if it is one. -/
def scalarType? : ElementType → Option ScalarType
  | .scalar scalarType => some scalarType
  | _ => none

/-- The declared type that is referred to, if there is one. -/
def reference? : ElementType → Option TypeReference
  | .scalar _ => none
  | .message reference | .enumeration reference => some reference

/-- Whether the values are messages. -/
def isMessage : ElementType → Bool
  | .message _ => true
  | _ => false

end ElementType

/-- The coarse shape of a field. -/
inductive FieldShape where
  | scalar
  | message
  | enumeration
  | list
  | map
deriving Repr, Inhabited, DecidableEq

/-- The word for a field's shape. -/
def FieldShape.word : FieldShape → String
  | .scalar => "scalar"
  | .message => "message"
  | .enumeration => "enum"
  | .list => "list"
  | .map => "map"

/-- One field of a request or response. -/
structure Field where
  /-- The name under which generated code knows the field. -/
  propertyName : String
  elementType : ElementType
  /-- The field carries the `optional` marker. -/
  isOptional : Bool
  /-- The field holds a list; a map is no list. -/
  isRepeated : Bool
  /-- The field holds a map, whose entries are messages. -/
  isMap : Bool
deriving Repr, Inhabited, DecidableEq

namespace Field

/-- A single required value. -/
def single (propertyName : String) (elementType : ElementType) : Field :=
  { propertyName, elementType, isOptional := false, isRepeated := false, isMap := false }

/-- The field with the `optional` marker. -/
def optional (field : Field) : Field := { field with isOptional := true }

/-- The field as a list. -/
def repeated (field : Field) : Field := { field with isRepeated := true }

/-- The field as a map. -/
def map (field : Field) : Field := { field with isMap := true }

/-- The field's shape: a map before a list, a list before its element. -/
def shape (field : Field) : FieldShape :=
  if field.isMap then .map
  else if field.isRepeated then .list
  else
    match field.elementType with
    | .scalar _ => .scalar
    | .message _ => .message
    | .enumeration _ => .enumeration

end Field

/-- How a method is called: one or many requests, one or many responses. -/
inductive CallingConvention where
  | unary
  | serverStreaming
  | clientStreaming
  | bidiStreaming
deriving Repr, Inhabited, DecidableEq

namespace CallingConvention

/-- The convention with the given streaming sides. -/
def ofStreaming (clientStreaming serverStreaming : Bool) : CallingConvention :=
  match clientStreaming, serverStreaming with
  | false, false => .unary
  | false, true => .serverStreaming
  | true, false => .clientStreaming
  | true, true => .bidiStreaming

/-- The word for the convention. -/
def word : CallingConvention → String
  | .unary => "unary"
  | .serverStreaming => "server_streaming"
  | .clientStreaming => "client_streaming"
  | .bidiStreaming => "bidi_streaming"

/-- The convention that a word names. -/
def ofWord? : String → Option CallingConvention
  | "unary" => some .unary
  | "server_streaming" => some .serverStreaming
  | "client_streaming" => some .clientStreaming
  | "bidi_streaming" => some .bidiStreaming
  | _ => none

@[simp] theorem ofWord?_word (convention : CallingConvention) :
    ofWord? convention.word = some convention := by
  cases convention <;> rfl

end CallingConvention

/-- One remote procedure. -/
structure Method where
  name : String
  convention : CallingConvention
  inputFields : List Field
  outputFields : List Field
deriving Repr, Inhabited, DecidableEq

/-- Methods under a common name. -/
structure Service where
  name : String
  methods : List Method
deriving Repr, Inhabited, DecidableEq

/-- The services that one file declares. -/
structure ProtoFile where
  path : String
  services : List Service
deriving Repr, Inhabited, DecidableEq

end RpcTools
