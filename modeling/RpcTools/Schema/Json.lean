/-
Module: RpcTools.Schema.Json
Purpose: The JSON form of a schema, written and read.
Main exports: Field.toJson, Field.ofJson?, Method.toJson, Method.ofJson?,
  Service.ofJson?, ProtoFile.toJson, ProtoFile.ofJson?
-/
import RpcTools.Json
import RpcTools.Schema

namespace RpcTools

namespace TypeReference

/-- The keys of a reference. -/
def keys : List String := ["name", "file"]

def toJson (reference : TypeReference) : Json :=
  .object [("name", .string reference.name), ("file", .string reference.file)]

def ofJson? (value : Json) : Option TypeReference := do
  let members ← value.record? keys
  let name ← (← Json.lookup? "name" members).asString?
  let file ← (← Json.lookup? "file" members).asString?
  pure { name, file }

end TypeReference

namespace ElementType

/-- The form is told apart by its `type`. -/
def toJson : ElementType → Json
  | .scalar scalarType =>
      .object [("type", .string "scalar"), ("scalar", .string scalarType.keyword)]
  | .message reference => .object [("type", .string "message"), ("reference", reference.toJson)]
  | .enumeration reference => .object [("type", .string "enum"), ("reference", reference.toJson)]

/-- Reads what is told apart by its `type`; a scalar type's keyword may be the key of an
object that holds nothing else. -/
def ofJson? (value : Json) : Option ElementType := do
  let (tag, fields) ← value.tagged? "type"
  match ← tag.asString? with
  | "scalar" =>
      let members ← fields.record? ["scalar"]
      let keyword ← (← Json.lookup? "scalar" members).asVariant? Json.isNullOrBare
      return .scalar (← ScalarType.ofKeyword? keyword)
  | "message" =>
      let members ← fields.record? ["reference"]
      return .message (← TypeReference.ofJson? (← Json.lookup? "reference" members))
  | "enum" =>
      let members ← fields.record? ["reference"]
      return .enumeration (← TypeReference.ofJson? (← Json.lookup? "reference" members))
  | _ => none

end ElementType

namespace Field

/-- The keys of a field. -/
def keys : List String := ["local_name", "field_type", "is_optional", "is_repeated", "is_map"]

def toJson (field : Field) : Json :=
  .object
    [("local_name", .string field.propertyName),
     ("field_type", field.elementType.toJson),
     ("is_optional", .bool field.isOptional),
     ("is_repeated", .bool field.isRepeated),
     ("is_map", .bool field.isMap)]

/-- Reads a field; `is_map` may be left out and is false then. -/
def ofJson? (value : Json) : Option Field := do
  let members ← value.record? keys
  let propertyName ← (← Json.lookup? "local_name" members).asString?
  let elementType ← ElementType.ofJson? (← Json.lookup? "field_type" members)
  let isOptional ← (← Json.lookup? "is_optional" members).asBool?
  let isRepeated ← (← Json.lookup? "is_repeated" members).asBool?
  let isMap ← ((Json.lookup? "is_map" members).getD (.bool false)).asBool?
  pure { propertyName, elementType, isOptional, isRepeated, isMap }

end Field

namespace Method

/-- The keys of a method. -/
def keys : List String := ["name", "call_kind", "input_fields", "output_fields"]

def toJson (method : Method) : Json :=
  .object
    [("name", .string method.name),
     ("call_kind", .string method.convention.word),
     ("input_fields", .array (method.inputFields.map Field.toJson)),
     ("output_fields", .array (method.outputFields.map Field.toJson))]

def ofJson? (value : Json) : Option Method := do
  let members ← value.record? keys
  let name ← (← Json.lookup? "name" members).asString?
  let word ← (← Json.lookup? "call_kind" members).asVariant? Json.isNull
  let convention ← CallingConvention.ofWord? word
  let inputFields ← (← (← Json.lookup? "input_fields" members).asList?).mapM Field.ofJson?
  let outputFields ← (← (← Json.lookup? "output_fields" members).asList?).mapM Field.ofJson?
  pure { name, convention, inputFields, outputFields }

end Method

namespace Service

/-- The keys of a service. -/
def keys : List String := ["name", "methods"]

def toJson (service : Service) : Json :=
  .object
    [("name", .string service.name), ("methods", .array (service.methods.map Method.toJson))]

def ofJson? (value : Json) : Option Service := do
  let members ← value.record? keys
  let name ← (← Json.lookup? "name" members).asString?
  let methods ← (← (← Json.lookup? "methods" members).asList?).mapM Method.ofJson?
  pure { name, methods }

end Service

namespace ProtoFile

/-- The keys of a file. -/
def keys : List String := ["path", "services"]

def toJson (file : ProtoFile) : Json :=
  .object
    [("path", .string file.path), ("services", .array (file.services.map Service.toJson))]

def ofJson? (value : Json) : Option ProtoFile := do
  let members ← value.record? keys
  let path ← (← Json.lookup? "path" members).asString?
  let services ← (← (← Json.lookup? "services" members).asList?).mapM Service.ofJson?
  pure { path, services }

end ProtoFile

/-- The JSON form of a list of files. -/
def schemaToJson (files : List ProtoFile) : Json :=
  .array (files.map ProtoFile.toJson)

/-- Reads a list of files. -/
def schemaOfJson? (value : Json) : Option (List ProtoFile) := do
  (← value.asList?).mapM ProtoFile.ofJson?

end RpcTools
