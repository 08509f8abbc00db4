/-
Module: RpcTools.Pool
Purpose: Consistent sets of descriptor files, and the schema that they describe.
Main exports: Pool, Pool.ofFiles, Pool.fieldsOf, Pool.protoFile, Pool.schema,
  Pool.schemaOf
-/
import RpcTools.Error
import RpcTools.Pool.Consistency
import RpcTools.Schema.FieldName

namespace RpcTools

/-- Files that violate no condition. -/
structure Pool where
  files : List Descriptor.File
  consistent : Descriptor.inconsistencies files = []

namespace Pool

/-- The pool of a set of files. -/
def ofFiles (files : List Descriptor.File) : Except Error Pool :=
  match faultsEq : Descriptor.inconsistencies files with
  | [] => .ok ⟨files, faultsEq⟩
  | fault :: _ => .error (.invalidDescriptor (.inconsistent fault.message))

/-- The first file at a path. -/
def fileAt? (pool : Pool) (path : String) : Option Descriptor.File :=
  Descriptor.fileAt? pool.files path

/-- The view from a file of the pool. -/
def viewFrom (pool : Pool) (file : Descriptor.File) : Viewpoint :=
  .ofFile pool.files (Names.ofFiles pool.files) file

/-- The view from the file at a path; from where there is no file nothing can be used. -/
def viewFromPath (pool : Pool) (path : String) : Viewpoint :=
  match pool.fileAt? path with
  | some file => pool.viewFrom file
  | none => ⟨Names.ofFiles pool.files, []⟩

/-! ### Fields -/

/-- How generated code refers to a declared type. -/
def reference (declaration : Declaration) : TypeReference :=
  ⟨exportedName declaration.fullName declaration.package, declaration.path⟩

/-- What one value of a field is.  In a pool every field has a type. -/
def elementType (type : Option ResolvedType) : ElementType :=
  match type with
  | some (.scalar scalarType) => .scalar scalarType
  | some (.message declaration _) => .message (reference declaration)
  | some (.enumeration declaration _) => .enumeration (reference declaration)
  | none => .scalar .double

/-- Whether a type is that of a map's entries. -/
def isMapEntry (type : Option ResolvedType) : Bool :=
  match type with
  | some (.message _ message) => message.options.flagWithin .message "map_entry"
  | _ => false

/-- The field that a descriptor describes, its type being known. -/
def fieldOf (field : Descriptor.Field) (type : Option ResolvedType) : Field where
  propertyName := propertyName field.name
  elementType := elementType type
  isOptional := field.proto3Optional
  isRepeated := field.label = .repeated && !isMapEntry type
  isMap := field.label = .repeated && isMapEntry type

/-- Puts a field in front of the first one with a greater number. -/
def insertByNumber (field : Descriptor.Field) : List Descriptor.Field → List Descriptor.Field
  | [] => [field]
  | head :: rest =>
      if field.number < head.number then field :: head :: rest
      else head :: insertByNumber field rest

/-- The fields in the order of their numbers. -/
def sortByNumber : List Descriptor.Field → List Descriptor.Field
  | [] => []
  | field :: rest => insertByNumber field (sortByNumber rest)

/-- The fields of a message as they look from a place, in the order of their numbers. -/
def fieldsFrom (view : Viewpoint) (fullName : String) (message : Descriptor.Message) :
    List Field :=
  (sortByNumber message.fields).map fun field =>
    fieldOf field (view.fieldType? (Descriptor.qualified fullName field.name) field)

/-- The fields of a message that is referred to.  Their types are looked up from the file
that declares the message. -/
def fieldsOf (pool : Pool) (found : Option (Declaration × Descriptor.Message)) :
    List Field :=
  match found with
  | some (declaration, message) =>
      fieldsFrom (pool.viewFromPath declaration.path) declaration.fullName message
  | none => []

/-! ### Services and files -/

/-- The method that a descriptor describes; `view` is that of its file. -/
def methodOf (pool : Pool) (view : Viewpoint) (service : String) (method : Descriptor.Method) :
    Method :=
  let fullName := Descriptor.qualified service method.name
  { name := method.name
    convention := .ofStreaming method.clientStreaming method.serverStreaming
    inputFields := pool.fieldsOf (view.message? fullName method.inputType)
    outputFields := pool.fieldsOf (view.message? fullName method.outputType) }

/-- The service that a descriptor describes. -/
def serviceOf (pool : Pool) (view : Viewpoint) (package : String)
    (service : Descriptor.Service) : Service where
  name := service.name
  methods :=
    service.methods.map (pool.methodOf view (Descriptor.qualified package service.name))

/-- What a file of the pool tells about services. -/
def protoFile (pool : Pool) (file : Descriptor.File) : ProtoFile where
  path := file.path
  services := file.services.map (pool.serviceOf (pool.viewFrom file) file.package)

/-- The schema of all files, in their order. -/
def schema (pool : Pool) : List ProtoFile :=
  pool.files.map pool.protoFile

/-- The file of the schema at a path. -/
def requested (pool : Pool) (path : String) : Except Error ProtoFile :=
  match pool.fileAt? path with
  | some file => .ok (pool.protoFile file)
  | none => .error (.invalidDescriptor (.requestedFileMissing path))

/-- The schema of the files at the given paths, in their order. -/
def schemaOf (pool : Pool) (paths : List String) : Except Error (List ProtoFile) :=
  paths.mapM pool.requested

end Pool

end RpcTools
