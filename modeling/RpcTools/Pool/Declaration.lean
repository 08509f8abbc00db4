/-
Module: RpcTools.Pool.Declaration
Purpose: Everything that files declare, with full names.
Main exports: Declared, Declaration, Descriptor.messagesWithin,
  Descriptor.File.allMessages, Descriptor.File.declarations, Names
-/
import RpcTools.Descriptor
import RpcTools.Descriptor.Name

namespace RpcTools

/-- What a full name can stand for, packages apart. -/
inductive Declared where
  | message (message : Descriptor.Message)
  | enumeration (enumeration : Descriptor.Enumeration)
  | field
  | oneof
  | enumValue
  | service
  | method
  | extension
deriving Repr

namespace Declared

/-- Whether names may be declared below this one. -/
def isParent : Declared → Bool
  | .message _ | .enumeration _ | .service => true
  | .field | .oneof | .enumValue | .method | .extension => false

def isMessage : Declared → Bool
  | .message _ => true
  | _ => false

/-- Whether a field can have this as its type. -/
def isType : Declared → Bool
  | .message _ | .enumeration _ => true
  | _ => false

end Declared

/-- Something declared under a full name by the file at a path, which belongs to a
package. -/
structure Declaration where
  fullName : String
  declared : Declared
  path : String
  package : String
deriving Repr

namespace Descriptor

mutual

/-- A message declared in a scope and all messages inside it, each with its full name. -/
def messageWithin (scope : String) : Message → List (String × Message)
  | message@(.mk name _ _ nested _ _ _ _ _) =>
      (qualified scope name, message) :: messagesWithin (qualified scope name) nested

/-- The messages declared in a scope and all messages inside them. -/
def messagesWithin (scope : String) : List Message → List (String × Message)
  | [] => []
  | message :: rest => messageWithin scope message ++ messagesWithin scope rest

end

namespace File

/-- Every message of a file, with its full name. -/
def allMessages (file : File) : List (String × Message) :=
  messagesWithin file.package file.messages

/-- Every enum of a file, with the scope that it is declared in. -/
def allEnumerations (file : File) : List (String × Enumeration) :=
  file.enumerations.map (fun enumeration => (file.package, enumeration)) ++
    file.allMessages.flatMap fun (fullName, message) =>
      message.enumerations.map fun enumeration => (fullName, enumeration)

/-- Every extension of a file, with its full name. -/
def allExtensions (file : File) : List (String × Field) :=
  file.extensions.map (fun extension => (qualified file.package extension.name, extension)) ++
    file.allMessages.flatMap fun (fullName, message) =>
      message.extensions.map fun extension => (qualified fullName extension.name, extension)

/-- What a message declares, nested messages and enums apart. -/
def memberNames (fullName : String) (message : Message) : List (String × Declared) :=
  (message.fields.map fun field => (qualified fullName field.name, .field)) ++
    message.oneofs.map fun oneof => (qualified fullName oneof.name, .oneof)

/-- What the declaration of an enum in a scope declares.  Values are siblings of their
enum. -/
def enumerationNames (scope : String) (enumeration : Enumeration) :
    List (String × Declared) :=
  (qualified scope enumeration.name, .enumeration enumeration) ::
    enumeration.values.map fun value => (qualified scope value.name, .enumValue)

/-- What the declaration of a service in a scope declares. -/
def serviceNames (scope : String) (service : Service) : List (String × Declared) :=
  (qualified scope service.name, .service) ::
    service.methods.map fun method =>
      (qualified (qualified scope service.name) method.name, .method)

/-- Everything that a file declares, with full names. -/
def declaredNames (file : File) : List (String × Declared) :=
  (file.allMessages.map fun (fullName, message) => (fullName, .message message)) ++
    file.allMessages.flatMap (fun (fullName, message) => memberNames fullName message) ++
    file.allEnumerations.flatMap (fun (scope, enumeration) =>
      enumerationNames scope enumeration) ++
    file.services.flatMap (serviceNames file.package) ++
    file.allExtensions.map fun (fullName, _) => (fullName, .extension)

/-- The declarations of a file. -/
def declarations (file : File) : List Declaration :=
  file.declaredNames.map fun (fullName, declared) =>
    ⟨fullName, declared, file.path, file.package⟩

end File

end Descriptor

/-- The names of a set of files. -/
structure Names where
  declarations : List Declaration
  packages : List String

namespace Names

def ofFiles (files : List Descriptor.File) : Names where
  declarations := files.flatMap (·.declarations)
  packages := files.flatMap fun file => Descriptor.packagePath file.package

/-- Whether names may be declared below a name. -/
def isParent (names : Names) (fullName : String) : Bool :=
  names.packages.contains fullName ||
    names.declarations.any fun declaration =>
      declaration.fullName == fullName && declaration.declared.isParent

end Names

end RpcTools
