/-
Module: RpcTools.Pool.Consistency
Purpose: The conditions that a set of descriptor files has to meet.
Main exports: Inconsistency, Inconsistency.message, Descriptor.inconsistencies
-/
import RpcTools.Descriptor.DefaultValue
import RpcTools.Pool.Resolution
import RpcTools.Violation

namespace RpcTools

/-- A condition that a set of descriptor files violates. -/
inductive Inconsistency where
  | repeatedFile
  | repeatedName
  | unknownSyntax (path : String)
  | missingImport (path dependency : String)
  | importIndex (path : String)
  | fieldNumber (field : String)
  | repeatedFieldNumber (message : String)
  | repeatedJsonName (message : String)
  | similarFieldNames (message : String)
  | oneofIndex (field : String)
  | unresolvedName (declaration name : String)
  | defaultValue (field : String)
  | emptyEnumeration (enumeration : String)
  | repeatedEnumNumber (enumeration : String)
  | reservedEnumNumber (enumeration : String)
  | firstEnumNumber (enumeration : String)
  | option (declaration : String)
deriving Repr, DecidableEq

def Inconsistency.message : Inconsistency → String
  | .repeatedFile => "two files have the same path"
  | .repeatedName => "two declarations have the same full name"
  | .unknownSyntax path => s!"'{path}' has an unknown syntax"
  | .missingImport path dependency => s!"'{path}' imports '{dependency}', which is missing"
  | .importIndex path => s!"'{path}' has no import with an index that it names"
  | .fieldNumber field => s!"'{field}' has a number that it cannot have"
  | .repeatedFieldNumber message => s!"two fields of '{message}' have the same number"
  | .repeatedJsonName message => s!"two fields of '{message}' have the same name in JSON"
  | .similarFieldNames message =>
      s!"two fields of '{message}' differ in nothing but case and underscores"
  | .oneofIndex field => s!"'{field}' is part of a oneof that does not exist"
  | .unresolvedName declaration name => s!"'{name}' in '{declaration}' refers to nothing"
  | .defaultValue field => s!"'{field}' cannot have the default value that it has"
  | .emptyEnumeration enumeration => s!"'{enumeration}' has no values"
  | .repeatedEnumNumber enumeration => s!"two values of '{enumeration}' have the same number"
  | .reservedEnumNumber enumeration => s!"'{enumeration}' uses a number that it reserves"
  | .firstEnumNumber enumeration => s!"the first value of '{enumeration}' is not 0"
  | .option declaration => s!"'{declaration}' has an option that means nothing"

namespace Descriptor

/-- Whether syntax 3 is declared. -/
def File.isProto3 (file : File) : Bool :=
  file.syntaxName == some "proto3"

/-- Options all of which mean something. -/
def optionFaults (scope : OptionScope) (declaration : String) (options : Options) :
    List Inconsistency :=
  violation (options.interpreted? scope).isNone (.option declaration)

/-! ### Files and names -/

def File.importFaults (files : List File) (file : File) : List Inconsistency :=
  (file.dependencies.flatMap fun dependency =>
      violation (fileAt? files dependency).isNone (.missingImport file.path dependency)) ++
    (file.publicDependencies ++ file.weakDependencies).flatMap fun index =>
      violation (file.importAt? index).isNone (.importIndex file.path)

def File.syntaxFaults (file : File) : List Inconsistency :=
  match file.syntaxName with
  | none | some "proto2" | some "proto3" => []
  | some _ => [.unknownSyntax file.path]

/-- Names have to be distinct; only packages may be named again as packages. -/
def nameFaults (names : Names) : List Inconsistency :=
  let declared := names.declarations.map (·.fullName)
  violation (!decide declared.Nodup || declared.any names.packages.contains) .repeatedName

/-! ### Fields -/

/-- Whether any field may have a number. -/
def isFieldNumber (number : Int) : Bool :=
  1 ≤ number && number ≤ 536870911 && !(19000 ≤ number && number ≤ 19999)

/-- A default value has to be one of the field's type; messages have none. -/
def defaultFaults (fullName : String) (field : Field) (type : ResolvedType) :
    List Inconsistency :=
  match field.defaultValue with
  | none => []
  | some text =>
      let spelled :=
        match type with
        | .scalar scalarType => spellsScalar scalarType text
        | .message _ _ => false
        | .enumeration _ enumeration => enumeration.values.any (·.name == text)
      violation (!spelled) (.defaultValue fullName)

/-- A type that refers to something, and a default value of it. -/
def typeFaults (view : Viewpoint) (fullName : String) (field : Field) : List Inconsistency :=
  match view.fieldType? fullName field with
  | none => [.unresolvedName fullName field.typeName]
  | some type => defaultFaults fullName field type

/-- Whether a message has a oneof with an index. -/
def Message.hasOneof (message : Message) (index : Int) : Bool :=
  0 ≤ index && index.toNat < message.oneofs.length

/-- Whether a field of a message may have a number. -/
def Message.acceptsNumber (message : Message) (number : Int) : Bool :=
  isFieldNumber number && !message.reservedRanges.any (·.contains number) &&
    !message.extensionRanges.any (·.range.contains number)

def fieldFaults (view : Viewpoint) (message : Message) (fullName : String) (field : Field) :
    List Inconsistency :=
  violation (!message.acceptsNumber field.number) (.fieldNumber fullName) ++
    (match field.oneofIndex with
      | none => []
      | some index => violation (!message.hasOneof index) (.oneofIndex fullName)) ++
    typeFaults view fullName field ++
    optionFaults .field fullName field.options

def extensionFaults (view : Viewpoint) (fullName : String) (extension : Field) :
    List Inconsistency :=
  (match view.message? fullName extension.extendee with
    | none => [.unresolvedName fullName extension.extendee]
    | some (_, extendee) =>
        violation
          (!(isFieldNumber extension.number &&
            extendee.extensionRanges.any (·.range.contains extension.number)))
          (.fieldNumber fullName)) ++
    typeFaults view fullName extension ++
    optionFaults .field fullName extension.options

/-! ### Messages, enums and services -/

/-- The name that a field has in JSON. -/
def Field.nameInJson (field : Field) : String :=
  field.jsonName.getD (jsonNameOf field.name)

def messageFaults (view : Viewpoint) (isProto3 : Bool) (fullName : String)
    (message : Message) : List Inconsistency :=
  violation (!decide (message.fields.map (·.number)).Nodup) (.repeatedFieldNumber fullName) ++
    violation (!decide (message.fields.map (·.nameInJson)).Nodup)
      (.repeatedJsonName fullName) ++
    violation (isProto3 && !decide (message.fields.map fun field => foldedName field.name).Nodup)
      (.similarFieldNames fullName) ++
    (message.fields.flatMap fun field =>
      fieldFaults view message (qualified fullName field.name) field) ++
    (message.oneofs.flatMap fun oneof =>
      optionFaults .oneof (qualified fullName oneof.name) oneof.options) ++
    (message.extensionRanges.flatMap fun range =>
      optionFaults .extensionRange fullName range.options) ++
    optionFaults .message fullName message.options

def enumerationFaults (isProto3 : Bool) (scope : String) (enumeration : Enumeration) :
    List Inconsistency :=
  let fullName := qualified scope enumeration.name
  let numbers := enumeration.values.map (·.number)
  violation numbers.isEmpty (.emptyEnumeration fullName) ++
    violation
      (!enumeration.options.flagWithin .enumeration "allow_alias" && !decide numbers.Nodup)
      (.repeatedEnumNumber fullName) ++
    violation
      (numbers.any fun number => enumeration.reservedRanges.any (·.containsOrEnds number))
      (.reservedEnumNumber fullName) ++
    violation (isProto3 && numbers.head?.any (· != 0)) (.firstEnumNumber fullName) ++
    (enumeration.values.flatMap fun value =>
      optionFaults .enumValue (qualified scope value.name) value.options) ++
    optionFaults .enumeration fullName enumeration.options

def methodFaults (view : Viewpoint) (fullName : String) (method : Method) :
    List Inconsistency :=
  ([method.inputType, method.outputType].flatMap fun name =>
      violation (view.message? fullName name).isNone (.unresolvedName fullName name)) ++
    optionFaults .method fullName method.options

def serviceFaults (view : Viewpoint) (scope : String) (service : Service) :
    List Inconsistency :=
  let fullName := qualified scope service.name
  (service.methods.flatMap fun method =>
      methodFaults view (qualified fullName method.name) method) ++
    optionFaults .service fullName service.options

/-! ### The whole set -/

/-- The conditions that one of the files violates. -/
def File.faults (files : List File) (names : Names) (file : File) : List Inconsistency :=
  let view := Viewpoint.ofFile files names file
  file.syntaxFaults ++ file.importFaults files ++
    (file.allMessages.flatMap fun (fullName, message) =>
      messageFaults view file.isProto3 fullName message) ++
    (file.allEnumerations.flatMap fun (scope, enumeration) =>
      enumerationFaults file.isProto3 scope enumeration) ++
    file.services.flatMap (serviceFaults view file.package) ++
    (file.allExtensions.flatMap fun (fullName, extension) =>
      extensionFaults view fullName extension) ++
    optionFaults .file file.path file.options

/-- The conditions that a set of files violates. -/
def inconsistencies (files : List File) : List Inconsistency :=
  let names := Names.ofFiles files
  violation (!decide (files.map (·.path)).Nodup) .repeatedFile ++ nameFaults names ++
    files.flatMap (File.faults files names)

end Descriptor

end RpcTools
