/-
Module: RpcTools.Descriptor.Reader
Purpose: Reading descriptors from their binary form.
Main exports: Descriptor.fileSet?, Descriptor.request?, Descriptor.readFileSet,
  Descriptor.readRequest
-/
import RpcTools.Descriptor
import RpcTools.Descriptor.Layout
import RpcTools.Error

/-!
Reading has two steps.  `Wire.fields?` decides whether the bytes are a message of its
kind at all; what follows picks the fields apart and cannot fail.
-/

namespace RpcTools.Descriptor

open Wire (Bytes Fields Value)

/-- A text field, or the empty text if nothing is written. -/
def textOf (fields : Fields) (number : Nat) : String :=
  (fields.text? number).getD ""

/-! ### Options -/

def OptionNamePart.ofFields (fields : Fields) : OptionNamePart where
  text := textOf fields 1
  isExtension := fields.flag 2

def UninterpretedOption.ofFields (fields : Fields) : UninterpretedOption where
  name := (fields.messages 2).map OptionNamePart.ofFields
  identifier := fields.text? 3
  text := (fields.byteStrings 7).getLast?

/-- What an option is set to, if it is set. -/
def KnownOption.setting? (fields : Fields) (known : KnownOption) :
    Option (String × OptionValue) :=
  match known.type with
  | .flag => (fields.number? known.number).map fun value => (known.name, .flag (value != 0))
  | .text => (fields.text? known.number).map fun text => (known.name, .text text)
  | .choice _ => (fields.number? known.number).map fun _ => (known.name, .choice)

def Options.ofFields (scope : OptionScope) (fields : Fields) : Options where
  settings := scope.known.filterMap (·.setting? fields)
  uninterpreted := (fields.messages 999).map UninterpretedOption.ofFields

/-! ### Fields, enums and services -/

def Field.ofFields (fields : Fields) : Field where
  name := textOf fields 1
  number := fields.int32 3
  label := .ofCode (fields.int32? 4)
  typeCode := fields.int32? 5
  typeName := textOf fields 6
  extendee := textOf fields 2
  defaultValue := fields.text? 7
  oneofIndex := fields.int32? 9
  jsonName := fields.text? 10
  proto3Optional := fields.flag 17
  options := .ofFields .field (fields.merged 8)

def NumberRange.ofFields (fields : Fields) : NumberRange where
  start := fields.int32 1
  stop := fields.int32 2

def ExtensionRange.ofFields (fields : Fields) : ExtensionRange where
  range := .ofFields fields
  options := .ofFields .extensionRange (fields.merged 3)

def Oneof.ofFields (fields : Fields) : Oneof where
  name := textOf fields 1
  options := .ofFields .oneof (fields.merged 2)

def EnumValue.ofFields (fields : Fields) : EnumValue where
  name := textOf fields 1
  number := fields.int32 2
  options := .ofFields .enumValue (fields.merged 3)

def Enumeration.ofFields (fields : Fields) : Enumeration where
  name := textOf fields 1
  values := (fields.messages 2).map EnumValue.ofFields
  reservedRanges := (fields.messages 4).map NumberRange.ofFields
  options := .ofFields .enumeration (fields.merged 3)

def Method.ofFields (fields : Fields) : Method where
  name := textOf fields 1
  inputType := textOf fields 2
  outputType := textOf fields 3
  clientStreaming := fields.flag 5
  serverStreaming := fields.flag 6
  options := .ofFields .method (fields.merged 4)

def Service.ofFields (fields : Fields) : Service where
  name := textOf fields 1
  methods := (fields.messages 2).map Method.ofFields
  options := .ofFields .service (fields.merged 3)

/-! ### Messages and files -/

/-- A message whose nested messages are already read. -/
def Message.ofFieldsWith (fields : Fields) (nested : List Message) : Message where
  name := textOf fields 1
  fields := (fields.messages 2).map Field.ofFields
  oneofs := (fields.messages 8).map Oneof.ofFields
  nested
  enumerations := (fields.messages 4).map Enumeration.ofFields
  extensions := (fields.messages 6).map Field.ofFields
  extensionRanges := (fields.messages 5).map ExtensionRange.ofFields
  reservedRanges := (fields.messages 9).map NumberRange.ofFields
  options := .ofFields .message (fields.merged 7)

mutual

/-- The messages in the field with the given number, their own messages included; a
message keeps its messages in its field 3. -/
def messagesIn (number : Nat) : List (Nat × Value) → List Message
  | [] => []
  | field :: rest => messageIn number field ++ messagesIn number rest

/-- The message in one field, if it is one with the given number. -/
def messageIn (number : Nat) : Nat × Value → List Message
  | (found, value) => if found = number then messageOf value else []

/-- The message that a value is, if it is one. -/
def messageOf : Value → List Message
  | .message fields => [.ofFieldsWith fields (messagesIn 3 fields)]
  | .number _ | .text _ | .bytes _ => []

end

def File.ofFields (fields : Fields) : File where
  path := textOf fields 1
  package := textOf fields 2
  dependencies := fields.texts 3
  publicDependencies := (fields.numbers 10).map Fields.signed32
  weakDependencies := (fields.numbers 11).map Fields.signed32
  messages := messagesIn 4 fields
  enumerations := (fields.messages 5).map Enumeration.ofFields
  services := (fields.messages 6).map Service.ofFields
  extensions := (fields.messages 7).map Field.ofFields
  options := .ofFields .file (fields.merged 8)
  syntaxName := fields.text? 12

/-- How many levels deep messages may be nested. -/
def depthLimit : Nat := 100

/-- The files of a set, if the bytes are one. -/
def fileSet? (bytes : Bytes) : Option (List File) :=
  (Wire.fields? MessageKind.shapeOf depthLimit .fileSet bytes).map fun fields =>
    (fields.messages 1).map File.ofFields

/-- The request that the bytes are. -/
def request? (bytes : Bytes) : Option Request :=
  (Wire.fields? MessageKind.shapeOf depthLimit .request bytes).map fun fields =>
    { filesToGenerate := fields.texts 1
      parameter := fields.text? 2
      files := (fields.messages 15).map File.ofFields }

/-- Reads a set of files. -/
def readFileSet (bytes : Bytes) : Except Error (List File) :=
  match fileSet? bytes with
  | some files => .ok files
  | none => .error (.descriptorDecode "FileDescriptorSet" "the bytes are no such message")

/-- Reads a request. -/
def readRequest (bytes : Bytes) : Except Error Request :=
  match request? bytes with
  | some request => .ok request
  | none => .error (.descriptorDecode "CodeGeneratorRequest" "the bytes are no such message")

end RpcTools.Descriptor
