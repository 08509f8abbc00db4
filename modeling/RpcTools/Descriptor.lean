/-
Module: RpcTools.Descriptor
Purpose: Descriptors: protobuf schemas as compilers hand them over.
Main exports: Descriptor.Field, Descriptor.Enumeration, Descriptor.Message,
  Descriptor.Method, Descriptor.Service, Descriptor.File, Descriptor.Request
-/
import RpcTools.Descriptor.Options

namespace RpcTools.Descriptor

/-- How many values a field holds. -/
inductive Label where
  | optional
  | required
  | repeated
deriving Repr, DecidableEq

/-- The label with a code; without one, and with any other, a field is optional. -/
def Label.ofCode : Option Int → Label
  | some 2 => .required
  | some 3 => .repeated
  | _ => .optional

/-- A field of a message, or an extension. -/
structure Field where
  name : String
  number : Int
  label : Label
  /-- The code of the type, which counts where no type is named. -/
  typeCode : Option Int
  /-- The name of a message or enum, as it was written; empty if there is none. -/
  typeName : String
  /-- The message that is extended, by the name that was written. -/
  extendee : String
  defaultValue : Option String
  oneofIndex : Option Int
  jsonName : Option String
  /-- The field carries the `optional` marker of syntax 3. -/
  proto3Optional : Bool
  options : Options
deriving Repr, DecidableEq

/-- Numbers from a start up to an end. -/
structure NumberRange where
  start : Int
  stop : Int
deriving Repr, DecidableEq

namespace NumberRange

/-- Whether a number lies in the range, the end not being part of it. -/
def contains (range : NumberRange) (number : Int) : Bool :=
  range.start ≤ number && number < range.stop

/-- Whether a number lies in the range, the end being part of it. -/
def containsOrEnds (range : NumberRange) (number : Int) : Bool :=
  range.start ≤ number && number ≤ range.stop

end NumberRange

/-- Numbers that extensions of a message may have. -/
structure ExtensionRange where
  range : NumberRange
  options : Options
deriving Repr, DecidableEq

structure Oneof where
  name : String
  options : Options
deriving Repr, DecidableEq

structure EnumValue where
  name : String
  number : Int
  options : Options
deriving Repr, DecidableEq

structure Enumeration where
  name : String
  values : List EnumValue
  /-- Numbers that no value may have, ends included. -/
  reservedRanges : List NumberRange
  options : Options
deriving Repr, DecidableEq

structure Message where
  name : String
  fields : List Field
  oneofs : List Oneof
  nested : List Message
  enumerations : List Enumeration
  extensions : List Field
  extensionRanges : List ExtensionRange
  /-- Numbers that no field may have, ends excluded. -/
  reservedRanges : List NumberRange
  options : Options
deriving Repr

structure Method where
  name : String
  /-- The message that is sent, by the name that was written. -/
  inputType : String
  /-- The message that comes back, by the name that was written. -/
  outputType : String
  clientStreaming : Bool
  serverStreaming : Bool
  options : Options
deriving Repr, DecidableEq

structure Service where
  name : String
  methods : List Method
  options : Options
deriving Repr, DecidableEq

structure File where
  path : String
  package : String
  /-- The paths of the files that this one imports. -/
  dependencies : List String
  /-- Which of the imports are passed on, by index. -/
  publicDependencies : List Int
  /-- Which of the imports are weak, by index. -/
  weakDependencies : List Int
  messages : List Message
  enumerations : List Enumeration
  services : List Service
  extensions : List Field
  options : Options
  /-- The name of the syntax; without one it is `proto2`. -/
  syntaxName : Option String
deriving Repr

/-- What a compiler asks a plugin to do. -/
structure Request where
  /-- The paths of the files to generate for. -/
  filesToGenerate : List String
  parameter : Option String
  /-- The files to generate for and all that they import. -/
  files : List File
deriving Repr

end RpcTools.Descriptor
