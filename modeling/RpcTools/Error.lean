/-
Module: RpcTools.Error
Purpose: What can go wrong, the words for it, and the exit status that answers it.
Main exports: FileFault, DescriptorFault, ConfigFault, TemplateFault, ArgumentFault,
  FieldFault, Error, Error.message, ExitStatus, Error.exitStatus
-/
import RpcTools.Text.Segments

namespace RpcTools

/-- Why a file could not be read or written. -/
inductive FileFault where
  | notFound
  | alreadyExists
  | notADirectory
  | isADirectory
  | noSpace
  | nameTooLong
  | nulInPath
  | notUtf8
  | other (detail : String)
deriving Repr, DecidableEq

/-- The system's words for a fault. -/
def FileFault.message : FileFault → String
  | .notFound => "No such file or directory (os error 2)"
  | .alreadyExists => "File exists (os error 17)"
  | .notADirectory => "Not a directory (os error 20)"
  | .isADirectory => "Is a directory (os error 21)"
  | .noSpace => "No space left on device (os error 28)"
  | .nameTooLong => "File name too long (os error 36)"
  | .nulInPath => "file name contained an unexpected NUL byte"
  | .notUtf8 => "stream did not contain valid UTF-8"
  | .other detail => detail

/-- Why a set of descriptors makes no schema. -/
inductive DescriptorFault where
  /-- The descriptors contradict one another or name what is not there. -/
  | inconsistent (detail : String)
  /-- A file that is to be generated for is not among the descriptors. -/
  | requestedFileMissing (path : String)
deriving Repr, DecidableEq

def DescriptorFault.message : DescriptorFault → String
  | .inconsistent detail => detail
  | .requestedFileMissing path => s!"file to generate '{path}' is not in the request"

/-- Why a configuration cannot be used. -/
inductive ConfigFault where
  /-- The text is no configuration: no TOML, an unknown key or a value of a wrong type. -/
  | unreadable (detail : String)
  | blank (key : String)
  | outputOutside (path : String)
  | headerNotOneLine
  | noIdentifier (key value : String)
  | quotesOrNewlines (key : String)
  /-- The designated command file is not part of the schema. -/
  | commandFileAbsent (path : String)
  | other (detail : String)
deriving Repr, DecidableEq

def ConfigFault.message : ConfigFault → String
  | .unreadable detail => s!"failed to parse config: {detail}"
  | .blank key => s!"{key} cannot be empty"
  | .outputOutside path => s!"output_file must be a relative path without '..': '{path}'"
  | .headerNotOneLine => "file_header must be a single line"
  | .noIdentifier key value => s!"{key} is not a valid identifier: '{value}'"
  | .quotesOrNewlines key => s!"{key} cannot contain quotes or newlines"
  | .commandFileAbsent path => s!"command file '{path}' is not among the input files"
  | .other detail => detail

/-- Why a template cannot be used. -/
inductive TemplateFault where
  | registration (name detail : String)
  | rendering (name detail : String)
  | other (detail : String)
deriving Repr, DecidableEq

def TemplateFault.message : TemplateFault → String
  | .registration name detail => s!"Failed to register template '{name}': {detail}"
  | .rendering name detail => s!"Failed to render '{name}': {detail}"
  | .other detail => detail

/-- Why an argument is refused. -/
inductive ArgumentFault where
  | unknownFormat (text : String) (known : List String)
  | optionWithoutValue (entry : String)
  | optionBlank (key : String)
  | optionUnknown (key : String)
  | optionRepeated (key : String)
  | other (detail : String)
deriving Repr, DecidableEq

def ArgumentFault.message : ArgumentFault → String
  | .unknownFormat text known =>
      "unknown output format '" ++ text ++ "' (expected one of: " ++
        Text.joinWith ", " known ++ ")"
  | .optionWithoutValue entry => s!"invalid plugin option '{entry}' (expected key=value)"
  | .optionBlank key => s!"plugin option '{key}' has an empty value"
  | .optionUnknown key =>
      s!"unknown plugin option '{key}' (expected: config, command_file, output)"
  | .optionRepeated key => s!"plugin option '{key}' given more than once"
  | .other detail => detail

/-- A field for which there is no parameter type. -/
structure FieldFault where
  field : String
  reason : String
deriving Repr, DecidableEq

/-- Everything that can go wrong. -/
inductive Error where
  /-- Bytes are no encoding of the message `what`. -/
  | descriptorDecode (what detail : String)
  | invalidDescriptor (fault : DescriptorFault)
  | unsupportedField (fault : FieldFault)
  /-- Several files could be the command file. -/
  | ambiguousCommandFile (pattern : String) (candidates : List String)
  | config (fault : ConfigFault)
  | template (fault : TemplateFault)
  | invalidArgument (fault : ArgumentFault)
  | io (path : String) (fault : FileFault)
deriving Repr, DecidableEq

namespace Error

/-- The words for an error. -/
def message : Error → String
  | .descriptorDecode what detail => s!"Failed to decode {what}: {detail}"
  | .invalidDescriptor fault => "Invalid descriptor set: " ++ fault.message
  | .unsupportedField fault => s!"Unsupported field '{fault.field}': {fault.reason}"
  | .ambiguousCommandFile pattern candidates =>
      "Ambiguous command file: " ++ toString candidates.length ++ " files match '" ++ pattern ++
        "' (" ++ Text.joinWith ", " candidates ++ ")"
  | .config fault => "Configuration error: " ++ fault.message
  | .template fault => "Template error: " ++ fault.message
  | .invalidArgument fault => "Invalid argument: " ++ fault.message
  | .io path fault => s!"I/O error on {path}: {fault.message}"

/-- The words for an error and for what caused it, which only a fault of the file
system has as a cause of its own. -/
def messageWithCause (error : Error) : String :=
  match error with
  | .io _ fault => error.message ++ ": " ++ fault.message
  | _ => error.message

/-- Whether the input could not be decoded or resolved. -/
def isDescriptorError : Error → Bool
  | .descriptorDecode _ _ | .invalidDescriptor _ => true
  | _ => false

def isUnsupportedField : Error → Bool
  | .unsupportedField _ => true
  | _ => false

def isAmbiguousCommandFile : Error → Bool
  | .ambiguousCommandFile _ _ => true
  | _ => false

def isConfigError : Error → Bool
  | .config _ => true
  | _ => false

def isTemplateError : Error → Bool
  | .template _ => true
  | _ => false

end Error

/-- The status that a program ends with. -/
inductive ExitStatus where
  /-- The run was completed. -/
  | success
  /-- Generation, a template or the file system failed. -/
  | failure
  /-- Arguments or configuration are invalid. -/
  | invalidInput
  /-- The schema is unreadable or ambiguous. -/
  | schemaError
deriving Repr, DecidableEq

namespace ExitStatus

/-- The number that the system sees. -/
def code : ExitStatus → Nat
  | .success => 0
  | .failure => 1
  | .invalidInput => 2
  | .schemaError => 3

def isSuccess (status : ExitStatus) : Bool :=
  status = .success

end ExitStatus

/-- The exit status that answers an error. -/
def Error.exitStatus : Error → ExitStatus
  | .descriptorDecode _ _ | .invalidDescriptor _ | .ambiguousCommandFile _ _ => .schemaError
  | .config _ | .invalidArgument _ => .invalidInput
  | .unsupportedField _ | .template _ | .io _ _ => .failure

/-- No error ends in success. -/
theorem Error.exitStatus_ne_success (error : Error) : error.exitStatus ≠ .success := by
  cases error <;> simp [exitStatus]

end RpcTools
