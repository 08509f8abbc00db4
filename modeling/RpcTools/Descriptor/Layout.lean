/-
Module: RpcTools.Descriptor.Layout
Purpose: Which fields the messages have that descriptors are written as.
Main exports: MessageKind, MessageKind.shapeOf
-/
import RpcTools.Descriptor.Options

namespace RpcTools.Descriptor

open Wire (Shape)

/-- The messages that descriptors are written as. -/
inductive MessageKind where
  | fileSet
  | request
  | compilerVersion
  | file
  | message
  | field
  | extensionRange
  | reservedRange
  | oneof
  | enumeration
  | enumValue
  | service
  | method
  | options (scope : OptionScope)
  | uninterpretedOption
  | optionNamePart
  | sourceInfo
  | sourceLocation
deriving Repr, DecidableEq

/-- The shape of an option's value. -/
def OptionType.shape : OptionType → Shape MessageKind
  | .flag | .choice _ => .number
  | .text => .text

/-- The shape of a field, if a message of the kind has one with that number. -/
def MessageKind.shapeOf : MessageKind → Nat → Option (Shape MessageKind)
  | .fileSet, 1 => some (.message .file)
  | .request, 1 | .request, 2 => some .text
  | .request, 15 => some (.message .file)
  | .request, 3 => some (.message .compilerVersion)
  | .compilerVersion, 1 | .compilerVersion, 2 | .compilerVersion, 3 => some .number
  | .compilerVersion, 4 => some .text
  | .file, 1 | .file, 2 | .file, 3 | .file, 12 => some .text
  | .file, 10 | .file, 11 => some .numbers
  | .file, 4 => some (.message .message)
  | .file, 5 => some (.message .enumeration)
  | .file, 6 => some (.message .service)
  | .file, 7 => some (.message .field)
  | .file, 8 => some (.message (.options .file))
  | .file, 9 => some (.message .sourceInfo)
  | .message, 1 | .message, 10 => some .text
  | .message, 2 | .message, 6 => some (.message .field)
  | .message, 3 => some (.message .message)
  | .message, 4 => some (.message .enumeration)
  | .message, 5 => some (.message .extensionRange)
  | .message, 7 => some (.message (.options .message))
  | .message, 8 => some (.message .oneof)
  | .message, 9 => some (.message .reservedRange)
  | .field, 1 | .field, 2 | .field, 6 | .field, 7 | .field, 10 => some .text
  | .field, 3 | .field, 4 | .field, 5 | .field, 9 | .field, 17 => some .number
  | .field, 8 => some (.message (.options .field))
  | .extensionRange, 1 | .extensionRange, 2 => some .number
  | .extensionRange, 3 => some (.message (.options .extensionRange))
  | .reservedRange, 1 | .reservedRange, 2 => some .number
  | .oneof, 1 => some .text
  | .oneof, 2 => some (.message (.options .oneof))
  | .enumeration, 1 | .enumeration, 5 => some .text
  | .enumeration, 2 => some (.message .enumValue)
  | .enumeration, 3 => some (.message (.options .enumeration))
  | .enumeration, 4 => some (.message .reservedRange)
  | .enumValue, 1 => some .text
  | .enumValue, 2 => some .number
  | .enumValue, 3 => some (.message (.options .enumValue))
  | .service, 1 => some .text
  | .service, 2 => some (.message .method)
  | .service, 3 => some (.message (.options .service))
  | .method, 1 | .method, 2 | .method, 3 => some .text
  | .method, 4 => some (.message (.options .method))
  | .method, 5 | .method, 6 => some .number
  | .options scope, number =>
      if number = 999 then some (.message .uninterpretedOption)
      else (scope.known.find? (·.number == number)).map (·.type.shape)
  | .uninterpretedOption, 2 => some (.message .optionNamePart)
  | .uninterpretedOption, 3 | .uninterpretedOption, 8 => some .text
  | .uninterpretedOption, 4 | .uninterpretedOption, 5 => some .number
  | .uninterpretedOption, 6 => some .eightBytes
  | .uninterpretedOption, 7 => some .bytes
  | .optionNamePart, 1 => some .text
  | .optionNamePart, 2 => some .number
  | .sourceInfo, 1 => some (.message .sourceLocation)
  | .sourceLocation, 1 | .sourceLocation, 2 => some .numbers
  | .sourceLocation, 3 | .sourceLocation, 4 | .sourceLocation, 6 => some .text
  | _, _ => none

end RpcTools.Descriptor
