/-
Module: RpcTools.Descriptor.Options
Purpose: The options that descriptors carry, set or still to be interpreted.
Main exports: OptionScope, KnownOption, OptionScope.known, Options, Options.flag,
  Options.interpreted?
-/
import RpcTools.Wire.Fields

namespace RpcTools.Descriptor

open Wire (Bytes)

/-- What options can be about. -/
inductive OptionScope where
  | file
  | message
  | field
  | oneof
  | enumeration
  | enumValue
  | extensionRange
  | service
  | method
deriving Repr, DecidableEq

/-- What the value of an option is. -/
inductive OptionType where
  | flag
  | text
  /-- One of the values with the given names. -/
  | choice (names : List String)
deriving Repr, DecidableEq

/-- An option that descriptors define themselves. -/
structure KnownOption where
  number : Nat
  name : String
  type : OptionType
deriving Repr, DecidableEq

/-- The options that there are. -/
def OptionScope.known : OptionScope → List KnownOption
  | .file =>
      [⟨1, "java_package", .text⟩,
       ⟨8, "java_outer_classname", .text⟩,
       ⟨10, "java_multiple_files", .flag⟩,
       ⟨20, "java_generate_equals_and_hash", .flag⟩,
       ⟨27, "java_string_check_utf8", .flag⟩,
       ⟨9, "optimize_for", .choice ["SPEED", "CODE_SIZE", "LITE_RUNTIME"]⟩,
       ⟨11, "go_package", .text⟩,
       ⟨16, "cc_generic_services", .flag⟩,
       ⟨17, "java_generic_services", .flag⟩,
       ⟨18, "py_generic_services", .flag⟩,
       ⟨42, "php_generic_services", .flag⟩,
       ⟨23, "deprecated", .flag⟩,
       ⟨31, "cc_enable_arenas", .flag⟩,
       ⟨36, "objc_class_prefix", .text⟩,
       ⟨37, "csharp_namespace", .text⟩,
       ⟨39, "swift_prefix", .text⟩,
       ⟨40, "php_class_prefix", .text⟩,
       ⟨41, "php_namespace", .text⟩,
       ⟨44, "php_metadata_namespace", .text⟩,
       ⟨45, "ruby_package", .text⟩]
  | .message =>
      [⟨1, "message_set_wire_format", .flag⟩,
       ⟨2, "no_standard_descriptor_accessor", .flag⟩,
       ⟨3, "deprecated", .flag⟩,
       ⟨7, "map_entry", .flag⟩]
  | .field =>
      [⟨1, "ctype", .choice ["STRING", "CORD", "STRING_PIECE"]⟩,
       ⟨2, "packed", .flag⟩,
       ⟨6, "jstype", .choice ["JS_NORMAL", "JS_STRING", "JS_NUMBER"]⟩,
       ⟨5, "lazy", .flag⟩,
       ⟨3, "deprecated", .flag⟩,
       ⟨10, "weak", .flag⟩]
  | .enumeration => [⟨2, "allow_alias", .flag⟩, ⟨3, "deprecated", .flag⟩]
  | .enumValue => [⟨1, "deprecated", .flag⟩]
  | .service => [⟨33, "deprecated", .flag⟩]
  | .method =>
      [⟨33, "deprecated", .flag⟩,
       ⟨34, "idempotency_level",
         .choice ["IDEMPOTENCY_UNKNOWN", "NO_SIDE_EFFECTS", "IDEMPOTENT"]⟩]
  | .oneof | .extensionRange => []

/-- The value that an option is set to. -/
inductive OptionValue where
  | flag (value : Bool)
  | text (value : String)
  /-- Nothing depends on which choice is made. -/
  | choice
deriving Repr, DecidableEq

/-- One part of an option's name. -/
structure OptionNamePart where
  text : String
  /-- The part names an extension. -/
  isExtension : Bool
deriving Repr, DecidableEq

/-- An option as it was written in a schema.  Values of other kinds than an identifier
and a text are left out, as no known option takes one. -/
structure UninterpretedOption where
  name : List OptionNamePart
  identifier : Option String
  text : Option Bytes
deriving Repr, DecidableEq

/-- The value that an option's text gives it, if it is one of the option's type. -/
def UninterpretedOption.value? (option : UninterpretedOption) :
    OptionType → Option OptionValue
  | .flag =>
      match option.identifier with
      | some "true" => some (.flag true)
      | some "false" => some (.flag false)
      | _ => none
  | .text => (option.text.bind Wire.text?).map .text
  | .choice names =>
      match option.identifier with
      | some name => if names.contains name then some .choice else none
      | none => none

/-- The options of one descriptor. -/
structure Options where
  settings : List (String × OptionValue)
  uninterpreted : List UninterpretedOption
deriving Repr, DecidableEq

namespace Options

/-- No options at all. -/
def empty : Options := ⟨[], []⟩

instance : Inhabited Options := ⟨empty⟩

def isSet (options : Options) (name : String) : Bool :=
  options.settings.any (·.1 == name)

/-- Whether a flag is set and true. -/
def flag (options : Options) (name : String) : Bool :=
  options.settings.any fun (setting, value) => setting == name && value = .flag true

/-- The options with one more interpreted.  Its name has to be that of a known option
that is not set yet, and its value of that option's type. -/
def interpret? (scope : OptionScope) (options : Options) (option : UninterpretedOption) :
    Option Options :=
  match option.name with
  | [⟨name, false⟩] =>
      match scope.known.find? (·.name == name) with
      | none => none
      | some known =>
          if options.isSet name then none
          else
            (option.value? known.type).map fun value =>
              { options with settings := options.settings ++ [(name, value)] }
  | _ => none

/-- The options with everything interpreted. -/
def interpreted? (scope : OptionScope) (options : Options) : Option Options :=
  options.uninterpreted.foldlM (interpret? scope) ⟨options.settings, []⟩

/-- Whether a flag is true, be it set or written and to be interpreted. -/
def flagWithin (scope : OptionScope) (options : Options) (name : String) : Bool :=
  match options.interpreted? scope with
  | some options => options.flag name
  | none => false

end Options

end RpcTools.Descriptor
