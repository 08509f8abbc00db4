/-
Module: RpcTools.Config.Validation
Purpose: The conditions that a configuration has to meet.
Main exports: isIdentifier, Invocation.faults, Invocation.validate, Config.faults,
  Config.validate
-/
import RpcTools.Config
import RpcTools.Error
import RpcTools.Text.Blank
import RpcTools.Violation

/-!
The conditions stand in a fixed order.  `faults` lists those that are violated, in that
order, and `validate` reports the first.
-/

namespace RpcTools

/-- Whether a character may start an identifier. -/
def isIdentifierStart (character : Char) : Bool :=
  character.isAlpha || character = '_' || character = '$'

/-- Whether a character may go on with an identifier. -/
def isIdentifierPart (character : Char) : Bool :=
  character.isAlphanum || character = '_' || character = '$'

/-- Whether a text is an identifier within ASCII. -/
def isIdentifier (text : String) : Bool :=
  match text.toList with
  | [] => false
  | first :: rest => isIdentifierStart first && rest.all isIdentifierPart

/-- A value that may not be blank. -/
def blankFaults (key value : String) : List ConfigFault :=
  violation (Text.allBlank value) (.blank key)

/-- A value that has to be an identifier. -/
def identifierFaults (key value : String) : List ConfigFault :=
  violation (!isIdentifier value) (.noIdentifier key value)

/-- A value that is put between double quotes. -/
def literalFaults (key value : String) : List ConfigFault :=
  blankFaults key value ++
    violation (value.toList.any fun c => c = '"' || c = '\n') (.quotesOrNewlines key)

namespace Invocation

/-- The conditions that an invocation violates, in order. -/
def faults (invocation : Invocation) : List ConfigFault :=
  invocation.identifiers.flatMap (fun (key, value) => identifierFaults key value) ++
    invocation.clientNamespaces.flatMap (identifierFaults "invocation.client_namespaces") ++
    invocation.literals.flatMap fun (key, value) => literalFaults key value

/-- Accepts an invocation that violates no condition; else names the first. -/
def validate (invocation : Invocation) : Except Error Unit :=
  match invocation.faults with
  | [] => .ok ()
  | fault :: _ => .error (.config fault)

end Invocation

namespace Config

/-- Whether a path leads out of the directory that it is taken from. -/
def leadsOutside (path : String) : Bool :=
  Text.contains path ".." || "/".toList.isPrefixOf path.toList

/-- The conditions that a configuration violates, in order. -/
def faults (config : Config) : List ConfigFault :=
  blankFaults "services_marker" config.servicesMarker ++
    blankFaults "command_file_pattern" config.commandFilePattern ++
    blankFaults "output_file" config.outputFile ++
    violation (leadsOutside config.outputFile) (.outputOutside config.outputFile) ++
    violation (config.fileHeader.toList.contains '\n') .headerNotOneLine ++
    (match config.commandFile with
      | none => []
      | some commandFile => blankFaults "command_file" commandFile) ++
    config.invocation.faults

/-- Accepts a configuration that violates no condition; else names the first. -/
def validate (config : Config) : Except Error Unit :=
  match config.faults with
  | [] => .ok ()
  | fault :: _ => .error (.config fault)

/-! ### Small laws -/

theorem validate_eq_ok_iff (config : Config) :
    config.validate = .ok () ↔ config.faults = [] := by
  unfold validate
  cases config.faults <;> simp

theorem default_faults : default.faults = [] := by
  decide +kernel

/-- Whoever says nothing gets a valid configuration. -/
theorem default_validate : default.validate = .ok () :=
  (validate_eq_ok_iff default).2 default_faults

end Config

end RpcTools
