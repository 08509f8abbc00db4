/-
Module: RpcTools.Tool
Purpose: Tools, and why a method makes none.
Main exports: Parameter, Tool, Obstacle, MethodOutcome, parametersOf
-/
import RpcTools.Json
import RpcTools.ParameterType

namespace RpcTools

/-- One parameter of a tool. -/
structure Parameter where
  name : String
  type : ParameterType
deriving Repr, Inhabited, DecidableEq

/-- What an agent can call: one method of a service. -/
structure Tool where
  name : String
  label : String
  description : String
  /-- The account comes first, then what the method asks for, in order. -/
  parameters : List Parameter
  /-- The statements that the tool executes. -/
  body : String
deriving Repr, Inhabited, DecidableEq

/-- Why a method makes no tool. -/
inductive Obstacle where
  /-- A field that has to be given has no parameter type. -/
  | unsupportedField (fault : FieldFault)
  /-- There is no invocation for the method's calling convention. -/
  | notYetSupported (convention : CallingConvention)
deriving Repr, DecidableEq

namespace Obstacle

/-- The reason in words. -/
def text : Obstacle → String
  | .unsupportedField fault => s!"unsupported field '{fault.field}': {fault.reason}"
  | .notYetSupported convention => convention.word ++ " methods are not supported yet"

def toJson : Obstacle → Json
  | .unsupportedField fault =>
      .object
        [("kind", .string "unsupported_field"), ("field", .string fault.field),
         ("reason", .string fault.reason)]
  | .notYetSupported convention =>
      .object [("kind", .string "not_yet_supported"), ("call_kind", .string convention.word)]

end Obstacle

/-- What became of a method. -/
inductive MethodOutcome where
  | tool (tool : Tool)
  | skipped (reason : Obstacle)
deriving Repr, DecidableEq

/-- The parameter that every tool has. -/
def accountParameter : Parameter := ⟨"accountId", .string⟩

/-- The parameter for a field. -/
def parameterOf (field : Field) : Except FieldFault Parameter := do
  let type ← ParameterType.ofField field
  pure ⟨field.propertyName, type⟩

/-- The parameters of a method's tool: the account, then every field of the request
that does not carry the `optional` marker.  The first field without a parameter type is
the answer if there is one. -/
def parametersOf (method : Method) : Except FieldFault (List Parameter) := do
  let parameters ← (method.inputFields.filter (!·.isOptional)).mapM parameterOf
  pure (accountParameter :: parameters)

end RpcTools
