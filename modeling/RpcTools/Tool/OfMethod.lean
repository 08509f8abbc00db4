/-
Module: RpcTools.Tool.OfMethod
Purpose: From a method to its tool: what the tool executes, and the text of the tool.
Main exports: bodyOf, toolOf, Tool.context, Tool.render
-/
import RpcTools.CallPattern
import RpcTools.Config
import RpcTools.Tool.Names
import RpcTools.Template.Store
import RpcTools.Text.Blank
import RpcTools.Tool

namespace RpcTools

/-- What the statements of a tool are rendered over. -/
def contextOfBody (invocation : Invocation) (method : Method) (callName : String)
    (isStreamList : Bool) : Json :=
  .object
    [("method_name", .string method.name),
     ("call_name", .string callName),
     ("arguments", .ofStrings (method.inputFields.map (·.propertyName))),
     ("is_stream_list", .bool isStreamList),
     ("client_factory", .string invocation.clientFactory),
     ("client_close_method", .string invocation.clientCloseMethod)]

/-- The statements that a method's tool executes, for a form that has any.  White space
at the end does not belong to them. -/
def bodyOf (store : TemplateStore) (invocation : Invocation) (method : Method)
    (callName : String) (form : BodyForm) : Except Error (Option String) :=
  let rendered (isStreamList : Bool) : Except Error (Option String) := do
    let text ←
      store.render BuiltIn.executeName (contextOfBody invocation method callName isStreamList)
    pure (some (Text.trimEnd text))
  match form with
  | .unary => rendered false
  | .streamList => rendered true
  | .notYetSupported => .ok none

/-- The tool of a method, or the reason why there is none: first a field without a
parameter type, then a calling convention without an invocation. -/
def toolOf (store : TemplateStore) (invocation : Invocation) (service : String)
    (method : Method) : Except Error MethodOutcome :=
  let pattern := CallPattern.ofMethod method
  let names := ToolNames.ofMethod service method.name
  match parametersOf method with
  | .error fault => .ok (.skipped (.unsupportedField fault))
  | .ok parameters => do
      match ← bodyOf store invocation method names.callName pattern.bodyForm with
      | none => pure (.skipped (.notYetSupported pattern.convention))
      | some body =>
          pure (.tool
            { name := names.callName
              label := names.label
              description := s!"rpc service: {service}, method: {method.name}"
              parameters
              body })

namespace Tool

/-- What the text of a tool is rendered over. -/
def context (tool : Tool) : Json :=
  .object
    [("name", .string tool.name),
     ("label", .string tool.label),
     ("description", .string tool.description),
     ("parameters", .array (tool.parameters.map fun parameter =>
       .object
         [("name", .string parameter.name), ("type_expr", .string parameter.type.text)])),
     ("body", .string tool.body)]

/-- The text of a tool. -/
def render (store : TemplateStore) (tool : Tool) : Except Error String :=
  store.render BuiltIn.toolName tool.context

end Tool

end RpcTools
