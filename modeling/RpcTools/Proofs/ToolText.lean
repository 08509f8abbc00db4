/-
Module: RpcTools.Proofs.ToolText
Purpose: The text of a tool and of the statements that it executes, put together line by
  line, and the agreement of the built-in templates with it.
Main exports: executeLines, plainBody?, plainOutcome, toolLiteral, bodyOf_builtIn,
  toolOf_builtIn, Tool.render_builtIn
-/
import RpcTools.Proofs.BuiltInTemplates
import RpcTools.Tool.OfMethod

namespace RpcTools

/-! ### The statements of a tool -/

/-- The lines that take one argument out of the parameters. -/
def bindingLines (name : String) : String :=
  String.join
    ["                // @ts-ignore\n",
     "                const ", name, " = params.", name, ";\n"]

/-- The lines that await one call and pack its result. -/
def unaryCallLines (methodName callName : String) (arguments : List String) : String :=
  String.join
    ["                const ret = await client.", callName,
     "(", Text.joinWith ", " arguments, ");\n",
     "                const result: \x7b content: any[]; details: string \x7d = \x7b\n",
     "                    content: [\x7b type: \"text\", text: JSON.stringify(ret) \x7d],\n",
     "                    details: \"Result of ", methodName, " method.\",\n",
     "                \x7d;\n",
     "                return result;\n"]

/-- The lines that iterate a stream and pack every element. -/
def streamCallLines (methodName callName : String) (arguments : List String) : String :=
  String.join
    ["                const result: \x7b content: any[]; details: string \x7d = \x7b\n",
     "                    content: [],\n",
     "                    details: \"Result of ", methodName, " method.\",\n",
     "                \x7d;\n",
     "                for await (const item of client.", callName,
     "(", Text.joinWith ", " arguments, ")) \x7b\n",
     "                    result.content.push(\x7b type: \"text\", ",
     "text: JSON.stringify(item) \x7d);\n",
     "                \x7d\n",
     "                return result;\n"]

/-- What a tool executes up to the last brace: the client, the arguments, the call, and
the release of the client. -/
def executePieces (invocation : Invocation) (methodName callName : String)
    (arguments : List String) (isStreamList : Bool) : List String :=
  ["            const client = ", invocation.clientFactory,
   "((params as \x7b accountId: string \x7d).accountId);\n",
   "            try \x7b\n",
   String.join (arguments.map bindingLines),
   if isStreamList then streamCallLines methodName callName arguments
   else unaryCallLines methodName callName arguments,
   "            \x7d finally \x7b\n",
   "                client.", invocation.clientCloseMethod, "();\n"]

/-- All that a tool executes.  No line break stands at the end. -/
def executeLines (invocation : Invocation) (methodName callName : String)
    (arguments : List String) (isStreamList : Bool) : String :=
  String.join (executePieces invocation methodName callName arguments isStreamList) ++
    "            \x7d"

/-- The statements of a method's tool, for a form that has any. -/
def plainBody? (invocation : Invocation) (methodName callName : String)
    (arguments : List String) : BodyForm → Option String
  | .unary => some (executeLines invocation methodName callName arguments false)
  | .streamList => some (executeLines invocation methodName callName arguments true)
  | .notYetSupported => none

/-- The names of a call's arguments: every field of the request, optional or not. -/
def Method.argumentNames (method : Method) : List String :=
  method.inputFields.map (·.propertyName)

/-! ### Tools -/

/-- What becomes of a method, its statements put together line by line. -/
def plainOutcome (invocation : Invocation) (service : String) (method : Method) :
    MethodOutcome :=
  let names := ToolNames.ofMethod service method.name
  match parametersOf method with
  | .error fault => .skipped (.unsupportedField fault)
  | .ok parameters =>
      match plainBody? invocation method.name names.callName method.argumentNames
          (CallPattern.ofMethod method).bodyForm with
      | none => .skipped (.notYetSupported method.convention)
      | some body =>
          .tool
            { name := names.callName
              label := names.label
              description := s!"rpc service: {service}, method: {method.name}"
              parameters
              body }

def parameterText (parameter : Parameter) : String :=
  String.join [parameter.name, ": ", parameter.type.text]

def toolPieces (tool : Tool) : List String :=
  ["    \x7b\n",
   "        name: \"", tool.name, "\",\n",
   "        label: \"", tool.label, "\",\n",
   "        description: \"", tool.description, "\",\n",
   "        parameters: Type.Object(\x7b ",
   Text.joinWith ", " (tool.parameters.map parameterText),
   " \x7d),\n",
   "        async execute(_id: string, params: unknown) \x7b\n",
   tool.body, "\n",
   "        \x7d,\n",
   "    \x7d"]

/-- The text of a tool. -/
def toolLiteral (tool : Tool) : String :=
  String.join (toolPieces tool)

/-! ### Members of the value at hand -/

section Members

variable {scope : Scope} {members : List (String × Json)} {arguments : List String}

theorem render_item (scope : Scope) :
    BuiltIn.item.render scope = .ok scope.here.inserted :=
  render_value rfl

theorem resolve?_member {key : String} {value : Json} (here : scope.here = .object members)
    (found : Json.lookup? key members = some value) :
    scope.resolve? (.inScope 0 [key]) = some value := by
  simp [Scope.resolve?, here, Json.follow?, Json.below?, found]

theorem render_member {key : String} {value : Json} (here : scope.here = .object members)
    (found : Json.lookup? key members = some value) :
    (BuiltIn.member key).render scope = .ok value.inserted :=
  render_value (resolve?_member here found)

theorem render_argumentList (here : scope.here = .object members)
    (found : Json.lookup? "arguments" members = some (.ofStrings arguments)) :
    BuiltIn.argumentList.render scope = .ok (Text.joinWith ", " arguments) := by
  have separated :
      (TemplateNode.each (.inScope 0 ["arguments"])
        ([BuiltIn.item] ++ [BuiltIn.commaUnlessLast]) none).render scope =
          .ok (Text.joinWith ", " (arguments.map id)) := by
    apply render_each_with_commas (resolve?_member here found)
    intro argument _ turn here
    have single : Renders turn [BuiltIn.item] [argument] :=
      .cons (by rw [render_item, here, Json.inserted]) .nil
    simpa using single.renderNodes_eq
  rwa [List.map_id] at separated

/-- A loop over the arguments binds each of them. -/
theorem render_bindings (here : scope.here = .object members)
    (found : Json.lookup? "arguments" members = some (.ofStrings arguments)) :
    (BuiltIn.eachOf "arguments"
      [.text "                // @ts-ignore\n",
       .text "                const ", BuiltIn.item, .text " = params.", BuiltIn.item,
       .text ";\n"]).render scope = .ok (String.join (arguments.map bindingLines)) := by
  apply render_each_of_map (resolve?_member here found)
  intro argument _ turn here
  have item : BuiltIn.item.render turn = .ok argument := by
    rw [render_item, here, Json.inserted]
  apply Renders.renderNodes_eq
  simp [Renders, List.forall₂_cons, item]

end Members

/-! ### Bodies -/

section Bodies

variable (invocation : Invocation) (method : Method) (callName : String)
  (isStreamList : Bool)

/-- The place at which the statements of a tool are rendered. -/
def bodyScope : Scope :=
  .ofContext (contextOfBody invocation method callName isStreamList)

/-- What the statements of a tool can refer to. -/
def bodyMembers : List (String × Json) :=
  [("method_name", .string method.name),
   ("call_name", .string callName),
   ("arguments", .ofStrings method.argumentNames),
   ("is_stream_list", .bool isStreamList),
   ("client_factory", .string invocation.clientFactory),
   ("client_close_method", .string invocation.clientCloseMethod)]

theorem here_bodyScope :
    (bodyScope invocation method callName isStreamList).here =
      .object (bodyMembers invocation method callName isStreamList) :=
  rfl

theorem lookup?_arguments :
    Json.lookup? "arguments" (bodyMembers invocation method callName isStreamList) =
      some (.ofStrings method.argumentNames) := by
  simp [bodyMembers, Json.lookup?]

theorem render_argumentList_bodyScope :
    BuiltIn.argumentList.render (bodyScope invocation method callName isStreamList) =
      .ok (Text.joinWith ", " method.argumentNames) :=
  render_argumentList (here_bodyScope invocation method callName isStreamList)
    (lookup?_arguments invocation method callName isStreamList)

theorem renderNodes_unaryLines :
    renderNodes (bodyScope invocation method callName isStreamList) BuiltIn.unaryLines =
      .ok (unaryCallLines method.name callName method.argumentNames) := by
  have here := here_bodyScope invocation method callName isStreamList
  have names := render_argumentList_bodyScope invocation method callName isStreamList
  apply Renders.renderNodes_eq
  simp [Renders, BuiltIn.unaryLines, render_member here, names, bodyMembers,
    Json.lookup?, Json.inserted]

theorem renderNodes_streamLines :
    renderNodes (bodyScope invocation method callName isStreamList) BuiltIn.streamLines =
      .ok (streamCallLines method.name callName method.argumentNames) := by
  have here := here_bodyScope invocation method callName isStreamList
  have names := render_argumentList_bodyScope invocation method callName isStreamList
  apply Renders.renderNodes_eq
  simp [Renders, BuiltIn.streamLines, render_member here, names, bodyMembers,
    Json.lookup?, Json.inserted]

/-- The choice between the two calls follows the form of the method. -/
theorem render_call :
    (TemplateNode.choice (.inScope 0 ["is_stream_list"]) true BuiltIn.streamLines
      BuiltIn.unaryLines).render (bodyScope invocation method callName isStreamList) =
      .ok (if isStreamList then streamCallLines method.name callName method.argumentNames
        else unaryCallLines method.name callName method.argumentNames) := by
  have form :
      (bodyScope invocation method callName isStreamList).resolve?
        (.inScope 0 ["is_stream_list"]) = some (.bool isStreamList) :=
    resolve?_member (here_bodyScope invocation method callName isStreamList)
      (by simp [bodyMembers, Json.lookup?])
  rw [render_choice form, renderNodes_streamLines, renderNodes_unaryLines]
  cases isStreamList <;> simp [Json.isTruthy]

theorem renders_executeTemplate :
    Renders (bodyScope invocation method callName isStreamList) BuiltIn.executeTemplate
      (executePieces invocation method.name callName method.argumentNames isStreamList ++
        ["            \x7d\n"]) := by
  have here := here_bodyScope invocation method callName isStreamList
  have bindings :=
    render_bindings here (lookup?_arguments invocation method callName isStreamList)
  have call := render_call invocation method callName isStreamList
  simp [Renders, BuiltIn.executeTemplate, executePieces, bindings, call, render_member here,
    bodyMembers, Json.lookup?, Json.inserted]

theorem render_executeName :
    TemplateStore.builtIn.render BuiltIn.executeName
      (contextOfBody invocation method callName isStreamList) =
        .ok (String.join
          (executePieces invocation method.name callName method.argumentNames isStreamList) ++
            "            \x7d\n") := by
  have rendered :=
    (renders_executeTemplate invocation method callName isStreamList).renderNodes_eq
  rw [String.join_append] at rendered
  simpa using TemplateStore.builtIn_render TemplateStore.find?_executeName rendered

/-- Behind the last brace only the line break is white space, so nothing else is cut
off. -/
theorem trimEnd_append_brace (text : String) :
    Text.trimEnd (text ++ "            \x7d\n") = text ++ "            \x7d" := by
  have blank : Text.isBlank '\n' = true := by decide
  have brace : Text.isBlank '\x7d' = false := by decide
  apply String.toList_injective
  simp [Text.dropBlanksEnd, Text.dropBlanks, blank, brace]

/-- With the built-in templates every method whose form has a body gets the plain one. -/
theorem bodyOf_builtIn (form : BodyForm) :
    bodyOf TemplateStore.builtIn invocation method callName form =
      .ok (plainBody? invocation method.name callName method.argumentNames form) := by
  cases form with
  | unary =>
      simp only [bodyOf, render_executeName]
      exact congrArg (fun body => Except.ok (some body)) (trimEnd_append_brace _)
  | streamList =>
      simp only [bodyOf, render_executeName]
      exact congrArg (fun body => Except.ok (some body)) (trimEnd_append_brace _)
  | notYetSupported => rfl

/-- With the built-in templates assembling a method never fails. -/
theorem toolOf_builtIn (service : String) :
    toolOf TemplateStore.builtIn invocation service method =
      .ok (plainOutcome invocation service method) := by
  rw [toolOf, plainOutcome]
  cases parametersOf method with
  | error fault => rfl
  | ok parameters =>
      simp only [bodyOf_builtIn]
      cases plainBody? invocation method.name (ToolNames.ofMethod service method.name).callName
        method.argumentNames (CallPattern.ofMethod method).bodyForm with
      | none => rfl
      | some body => rfl

end Bodies

/-! ### The text of a tool -/

section Tools

variable (tool : Tool)

theorem render_parameters :
    (BuiltIn.eachOf "parameters"
      [BuiltIn.member "name", .text ": ", BuiltIn.member "type_expr",
       BuiltIn.commaUnlessLast]).render (Scope.ofContext tool.context) =
        .ok (Text.joinWith ", " (tool.parameters.map parameterText)) := by
  have resolved :
      (Scope.ofContext tool.context).resolve? (.inScope 0 ["parameters"]) =
        some (.array (tool.parameters.map fun parameter =>
          .object
            [("name", .string parameter.name),
             ("type_expr", .string parameter.type.text)])) :=
    resolve?_member rfl (by simp [Json.lookup?])
  have separated :
      (TemplateNode.each (.inScope 0 ["parameters"])
        ([BuiltIn.member "name", .text ": ", BuiltIn.member "type_expr"] ++
          [BuiltIn.commaUnlessLast]) none).render (Scope.ofContext tool.context) =
          .ok (Text.joinWith ", " (tool.parameters.map parameterText)) := by
    apply render_each_with_commas resolved
    intro parameter _ turn here
    apply Renders.renderNodes_eq
    -- Inside the loop `name` is the parameter's and not the tool's.
    simp [Renders, render_member here, Json.lookup?, Json.inserted]
  exact separated

/-- With the built-in templates the text of a tool is the plain one. -/
theorem Tool.render_builtIn :
    tool.render TemplateStore.builtIn = .ok (toolLiteral tool) := by
  have parameters := render_parameters tool
  have rendered :
      Renders (Scope.ofContext tool.context) BuiltIn.toolTemplate (toolPieces tool) := by
    have here : (Scope.ofContext tool.context).here = .object _ := rfl
    simp [Renders, BuiltIn.toolTemplate, toolPieces, parameters, render_member here,
      Json.lookup?, Json.inserted]
  exact TemplateStore.builtIn_render TemplateStore.find?_toolName rendered.renderNodes_eq

end Tools

end RpcTools
