/-
Module: RpcTools.Template.BuiltIn
Purpose: The templates that tool modules are written with.
Main exports: BuiltIn.moduleName, BuiltIn.toolName, BuiltIn.executeName,
  BuiltIn.moduleText, BuiltIn.toolText, BuiltIn.executeText, BuiltIn.texts,
  BuiltIn.moduleTemplate, BuiltIn.toolTemplate, BuiltIn.executeTemplate
-/
import RpcTools.Template

/-!
Each template stands here twice: as the text that is filed, and part by part.  In the
parts every line has its own text, and the tags that have a line for themselves are gone.
-/

namespace RpcTools.BuiltIn

/-- The name of the template of a whole module. -/
def moduleName : String := "agent_tools/module"

/-- The name of the template of one tool. -/
def toolName : String := "agent_tools/tool"

/-- The name of the template of the statements that a tool executes. -/
def executeName : String := "agent_tools/execute"

/-! ### The texts -/

/-- A tag as templates write it. -/
def tag (content : String) : String := "\x7b\x7b" ++ content ++ "\x7d\x7d"

/-- The text of the template of a whole module. -/
def moduleText : String :=
  String.join
    ["// ", tag "file_header", "\n",
     "import \x7b ", tag "invocation.runtime_accessor", " \x7d from \"",
       tag "invocation.runtime_import", "\";\n",
     "import \x7b ", tag "invocation.resolved_account_type", ", ",
       tag "invocation.account_resolver", " \x7d from \"", tag "invocation.accounts_import",
       "\";\n",
     "import \x7b ", tag "invocation.config_type", " \x7d from \"",
       tag "invocation.types_import", "\";\n",
     "import \x7b ", tag "invocation.client_type", tag "#each invocation.client_namespaces",
       ", ", tag "this", tag "/each", " \x7d from \"", tag "invocation.client_package",
       "\";\n",
     "import \x7b Type \x7d from \"", tag "invocation.schema_package", "\";\n",
     "\n",
     "function ", tag "invocation.client_factory", "(accountId: string): ",
       tag "invocation.client_type", " \x7b\n",
     "    const runtime = ", tag "invocation.runtime_accessor", "();\n",
     "    const config = runtime.config.loadConfig();\n",
     "\n",
     "    // fall back to the default account when this one is unconfigured or incomplete\n",
     "    let account: ", tag "invocation.resolved_account_type", " = ",
       tag "invocation.account_resolver", "(\x7b cfg: config as ",
       tag "invocation.config_type", ", accountId \x7d);\n",
     "    if (!account || !account.", tag "invocation.server_url_field", " || !account.",
       tag "invocation.client_key_field", ") \x7b\n",
     "        account = ", tag "invocation.account_resolver", "(\x7b cfg: config as ",
       tag "invocation.config_type", ", accountId: \"", tag "invocation.default_account_id",
       "\" \x7d);\n",
     "    \x7d\n",
     "    return new ", tag "invocation.client_type", "(\x7b clientKey: account.",
       tag "invocation.client_key_field", ", serverUrl: account.",
       tag "invocation.server_url_field", " \x7d);\n",
     "\x7d\n",
     "\n",
     "export const ", tag "invocation.tools_export", " = [\n",
     tag "#each sections", "\n",
     "    /*\n",
     "    ** ", tag "service_name", "\n",
     "    */\n",
     tag "#each tools", "\n",
     tag "this", ",\n",
     tag "/each", "\n",
     tag "/each", "\n",
     "];\n"]

/-- The text of the template of one tool. -/
def toolText : String :=
  String.join
    ["    \x7b\n",
     "        name: \"", tag "name", "\",\n",
     "        label: \"", tag "label", "\",\n",
     "        description: \"", tag "description", "\",\n",
     "        parameters: Type.Object(\x7b ", tag "#each parameters", tag "name", ": ",
       tag "type_expr", tag "#unless @last", ", ", tag "/unless", tag "/each", " \x7d),\n",
     "        async execute(_id: string, params: unknown) \x7b\n",
     tag "body", "\n",
     "        \x7d,\n",
     "    \x7d"]

/-- The text of the template of the statements that a tool executes. -/
def executeText : String :=
  String.join
    ["            const client = ", tag "client_factory",
       "((params as \x7b accountId: string \x7d).accountId);\n",
     "            try \x7b\n",
     tag "#each arguments", "\n",
     "                // @ts-ignore\n",
     "                const ", tag "this", " = params.", tag "this", ";\n",
     tag "/each", "\n",
     tag "#if is_stream_list", "\n",
     "                const result: \x7b content: any[]; details: string \x7d = \x7b\n",
     "                    content: [],\n",
     "                    details: \"Result of ", tag "method_name", " method.\",\n",
     "                \x7d;\n",
     "                for await (const item of client.", tag "call_name", "(",
       tag "#each arguments", tag "this", tag "#unless @last", ", ", tag "/unless",
       tag "/each", ")) \x7b\n",
     "                    result.content.push(\x7b type: \"text\", ",
       "text: JSON.stringify(item) \x7d);\n",
     "                \x7d\n",
     "                return result;\n",
     tag "else", "\n",
     "                const ret = await client.", tag "call_name", "(", tag "#each arguments",
       tag "this", tag "#unless @last", ", ", tag "/unless", tag "/each", ");\n",
     "                const result: \x7b content: any[]; details: string \x7d = \x7b\n",
     "                    content: [\x7b type: \"text\", text: JSON.stringify(ret) \x7d],\n",
     "                    details: \"Result of ", tag "method_name", " method.\",\n",
     "                \x7d;\n",
     "                return result;\n",
     tag "/if", "\n",
     "            \x7d finally \x7b\n",
     "                client.", tag "client_close_method", "();\n",
     "            \x7d\n"]

/-- The texts by name, in the order in which they are filed. -/
def texts : List (String × String) :=
  [(moduleName, moduleText), (toolName, toolText), (executeName, executeText)]

/-! ### The parts -/

/-- The value at hand. -/
def item : TemplateNode := .value (.inScope 0 [])

/-- A member of the value at hand. -/
def member (key : String) : TemplateNode := .value (.inScope 0 [key])

/-- A setting of the invocation. -/
def setting (key : String) : TemplateNode := .value (.inScope 0 ["invocation", key])

/-- A loop over a member of the value at hand. -/
def eachOf (key : String) (body : List TemplateNode) : TemplateNode :=
  .each (.inScope 0 [key]) body none

/-- A comma after every item but the last. -/
def commaUnlessLast : TemplateNode :=
  .choice (.ofLoop "last") false [.text ", "] []

/-- The names of the arguments, with commas between them. -/
def argumentList : TemplateNode :=
  eachOf "arguments" [item, commaUnlessLast]

/-- What a tool executes over a stream of responses. -/
def streamLines : List TemplateNode :=
  [.text "                const result: \x7b content: any[]; details: string \x7d = \x7b\n",
   .text "                    content: [],\n",
   .text "                    details: \"Result of ", member "method_name", .text " method.\",\n",
   .text "                \x7d;\n",
   .text "                for await (const item of client.", member "call_name",
   .text "(", argumentList, .text ")) \x7b\n",
   .text "                    result.content.push(\x7b type: \"text\", ",
   .text "text: JSON.stringify(item) \x7d);\n",
   .text "                \x7d\n",
   .text "                return result;\n"]

/-- What a tool executes for a single response. -/
def unaryLines : List TemplateNode :=
  [.text "                const ret = await client.", member "call_name",
   .text "(", argumentList, .text ");\n",
   .text "                const result: \x7b content: any[]; details: string \x7d = \x7b\n",
   .text "                    content: [\x7b type: \"text\", text: JSON.stringify(ret) \x7d],\n",
   .text "                    details: \"Result of ", member "method_name", .text " method.\",\n",
   .text "                \x7d;\n",
   .text "                return result;\n"]

/-- The statements that a tool executes: get a client, bind the arguments, call, pack
the result, and release the client whatever happens. -/
def executeTemplate : Template :=
  [.text "            const client = ", member "client_factory",
   .text "((params as \x7b accountId: string \x7d).accountId);\n",
   .text "            try \x7b\n",
   eachOf "arguments"
     [.text "                // @ts-ignore\n",
      .text "                const ", item, .text " = params.", item, .text ";\n"],
   .choice (.inScope 0 ["is_stream_list"]) true streamLines unaryLines,
   .text "            \x7d finally \x7b\n",
   .text "                client.", member "client_close_method", .text "();\n",
   .text "            \x7d\n"]

/-- One tool: an object with its name, its parameters and what it executes. -/
def toolTemplate : Template :=
  [.text "    \x7b\n",
   .text "        name: \"", member "name", .text "\",\n",
   .text "        label: \"", member "label", .text "\",\n",
   .text "        description: \"", member "description", .text "\",\n",
   .text "        parameters: Type.Object(\x7b ",
   eachOf "parameters" [member "name", .text ": ", member "type_expr", commaUnlessLast],
   .text " \x7d),\n",
   .text "        async execute(_id: string, params: unknown) \x7b\n",
   member "body", .text "\n",
   .text "        \x7d,\n",
   .text "    \x7d"]

/-- The head of a module: its comment, its imports and the function that makes a
client. -/
def preambleLines : List TemplateNode :=
  [.text "// ", member "file_header", .text "\n",
   .text "import \x7b ", setting "runtime_accessor",
   .text " \x7d from \"", setting "runtime_import", .text "\";\n",
   .text "import \x7b ", setting "resolved_account_type", .text ", ", setting "account_resolver",
   .text " \x7d from \"", setting "accounts_import", .text "\";\n",
   .text "import \x7b ", setting "config_type",
   .text " \x7d from \"", setting "types_import", .text "\";\n",
   .text "import \x7b ", setting "client_type",
   .each (.inScope 0 ["invocation", "client_namespaces"]) [.text ", ", item] none,
   .text " \x7d from \"", setting "client_package", .text "\";\n",
   .text "import \x7b Type \x7d from \"", setting "schema_package", .text "\";\n",
   .text "\n",
   .text "function ", setting "client_factory", .text "(accountId: string): ",
   setting "client_type", .text " \x7b\n",
   .text "    const runtime = ", setting "runtime_accessor", .text "();\n",
   .text "    const config = runtime.config.loadConfig();\n",
   .text "\n",
   .text "    // fall back to the default account when this one is unconfigured or incomplete\n",
   .text "    let account: ", setting "resolved_account_type", .text " = ",
   setting "account_resolver", .text "(\x7b cfg: config as ", setting "config_type",
   .text ", accountId \x7d);\n",
   .text "    if (!account || !account.", setting "server_url_field",
   .text " || !account.", setting "client_key_field", .text ") \x7b\n",
   .text "        account = ", setting "account_resolver", .text "(\x7b cfg: config as ",
   setting "config_type", .text ", accountId: \"", setting "default_account_id",
   .text "\" \x7d);\n",
   .text "    \x7d\n",
   .text "    return new ", setting "client_type", .text "(\x7b clientKey: account.",
   setting "client_key_field", .text ", serverUrl: account.", setting "server_url_field",
   .text " \x7d);\n",
   .text "\x7d\n",
   .text "\n"]

/-- A module: its head, and the list of tools by service. -/
def moduleTemplate : Template :=
  preambleLines ++
    [.text "export const ", setting "tools_export", .text " = [\n",
     eachOf "sections"
       [.text "    /*\n", .text "    ** ", member "service_name", .text "\n",
        .text "    */\n", eachOf "tools" [item, .text ",\n"]],
     .text "];\n"]

end RpcTools.BuiltIn
