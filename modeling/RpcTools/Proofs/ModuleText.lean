/-
Module: RpcTools.Proofs.ModuleText
Purpose: The text of a module, put together piece by piece, and the agreement of the
  built-in template with it.
Main exports: preamblePieces, groupText, plainModule, render_moduleName
-/
import RpcTools.Generator
import RpcTools.Proofs.ToolText

namespace RpcTools

/-! ### The pieces of a module -/

/-- The head of a module, every setting at its place as it is. -/
def preamblePieces (config : Config) : List String :=
  let invocation := config.invocation
  ["// ", config.fileHeader, "\n",
   "import \x7b ", invocation.runtimeAccessor,
   " \x7d from \"", invocation.runtimeImport, "\";\n",
   "import \x7b ", invocation.resolvedAccountType, ", ", invocation.accountResolver,
   " \x7d from \"", invocation.accountsImport, "\";\n",
   "import \x7b ", invocation.configType,
   " \x7d from \"", invocation.typesImport, "\";\n",
   "import \x7b ", invocation.clientType,
   String.join (invocation.clientNamespaces.map fun namespaceName => ", " ++ namespaceName),
   " \x7d from \"", invocation.clientPackage, "\";\n",
   "import \x7b Type \x7d from \"", invocation.schemaPackage, "\";\n",
   "\n",
   "function ", invocation.clientFactory, "(accountId: string): ",
   invocation.clientType, " \x7b\n",
   "    const runtime = ", invocation.runtimeAccessor, "();\n",
   "    const config = runtime.config.loadConfig();\n",
   "\n",
   "    // fall back to the default account when this one is unconfigured or incomplete\n",
   "    let account: ", invocation.resolvedAccountType, " = ",
   invocation.accountResolver, "(\x7b cfg: config as ", invocation.configType,
   ", accountId \x7d);\n",
   "    if (!account || !account.", invocation.serverUrlField,
   " || !account.", invocation.clientKeyField, ") \x7b\n",
   "        account = ", invocation.accountResolver, "(\x7b cfg: config as ",
   invocation.configType, ", accountId: \"", invocation.defaultAccountId,
   "\" \x7d);\n",
   "    \x7d\n",
   "    return new ", invocation.clientType, "(\x7b clientKey: account.",
   invocation.clientKeyField, ", serverUrl: account.", invocation.serverUrlField,
   " \x7d);\n",
   "\x7d\n",
   "\n"]

/-- The tools of one service below a comment that names it. -/
def groupText (group : ToolGroup) : String :=
  String.join
    ["    /*\n",
     "    ** ", group.serviceName, "\n",
     "    */\n",
     String.join (group.tools.map fun tool => tool ++ ",\n")]

/-- A module: its head, and the list of the tools service by service. -/
def plainModule (config : Config) (groups : List ToolGroup) : String :=
  String.join (preamblePieces config) ++
    String.join
      ["export const ", config.invocation.toolsExport, " = [\n",
       String.join (groups.map groupText),
       "];\n"]

/-- Every module begins with a comment. -/
theorem plainModule_ne_empty (config : Config) (groups : List ToolGroup) :
    plainModule config groups ≠ "" := by
  obtain ⟨rest, head⟩ : ∃ rest, preamblePieces config = "// " :: rest := ⟨_, rfl⟩
  rw [plainModule, head, String.join_cons, ne_eq, String.append_eq_empty_iff,
    String.append_eq_empty_iff]
  rintro ⟨⟨comment, _⟩, _⟩
  exact absurd comment (by decide)

/-- The tools of a service as texts, under the service's name. -/
def plainGroup (invocation : Invocation) (service : Service) : ToolGroup where
  serviceName := service.name
  tools := service.methods.filterMap fun method =>
    match plainOutcome invocation service.name method with
    | .tool tool => some (toolLiteral tool)
    | .skipped _ => none

/-! ### Agreement of the template -/

section Agreement

variable (config : Config) (groups : List ToolGroup)

/-- The place at which a module is rendered. -/
def moduleScope : Scope :=
  .ofContext (Generator.contextOfModule config groups)

theorem render_setting {key : String} {value : Json} {settings : List (String × Json)}
    (object : config.invocation.toJson = .object settings)
    (found : Json.lookup? key settings = some value) :
    (BuiltIn.setting key).render (moduleScope config groups) = .ok value.inserted := by
  apply render_value
  simp [moduleScope, Scope.ofContext, Generator.contextOfModule, Scope.resolve?,
    Json.follow?, Json.below?, Json.lookup?, object, found]

theorem render_namespaces :
    (TemplateNode.each (.inScope 0 ["invocation", "client_namespaces"])
      [.text ", ", BuiltIn.item] none).render (moduleScope config groups) =
        .ok (String.join (config.invocation.clientNamespaces.map fun namespaceName =>
          ", " ++ namespaceName)) := by
  have resolved :
      (moduleScope config groups).resolve? (.inScope 0 ["invocation", "client_namespaces"]) =
        some (.array (config.invocation.clientNamespaces.map .string)) := by
    simp [moduleScope, Scope.ofContext, Generator.contextOfModule, Scope.resolve?,
      Json.follow?, Json.below?, Json.lookup?, Invocation.toJson, Json.ofStrings]
  apply render_each_of_map resolved
  intro namespaceName _ turn here
  have renders : Renders turn [.text ", ", BuiltIn.item] [", ", namespaceName] :=
    .cons (render_text _ _) (.cons (by rw [render_item, here, Json.inserted]) .nil)
  simpa using renders.renderNodes_eq

theorem renders_preambleLines :
    Renders (moduleScope config groups) BuiltIn.preambleLines (preamblePieces config) := by
  have here : (moduleScope config groups).here = .object _ := rfl
  have object : config.invocation.toJson = .object _ := rfl
  simp [Renders, BuiltIn.preambleLines, preamblePieces, render_namespaces,
    render_member here, render_setting config groups object, Json.lookup?, Json.inserted]

theorem renderNodes_section {group : ToolGroup} {turn : Scope}
    (here : turn.here = group.toJson) :
    renderNodes turn
      [.text "    /*\n", .text "    ** ", BuiltIn.member "service_name", .text "\n",
       .text "    */\n", BuiltIn.eachOf "tools" [BuiltIn.item, .text ",\n"]] =
        .ok (groupText group) := by
  have tools :
      (BuiltIn.eachOf "tools" [BuiltIn.item, .text ",\n"]).render turn =
        .ok (String.join (group.tools.map fun tool => tool ++ ",\n")) := by
    apply render_each_of_map (resolve?_member here (by simp [Json.lookup?]; rfl))
    intro tool _ inner here
    have renders : Renders inner [BuiltIn.item, .text ",\n"] [tool, ",\n"] :=
      .cons (by rw [render_item, here, Json.inserted]) (.cons (render_text _ _) .nil)
    simpa using renders.renderNodes_eq
  apply Renders.renderNodes_eq
  simp [Renders, render_member here, tools, Json.lookup?, Json.inserted]

theorem render_sections :
    (BuiltIn.eachOf "sections"
      [.text "    /*\n", .text "    ** ", BuiltIn.member "service_name", .text "\n",
       .text "    */\n", BuiltIn.eachOf "tools" [BuiltIn.item, .text ",\n"]]).render
        (moduleScope config groups) = .ok (String.join (groups.map groupText)) := by
  have sections :
      (moduleScope config groups).resolve? (.inScope 0 ["sections"]) =
        some (.array (groups.map ToolGroup.toJson)) :=
    resolve?_member rfl (by simp [Json.lookup?])
  apply render_each_of_map sections
  intro group _ turn here
  exact renderNodes_section here

theorem renders_moduleTemplate :
    Renders (moduleScope config groups) BuiltIn.moduleTemplate
      (preamblePieces config ++
        ["export const ", config.invocation.toolsExport, " = [\n",
         String.join (groups.map groupText), "];\n"]) := by
  have object : config.invocation.toJson = .object _ := rfl
  refine (renders_preambleLines config groups).append ?_
  simp [Renders, render_sections, render_setting config groups object, Json.lookup?,
    Json.inserted]

/-- With the built-in templates the text of a module is the plain one. -/
theorem render_moduleName :
    TemplateStore.builtIn.render BuiltIn.moduleName
      (Generator.contextOfModule config groups) = .ok (plainModule config groups) := by
  have rendered := (renders_moduleTemplate config groups).renderNodes_eq
  rw [String.join_append] at rendered
  exact TemplateStore.builtIn_render TemplateStore.find?_moduleName rendered

end Agreement

end RpcTools
