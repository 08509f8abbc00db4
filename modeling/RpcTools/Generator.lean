/-
Module: RpcTools.Generator
Purpose: From a schema to the module of its tools.
Main exports: Generator, Generator.ofConfig, Generator.commandFileOf,
  Generator.generate
-/
import RpcTools.Config.Json
import RpcTools.Config.Validation
import RpcTools.Event
import RpcTools.Report
import RpcTools.Tool.OfMethod

namespace RpcTools

/-- The tools of one service, as texts. -/
structure ToolGroup where
  serviceName : String
  tools : List String
deriving Repr, DecidableEq

def ToolGroup.toJson (toolGroup : ToolGroup) : Json :=
  .object
    [("service_name", .string toolGroup.serviceName),
     ("tools", .ofStrings toolGroup.tools)]

/-- A generator holds a configuration that violates no condition. -/
structure Generator where
  config : Config
  valid : config.faults = []

namespace Generator

/-- The generator for a configuration. -/
def ofConfig (config : Config) : Except Error Generator :=
  match faultsEq : config.faults with
  | [] => .ok ⟨config, faultsEq⟩
  | fault :: _ => .error (.config fault)

/-- Whether a file has services. -/
def hasServices (generator : Generator) (file : ProtoFile) : Bool :=
  Text.contains file.path generator.config.servicesMarker

/-- Whether a file could be the command file. -/
def matchesPattern (generator : Generator) (file : ProtoFile) : Bool :=
  Text.contains file.path generator.config.commandFilePattern

/-- Picks the command file: the designated one, else the only one that matches the
pattern. -/
def commandFileOf (generator : Generator) (files : List ProtoFile) :
    Logged (Option ProtoFile) :=
  match generator.config.commandFile with
  | some designated =>
      match files.find? (·.path == designated) with
      | some file => pure (some file)
      | none => .fail (.config (.commandFileAbsent designated))
  | none =>
      match files.filter generator.matchesPattern with
      | [] => do
          Logged.tell (.noCommandFile generator.config.commandFilePattern)
          pure none
      | [file] => do
          Logged.tell (.commandFileSelected file.path)
          pure (some file)
      | candidates =>
          .fail (.ambiguousCommandFile generator.config.commandFilePattern
            (candidates.map (·.path)))

/-- What is made of one method: its line of the report, and its tool's text. -/
def reportMethod (generator : Generator) (service : String) (method : Method) :
    Logged (ReportLine × Option String) := do
  let reported (obstacle : Option Obstacle) : ReportLine :=
    { service
      method := method.name
      pattern := CallPattern.ofMethod method
      names := ToolNames.ofMethod service method.name
      obstacle }
  match ← Logged.ofExcept
      (toolOf TemplateStore.builtIn generator.config.invocation service method) with
  | .tool tool =>
      let text ← Logged.ofExcept (tool.render TemplateStore.builtIn)
      Logged.tell (.toolGenerated tool.name)
      pure (reported none, some text)
  | .skipped reason =>
      Logged.tell (.methodIgnored method.name reason.text)
      pure (reported (some reason), none)

/-- What is made of one service: its lines of the report, and its section. -/
def reportService (generator : Generator) (service : Service) :
    Logged (List ReportLine × ToolGroup) := do
  let outcomes ← service.methods.mapM (generator.reportMethod service.name)
  pure (outcomes.map (·.1), ⟨service.name, outcomes.filterMap (·.2)⟩)

/-- What a module is rendered over. -/
def contextOfModule (config : Config) (sections : List ToolGroup) : Json :=
  .object
    [("file_header", .string config.fileHeader),
     ("invocation", config.invocation.toJson),
     ("sections", .array (sections.map ToolGroup.toJson))]

/-- The module of a command file's services. -/
def moduleOf (generator : Generator) (commandFile : Option ProtoFile) :
    Logged GeneratedModule := do
  let services := (commandFile.map (·.services)).getD []
  let outcomes ← services.mapM generator.reportService
  let report : Report :=
    { commandFile := commandFile.map (·.path), methods := outcomes.flatMap (·.1) }
  let content ← Logged.ofExcept
    (TemplateStore.builtIn.render BuiltIn.moduleName
      (contextOfModule generator.config (outcomes.map (·.2))))
  Logged.tell
    (.moduleGenerated report.toolCount report.omittedCount generator.config.outputFile)
  pure { path := generator.config.outputFile, content, report }

/-- The module for a schema; nothing, if no file has services. -/
def generate (generator : Generator) (files : List ProtoFile) :
    Logged (Option GeneratedModule) := do
  if files.any generator.hasServices then
    let commandFile ← generator.commandFileOf files
    some <$> generator.moduleOf commandFile
  else
    Logged.tell (.nothingToGenerate generator.config.servicesMarker)
    pure none

end Generator

end RpcTools
