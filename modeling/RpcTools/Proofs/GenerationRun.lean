/-
Module: RpcTools.Proofs.GenerationRun
Purpose: Runs of the generator, method by method: what a method leaves in the report, in
  the log and in the module, and what a whole run consists of.
Main exports: MethodTrace.Of, ServiceTrace.Of, Generator.reportMethod_eq,
  Generator.moduleOf_eq, Generator.Traced, Generator.generate_content_eq,
  Generator.generate_traced
-/
import Mathlib.Logic.Basic
import RpcTools.Proofs.ModuleText
import RpcTools.Proofs.Traversal

namespace RpcTools

/-! ### Computations that tell what they do -/

namespace Logged

variable {Entry Result Next : Type}

theorem ok_bind (value : Result) (events : List Event) (next : Result → Logged Next) :
    (⟨.ok value, events⟩ : Logged Result) >>= next =
      ⟨(next value).result, events ++ (next value).events⟩ :=
  rfl

/-- A computation that gives a value gave one at its first step. -/
theorem exists_of_bind_eq_ok {first : Logged Result} {next : Result → Logged Next}
    {last : Next} (success : (first >>= next).result = .ok last) :
    ∃ value, first = ⟨.ok value, first.events⟩ ∧ (next value).result = .ok last := by
  obtain ⟨result, events⟩ := first
  cases result with
  | error fault => cases success
  | ok value => exact ⟨value, rfl, success⟩

/-- A walk whose steps all succeed gives their values, and tells what they tell, in
order. -/
theorem mapM_eq {entries : List Entry} {step : Entry → Logged Result}
    {write : Entry → Result} {told : Entry → List Event}
    (steps : ∀ entry, step entry = ⟨.ok (write entry), told entry⟩) :
    entries.mapM step = ⟨.ok (entries.map write), entries.flatMap told⟩ := by
  induction entries with
  | nil => rfl
  | cons entry rest inductionHypothesis =>
      rw [List.mapM_cons, steps, ok_bind, inductionHypothesis, ok_bind]
      simp [pure, Logged.pure]

end Logged

namespace Event

theorem line_toolGenerated (name : String) :
    (Event.toolGenerated name).line = "DEBUG Generated tool: " ++ name := by
  have text : (Event.toolGenerated name).text = "Generated tool: " ++ name := rfl
  have word : (Event.toolGenerated name).level.word = "DEBUG" := rfl
  rw [line, text, word, ← String.append_assoc]
  rfl

theorem line_methodIgnored (method reason : String) :
    (Event.methodIgnored method reason).line =
      "WARN Ignored unsupported method: " ++ method ++ " (" ++ reason ++ ")" := by
  have text : (Event.methodIgnored method reason).text =
      "Ignored unsupported method: " ++ method ++ " (" ++ reason ++ ")" := rfl
  have word : (Event.methodIgnored method reason).level.word = "WARN" := rfl
  rw [line, text, word]
  simp only [← String.append_assoc]
  rfl

theorem line_moduleGenerated (toolCount skippedCount : Nat) (outputFile : String) :
    (Event.moduleGenerated toolCount skippedCount outputFile).line =
      "INFO Generated " ++ toString toolCount ++ " tools (" ++ toString skippedCount ++
        " methods skipped) into " ++ outputFile := by
  have text : (Event.moduleGenerated toolCount skippedCount outputFile).text =
      "Generated " ++ toString toolCount ++ " tools (" ++ toString skippedCount ++
        " methods skipped) into " ++ outputFile := rfl
  have word : (Event.moduleGenerated toolCount skippedCount outputFile).level.word = "INFO" :=
    rfl
  rw [line, text, word]
  simp only [← String.append_assoc]
  rfl

end Event

/-! ### Traces

A method leaves one line in the report and one in the log, and either a tool in the
module or nothing. -/

/-- What a method leaves behind. -/
structure MethodTrace where
  line : ReportLine
  event : Event
  tool : Option Tool

/-- What the methods of a service leave behind. -/
structure ServiceTrace where
  name : String
  methods : List MethodTrace

/-- The section of a service in the module. -/
def ServiceTrace.group (trace : ServiceTrace) : ToolGroup where
  serviceName := trace.name
  tools := trace.methods.filterMap fun method => method.tool.map toolLiteral

namespace MethodTrace

variable (invocation : Invocation) (service : String) (method : Method)

/-- The method became a tool: the report gives no reason against it, the log names the
tool, and the tool stands in the module. -/
structure Emitted (trace : MethodTrace) : Prop where
  noObstacle : trace.line.obstacle = none
  logged : trace.event.line = "DEBUG Generated tool: " ++ callName service method.name
  appended : ∃ tool, trace.tool = some tool ∧ tool.name = callName service method.name ∧
    toolOf TemplateStore.builtIn invocation service method = .ok (.tool tool)

/-- The method was left out: the report and the log give the reason, and nothing stands
in the module. -/
structure Omitted (trace : MethodTrace) : Prop where
  reason : ∃ reason, trace.line.obstacle = some reason ∧
    trace.event.line =
      "WARN Ignored unsupported method: " ++ method.name ++ " (" ++ reason.text ++ ")" ∧
    toolOf TemplateStore.builtIn invocation service method = .ok (.skipped reason)
  nothingAppended : trace.tool = none

/-- A trace belongs to a method. -/
structure Of (trace : MethodTrace) : Prop where
  ofService : trace.line.service = service
  ofMethod : trace.line.method = method.name
  classified : trace.line.pattern = CallPattern.ofMethod method
  named : trace.line.names = ToolNames.ofMethod service method.name
  decided : Xor (Emitted invocation service method trace)
    (Omitted invocation service method trace)

end MethodTrace

/-- A trace belongs to a service: there is one for each method, in order. -/
structure ServiceTrace.Of (invocation : Invocation) (service : Service)
    (trace : ServiceTrace) : Prop where
  name : trace.name = service.name
  methods : List.Forall₂ (MethodTrace.Of invocation service.name) service.methods
    trace.methods

/-- A trace has a tool exactly if its line of the report names one, and then under the
same name. -/
theorem MethodTrace.Of.emittedName? {invocation : Invocation} {service : String}
    {method : Method} {trace : MethodTrace}
    (belongs : MethodTrace.Of invocation service method trace) :
    (if trace.line.isEmitted then some trace.line.names.callName else none) =
      trace.tool.map (·.name) := by
  rcases belongs with ⟨_, _, _, named, ⟨emitted, _⟩ | ⟨omitted, _⟩⟩
  · obtain ⟨noObstacle, _, tool, appended, name, _⟩ := emitted
    simp [ReportLine.isEmitted, noObstacle, appended, name, named, ToolNames.ofMethod]
  · obtain ⟨⟨reason, obstacle, _⟩, nothingAppended⟩ := omitted
    simp [ReportLine.isEmitted, obstacle, nothingAppended]

theorem Report.emitted_eq_filterMap (report : Report) :
    report.emitted = report.methods.filterMap fun line =>
      if line.isEmitted then some line.names.callName else none := by
  rw [Report.emitted, ← List.filterMap_eq_map, List.filterMap_filter]
  rfl

/-! ### One step -/

/-- What a run with the built-in templates makes of a method. -/
def methodTrace (invocation : Invocation) (service : String) (method : Method) :
    MethodTrace :=
  let reported (obstacle : Option Obstacle) : ReportLine :=
    { service
      method := method.name
      pattern := CallPattern.ofMethod method
      names := ToolNames.ofMethod service method.name
      obstacle }
  match plainOutcome invocation service method with
  | .tool tool => ⟨reported none, .toolGenerated tool.name, some tool⟩
  | .skipped reason => ⟨reported (some reason), .methodIgnored method.name reason.text, none⟩

/-- What a run with the built-in templates makes of a service. -/
def serviceTrace (invocation : Invocation) (service : Service) : ServiceTrace where
  name := service.name
  methods := service.methods.map (methodTrace invocation service.name)

theorem plainOutcome_tool_name {invocation : Invocation} {service : String}
    {method : Method} {tool : Tool}
    (outcome : plainOutcome invocation service method = .tool tool) :
    tool.name = callName service method.name := by
  rw [plainOutcome] at outcome
  split at outcome
  · cases outcome
  · split at outcome
    · cases outcome
    · cases outcome
      rfl

theorem methodTrace_of (invocation : Invocation) (service : String) (method : Method) :
    MethodTrace.Of invocation service method (methodTrace invocation service method) := by
  have assembled := toolOf_builtIn invocation method service
  cases outcome : plainOutcome invocation service method with
  | tool tool =>
      have name := plainOutcome_tool_name outcome
      rw [outcome] at assembled
      simp only [methodTrace, outcome]
      refine ⟨rfl, rfl, rfl, rfl, .inl ⟨⟨rfl, ?_, tool, rfl, name, assembled⟩, ?_⟩⟩
      · rw [← name]
        exact Event.line_toolGenerated _
      · rintro ⟨⟨reason, given, _⟩, _⟩
        cases given
  | skipped reason =>
      rw [outcome] at assembled
      simp only [methodTrace, outcome]
      refine ⟨rfl, rfl, rfl, rfl, .inr ⟨⟨⟨reason, rfl, ?_, assembled⟩, rfl⟩, ?_⟩⟩
      · exact Event.line_methodIgnored _ _
      · rintro ⟨given, _⟩
        cases given

theorem serviceTrace_of (invocation : Invocation) (service : Service) :
    ServiceTrace.Of invocation service (serviceTrace invocation service) where
  name := rfl
  methods := by
    rw [serviceTrace, List.forall₂_map_right_iff, List.forall₂_same]
    exact fun method _ => methodTrace_of invocation service.name method

theorem group_serviceTrace (invocation : Invocation) (service : Service) :
    (serviceTrace invocation service).group = plainGroup invocation service := by
  simp only [ServiceTrace.group, serviceTrace, plainGroup, List.filterMap_map]
  refine congrArg _ (List.filterMap_congr fun method _ => ?_)
  simp only [Function.comp_apply, methodTrace]
  cases plainOutcome invocation service.name method <;> rfl

/-! ### Whole runs -/

namespace Generator

variable (generator : Generator)

/-- The services of the command file; without a command file there are none. -/
def servicesOf (commandFile : Option ProtoFile) : List Service :=
  (commandFile.map (·.services)).getD []

/-- What a run makes of the command file's services. -/
def sectionsOf (commandFile : Option ProtoFile) : List ServiceTrace :=
  (servicesOf commandFile).map (serviceTrace generator.config.invocation)

/-- What a run makes of the command file's methods, in the order of the report. -/
def tracesOf (commandFile : Option ProtoFile) : List MethodTrace :=
  (generator.sectionsOf commandFile).flatMap (·.methods)

/-- The report of a run over a command file. -/
def reportOf (commandFile : Option ProtoFile) : Report where
  commandFile := commandFile.map (·.path)
  methods := (generator.tracesOf commandFile).map (·.line)

/-- The module of a run over a command file. -/
def madeOf (commandFile : Option ProtoFile) : GeneratedModule where
  path := generator.config.outputFile
  content :=
    plainModule generator.config ((generator.sectionsOf commandFile).map (·.group))
  report := generator.reportOf commandFile

/-- What a run tells once it has a command file. -/
def toldOf (commandFile : Option ProtoFile) : List Event :=
  (generator.tracesOf commandFile).map (·.event) ++
    [.moduleGenerated (generator.reportOf commandFile).toolCount
      (generator.reportOf commandFile).omittedCount generator.config.outputFile]

/-- One step of a run: a method leaves its trace. -/
theorem reportMethod_eq (service : String) (method : Method) :
    generator.reportMethod service method =
      let trace := methodTrace generator.config.invocation service method
      ⟨.ok (trace.line, trace.tool.map toolLiteral), [trace.event]⟩ := by
  simp only [reportMethod, toolOf_builtIn, methodTrace]
  cases plainOutcome generator.config.invocation service method with
  | tool tool =>
      simp only [Tool.render_builtIn]
      rfl
  | skipped reason => rfl

theorem reportService_eq (service : Service) :
    generator.reportService service =
      let trace := serviceTrace generator.config.invocation service
      ⟨.ok (trace.methods.map (·.line), trace.group), trace.methods.map (·.event)⟩ := by
  rw [reportService, Logged.mapM_eq (generator.reportMethod_eq service.name), Logged.ok_bind]
  simp [pure, Logged.pure, serviceTrace, ServiceTrace.group, List.filterMap_map,
    Function.comp_def, ← List.map_eq_flatMap]

/-- A run over a command file leaves the traces of its methods, and nothing else but the
last event. -/
theorem moduleOf_eq (commandFile : Option ProtoFile) :
    generator.moduleOf commandFile =
      ⟨.ok (generator.madeOf commandFile), generator.toldOf commandFile⟩ := by
  have lines :
      ((servicesOf commandFile).map fun service =>
        let trace := serviceTrace generator.config.invocation service
        (trace.methods.map (·.line), trace.group)).flatMap (·.1) =
          (generator.tracesOf commandFile).map (·.line) := by
    simp [tracesOf, sectionsOf, List.flatMap_map, List.map_flatMap]
  have groups :
      ((servicesOf commandFile).map fun service =>
        let trace := serviceTrace generator.config.invocation service
        (trace.methods.map (·.line), trace.group)).map (·.2) =
          (generator.sectionsOf commandFile).map (·.group) := by
    simp [sectionsOf]
  have told :
      ((servicesOf commandFile).flatMap fun service =>
        (serviceTrace generator.config.invocation service).methods.map (·.event)) =
          (generator.tracesOf commandFile).map (·.event) := by
    simp [tracesOf, sectionsOf, List.flatMap_map, List.map_flatMap]
  rw [moduleOf, ← servicesOf, Logged.mapM_eq generator.reportService_eq, Logged.ok_bind,
    lines, groups, told, render_moduleName]
  rfl

variable {generator} {files : List ProtoFile}

/-- A run goes on with the command file that it selects. -/
theorem generate_of_commandFile {commandFile : Option ProtoFile} {opening : List Event}
    (services : files.any generator.hasServices = true)
    (selected : generator.commandFileOf files = ⟨.ok commandFile, opening⟩) :
    generator.generate files =
      ⟨.ok (some (generator.madeOf commandFile)),
        opening ++ generator.toldOf commandFile⟩ := by
  rw [generate, if_pos services, selected, Logged.ok_bind, moduleOf_eq,
    map_eq_pure_bind, Logged.ok_bind]
  simp [pure, Logged.pure]

/-- A run that makes a module has selected a command file. -/
theorem exists_commandFile {generated : GeneratedModule}
    (generates : (generator.generate files).result = .ok (some generated)) :
    ∃ commandFile opening, generator.commandFileOf files = ⟨.ok commandFile, opening⟩ ∧
      generated = generator.madeOf commandFile ∧
      (generator.generate files).events = opening ++ generator.toldOf commandFile := by
  cases services : files.any generator.hasServices with
  | false =>
      rw [generate, services] at generates
      cases generates
  | true =>
      have selects := generates
      rw [generate, if_pos services] at selects
      obtain ⟨commandFile, selected, _⟩ := Logged.exists_of_bind_eq_ok selects
      have run := generate_of_commandFile services selected
      rw [run] at generates ⊢
      cases generates
      exact ⟨commandFile, _, selected, rfl, rfl⟩

/-! ### The text of a run's module -/

theorem groups_sectionsOf (generator : Generator) (commandFile : Option ProtoFile) :
    (generator.sectionsOf commandFile).map (·.group) =
      (servicesOf commandFile).map (plainGroup generator.config.invocation) := by
  simp [sectionsOf, group_serviceTrace]

/-- The built-in templates are what their texts are read as, and what is rendered through
them is, whatever the names and settings are, the concatenation of the pieces. -/
theorem generate_content_eq {generated : GeneratedModule}
    (generates : (generator.generate files).result = .ok (some generated)) :
    TemplateStore.ofTexts BuiltIn.texts = .ok TemplateStore.builtIn ∧
      ∃ commandFile, (generator.commandFileOf files).result = .ok commandFile ∧
        generated.content =
          plainModule generator.config
            ((servicesOf commandFile).map (plainGroup generator.config.invocation)) := by
  obtain ⟨commandFile, opening, selected, rfl, _⟩ := exists_commandFile generates
  refine ⟨TemplateStore.ofTexts_builtIn, commandFile, by rw [selected], ?_⟩
  rw [madeOf, groups_sectionsOf]

/-- A command file whose names look like tags and markup. -/
def taggedFile : ProtoFile where
  path := "tagged/services/v1/command.proto"
  services :=
    [{ name := "\x7b\x7b#each tools\x7d\x7d & <b>\n\"\x7b\x7bthis\x7d\x7d\""
       methods :=
        [{ name := "\x7b\x7bbody\x7d\x7d"
           convention := .unary
           inputFields := [.single "\x7b\x7b/each\x7d\x7d" (.scalar .string)]
           outputFields := [] },
         { name := "Follow"
           convention := .bidiStreaming
           inputFields := []
           outputFields := [] }] }]

/-- A generator whose header looks like a tag. -/
def taggedGenerator : Generator where
  config := { Config.default with fileHeader := "\x7b\x7bname\x7d\x7d 'a' & <b>" }
  valid := by decide +kernel

theorem generate_tagged :
    taggedGenerator.generate [taggedFile] =
      ⟨.ok (some (taggedGenerator.madeOf (some taggedFile))),
        .commandFileSelected taggedFile.path :: taggedGenerator.toldOf (some taggedFile)⟩ := by
  have services : [taggedFile].any taggedGenerator.hasServices = true := by decide +kernel
  exact generate_of_commandFile services rfl

theorem generate_content_eq_tagged :
    (taggedGenerator.generate [taggedFile]).result =
        .ok (some (taggedGenerator.madeOf (some taggedFile))) ∧
      ∃ commandFile,
        (taggedGenerator.commandFileOf [taggedFile]).result = .ok commandFile ∧
          (taggedGenerator.madeOf (some taggedFile)).content =
            plainModule taggedGenerator.config
              ((servicesOf commandFile).map
                (plainGroup taggedGenerator.config.invocation)) := by
  have generates := congrArg Logged.result generate_tagged
  exact ⟨generates, (generate_content_eq generates).2⟩

/-! ### Agreement of report, log and module -/

/-- The report, the log and the module of a run tell the same about every method of the
command file. -/
structure Traced (generator : Generator) (commandFile : Option ProtoFile)
    (opening : List Event) (run : Logged (Option GeneratedModule))
    (generated : GeneratedModule) (sections : List ServiceTrace) : Prop where
  services : List.Forall₂ (ServiceTrace.Of generator.config.invocation)
    (servicesOf commandFile) sections
  file : generated.report.commandFile = commandFile.map (·.path)
  report : generated.report.methods = (sections.flatMap (·.methods)).map (·.line)
  log : run.events.map Event.line =
    opening.map Event.line ++ (sections.flatMap (·.methods)).map (·.event.line) ++
      ["INFO Generated " ++ toString generated.report.toolCount ++ " tools (" ++
        toString generated.report.omittedCount ++ " methods skipped) into " ++
        generator.config.outputFile]
  content : generated.content = plainModule generator.config (sections.map (·.group))
  counts : generated.report.toolCount + generated.report.omittedCount =
    ((servicesOf commandFile).flatMap (·.methods)).length
  emitted : generated.report.emitted =
    ((sections.flatMap (·.methods)).filterMap (·.tool)).map (·.name)

theorem exists_of_mem_tracesOf {commandFile : Option ProtoFile} {trace : MethodTrace}
    (member : trace ∈ generator.tracesOf commandFile) :
    ∃ service method,
      MethodTrace.Of generator.config.invocation service method trace := by
  obtain ⟨sectionTrace, inSections, member⟩ := List.mem_flatMap.1 member
  obtain ⟨service, _, rfl⟩ := List.mem_map.1 inSections
  obtain ⟨method, _, rfl⟩ := List.mem_map.1 member
  exact ⟨_, _, methodTrace_of _ _ _⟩

theorem emitted_reportOf (generator : Generator) (commandFile : Option ProtoFile) :
    (generator.reportOf commandFile).emitted =
      ((generator.tracesOf commandFile).filterMap (·.tool)).map (·.name) := by
  rw [Report.emitted_eq_filterMap, reportOf, List.filterMap_map, List.map_filterMap]
  refine List.filterMap_congr fun trace member => ?_
  obtain ⟨service, method, belongs⟩ := exists_of_mem_tracesOf member
  exact belongs.emittedName?

theorem length_tracesOf (generator : Generator) (commandFile : Option ProtoFile) :
    (generator.tracesOf commandFile).length =
      ((servicesOf commandFile).flatMap (·.methods)).length := by
  simp [tracesOf, sectionsOf, serviceTrace, List.length_flatMap, Function.comp_def]

theorem traced_madeOf {commandFile : Option ProtoFile} {opening : List Event}
    {run : Logged (Option GeneratedModule)}
    (told : run.events = opening ++ generator.toldOf commandFile) :
    generator.Traced commandFile opening run (generator.madeOf commandFile)
      (generator.sectionsOf commandFile) where
  services := by
    rw [sectionsOf, List.forall₂_map_right_iff, List.forall₂_same]
    exact fun service _ => serviceTrace_of generator.config.invocation service
  file := rfl
  report := rfl
  log := by
    rw [told, toldOf, ← List.append_assoc, List.map_append, List.map_append, List.map_map,
      List.map_singleton, Event.line_moduleGenerated]
    rfl
  content := rfl
  counts := by
    rw [Report.toolCount_add_omittedCount, madeOf, reportOf, List.length_map,
      length_tracesOf]
  emitted := generator.emitted_reportOf commandFile

/-- Every run that makes a module leaves, for each method of its command file and in
their order, one line in the report, one in the log, and a tool or nothing in the module,
and these agree. -/
theorem generate_traced {generated : GeneratedModule}
    (generates : (generator.generate files).result = .ok (some generated)) :
    ∃ commandFile opening sections,
      generator.commandFileOf files = ⟨.ok commandFile, opening⟩ ∧
        generator.Traced commandFile opening (generator.generate files) generated
          sections := by
  obtain ⟨commandFile, opening, selected, rfl, told⟩ := exists_commandFile generates
  exact ⟨commandFile, opening, _, selected, traced_madeOf told⟩

theorem generate_traced_tagged :
    (taggedGenerator.generate [taggedFile]).result =
        .ok (some (taggedGenerator.madeOf (some taggedFile))) ∧
      ∃ commandFile opening sections,
        taggedGenerator.commandFileOf [taggedFile] = ⟨.ok commandFile, opening⟩ ∧
          taggedGenerator.Traced commandFile opening (taggedGenerator.generate [taggedFile])
            (taggedGenerator.madeOf (some taggedFile)) sections := by
  have generates := congrArg Logged.result generate_tagged
  exact ⟨generates, generate_traced generates⟩

/-- One method becomes a tool and the other is left out. -/
example :
    (taggedGenerator.generate [taggedFile]).events.map Event.line =
      ["DEBUG Selected command file: tagged/services/v1/command.proto",
       "DEBUG Generated tool: \x7b\x7bbody\x7d\x7d",
       "WARN Ignored unsupported method: Follow (bidi_streaming methods are not supported yet)",
       "INFO Generated 1 tools (1 methods skipped) into agent_tools.ts"] := by
  decide +kernel

end Generator

end RpcTools
