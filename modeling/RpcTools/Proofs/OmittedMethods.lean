/-
Module: RpcTools.Proofs.OmittedMethods
Purpose: Methods that make no tool leave no trace in the module: it is the same without them,
  and with any others of their kind.
Main exports: ProtoFile.emittedOnly, ProtoFile.GainsOmitted, Generator.withCommandFile,
  Generator.generate_ignores_omitted
-/
import RpcTools.Proofs.InputOrder

namespace RpcTools

/-! ### Methods without those that are left out -/

/-- The methods at whose place a line of a report has no obstacle. -/
def emittedMethods (methods : List Method) (lines : List ReportLine) : List Method :=
  ((methods.zip lines).filter (·.2.isEmitted)).map (·.1)

/-- Services with those of their methods at whose place a line of a report has no
obstacle.  The lines are about the methods of one service after the other. -/
def emittedServices : List Service → List ReportLine → List Service
  | [], _ => []
  | service :: rest, lines =>
      { service with methods := emittedMethods service.methods lines } ::
        emittedServices rest (lines.drop service.methods.length)

/-- A file without the methods that a report gives a reason against. -/
def ProtoFile.emittedOnly (report : Report) (file : ProtoFile) : ProtoFile :=
  { file with services := emittedServices file.services report.methods }

/-- A report without the lines that give a reason against a method. -/
def Report.emittedOnly (report : Report) : Report :=
  { report with methods := report.methods.filter (·.isEmitted) }

/-- The names of the tools stand in the lines that are left. -/
theorem Report.emitted_emittedOnly (report : Report) :
    report.emittedOnly.emitted = report.emitted := by
  rw [emitted, emittedOnly, List.filter_filter]
  simp only [Bool.and_self]
  rfl

theorem Report.omittedCount_emittedOnly (report : Report) :
    report.emittedOnly.omittedCount = 0 := by
  rw [omittedCount, List.length_eq_zero_iff, omitted, List.filterMap_eq_nil_iff]
  intro line member
  have emitted := (List.mem_filter.1 member).2
  rw [ReportLine.isEmitted, Option.isNone_iff_eq_none] at emitted
  rw [emitted]
  rfl

/-! ### Methods with more that are left out -/

/-- Methods, and the same with others among them that make no tool, wherever those stand. -/
inductive GainsOmitted (invocation : Invocation) (service : String) :
    List Method → List Method → Prop where
  | nil : GainsOmitted invocation service [] []
  | shared {method : Method} {fewer more : List Method}
      (rest : GainsOmitted invocation service fewer more) :
      GainsOmitted invocation service (method :: fewer) (method :: more)
  | added {method : Method} {reason : Obstacle} {fewer more : List Method}
      (omits : toolOf TemplateStore.builtIn invocation service method = .ok (.skipped reason))
      (rest : GainsOmitted invocation service fewer more) :
      GainsOmitted invocation service fewer (method :: more)

/-- A service gains methods that make no tool. -/
structure Service.GainsOmitted (invocation : Invocation) (service other : Service) : Prop where
  name : other.name = service.name
  methods : RpcTools.GainsOmitted invocation service.name service.methods other.methods

/-- The services of a file gain methods that make no tool. -/
structure ProtoFile.GainsOmitted (invocation : Invocation) (file other : ProtoFile) :
    Prop where
  path : other.path = file.path
  services : List.Forall₂ (Service.GainsOmitted invocation) file.services other.services

/-! ### What is left of methods -/

section Methods

variable {invocation : Invocation} {service : String} {method : Method}

/-- The line of a method in the report. -/
def lineOf (invocation : Invocation) (service : String) (method : Method) : ReportLine :=
  (methodTrace invocation service method).line

/-- The methods that become tools. -/
def emittedOf (invocation : Invocation) (service : String) (methods : List Method) :
    List Method :=
  methods.filter fun method => (lineOf invocation service method).isEmitted

theorem isEmitted_lineOf_of_skipped {reason : Obstacle}
    (omits : toolOf TemplateStore.builtIn invocation service method = .ok (.skipped reason)) :
    (lineOf invocation service method).isEmitted = false := by
  rw [toolOf_builtIn] at omits
  simp only [lineOf, methodTrace, Except.ok.inj omits]
  rfl

/-- A method that does not become a tool is left out with a reason, and leaves no tool. -/
theorem exists_skipped (omitted : (lineOf invocation service method).isEmitted = false) :
    (∃ reason,
      toolOf TemplateStore.builtIn invocation service method = .ok (.skipped reason)) ∧
      (methodTrace invocation service method).tool = none := by
  rw [toolOf_builtIn]
  rw [lineOf] at omitted
  cases outcome : plainOutcome invocation service method with
  | tool tool =>
      simp only [methodTrace, outcome] at omitted
      cases omitted
  | skipped reason =>
      refine ⟨⟨reason, rfl⟩, ?_⟩
      simp only [methodTrace, outcome]

theorem emittedMethods_lines (methods : List Method) (rest : List ReportLine) :
    emittedMethods methods (methods.map (lineOf invocation service) ++ rest) =
      emittedOf invocation service methods := by
  -- the lines after those of the methods belong to later services and stay as they are
  induction methods with
  | nil => rfl
  | cons method others inductionHypothesis =>
      rw [emittedMethods, emittedOf] at inductionHypothesis ⊢
      rw [List.map_cons, List.cons_append, List.zip_cons_cons, List.filter_cons,
        List.filter_cons]
      split
      · rw [List.map_cons, inductionHypothesis]
      · exact inductionHypothesis

theorem gainsOmitted_emittedOf (methods : List Method) :
    GainsOmitted invocation service (emittedOf invocation service methods) methods := by
  induction methods with
  | nil => exact .nil
  | cons method others inductionHypothesis =>
      rw [emittedOf, List.filter_cons]
      cases emits : (lineOf invocation service method).isEmitted with
      | true => exact .shared inductionHypothesis
      | false =>
          obtain ⟨⟨reason, omits⟩, _⟩ := exists_skipped emits
          exact .added omits inductionHypothesis

/-- The methods that become tools do not change with methods that do not. -/
theorem GainsOmitted.emittedOf_eq {fewer more : List Method}
    (gains : GainsOmitted invocation service fewer more) :
    emittedOf invocation service more = emittedOf invocation service fewer := by
  induction gains with
  | nil => rfl
  | shared rest inductionHypothesis =>
      simp only [emittedOf, List.filter_cons] at inductionHypothesis ⊢
      rw [inductionHypothesis]
  | added omits rest inductionHypothesis =>
      rw [emittedOf, List.filter_cons, isEmitted_lineOf_of_skipped omits]
      exact inductionHypothesis

end Methods

/-! ### What is left of services -/

/-- A service without the methods that make no tool. -/
def Service.emittedOnly (invocation : Invocation) (service : Service) : Service :=
  { service with methods := emittedOf invocation service.name service.methods }

/-- The section of a service has the tools of what is left of it. -/
theorem plainGroup_eq (invocation : Invocation) (service : Service) :
    plainGroup invocation service =
      ⟨service.name,
        (service.emittedOnly invocation).methods.filterMap fun method =>
          (methodTrace invocation service.name method).tool.map toolLiteral⟩ := by
  rw [← group_serviceTrace, ServiceTrace.group, serviceTrace, Service.emittedOnly, emittedOf,
    List.filterMap_map, List.filterMap_filter]
  refine congrArg _ (List.filterMap_congr fun method _ => ?_)
  -- the filter took out only what has no tool
  cases emits : (lineOf invocation service.name method).isEmitted with
  | true => rfl
  | false =>
      obtain ⟨_, noTool⟩ := exists_skipped emits
      rw [Function.comp_apply, noTool]
      rfl

theorem emittedServices_lines (invocation : Invocation) (services : List Service) :
    emittedServices services
        (services.flatMap fun service =>
          service.methods.map (lineOf invocation service.name)) =
      services.map (Service.emittedOnly invocation) := by
  induction services with
  | nil => rfl
  | cons service rest inductionHypothesis =>
      rw [List.flatMap_cons, emittedServices, emittedMethods_lines,
        List.drop_left' (List.length_map _), inductionHypothesis]
      rfl

theorem Service.GainsOmitted.emittedOnly_eq {invocation : Invocation}
    {service other : Service} (gains : service.GainsOmitted invocation other) :
    other.emittedOnly invocation = service.emittedOnly invocation := by
  obtain ⟨name, methods⟩ := service
  obtain ⟨otherName, otherMethods⟩ := other
  obtain ⟨sameName, gainsMethods⟩ := gains
  cases sameName
  rw [Service.emittedOnly, Service.emittedOnly, gainsMethods.emittedOf_eq]

theorem ProtoFile.GainsOmitted.emittedOnly_eq {invocation : Invocation}
    {file other : ProtoFile} (gains : file.GainsOmitted invocation other) :
    other.services.map (Service.emittedOnly invocation) =
      file.services.map (Service.emittedOnly invocation) := by
  rw [← List.forall₂_eq_eq_eq, List.forall₂_map_left_iff, List.forall₂_map_right_iff]
  exact gains.services.flip.imp fun _ _ gains => gains.emittedOnly_eq

/-! ### Modules -/

namespace Generator

variable {generator : Generator} {files : List ProtoFile} {file other : ProtoFile}

theorem reportOf_methods (generator : Generator) (file : ProtoFile) :
    (generator.reportOf (some file)).methods =
      file.services.flatMap fun service =>
        service.methods.map (lineOf generator.config.invocation service.name) := by
  simp only [reportOf, tracesOf, sectionsOf, servicesOf, serviceTrace, List.flatMap_map,
    List.map_flatMap, List.map_map, Option.map_some, Option.getD_some]
  rfl

/-- To go by the lines of the report is to go by what the methods come to. -/
theorem emittedOnly_reportOf (generator : Generator) (file : ProtoFile) :
    file.emittedOnly (generator.reportOf (some file)) =
      { file with
        services := file.services.map (Service.emittedOnly generator.config.invocation) } := by
  rw [ProtoFile.emittedOnly, reportOf_methods, emittedServices_lines]

theorem gainsOmitted_emittedOnly (generator : Generator) (file : ProtoFile) :
    (file.emittedOnly (generator.reportOf (some file))).GainsOmitted
      generator.config.invocation file := by
  rw [emittedOnly_reportOf]
  refine ⟨rfl, ?_⟩
  rw [List.forall₂_map_left_iff, List.forall₂_same]
  exact fun service _ => ⟨rfl, gainsOmitted_emittedOf service.methods⟩

/-- The lines about methods that become tools are those of what is left of the services. -/
theorem filter_reportOf_methods (generator : Generator) (file : ProtoFile) :
    (generator.reportOf (some file)).methods.filter (·.isEmitted) =
      (file.services.map (Service.emittedOnly generator.config.invocation)).flatMap
        fun service =>
          service.methods.map (lineOf generator.config.invocation service.name) := by
  rw [reportOf_methods, List.filter_flatMap, List.flatMap_map]
  refine List.flatMap_congr fun service _ => ?_
  rw [List.filter_map]
  rfl

theorem content_madeOf_of_gainsOmitted
    (gains : file.GainsOmitted generator.config.invocation other) :
    (generator.madeOf (some other)).content = (generator.madeOf (some file)).content := by
  have groups : ∀ file : ProtoFile,
      (generator.sectionsOf (some file)).map (·.group) =
        (file.services.map (Service.emittedOnly generator.config.invocation)).map
          fun service => ⟨service.name, service.methods.filterMap fun method =>
            (methodTrace generator.config.invocation service.name method).tool.map
              toolLiteral⟩ := by
    intro file
    rw [groups_sectionsOf, List.map_map]
    exact List.map_congr_left fun service _ => plainGroup_eq _ service
  rw [madeOf, madeOf, groups, groups, gains.emittedOnly_eq]

theorem filter_reportOf_of_gainsOmitted
    (gains : file.GainsOmitted generator.config.invocation other) :
    (generator.reportOf (some other)).methods.filter (·.isEmitted) =
      (generator.reportOf (some file)).methods.filter (·.isEmitted) := by
  rw [filter_reportOf_methods, filter_reportOf_methods, gains.emittedOnly_eq]

/-- The report is the same, the lines apart about methods that make no tool. -/
theorem emittedOnly_reportOf_of_gainsOmitted
    (gains : file.GainsOmitted generator.config.invocation other) :
    (generator.reportOf (some other)).emittedOnly =
      (generator.reportOf (some file)).emittedOnly := by
  have sameFile : (generator.reportOf (some other)).commandFile =
      (generator.reportOf (some file)).commandFile := congrArg some gains.path
  rw [Report.emittedOnly, Report.emittedOnly, filter_reportOf_of_gainsOmitted gains, sameFile]

/-- Among what is left of the services, every method becomes a tool. -/
theorem madeOf_emittedOnly (generator : Generator) (file : ProtoFile) :
    generator.madeOf (some (file.emittedOnly (generator.reportOf (some file)))) =
      { generator.madeOf (some file) with
        report := (generator.reportOf (some file)).emittedOnly } := by
  have gains := generator.gainsOmitted_emittedOnly file
  have content := content_madeOf_of_gainsOmitted gains
  have methods :
      (generator.reportOf (some (file.emittedOnly (generator.reportOf (some file))))).methods =
        (generator.reportOf (some file)).methods.filter (·.isEmitted) := by
    rw [filter_reportOf_methods, reportOf_methods, emittedOnly_reportOf]
  rw [GeneratedModule.mk.injEq]
  refine ⟨rfl, content.symm, ?_⟩
  rw [Report.emittedOnly, ← methods]
  rfl

/-! ### Runs with another command file -/

/-- Files with another one in the place of the command file that a report names. -/
def withCommandFile (report : Report) (change : ProtoFile → ProtoFile) :
    List ProtoFile → List ProtoFile
  | [] => []
  | file :: rest =>
      if report.commandFile = some file.path then change file :: rest
      else file :: withCommandFile report change rest

section Changed

variable {report : Report} {change : ProtoFile → ProtoFile}

theorem withCommandFile_of_split {before after : List ProtoFile}
    (named : report.commandFile = some file.path)
    (first : ∀ earlier ∈ before, earlier.path ≠ file.path) :
    withCommandFile report change (before ++ file :: after) =
      before ++ change file :: after := by
  induction before with
  | nil => rw [List.nil_append, withCommandFile, if_pos named, List.nil_append]
  | cons head rest inductionHypothesis =>
      have elsewhere : ¬ report.commandFile = some head.path := by
        rw [named, Option.some.injEq]
        exact (first head List.mem_cons_self).symm
      rw [List.cons_append, withCommandFile, if_neg elsewhere,
        inductionHypothesis fun earlier member => first earlier (List.mem_cons_of_mem _ member),
        List.cons_append]

theorem withCommandFile_of_none (unnamed : report.commandFile = none)
    (files : List ProtoFile) : withCommandFile report change files = files := by
  induction files with
  | nil => rfl
  | cons head rest inductionHypothesis =>
      rw [withCommandFile, unnamed, if_neg (Option.some_ne_none _).symm, inductionHypothesis]

/-- A run that makes a module makes one as well with another file in the place of its command
file, and makes it from that file. -/
theorem generate_withCommandFile (change : ProtoFile → ProtoFile)
    {generated : GeneratedModule}
    (generates : (generator.generate files).result = .ok (some generated))
    (samePath : ∀ file ∈ files, generated.report.commandFile = some file.path →
      (change file).path = file.path) :
    ∃ commandFile, generated = generator.madeOf commandFile ∧
      (∀ file, commandFile = some file → file ∈ files) ∧
      (generator.generate (withCommandFile generated.report change files)).result =
        .ok (some (generator.madeOf (commandFile.map change))) := by
  cases generate_result_iff.1 generates with
  | empty services selects =>
      refine ⟨none, rfl, by simp, ?_⟩
      rw [withCommandFile_of_none rfl]
      exact generates
  | @made file services selects =>
      obtain ⟨before, after, rfl, first, again⟩ := selects.exists_place
      have path : (change file).path = file.path := samePath file (by simp) rfl
      refine ⟨some file, rfl, by simp, ?_⟩
      rw [withCommandFile_of_split rfl first]
      have paths : (before ++ file :: after).map (·.path) =
          (before ++ change file :: after).map (·.path) := by simp [path]
      have servicesAgain := exists_pathHas (List.Perm.of_eq paths) services
      exact generate_result_iff.2 (.made servicesAgain (again (change file) path))

end Changed

/-- Methods that make no tool leave no trace in the module.  Without them, the module has the
same text, and its report the other lines; with any more of them, the module has the same
text and the same tools. -/
theorem generate_ignores_omitted {generated : GeneratedModule}
    (generates : (generator.generate files).result = .ok (some generated)) :
    (generator.generate
        (withCommandFile generated.report (ProtoFile.emittedOnly generated.report) files)).result =
      .ok (some { generated with report := generated.report.emittedOnly }) ∧
    generated.report.emittedOnly.omittedCount = 0 ∧
    ∀ change : ProtoFile → ProtoFile,
      (∀ file ∈ files, generated.report.commandFile = some file.path →
        file.GainsOmitted generator.config.invocation (change file)) →
      ∃ again,
        (generator.generate (withCommandFile generated.report change files)).result =
          .ok (some again) ∧
        again.content = generated.content ∧
        again.report.emitted = generated.report.emitted ∧
        again.report.emittedOnly = generated.report.emittedOnly := by
  refine ⟨?_, generated.report.omittedCount_emittedOnly, ?_⟩
  · obtain ⟨commandFile, rfl, _, again⟩ :=
      generate_withCommandFile (ProtoFile.emittedOnly generated.report) generates
        fun _ _ _ => rfl
    rw [again]
    cases commandFile with
    | none => rfl
    | some file =>
        have made := generator.madeOf_emittedOnly file
        exact congrArg (fun generated => Except.ok (some generated)) made
  · intro change gains
    obtain ⟨commandFile, rfl, member, again⟩ :=
      generate_withCommandFile change generates fun file member named =>
        (gains file member named).path
    refine ⟨_, again, ?_⟩
    cases commandFile with
    | none => exact ⟨rfl, rfl, rfl⟩
    | some file =>
        have gainsFile := gains file (member file rfl) rfl
        have content := content_madeOf_of_gainsOmitted gainsFile
        have report := emittedOnly_reportOf_of_gainsOmitted gainsFile
        have emitted := congrArg Report.emitted report
        rw [Report.emitted_emittedOnly, Report.emitted_emittedOnly] at emitted
        exact ⟨content, emitted, report⟩

/-- The module of the file with two methods, of which one makes no tool. -/
def taggedModule : GeneratedModule := taggedGenerator.madeOf (some taggedFile)

theorem generate_ignores_omitted_tagged :
    (taggedGenerator.generate surroundedFiles).result = .ok (some taggedModule) ∧
    (taggedGenerator.generate
        (withCommandFile taggedModule.report (ProtoFile.emittedOnly taggedModule.report)
          surroundedFiles)).result =
      .ok (some { taggedModule with report := taggedModule.report.emittedOnly }) ∧
    taggedModule.report.emittedOnly.omittedCount = 0 ∧
    ∀ change : ProtoFile → ProtoFile,
      (∀ file ∈ surroundedFiles, taggedModule.report.commandFile = some file.path →
        file.GainsOmitted taggedGenerator.config.invocation (change file)) →
      ∃ again,
        (taggedGenerator.generate
            (withCommandFile taggedModule.report change surroundedFiles)).result =
          .ok (some again) ∧
        again.content = taggedModule.content ∧
        again.report.emitted = taggedModule.report.emitted ∧
        again.report.emittedOnly = taggedModule.report.emittedOnly := by
  have services : surroundedFiles.any taggedGenerator.hasServices = true := by decide +kernel
  have generates : (taggedGenerator.generate surroundedFiles).result = .ok (some taggedModule) :=
    congrArg Logged.result (generate_of_commandFile services rfl)
  exact ⟨generates, generate_ignores_omitted generates⟩

/-- Of the two methods of the command file, the one that streams is removed. -/
example :
    (withCommandFile taggedModule.report (ProtoFile.emittedOnly taggedModule.report)
        surroundedFiles).map (·.services.map (·.methods.map (·.name))) =
      [[], [["\x7b\x7bbody\x7d\x7d"]], []] := by
  decide +kernel

end Generator

end RpcTools
