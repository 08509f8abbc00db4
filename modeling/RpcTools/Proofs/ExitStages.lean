/-
Module: RpcTools.Proofs.ExitStages
Purpose: Exit statuses of runs that make a module: the first stage that fails decides the
  status and is the one that is told.
Main exports: ExitStage, Environment.Unconfigured, Environment.Unloaded,
  Generator.Unselected, Environment.EndsAt, Environment.DecidedAtStage,
  Environment.runProgram_decidedAtStage
-/
import RpcTools.Program
import RpcTools.Proofs.CommandFileSelection
import RpcTools.Proofs.CommandStages
import RpcTools.Proofs.FilePlacement

namespace RpcTools

/-- The stages at which a run can end, in their order.  A command file is selected either
by its designation or by being the only match. -/
inductive ExitStage where
  | format
  | configFile
  | configContent
  | setFile
  | setContent
  | designation
  | ambiguity
  | writing
deriving Repr, DecidableEq

/-- The number that a run ends with at a stage. -/
def ExitStage.code : ExitStage → Nat
  | .format => 2
  | .configFile => 1
  | .configContent => 2
  | .setFile => 1
  | .setContent => 3
  | .designation => 2
  | .ambiguity => 3
  | .writing => 1

/-- What the tools are made from, for a command that makes tools. -/
def Command.inputs? : Command → Option Inputs
  | .generate inputs _ | .inspect inputs => some inputs
  | .completions _ => none

/-- A command writes to one output at most. -/
theorem Command.exists_output (command : Command) (inputs : Inputs) :
    ∃ output, ∀ given, command = .generate inputs given → given = output := by
  cases command with
  | generate _ output =>
      refine ⟨output, ?_⟩
      intro given same
      cases same
      rfl
  | inspect | completions =>
      refine ⟨none, ?_⟩
      intro given same
      cases same

theorem ExitStatus.code_eq_zero_iff {status : ExitStatus} :
    status.code = 0 ↔ status = .success := by
  cases status <;> decide

/-! ### Outcomes that are read -/

theorem mapError_eq_ok_iff {Fault Cause Value : Type} {tell : Fault → Cause}
    {outcome : Except Fault Value} {value : Value} :
    outcome.mapError tell = .ok value ↔ outcome = .ok value := by
  cases outcome <;> simp [Except.mapError]

theorem mapError_eq_error_iff {Fault Cause Value : Type} {tell : Fault → Cause}
    {outcome : Except Fault Value} {cause : Cause} :
    outcome.mapError tell = .error cause ↔
      ∃ fault, outcome = .error fault ∧ cause = tell fault := by
  cases outcome <;> simp [Except.mapError, eq_comm]

theorem map_eq_error_iff {Fault Value Next : Type} {change : Value → Next}
    {outcome : Except Fault Value} {fault : Fault} :
    outcome.map change = .error fault ↔ outcome = .error fault := by
  cases outcome <;> simp [Except.map]

namespace Config

variable {config : Config} {text : String} {error : Error}

theorem validate_eq_error_iff :
    config.validate = .error error ↔
      ∃ fault others, config.faults = fault :: others ∧ error = .config fault := by
  rw [validate]
  cases config.faults with
  | nil => simp
  | cons fault others => simp [eq_comm]

theorem ofToml_of_spelled (spelled : (Toml.read? text).bind ofJson? = some config) :
    ofToml text = config.validate.map fun _ => config := by
  rw [ofToml, spelled]
  change (config.validate >>= fun _ => pure config) = _
  cases config.validate <;> rfl

theorem ofToml_eq_ok_iff :
    ofToml text = .ok config ↔
      (Toml.read? text).bind ofJson? = some config ∧ config.faults = [] := by
  cases spelled : (Toml.read? text).bind ofJson? with
  | none => simp [ofToml, spelled]
  | some read =>
      rw [ofToml_of_spelled spelled, Option.some.injEq, ← validate_eq_ok_iff]
      constructor
      · intro accepted
        cases valid : read.validate with
        | error fault =>
            rw [valid] at accepted
            cases accepted
        | ok =>
            rw [valid] at accepted
            cases accepted
            exact ⟨rfl, valid⟩
      · intro accepted
        obtain ⟨rfl, valid⟩ := accepted
        rw [valid]
        rfl

theorem ofToml_eq_error_iff :
    ofToml text = .error error ↔
      ((Toml.read? text).bind ofJson? = none ∧
          error = .config (.unreadable "the text is no configuration")) ∨
        ∃ read fault others, (Toml.read? text).bind ofJson? = some read ∧
          read.faults = fault :: others ∧ error = .config fault := by
  cases spelled : (Toml.read? text).bind ofJson? with
  | none => simp [ofToml, spelled, eq_comm]
  | some read =>
      rw [ofToml_of_spelled spelled, map_eq_error_iff, validate_eq_error_iff]
      simp

end Config

theorem Pool.ofFiles_eq_error_iff {files : List Descriptor.File} {error : Error} :
    Pool.ofFiles files = .error error ↔
      ∃ fault others, Descriptor.inconsistencies files = fault :: others ∧
        error = .invalidDescriptor (.inconsistent fault.message) := by
  rw [ofFiles]
  split
  · next consistent => simp [consistent]
  · next fault others violated => simp [violated, eq_comm]

theorem schemaOfSet_result_eq_error_iff {bytes : Wire.Bytes} {error : Error} :
    (schemaOfSet bytes).result = .error error ↔
      (Descriptor.fileSet? bytes = none ∧
          error = .descriptorDecode "FileDescriptorSet" "the bytes are no such message") ∨
        ∃ files fault others, Descriptor.fileSet? bytes = some files ∧
          Descriptor.inconsistencies files = fault :: others ∧
            error = .invalidDescriptor (.inconsistent fault.message) := by
  simp only [schemaOfSet, schemaOfFiles, announced, Logged.result_bind_eq_error_iff,
    Logged.result_ofExcept, Logged.result_tell, Logged.result_pure, Pool.ofFiles_eq_error_iff,
    reduceCtorEq, and_false, exists_false, or_false, Descriptor.readFileSet]
  cases Descriptor.fileSet? bytes <;> simp [eq_comm]

namespace Environment

variable {environment : Environment} {inputs : Inputs} {stage : ExitStage} {error : Error}

/-! ### The configuration -/

/-- The path of the configuration that is read: the one that is named, and else the one that
is used then, if something is there. -/
def configPath (environment : Environment) (named : Option String) : Option String :=
  named.or (environment.defaultConfigPath.filter environment.files.has)

/-- The configuration that is read, before a command file is designated. -/
inductive LoadsConfig (environment : Environment) (named : Option String) : Config → Prop where
  | default (nothing : environment.configPath named = none) :
      LoadsConfig environment named Config.default
  | file {path text : String} {config : Config}
      (there : environment.configPath named = some path)
      (read : environment.files.readText path = .ok text)
      (spelled : (Toml.read? text).bind Config.ofJson? = some config)
      (valid : config.faults = []) : LoadsConfig environment named config

/-- A configuration with the command file that the inputs designate. -/
def overridden (inputs : Inputs) (config : Config) : Config :=
  { config with commandFile := inputs.commandFile.or config.commandFile }

/-- Why no configuration comes into effect. -/
inductive Unconfigured (environment : Environment) (inputs : Inputs) :
    ExitStage → Error → Prop where
  | unreadable {path : String} {fault : FileFault}
      (there : environment.configPath inputs.config = some path)
      (fails : environment.files.readText path = .error fault) :
      Unconfigured environment inputs .configFile (.io path fault)
  | malformed {path text : String} (there : environment.configPath inputs.config = some path)
      (read : environment.files.readText path = .ok text)
      (noConfig : (Toml.read? text).bind Config.ofJson? = none) :
      Unconfigured environment inputs .configContent
        (.config (.unreadable "the text is no configuration"))
  | invalid {path text : String} {config : Config} {fault : ConfigFault}
      {others : List ConfigFault}
      (there : environment.configPath inputs.config = some path)
      (read : environment.files.readText path = .ok text)
      (spelled : (Toml.read? text).bind Config.ofJson? = some config)
      (faults : config.faults = fault :: others) :
      Unconfigured environment inputs .configContent (.config fault)
  /-- What is read is valid, and what it becomes is not. -/
  | overridden {config : Config} {fault : ConfigFault} {others : List ConfigFault}
      (loads : environment.LoadsConfig inputs.config config)
      (faults : (overridden inputs config).faults = fault :: others) :
      Unconfigured environment inputs .configContent (.config fault)

theorem configAt_result_eq_ok_iff {path : String} {config : Config} :
    (environment.configAt path).result = .ok config ↔
      ∃ text, environment.files.readText path = .ok text ∧
        (Toml.read? text).bind Config.ofJson? = some config ∧ config.faults = [] := by
  simp only [configAt, Logged.result_bind_eq_ok_iff, Logged.result_ofExcept,
    Logged.result_tell, Logged.result_pure, mapError_eq_ok_iff, Config.ofToml_eq_ok_iff]
  constructor
  · intro loads
    obtain ⟨text, read, config, spelled, _, _, same⟩ := loads
    cases same
    exact ⟨text, read, spelled⟩
  · intro loads
    obtain ⟨text, read, spelled⟩ := loads
    exact ⟨text, read, config, spelled, (), trivial, rfl⟩

theorem configAt_result_eq_error_iff {path : String} :
    (environment.configAt path).result = .error error ↔
      (∃ fault, environment.files.readText path = .error fault ∧ error = .io path fault) ∨
        ∃ text, environment.files.readText path = .ok text ∧
          Config.ofToml text = .error error := by
  simp only [configAt, Logged.result_bind_eq_error_iff, Logged.result_ofExcept,
    Logged.result_tell, Logged.result_pure, mapError_eq_ok_iff, mapError_eq_error_iff,
    reduceCtorEq, and_false, exists_false, or_false]

/-- Which configuration is loaded is a matter of the path alone. -/
theorem configAtOrDefault_result (named : Option String) :
    (environment.configAtOrDefault named).result =
      match environment.configPath named with
      | some path => (environment.configAt path).result
      | none => .ok Config.default := by
  cases named with
  | some path => rfl
  | none =>
      rw [configAtOrDefault, configPath, Option.none_or]
      cases environment.defaultConfigPath.filter environment.files.has <;> rfl

theorem loadsConfig_iff {named : Option String} {config : Config} :
    (environment.configAtOrDefault named).result = .ok config ↔
      environment.LoadsConfig named config := by
  rw [configAtOrDefault_result]
  cases there : environment.configPath named with
  | none =>
      constructor
      · intro defaulted
        cases defaulted
        exact .default there
      · intro loads
        cases loads with
        | default => rfl
        | file path => cases there.symm.trans path
  | some path =>
      rw [configAt_result_eq_ok_iff]
      constructor
      · intro loads
        obtain ⟨text, read, spelled, valid⟩ := loads
        exact .file there read spelled valid
      · intro loads
        cases loads with
        | default nothing => cases there.symm.trans nothing
        | file again read spelled valid =>
            cases there.symm.trans again
            exact ⟨_, read, spelled, valid⟩

theorem configAtOrDefault_result_eq_error_iff :
    (environment.configAtOrDefault inputs.config).result = .error error ↔
      ∃ path, environment.configPath inputs.config = some path ∧
        (environment.configAt path).result = .error error := by
  rw [configAtOrDefault_result]
  cases environment.configPath inputs.config <;> simp

/-- A configuration that is loaded has to be valid with what the inputs designate. -/
theorem effectiveConfig_result_eq_error_iff :
    (environment.effectiveConfig inputs.config inputs.commandFile none).result = .error error ↔
      (environment.configAtOrDefault inputs.config).result = .error error ∨
        ∃ config, environment.LoadsConfig inputs.config config ∧
          (overridden inputs config).validate = .error error := by
  simp only [effectiveConfig, Logged.result_bind_eq_error_iff, Logged.result_ofExcept,
    Logged.result_pure, loadsConfig_iff, reduceCtorEq, and_false, exists_false, or_false]
  rfl

theorem unconfigured_of_configAt {path : String}
    (there : environment.configPath inputs.config = some path)
    (fails : (environment.configAt path).result = .error error) :
    ∃ stage, environment.Unconfigured inputs stage error := by
  rcases configAt_result_eq_error_iff.1 fails with
    ⟨fault, unreadable, rfl⟩ | ⟨text, read, refused⟩
  · exact ⟨_, .unreadable there unreadable⟩
  · rcases Config.ofToml_eq_error_iff.1 refused with
      ⟨noConfig, rfl⟩ | ⟨config, fault, others, spelled, faults, rfl⟩
    · exact ⟨_, .malformed there read noConfig⟩
    · exact ⟨_, .invalid there read spelled faults⟩

/-- No configuration comes into effect exactly if there is a reason for it. -/
theorem effectiveConfig_result_eq_error_iff_unconfigured :
    (environment.effectiveConfig inputs.config inputs.commandFile none).result = .error error ↔
      ∃ stage, environment.Unconfigured inputs stage error := by
  rw [effectiveConfig_result_eq_error_iff, configAtOrDefault_result_eq_error_iff]
  constructor
  · intro fails
    rcases fails with ⟨path, there, fails⟩ | ⟨config, loads, refused⟩
    · exact unconfigured_of_configAt there fails
    · obtain ⟨fault, others, faults, rfl⟩ := Config.validate_eq_error_iff.1 refused
      exact ⟨_, .overridden loads faults⟩
  · intro reason
    obtain ⟨stage, reason⟩ := reason
    cases reason with
    | unreadable there fails =>
        exact .inl ⟨_, there, configAt_result_eq_error_iff.2 (.inl ⟨_, fails, rfl⟩)⟩
    | malformed there read noConfig =>
        have refused := Config.ofToml_eq_error_iff.2 (.inl ⟨noConfig, rfl⟩)
        exact .inl ⟨_, there, configAt_result_eq_error_iff.2 (.inr ⟨_, read, refused⟩)⟩
    | invalid there read spelled faults =>
        have refused := Config.ofToml_eq_error_iff.2 (.inr ⟨_, _, _, spelled, faults, rfl⟩)
        exact .inl ⟨_, there, configAt_result_eq_error_iff.2 (.inr ⟨_, read, refused⟩)⟩
    | overridden loads faults =>
        exact .inr ⟨_, loads, Config.validate_eq_error_iff.2 ⟨_, _, faults, rfl⟩⟩

/-! ### The schema -/

/-- Why no schema is loaded. -/
inductive Unloaded (environment : Environment) (inputs : Inputs) :
    ExitStage → Error → Prop where
  | unreadable {fault : FileFault}
      (fails : environment.files.readBytes inputs.descriptorSet = .error fault) :
      Unloaded environment inputs .setFile (.io inputs.descriptorSet fault)
  | undecodable {bytes : Wire.Bytes}
      (read : environment.files.readBytes inputs.descriptorSet = .ok bytes)
      (noSet : Descriptor.fileSet? bytes = none) :
      Unloaded environment inputs .setContent
        (.descriptorDecode "FileDescriptorSet" "the bytes are no such message")
  | inconsistent {bytes : Wire.Bytes} {files : List Descriptor.File} {fault : Inconsistency}
      {others : List Inconsistency}
      (read : environment.files.readBytes inputs.descriptorSet = .ok bytes)
      (decoded : Descriptor.fileSet? bytes = some files)
      (violated : Descriptor.inconsistencies files = fault :: others) :
      Unloaded environment inputs .setContent
        (.invalidDescriptor (.inconsistent fault.message))

theorem schemaAt_result_eq_error_iff_unloaded :
    (environment.schemaAt inputs.descriptorSet).result = .error error ↔
      ∃ stage, environment.Unloaded inputs stage error := by
  simp only [schemaAt, Logged.result_bind_eq_error_iff, Logged.result_ofExcept,
    mapError_eq_ok_iff, mapError_eq_error_iff, schemaOfSet_result_eq_error_iff]
  constructor
  · intro fails
    rcases fails with ⟨fault, unreadable, rfl⟩ | ⟨bytes, read, ⟨noSet, rfl⟩ |
      ⟨files, fault, others, decoded, violated, rfl⟩⟩
    · exact ⟨_, .unreadable unreadable⟩
    · exact ⟨_, .undecodable read noSet⟩
    · exact ⟨_, .inconsistent read decoded violated⟩
  · intro reason
    obtain ⟨stage, reason⟩ := reason
    cases reason with
    | unreadable fails => exact .inl ⟨_, fails, rfl⟩
    | undecodable read noSet => exact .inr ⟨_, read, .inl ⟨noSet, rfl⟩⟩
    | inconsistent read decoded violated =>
        exact .inr ⟨_, read, .inr ⟨_, _, _, decoded, violated, rfl⟩⟩

end Environment

/-! ### The command file -/

/-- Why no command file is selected. -/
inductive Generator.Unselected (generator : Generator) (files : List ProtoFile) :
    ExitStage → Error → Prop where
  | absent {path : String}
      (services : ∃ file ∈ files, file.PathHas generator.config.servicesMarker)
      (designated : generator.config.commandFile = some path)
      (missing : ∀ file ∈ files, file.path ≠ path) :
      Unselected generator files .designation (.config (.commandFileAbsent path))
  | ambiguous (services : ∃ file ∈ files, file.PathHas generator.config.servicesMarker)
      (undesignated : generator.config.commandFile = none)
      (several : 2 ≤ (generator.candidatesOf files).length) :
      Unselected generator files .ambiguity
        (.ambiguousCommandFile generator.config.commandFilePattern
          ((generator.candidatesOf files).map (·.path)))

theorem Generator.generate_result_eq_error_iff_unselected {generator : Generator}
    {files : List ProtoFile} {error : Error} :
    (generator.generate files).result = .error error ↔
      ∃ stage, generator.Unselected files stage error := by
  rw [generate_result_iff]
  constructor
  · intro decides
    cases decides with
    | failed services selects =>
        cases selects with
        | absent designated missing => exact ⟨_, .absent services designated missing⟩
        | ambiguous undesignated several =>
            exact ⟨_, .ambiguous services undesignated several⟩
  · intro reason
    obtain ⟨stage, reason⟩ := reason
    cases reason with
    | absent services designated missing =>
        exact .failed services (.absent designated missing)
    | ambiguous services undesignated several =>
        exact .failed services (.ambiguous undesignated several)

namespace Environment

variable {environment : Environment} {line : CommandLine} {inputs : Inputs}
  {stage other : ExitStage} {error fault : Error}

/-! ### Whole runs -/

/-- A run ends at a stage: what comes before it passes, and the stage fails, whatever the
later ones would come to. -/
inductive EndsAt (environment : Environment) (line : CommandLine) (inputs : Inputs) :
    ExitStage → Error → Prop where
  | format {error : Error} (unknown : OutputFormat.ofName line.format = .error error) :
      EndsAt environment line inputs .format error
  | configuration {format : OutputFormat} {stage : ExitStage} {error : Error}
      (known : OutputFormat.ofName line.format = .ok format)
      (fails : environment.Unconfigured inputs stage error) :
      EndsAt environment line inputs stage error
  | loading {format : OutputFormat} {config : Config} {stage : ExitStage} {error : Error}
      (known : OutputFormat.ofName line.format = .ok format)
      (configured : (environment.effectiveConfig inputs.config inputs.commandFile none).result =
        .ok config)
      (fails : environment.Unloaded inputs stage error) :
      EndsAt environment line inputs stage error
  | selection {format : OutputFormat} {generator : Generator} {files : List ProtoFile}
      {stage : ExitStage} {error : Error}
      (known : OutputFormat.ofName line.format = .ok format)
      (reads : environment.Reads inputs generator files)
      (fails : generator.Unselected files stage error) :
      EndsAt environment line inputs stage error
  /-- Only a module that goes to a file can fail to be written. -/
  | writing {format : OutputFormat} {output : Option String} {generated : GeneratedModule}
      {error : Error} (known : OutputFormat.ofName line.format = .ok format)
      (command : line.command = .generate inputs output)
      (makes : environment.Makes inputs (some generated))
      (toFile : output ≠ some "-")
      (fails : (environment.placing output generated).fault = some error) :
      EndsAt environment line inputs .writing error

/-! ### Errors and stages -/

theorem invalidArgument_of_ofName {text : String}
    (unknown : OutputFormat.ofName text = .error error) :
    ∃ fault, error = .invalidArgument fault := by
  rw [OutputFormat.ofName] at unknown
  split at unknown
  · cases unknown
  · cases unknown
    exact ⟨_, rfl⟩

/-- The error that ends a run has the number of the stage where the run ends. -/
theorem EndsAt.code_eq (ends : environment.EndsAt line inputs stage error) :
    error.exitStatus.code = stage.code := by
  cases ends with
  | format unknown =>
      obtain ⟨fault, rfl⟩ := invalidArgument_of_ofName unknown
      rfl
  | configuration known fails => cases fails <;> rfl
  | loading known configured fails => cases fails <;> rfl
  | selection known reads fails => cases fails <;> rfl
  | writing known command makes toFile fails =>
      obtain ⟨path, fault, rfl⟩ := FileSystem.exists_io_of_place fails
      rfl

/-- The stage at which a run ends, by how far it gets and what it fails with. -/
def stageOf : Stage → Error → ExitStage
  | .configuration, .io _ _ => .configFile
  | .configuration, _ => .configContent
  | .schema, .io _ _ => .setFile
  | .schema, _ => .setContent
  | .generation, .config _ => .designation
  | .generation, _ => .ambiguity
  | .placement, _ => .writing

section Known

variable {format : OutputFormat} {output : Option String}
  (known : OutputFormat.ofName line.format = .ok format)

include known

theorem exists_endsAt_of_failsAt {reached : Stage}
    (fails : environment.FailsAt inputs output reached error)
    (writes : reached = .placement → line.command = .generate inputs output) :
    ∃ stage, environment.EndsAt line inputs stage error := by
  cases fails with
  | configuration fails =>
      obtain ⟨stage, reason⟩ := effectiveConfig_result_eq_error_iff_unconfigured.1 fails
      exact ⟨stage, .configuration known reason⟩
  | schema configured fails =>
      obtain ⟨stage, reason⟩ := schemaAt_result_eq_error_iff_unloaded.1 fails
      exact ⟨stage, .loading known configured reason⟩
  | generation reads fails =>
      obtain ⟨stage, reason⟩ := Generator.generate_result_eq_error_iff_unselected.1 fails
      exact ⟨stage, .selection known reads reason⟩
  | placement makes toFile fails =>
      exact ⟨_, .writing known (writes rfl) makes toFile fails⟩

theorem EndsAt.exists_failsAt (ends : environment.EndsAt line inputs stage error)
    (same : ∀ given, line.command = .generate inputs given → given = output) :
    ∃ reached, environment.FailsAt inputs output reached error ∧
      (reached = .placement → line.command = .generate inputs output) ∧
        stage = stageOf reached error := by
  cases ends with
  | format unknown => cases unknown.symm.trans known
  | configuration _ reason =>
      have fails := effectiveConfig_result_eq_error_iff_unconfigured.2 ⟨stage, reason⟩
      refine ⟨.configuration, .configuration fails, by simp, ?_⟩
      cases reason <;> rfl
  | loading _ configured reason =>
      have fails := schemaAt_result_eq_error_iff_unloaded.2 ⟨stage, reason⟩
      refine ⟨.schema, .schema configured fails, by simp, ?_⟩
      cases reason <;> rfl
  | selection _ reads reason =>
      have fails := Generator.generate_result_eq_error_iff_unselected.2 ⟨stage, reason⟩
      refine ⟨.generation, .generation reads fails, by simp, ?_⟩
      cases reason <;> rfl
  | writing _ command makes toFile fails =>
      obtain rfl := same _ command
      exact ⟨.placement, .placement makes toFile fails, fun _ => command, rfl⟩

/-- A command that makes a module fails exactly if its run ends at a stage. -/
theorem execute_error_iff (about : line.command.inputs? = some inputs) :
    (environment.execute line.command format).error = some error ↔
      ∃ stage, environment.EndsAt line inputs stage error := by
  cases command : line.command with
  | generate given output =>
      rw [command] at about
      cases about
      rw [execute, generate_error_iff]
      constructor
      · intro failed
        obtain ⟨reached, fails⟩ := failed
        exact exists_endsAt_of_failsAt known fails fun _ => command
      · intro ended
        obtain ⟨stage, ends⟩ := ended
        obtain ⟨reached, fails, _⟩ := ends.exists_failsAt known fun given isGiven => by
          rw [command] at isGiven
          cases isGiven
          rfl
        exact ⟨reached, fails⟩
  | inspect given =>
      rw [command] at about
      cases about
      rw [execute, @inspect_error_iff environment inputs none format error]
      constructor
      · intro failed
        obtain ⟨reached, before, fails⟩ := failed
        exact exists_endsAt_of_failsAt known fails fun placed => absurd placed before
      · intro ended
        obtain ⟨stage, ends⟩ := ended
        obtain ⟨reached, fails, writes, _⟩ := ends.exists_failsAt known fun given isGiven => by
          rw [command] at isGiven
          cases isGiven
        refine ⟨reached, ?_, fails⟩
        intro placed
        rw [command] at writes
        cases writes placed
  | completions shell =>
      rw [command] at about
      cases about

end Known

/-! ### Status and words -/

theorem EndsAt.eq_format_of_unknown {unknown : Error}
    (ends : environment.EndsAt line inputs stage error)
    (refused : OutputFormat.ofName line.format = .error unknown) :
    stage = .format ∧ error = unknown := by
  cases ends with
  | format again => exact ⟨rfl, Except.error.inj (again.symm.trans refused)⟩
  | configuration known | loading known | selection known | writing known =>
      cases known.symm.trans refused

/-- A run ends at one stage at most, with one error. -/
theorem EndsAt.unique (about : line.command.inputs? = some inputs)
    (ends : environment.EndsAt line inputs stage error)
    (again : environment.EndsAt line inputs other fault) : stage = other ∧ error = fault := by
  cases known : OutputFormat.ofName line.format with
  | error unknown =>
      obtain ⟨rfl, rfl⟩ := ends.eq_format_of_unknown known
      obtain ⟨rfl, rfl⟩ := again.eq_format_of_unknown known
      exact ⟨rfl, rfl⟩
  | ok format =>
      have failed := (execute_error_iff known about).2 ⟨stage, ends⟩
      have alsoFailed := (execute_error_iff known about).2 ⟨other, again⟩
      obtain rfl : error = fault := Option.some.inj (failed.symm.trans alsoFailed)
      obtain ⟨output, same⟩ := line.command.exists_output inputs
      obtain ⟨reached, fails, _, rfl⟩ := ends.exists_failsAt known same
      obtain ⟨alsoReached, alsoFails, _, rfl⟩ := again.exists_failsAt known same
      obtain rfl := fails.stage_unique alsoFails
      exact ⟨rfl, rfl⟩

/-- What an outcome tells of the stage that ends the run. -/
structure DecidedAtStage (environment : Environment) (line : CommandLine) (inputs : Inputs)
    (outcome : Outcome) : Prop where
  /-- The status is 0 exactly if the command succeeds. -/
  succeeded : outcome.status.code = 0 ↔ ∃ format, OutputFormat.ofName line.format = .ok format ∧
    (environment.execute line.command format).error = none
  /-- That is so exactly if the run ends at no stage. -/
  passed : outcome.status.code = 0 ↔ ∀ stage error, ¬ environment.EndsAt line inputs stage error
  /-- Else the stage decides the status, whatever words are added to those of the error. -/
  ended : ∀ {stage error}, environment.EndsAt line inputs stage error →
    outcome.status.code = stage.code ∧
      outcome.complaint = some ("Error: " ++ line.command.explain error)
  /-- There is one such stage at most. -/
  first : ∀ {stage other error fault}, environment.EndsAt line inputs stage error →
    environment.EndsAt line inputs other fault → stage = other ∧ error = fault

/-- The outcome of a run that may have failed. -/
theorem decidedAtStage_of_failure {outcome : Outcome} {failure : Option Error}
    (about : line.command.inputs? = some inputs)
    (status : outcome.status = (failure.map Error.exitStatus).getD .success)
    (complaint : outcome.complaint =
      failure.map fun error => "Error: " ++ line.command.explain error)
    (succeeded : failure = none ↔ ∃ format, OutputFormat.ofName line.format = .ok format ∧
      (environment.execute line.command format).error = none)
    (failed : ∀ error, failure = some error ↔
      ∃ stage, environment.EndsAt line inputs stage error) :
    environment.DecidedAtStage line inputs outcome := by
  have zero : outcome.status.code = 0 ↔ failure = none := by
    rw [ExitStatus.code_eq_zero_iff, status]
    cases failure with
    | none => simp
    | some error => simp [error.exitStatus_ne_success]
  refine ⟨zero.trans succeeded, ?_, ?_, EndsAt.unique about⟩
  · rw [zero, Option.eq_none_iff_forall_ne_some]
    constructor
    · intro silent stage error ends
      exact silent error ((failed error).2 ⟨stage, ends⟩)
    · intro passes error fails
      obtain ⟨stage, ends⟩ := (failed error).1 fails
      exact passes stage error ends
  · intro stage error ends
    have fails := (failed error).2 ⟨stage, ends⟩
    rw [status, complaint, fails]
    exact ⟨ends.code_eq, rfl⟩

theorem runLine_decidedAtStage (about : line.command.inputs? = some inputs) :
    environment.DecidedAtStage line inputs (environment.runLine line) := by
  rw [runLine]
  cases known : OutputFormat.ofName line.format with
  | error unknown =>
      have words : some ("Error: " ++ unknown.messageWithCause) =
          (some unknown).map fun error => "Error: " ++ line.command.explain error := by
        obtain ⟨fault, rfl⟩ := invalidArgument_of_ofName known
        cases line.command <;> rfl
      refine decidedAtStage_of_failure about ?_ words ?_ ?_
      · rfl
      · simp [known]
      · intro error
        constructor
        · intro same
          cases same
          exact ⟨_, .format known⟩
        · intro ended
          obtain ⟨stage, ends⟩ := ended
          rw [(ends.eq_format_of_unknown known).2]
  | ok format =>
      apply decidedAtStage_of_failure about rfl rfl
      · simp [known]
      · intro error
        exact execute_error_iff known about

/-- The status of the program, for every command line that asks for a module, is decided by
the first stage that fails. -/
theorem runProgram_decidedAtStage {designatedConfig : Option String} {words : List String}
    (parsed : CommandLine.ofArguments designatedConfig words = .ok line)
    (about : line.command.inputs? = some inputs) :
    environment.DecidedAtStage line inputs (environment.runProgram designatedConfig words) := by
  rw [runProgram, parsed]
  exact runLine_decidedAtStage about

/-- A directory with nothing in it but a descriptor set that is none. -/
def brokenEnvironment : Environment where
  files := ⟨[(["set.pb"], .file [255])], [], []⟩
  configHome := none
  colored := false

/-- An inspection of the set, with a configuration that is not there. -/
def brokenLine : CommandLine where
  command := .inspect ⟨"set.pb", some "tools.toml", none⟩
  verbose := false
  format := "json"

theorem runProgram_decidedAtStage_broken :
    CommandLine.ofArguments none
        ["inspect", "-d", "set.pb", "-c", "tools.toml", "--format", "json"] = .ok brokenLine ∧
      brokenLine.command.inputs? = some ⟨"set.pb", some "tools.toml", none⟩ ∧
      brokenEnvironment.DecidedAtStage brokenLine ⟨"set.pb", some "tools.toml", none⟩
        (brokenEnvironment.runProgram none
          ["inspect", "-d", "set.pb", "-c", "tools.toml", "--format", "json"]) := by
  have parsed : CommandLine.ofArguments none
      ["inspect", "-d", "set.pb", "-c", "tools.toml", "--format", "json"] = .ok brokenLine := by
    decide +kernel
  exact ⟨parsed, rfl, runProgram_decidedAtStage parsed rfl⟩

/-- Of a missing configuration and a broken set, only the configuration is told. -/
example :
    (brokenEnvironment.runLine brokenLine).status = .failure ∧
      (brokenEnvironment.runLine brokenLine).complaint =
        some ("Error: I/O error on tools.toml: No such file or directory (os error 2): " ++
          "No such file or directory (os error 2)") := by
  decide +kernel

end Environment

end RpcTools
