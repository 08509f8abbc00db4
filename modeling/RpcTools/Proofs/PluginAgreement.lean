/-
Module: RpcTools.Proofs.PluginAgreement
Purpose: The answer to a compiler and the run of a command on the same set of descriptors
  and the same options, stage by stage.
Main exports: Environment.Mirrors, Environment.moduleFor_result, PluginResponse.Agrees,
  Environment.answer_agrees
-/
import RpcTools.Proofs.CommandStages
import RpcTools.Proofs.DescriptorTools
import RpcTools.Proofs.ParameterSpelling
import RpcTools.Proofs.RequestedFiles
import RpcTools.Proofs.Traversal
import RpcTools.Plugin.Response

namespace RpcTools

/-! ### Schemas of requests and of sets -/

/-- What a schema comes to does not depend on where its files come from. -/
theorem schemaOfRequest_result {request : Descriptor.Request}
    (everyFile : ∀ pool, Pool.ofFiles request.files = .ok pool →
      request.filesToGenerate = pool.files.map (·.path)) :
    (schemaOfRequest request).result = (schemaOfFiles request.files).result := by
  simp only [schemaOfRequest, schemaOfFiles, Logged.result_bind, Logged.result_ofExcept]
  cases made : Pool.ofFiles request.files with
  | error fault => rfl
  | ok pool =>
      have found : pool.schemaOf request.filesToGenerate = .ok pool.schema := by
        rw [everyFile pool made, pool.schemaOf_paths]
      simp only [Bind.bind, Except.bind, found]

namespace Environment

variable {environment : Environment} {request : Descriptor.Request} {inputs : Inputs}
  {format : OutputFormat}

/-! ### The same stages in another order -/

/-- A request says what the inputs of a command say: its files are those of the set, all of
them are asked for, and its parameter spells the options. -/
structure Mirrors (environment : Environment) (inputs : Inputs)
    (request : Descriptor.Request) : Prop where
  set : ∃ bytes, environment.files.readBytes inputs.descriptorSet = .ok bytes ∧
    Descriptor.readFileSet bytes = .ok request.files
  everyFile : ∀ pool, Pool.ofFiles request.files = .ok pool →
    request.filesToGenerate = pool.files.map (·.path)
  plainConfig : ∀ path, inputs.config = some path → PlainValue path
  plainCommandFile : ∀ path, inputs.commandFile = some path → PlainValue path
  options : PluginOptions.Spells ⟨inputs.config, inputs.commandFile, none⟩
    (request.parameter.getD "")

theorem Mirrors.ofParameter (mirrors : environment.Mirrors inputs request) :
    PluginOptions.ofParameter (request.parameter.getD "") =
      .ok ⟨inputs.config, inputs.commandFile, none⟩ := by
  refine PluginOptions.ofParameter_of_spells ?_ mirrors.options
  intro key value told
  cases key with
  | config => exact mirrors.plainConfig value told
  | commandFile => exact mirrors.plainCommandFile value told
  | outputFile => cases told

theorem Mirrors.schema_result (mirrors : environment.Mirrors inputs request) :
    (schemaOfRequest request).result = (environment.schemaAt inputs.descriptorSet).result := by
  obtain ⟨bytes, readBytes, decoded⟩ := mirrors.set
  rw [schemaOfRequest_result mirrors.everyFile]
  simp only [schemaAt, schemaOfSet, Logged.result_bind, Logged.result_ofExcept, readBytes]
  simp only [Except.mapError, Bind.bind, Except.bind, decoded]

/-- The plugin has its generator before it reads the schema, and the command has the schema
before the generator.  As a valid configuration has a generator, it makes no difference. -/
theorem Mirrors.moduleFor_result (mirrors : environment.Mirrors inputs request) :
    (environment.moduleFor request).result = (environment.dryRun inputs).result := by
  simp only [moduleFor, dryRun, Logged.result_bind, Logged.result_ofExcept,
    Logged.result_tell, mirrors.ofParameter, mirrors.schema_result]
  simp only [configOfOptions, Bind.bind, Except.bind]
  cases configured : (environment.effectiveConfig inputs.config inputs.commandFile none).result with
  | error fault => rfl
  | ok config =>
      obtain ⟨generator, rfl⟩ := exists_generator configured
      simp only [Generator.ofConfig_config]

end Environment

/-! ### Answers and runs -/

/-- An answer says what a run that prints its module comes to. -/
structure PluginResponse.Agrees (response : PluginResponse) (run : Execution) : Prop where
  /-- One file is answered exactly if a module is printed, and has its text. -/
  file : ∀ text, (∃ name, response.files = [⟨name, text⟩]) ↔
    run.error = none ∧ run.printed = text ∧ text ≠ ""
  /-- Neither a file nor an error is answered exactly if nothing is printed. -/
  nothing : response.errorText = none ∧ response.files = [] ↔
    run.error = none ∧ run.printed = ""
  /-- An error is answered exactly if the run fails, in the words of its error. -/
  error : ∀ words, response.errorText = some words ↔
    ∃ error, run.error = some error ∧ words = error.message

namespace PluginResponse

variable {events : List Event} {files : FileSystem}

theorem agrees_failed (error : Error) :
    Agrees ⟨some error.message, []⟩ (.failed error events files) where
  file := by simp [Execution.failed]
  nothing := by simp [Execution.failed]
  error := by
    intro words
    constructor
    · rintro ⟨⟩
      exact ⟨error, rfl, rfl⟩
    · rintro ⟨_, ⟨⟩, rfl⟩
      rfl

theorem agrees_nothing : Agrees ⟨none, []⟩ (.completed "" events files) where
  file := by
    intro text
    constructor
    · rintro ⟨_, ⟨⟩⟩
    · rintro ⟨_, rfl, named⟩
      exact absurd rfl named
  nothing := by simp [Execution.completed]
  error := by simp [Execution.completed]

theorem agrees_printed {name text : String} (named : text ≠ "") :
    Agrees ⟨none, [⟨name, text⟩]⟩ (.completed text events files) where
  file := by
    intro other
    constructor
    · rintro ⟨_, same⟩
      cases same
      exact ⟨rfl, rfl, named⟩
    · rintro ⟨_, rfl, _⟩
      exact ⟨name, rfl⟩
  nothing := by simp [Execution.completed, named]
  error := by simp [Execution.completed]

end PluginResponse

namespace Environment

variable {environment : Environment} {request : Descriptor.Request} {inputs : Inputs}

theorem Makes.content_ne_empty {generated : GeneratedModule}
    (makes : environment.Makes inputs (some generated)) : generated.content ≠ "" := by
  obtain ⟨_, generates⟩ := makes
  obtain ⟨commandFile, _, _, rfl, _⟩ := Generator.exists_commandFile generates
  exact plainModule_ne_empty _ _

/-- A compiler is answered what a command prints that is run on the same files with the same
options. -/
theorem answer_agrees (mirrors : environment.Mirrors inputs request) (format : OutputFormat) :
    (environment.answer request).1.Agrees
      (environment.generate inputs (some "-") format) := by
  simp only [answer, generate, printedOutput, mirrors.moduleFor_result, if_true]
  cases result : (environment.dryRun inputs).result with
  | error error => exact PluginResponse.agrees_failed error
  | ok made =>
      cases made with
      | none => exact PluginResponse.agrees_nothing
      | some generated =>
          have makes := dryRun_result_eq_ok_iff.1 result
          exact PluginResponse.agrees_printed makes.content_ne_empty

/-- A file system with a set of descriptors and a configuration. -/
def smallEnvironment : Environment where
  files :=
    { entries :=
        [(["set.pb"], .file smallSet),
         (["tools.toml"], .file "file_header = \"Small.\"\n".toUTF8.toList)]
      here := []
      media := [] }
  configHome := none
  colored := false

/-- Inputs that are all there. -/
def smallInputs : Inputs where
  descriptorSet := "set.pb"
  config := some "tools.toml"
  commandFile := some "/services/v1/command"

/-- The request with the files and the options of these inputs. -/
def smallRequest : Descriptor.Request where
  filesToGenerate := ["/services/v1/command"]
  parameter := some "config=tools.toml,command_file=/services/v1/command"
  files := (Descriptor.readFileSet smallSet).toOption.getD []

theorem answer_agrees_small :
    smallEnvironment.Mirrors smallInputs smallRequest ∧
      (smallEnvironment.answer smallRequest).1.Agrees
        (smallEnvironment.generate smallInputs (some "-") .json) := by
  have loads : (schemaOfSet smallSet).result = .ok [smallFile] := by decide +kernel
  obtain ⟨pool, decoded, _⟩ := exists_pool_of_schemaOfSet loads
  have files : smallRequest.files = pool.files := by rw [smallRequest, decoded]; rfl
  have paths : smallRequest.filesToGenerate = smallRequest.files.map (·.path) := by
    decide +kernel
  have mirrors : smallEnvironment.Mirrors smallInputs smallRequest :=
    { set := ⟨smallSet, by decide +kernel, by rw [files, decoded]⟩
      everyFile := by
        intro pool made
        rw [paths, Pool.files_of_ofFiles made]
      plainConfig := by
        rintro _ ⟨⟩
        exact ⟨by decide, by decide, by decide⟩
      plainCommandFile := by
        rintro _ ⟨⟩
        exact ⟨by decide, by decide, by decide⟩
      options := .inOrder (List.Perm.refl
        (PluginOptions.assignments ⟨smallInputs.config, smallInputs.commandFile, none⟩)) }
  exact ⟨mirrors, answer_agrees mirrors .json⟩

end Environment

end RpcTools
