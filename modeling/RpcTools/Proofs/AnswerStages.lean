/-
Module: RpcTools.Proofs.AnswerStages
Purpose: Answers to a compiler, stage by stage: which failure an answer tells, and what an
  answer holds where nothing fails.
Main exports: AnswerStage, Environment.Prepares, Environment.RefusesAt,
  Environment.Fills, Environment.AnswersInStages, Environment.answer_in_stages
-/
import RpcTools.Plugin.Response
import RpcTools.Proofs.CommandFileSelection
import RpcTools.Proofs.CommandStages
import RpcTools.Proofs.RequestedFiles

namespace RpcTools

/-- The stages of an answer, in their order. -/
inductive AnswerStage where
  | parameter
  | configuration
  | loading
  | generation
deriving Repr, DecidableEq

/-! ### The files that a schema is asked for -/

namespace Supplies

variable {schema files : List ProtoFile} {paths : List String}

/-- The files that come of it have the paths that were asked for, in their order. -/
theorem map_path (supplies : Supplies schema paths (.ok files)) :
    files.map (·.path) = paths := by
  cases supplies with
  | found each =>
      induction each with
      | nil => rfl
      | cons here _ inductionHypothesis =>
          rw [List.map_cons, here.2, inductionHypothesis]

/-- Whether one of them has a text in its path can be told from what was asked for. -/
theorem exists_pathHas_iff (supplies : Supplies schema paths (.ok files)) (text : String) :
    (∃ file ∈ files, file.PathHas text) ↔ ∃ path ∈ paths, text.toList <:+: path.toList := by
  rw [← supplies.map_path]
  simp [ProtoFile.PathHas]

end Supplies

namespace Environment

variable {environment : Environment} {request : Descriptor.Request}

/-! ### What an answer relies on -/

/-- A request is read, its configuration is in effect and its files are loaded. -/
structure Prepares (environment : Environment) (request : Descriptor.Request)
    (options : PluginOptions) (generator : Generator) (files : List ProtoFile) : Prop where
  spelled : PluginOptions.ofParameter (request.parameter.getD "") = .ok options
  configured : (environment.configOfOptions options).result = .ok generator.config
  loaded : (schemaOfRequest request).result = .ok files

/-- A request is refused at a stage: the stages before it pass, and this one does not,
whatever the later ones would come to. -/
inductive RefusesAt (environment : Environment) (request : Descriptor.Request) :
    AnswerStage → Error → Prop where
  | parameter {error : Error}
      (fails : PluginOptions.ofParameter (request.parameter.getD "") = .error error) :
      RefusesAt environment request .parameter error
  | configuration {options : PluginOptions} {error : Error}
      (spelled : PluginOptions.ofParameter (request.parameter.getD "") = .ok options)
      (fails : (environment.configOfOptions options).result = .error error) :
      RefusesAt environment request .configuration error
  | loading {options : PluginOptions} {config : Config} {error : Error}
      (spelled : PluginOptions.ofParameter (request.parameter.getD "") = .ok options)
      (configured : (environment.configOfOptions options).result = .ok config)
      (fails : (schemaOfRequest request).result = .error error) :
      RefusesAt environment request .loading error
  | generation {options : PluginOptions} {generator : Generator} {files : List ProtoFile}
      {error : Error} (prepares : environment.Prepares request options generator files)
      (fails : (generator.generate files).result = .error error) :
      RefusesAt environment request .generation error

theorem moduleFor_result_eq_ok_iff {made : Option GeneratedModule} :
    (environment.moduleFor request).result = .ok made ↔
      ∃ options generator files, environment.Prepares request options generator files ∧
        (generator.generate files).result = .ok made := by
  simp only [moduleFor, Logged.result_bind_eq_ok_iff, Logged.result_ofExcept,
    Logged.result_tell]
  constructor
  · intro makes
    obtain ⟨options, spelled, config, configured, generator, built, makes⟩ := makes
    obtain ⟨files, loaded, _, _, generates⟩ := makes
    obtain ⟨generator, rfl⟩ := exists_generator configured
    rw [Generator.ofConfig_config, Except.ok.injEq] at built
    subst built
    exact ⟨options, generator, files, ⟨spelled, configured, loaded⟩, generates⟩
  · intro prepared
    obtain ⟨options, generator, files, prepares, generates⟩ := prepared
    refine ⟨options, prepares.spelled, generator.config, prepares.configured, ?_⟩
    refine ⟨generator, Generator.ofConfig_config _, files, prepares.loaded, ?_⟩
    exact ⟨(), trivial, generates⟩

theorem moduleFor_result_eq_error_iff {error : Error} :
    (environment.moduleFor request).result = .error error ↔
      ∃ stage, environment.RefusesAt request stage error := by
  simp only [moduleFor, Logged.result_bind_eq_error_iff, Logged.result_ofExcept,
    Logged.result_tell]
  constructor
  · intro failed
    rcases failed with fails | ⟨options, spelled, fails | ⟨config, configured, failed⟩⟩
    · exact ⟨_, .parameter fails⟩
    · exact ⟨_, .configuration spelled fails⟩
    · -- a configuration that is in effect has a generator
      obtain ⟨generator, rfl⟩ := exists_generator configured
      rw [Generator.ofConfig_config] at failed
      rcases failed with unbuilt | ⟨same, built, fails | ⟨files, loaded, told | generates⟩⟩
      · cases unbuilt
      · exact ⟨_, .loading spelled configured fails⟩
      · cases told
      · obtain ⟨_, _, fails⟩ := generates
        cases built
        exact ⟨_, .generation ⟨spelled, configured, loaded⟩ fails⟩
  · intro refused
    obtain ⟨stage, refuses⟩ := refused
    cases refuses with
    | parameter fails => exact .inl fails
    | configuration spelled fails => exact .inr ⟨_, spelled, .inl fails⟩
    | loading spelled configured fails =>
        obtain ⟨generator, rfl⟩ := exists_generator configured
        exact .inr ⟨_, spelled, .inr ⟨_, configured, .inr
          ⟨_, Generator.ofConfig_config _, .inl fails⟩⟩⟩
    | generation prepares fails =>
        exact .inr ⟨_, prepares.spelled, .inr ⟨_, prepares.configured, .inr
          ⟨_, Generator.ofConfig_config _, .inr ⟨_, prepares.loaded, .inr ⟨(), trivial, fails⟩⟩⟩⟩⟩

/-- What is made of a request that is prepared is what its generator makes of the files. -/
theorem Prepares.moduleFor_result {options : PluginOptions} {generator : Generator}
    {files : List ProtoFile}
    (prepares : environment.Prepares request options generator files) :
    (environment.moduleFor request).result = (generator.generate files).result := by
  cases result : (generator.generate files).result with
  | ok made => exact moduleFor_result_eq_ok_iff.2 ⟨options, generator, files, prepares, result⟩
  | error fault => exact moduleFor_result_eq_error_iff.2 ⟨_, .generation prepares result⟩

/-! ### What settles a request -/

theorem Prepares.unique {options other : PluginOptions} {generator another : Generator}
    {files others : List ProtoFile}
    (prepares : environment.Prepares request options generator files)
    (again : environment.Prepares request other another others) :
    options = other ∧ generator = another ∧ files = others := by
  have sameOptions : options = other :=
    Except.ok.inj (prepares.spelled.symm.trans again.spelled)
  subst sameOptions
  have sameConfig : generator.config = another.config :=
    Except.ok.inj (prepares.configured.symm.trans again.configured)
  have sameGenerator : generator = another := by
    cases generator
    cases another
    cases sameConfig
    rfl
  exact ⟨rfl, sameGenerator, Except.ok.inj (prepares.loaded.symm.trans again.loaded)⟩

/-- What passes at a request's stages does not refuse it. -/
theorem Prepares.error_of_refusesAt {options : PluginOptions} {generator : Generator}
    {files : List ProtoFile} {stage : AnswerStage} {error : Error}
    (prepares : environment.Prepares request options generator files)
    (refuses : environment.RefusesAt request stage error) :
    stage = .generation ∧ (generator.generate files).result = .error error := by
  cases refuses with
  | parameter fails =>
      rw [prepares.spelled] at fails
      cases fails
  | configuration spelled fails =>
      cases prepares.spelled.symm.trans spelled
      rw [prepares.configured] at fails
      cases fails
  | loading spelled configured fails =>
      rw [prepares.loaded] at fails
      cases fails
  | generation also fails =>
      obtain ⟨rfl, rfl, rfl⟩ := prepares.unique also
      exact ⟨rfl, fails⟩

/-- A request is refused at one stage at most. -/
theorem RefusesAt.stage_unique {stage other : AnswerStage} {error fault : Error}
    (refuses : environment.RefusesAt request stage error)
    (again : environment.RefusesAt request other fault) : stage = other := by
  cases refuses with
  | parameter fails =>
      cases again with
      | parameter => rfl
      | configuration spelled => cases fails.symm.trans spelled
      | loading spelled => cases fails.symm.trans spelled
      | generation prepares => cases fails.symm.trans prepares.spelled
  | configuration spelled fails =>
      cases again with
      | parameter stops => cases stops.symm.trans spelled
      | configuration => rfl
      | loading known configured =>
          cases spelled.symm.trans known
          cases fails.symm.trans configured
      | generation prepares =>
          cases spelled.symm.trans prepares.spelled
          cases fails.symm.trans prepares.configured
  | loading spelled configured fails =>
      cases again with
      | parameter stops => cases stops.symm.trans spelled
      | configuration known stops =>
          cases spelled.symm.trans known
          cases stops.symm.trans configured
      | loading => rfl
      | generation prepares => cases fails.symm.trans prepares.loaded
  | generation prepares fails => exact (prepares.error_of_refusesAt again).1.symm

theorem RefusesAt.unique {stage other : AnswerStage} {error fault : Error}
    (refuses : environment.RefusesAt request stage error)
    (again : environment.RefusesAt request other fault) : stage = other ∧ error = fault := by
  refine ⟨refuses.stage_unique again, ?_⟩
  have first := moduleFor_result_eq_error_iff.2 ⟨stage, refuses⟩
  have second := moduleFor_result_eq_error_iff.2 ⟨other, again⟩
  exact Except.error.inj (first.symm.trans second)

theorem exists_outputFile {config : Option String} {commandFile outputFile : Option String}
    {resolved : Config}
    (configured : (environment.effectiveConfig config commandFile outputFile).result =
      .ok resolved) :
    ∃ loaded, (environment.configAtOrDefault config).result = .ok loaded ∧
      resolved.outputFile = outputFile.getD loaded.outputFile := by
  simp only [effectiveConfig, Logged.result_bind_eq_ok_iff, Logged.result_ofExcept,
    Logged.result_pure, Except.ok.injEq] at configured
  obtain ⟨loaded, loads, _, _, rfl⟩ := configured
  exact ⟨loaded, loads, rfl⟩

theorem Prepares.exists_supplies {options : PluginOptions} {generator : Generator}
    {files : List ProtoFile} (prepares : environment.Prepares request options generator files) :
    ∃ pool, Pool.ofFiles request.files = .ok pool ∧
      Supplies pool.schema request.filesToGenerate (.ok files) := by
  obtain ⟨pool, made, supplied⟩ := exists_pool_of_schemaOfRequest prepares.loaded
  exact ⟨pool, made, Supplies.schemaOf_eq_iff.1 supplied⟩

/-! ### Answers -/

/-- What an answer holds where no stage refuses the request. -/
structure Fills (environment : Environment) (request : Descriptor.Request)
    (options : PluginOptions) (generator : Generator) (files : List ProtoFile)
    (response : PluginResponse) : Prop where
  prepares : environment.Prepares request options generator files
  /-- The module goes to the path that the options name, or else to where the
  configuration says. -/
  outputFile : ∃ loaded, (environment.configAtOrDefault options.config).result = .ok loaded ∧
    generator.config.outputFile = options.outputFile.getD loaded.outputFile
  /-- The module is made from the files that are asked for, in their order, and from no
  others. -/
  supplied : ∃ pool, Pool.ofFiles request.files = .ok pool ∧
    (pool.schema.map (·.path)).Nodup ∧
      Supplies pool.schema request.filesToGenerate (.ok files)
  /-- There is a file exactly if services are asked for. -/
  filled : (∃ file, response.files = [file]) ↔
    ∃ path ∈ request.filesToGenerate,
      generator.config.servicesMarker.toList <:+: path.toList
  content : ∀ file ∈ response.files, file.name = generator.config.outputFile ∧
    ∃ generated, (generator.generate files).result = .ok (some generated) ∧
      file.content = generated.content

/-- An answer tells the first failure, or holds the module if there is one. -/
structure AnswersInStages (environment : Environment) (request : Descriptor.Request)
    (response : PluginResponse) : Prop where
  /-- There is no mix of an error with files, and there are never two files. -/
  exclusive : (∃ words, response.errorText = some words ∧ response.files = []) ∨
    (response.errorText = none ∧ response.files.length ≤ 1)
  /-- An error is answered exactly if a stage refuses the request, in the words of its
  error. -/
  refused : ∀ words, response.errorText = some words ↔
    ∃ stage error, environment.RefusesAt request stage error ∧ words = error.message
  /-- No two stages do. -/
  first : ∀ {stage other error fault}, environment.RefusesAt request stage error →
    environment.RefusesAt request other fault → stage = other ∧ error = fault
  accepted : response.errorText = none →
    ∃ options generator files, environment.Fills request options generator files response

theorem answer_of_error {error : Error}
    (fails : (environment.moduleFor request).result = .error error) :
    (environment.answer request).1 = ⟨some error.message, []⟩ := by
  simp only [answer, fails]

theorem answer_of_made {made : Option GeneratedModule}
    (makes : (environment.moduleFor request).result = .ok made) :
    (environment.answer request).1 =
      ⟨none, made.toList.map fun generated => ⟨generated.path, generated.content⟩⟩ := by
  simp only [answer, makes]

theorem Prepares.fills {options : PluginOptions} {generator : Generator}
    {files : List ProtoFile} {made : Option GeneratedModule}
    (prepares : environment.Prepares request options generator files)
    (generates : (generator.generate files).result = .ok made) :
    environment.Fills request options generator files
      ⟨none, made.toList.map fun generated => ⟨generated.path, generated.content⟩⟩ := by
  obtain ⟨pool, ofFiles, supplies⟩ := prepares.exists_supplies
  refine ⟨prepares, exists_outputFile prepares.configured,
    ⟨pool, ofFiles, pool.nodup_schema_paths, supplies⟩, ?_, ?_⟩
  · rw [← supplies.exists_pathHas_iff]
    cases Generator.generate_result_iff.1 generates with
    | nothing noServices => simpa using noServices
    | made services _ => simpa using services
    | empty services _ => simpa using services
  · intro file member
    cases made with
    | none => cases member
    | some generated =>
        obtain rfl := List.mem_singleton.1 member
        refine ⟨?_, generated, generates, rfl⟩
        obtain ⟨commandFile, _, _, rfl, _⟩ := Generator.exists_commandFile generates
        rfl

/-- Whatever a request is, its answer goes through the stages. -/
theorem answer_in_stages (environment : Environment) (request : Descriptor.Request) :
    environment.AnswersInStages request (environment.answer request).1 := by
  cases result : (environment.moduleFor request).result with
  | error error =>
      obtain ⟨stage, refuses⟩ := moduleFor_result_eq_error_iff.1 result
      rw [answer_of_error result]
      refine ⟨.inl ⟨_, rfl, rfl⟩, ?_, RefusesAt.unique, ?_⟩
      · intro words
        constructor
        · intro told
          exact ⟨stage, error, refuses, (Option.some.inj told).symm⟩
        · intro refused
          obtain ⟨other, fault, again, rfl⟩ := refused
          rw [(refuses.unique again).2]
      · intro silent
        cases silent
  | ok made =>
      obtain ⟨options, generator, files, prepares, generates⟩ :=
        moduleFor_result_eq_ok_iff.1 result
      rw [answer_of_made result]
      refine ⟨.inr ⟨rfl, ?_⟩, ?_, RefusesAt.unique, ?_⟩
      · cases made <;> simp
      · intro words
        constructor
        · intro told
          cases told
        · intro refused
          obtain ⟨stage, error, refuses, _⟩ := refused
          cases result.symm.trans (moduleFor_result_eq_error_iff.2 ⟨stage, refuses⟩)
      · intro _
        exact ⟨options, generator, files, prepares.fills generates⟩

end Environment

end RpcTools
