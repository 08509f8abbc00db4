/-
Module: RpcTools.Proofs.CommandStages
Purpose: The stages of a run that makes a module: what it makes if all of them pass, and
  with which error it fails at which of them.
Main exports: Stage, Environment.Reads, Environment.Makes, Environment.FailsAt,
  Environment.Generates, Environment.generate_generates,
  Environment.generate_error_iff, Environment.inspect_error_iff
-/
import RpcTools.Execution

namespace RpcTools

/-- The stages of a run, in their order. -/
inductive Stage where
  | configuration
  | schema
  | generation
  | placement
deriving Repr, DecidableEq

/-- Every generator is the one for its configuration. -/
theorem Generator.ofConfig_config (generator : Generator) :
    Generator.ofConfig generator.config = .ok generator := by
  rw [ofConfig]
  split
  · rfl
  · next faultsEq =>
      rw [generator.valid] at faultsEq
      cases faultsEq

namespace Environment

variable {environment : Environment} {inputs : Inputs} {output : Option String}

/-! ### What a run relies on -/

/-- The configuration and the schema that the inputs name. -/
structure Reads (environment : Environment) (inputs : Inputs) (generator : Generator)
    (files : List ProtoFile) : Prop where
  configured : (environment.effectiveConfig inputs.config inputs.commandFile none).result =
    .ok generator.config
  loaded : (environment.schemaAt inputs.descriptorSet).result = .ok files

/-- The module that the inputs make; none where there are no services. -/
inductive Makes (environment : Environment) (inputs : Inputs)
    (made : Option GeneratedModule) : Prop where
  | of {generator : Generator} {files : List ProtoFile}
      (reads : environment.Reads inputs generator files)
      (generates : (generator.generate files).result = .ok made) :
      Makes environment inputs made

/-- How placing the module that a run makes comes out. -/
def placing (environment : Environment) (output : Option String)
    (generated : GeneratedModule) : FileSystem.Change :=
  environment.files.place (environment.targetPath output generated.path)
    generated.content.toUTF8.toList

/-- A run fails at a stage: the stages before it pass, and this one does not. -/
inductive FailsAt (environment : Environment) (inputs : Inputs) (output : Option String) :
    Stage → Error → Prop where
  | configuration {error : Error}
      (fails : (environment.effectiveConfig inputs.config inputs.commandFile none).result =
        .error error) :
      FailsAt environment inputs output .configuration error
  | schema {config : Config} {error : Error}
      (configured : (environment.effectiveConfig inputs.config inputs.commandFile none).result =
        .ok config)
      (fails : (environment.schemaAt inputs.descriptorSet).result = .error error) :
      FailsAt environment inputs output .schema error
  | generation {generator : Generator} {files : List ProtoFile} {error : Error}
      (reads : environment.Reads inputs generator files)
      (fails : (generator.generate files).result = .error error) :
      FailsAt environment inputs output .generation error
  | placement {generated : GeneratedModule} {error : Error}
      (makes : environment.Makes inputs (some generated))
      (toFile : output ≠ some "-")
      (fails : (environment.placing output generated).fault = some error) :
      FailsAt environment inputs output .placement error

/-! ### The stages before anything is written -/

/-- A configuration is in effect only if it is valid, so that there is a generator for
it. -/
theorem exists_generator {path commandFile outputFile : Option String} {config : Config}
    (configured : (environment.effectiveConfig path commandFile outputFile).result =
      .ok config) :
    ∃ generator : Generator, generator.config = config := by
  simp only [effectiveConfig, Logged.result_bind_eq_ok_iff, Logged.result_ofExcept,
    Logged.result_pure, Except.ok.injEq] at configured
  obtain ⟨loaded, _, _, valid, rfl⟩ := configured
  exact ⟨⟨_, (Config.validate_eq_ok_iff _).1 valid⟩, rfl⟩

theorem dryRun_result_eq_ok_iff {made : Option GeneratedModule} :
    (environment.dryRun inputs).result = .ok made ↔ environment.Makes inputs made := by
  simp only [dryRun, Logged.result_bind_eq_ok_iff, Logged.result_ofExcept]
  constructor
  · rintro ⟨config, configured, files, loaded, generator, built, generates⟩
    obtain ⟨generator, rfl⟩ := exists_generator configured
    rw [Generator.ofConfig_config, Except.ok.injEq] at built
    subst built
    exact .of ⟨configured, loaded⟩ generates
  · rintro ⟨⟨configured, loaded⟩, generates⟩
    exact ⟨_, configured, _, loaded, _, Generator.ofConfig_config _, generates⟩

theorem dryRun_result_eq_error_iff {error : Error} :
    (environment.dryRun inputs).result = .error error ↔
      ∃ stage, stage ≠ .placement ∧ environment.FailsAt inputs output stage error := by
  simp only [dryRun, Logged.result_bind_eq_error_iff, Logged.result_ofExcept]
  constructor
  · rintro (fails | ⟨config, configured, fails | ⟨files, loaded, fails | ⟨generator, built, fails⟩⟩⟩)
    · exact ⟨_, by simp, .configuration fails⟩
    · exact ⟨_, by simp, .schema configured fails⟩
    · -- a configuration that is in effect has a generator
      obtain ⟨generator, rfl⟩ := exists_generator configured
      rw [Generator.ofConfig_config] at fails
      cases fails
    · obtain ⟨generator, rfl⟩ := exists_generator configured
      rw [Generator.ofConfig_config, Except.ok.injEq] at built
      subst built
      exact ⟨_, by simp, .generation ⟨configured, loaded⟩ fails⟩
  · rintro ⟨stage, before, failsAt⟩
    cases failsAt with
    | configuration fails => exact .inl fails
    | schema configured fails => exact .inr ⟨_, configured, .inl fails⟩
    | generation reads fails =>
        exact .inr ⟨_, reads.configured, .inr ⟨_, reads.loaded, .inr
          ⟨_, Generator.ofConfig_config _, fails⟩⟩⟩
    | placement => exact absurd rfl before

/-- A run fails at one stage at most. -/
theorem FailsAt.stage_unique {stage other : Stage} {error fault : Error}
    (fails : environment.FailsAt inputs output stage error)
    (again : environment.FailsAt inputs output other fault) : stage = other := by
  -- whatever fails before the placement leaves nothing to be placed
  have unmade : ∀ {stage error made}, environment.FailsAt inputs output stage error →
      environment.Makes inputs made → stage = .placement := by
    intro stage error made fails makes
    by_cases placed : stage = .placement
    · exact placed
    · have result := dryRun_result_eq_error_iff.2 ⟨stage, placed, fails⟩
      rw [dryRun_result_eq_ok_iff.2 makes] at result
      cases result
  cases fails with
  | configuration fails =>
      cases again with
      | configuration => rfl
      | schema configured => cases fails.symm.trans configured
      | generation reads => cases fails.symm.trans reads.configured
      | placement makes => exact unmade (.configuration fails) makes
  | schema configured fails =>
      cases again with
      | configuration stops => cases stops.symm.trans configured
      | schema => rfl
      | generation reads => cases fails.symm.trans reads.loaded
      | placement makes => exact unmade (.schema configured fails) makes
  | generation reads fails =>
      cases again with
      | configuration stops => cases stops.symm.trans reads.configured
      | schema configured stops => cases stops.symm.trans reads.loaded
      | generation => rfl
      | placement makes => exact unmade (.generation reads fails) makes
  | placement makes => exact (unmade again makes).symm

/-! ### Whole runs -/

variable {format : OutputFormat}

/-- What a run that generates comes to, by how far it gets. -/
inductive Generates (environment : Environment) (inputs : Inputs) (output : Option String)
    (format : OutputFormat) : Execution → Prop where
  | failed {stage : Stage} {error : Error} {events : List Event} (before : stage ≠ .placement)
      (fails : environment.FailsAt inputs output stage error) :
      Generates environment inputs output format (.failed error events environment.files)
  | printed {made : Option GeneratedModule} {events : List Event}
      (makes : environment.Makes inputs made) (toStandardOutput : output = some "-") :
      Generates environment inputs output format
        (.completed ((made.map (·.content)).getD "") events environment.files)
  | nothing {events : List Event} (makes : environment.Makes inputs none)
      (toFile : output ≠ some "-") :
      Generates environment inputs output format
        (.completed (environment.summaryText format Summary.empty.toJson) events
          environment.files)
  | unwritten {generated : GeneratedModule} {error : Error} {events : List Event}
      (makes : environment.Makes inputs (some generated))
      (toFile : output ≠ some "-")
      (fails : (environment.placing output generated).fault = some error) :
      Generates environment inputs output format
        (.failed error events (environment.placing output generated).files)
  | written {generated : GeneratedModule} {events : List Event}
      (makes : environment.Makes inputs (some generated))
      (toFile : output ≠ some "-")
      (done : (environment.placing output generated).fault = none) :
      Generates environment inputs output format
        (.completed
          (environment.summaryText format
            (Summary.ofModule generated
              (environment.targetPath output generated.path)).toJson)
          events (environment.placing output generated).files)

theorem deliver_eq_failed {generated : GeneratedModule} {error : Error} (events : List Event)
    (fails : (environment.placing output generated).fault = some error) :
    environment.deliver generated (environment.targetPath output generated.path) format events =
      .failed error events (environment.placing output generated).files := by
  rw [deliver, ← placing]
  rcases change : environment.placing output generated with ⟨files, fault⟩
  rw [change] at fails
  cases fails
  rfl

theorem exists_deliver_eq_completed {generated : GeneratedModule} (events : List Event)
    (done : (environment.placing output generated).fault = none) :
    ∃ told,
      environment.deliver generated (environment.targetPath output generated.path) format
          events =
        .completed
          (environment.summaryText format
            (Summary.ofModule generated
              (environment.targetPath output generated.path)).toJson)
          told (environment.placing output generated).files := by
  rw [deliver, ← placing]
  rcases change : environment.placing output generated with ⟨files, fault⟩
  rw [change] at done
  cases done
  exact ⟨_, rfl⟩

/-- Every run comes to one of these. -/
theorem generate_generates :
    environment.Generates inputs output format (environment.generate inputs output format) := by
  rw [generate]
  cases result : (environment.dryRun inputs).result with
  | error error =>
      obtain ⟨stage, before, fails⟩ := dryRun_result_eq_error_iff.1 result
      exact .failed before fails
  | ok made =>
      have makes := dryRun_result_eq_ok_iff.1 result
      by_cases toStandardOutput : output = some printedOutput
      · simp only [if_pos toStandardOutput]
        exact .printed makes toStandardOutput
      · simp only [if_neg toStandardOutput]
        cases made with
        | none => exact .nothing makes toStandardOutput
        | some generated =>
            change environment.Generates inputs output format (environment.deliver _ _ _ _)
            cases fault : (environment.placing output generated).fault with
            | some error =>
                rw [deliver_eq_failed _ fault]
                exact .unwritten makes toStandardOutput fault
            | none =>
                obtain ⟨told, delivered⟩ := exists_deliver_eq_completed _ fault
                rw [delivered]
                exact .written makes toStandardOutput fault

theorem generate_error_of_failsAt {stage : Stage} {error : Error}
    (fails : environment.FailsAt inputs output stage error) :
    (environment.generate inputs output format).error = some error := by
  by_cases before : stage = .placement
  · subst before
    cases fails with
    | placement makes toFile fails =>
        have result := dryRun_result_eq_ok_iff.2 makes
        simp only [generate, result, printedOutput, if_neg toFile, deliver_eq_failed _ fails,
          Execution.failed]
  · have result := dryRun_result_eq_error_iff.2 ⟨stage, before, fails⟩
    simp only [generate, result, Execution.failed]

theorem Generates.exists_failsAt {run : Execution} {error : Error}
    (generates : environment.Generates inputs output format run)
    (failed : run.error = some error) :
    ∃ stage, environment.FailsAt inputs output stage error := by
  cases generates with
  | failed _ fails =>
      cases failed
      exact ⟨_, fails⟩
  | unwritten makes toFile fails =>
      cases failed
      exact ⟨_, .placement makes toFile fails⟩
  | printed => cases failed
  | nothing => cases failed
  | written => cases failed

/-- A run that generates fails exactly if it fails at a stage, and then with the error of
that stage. -/
theorem generate_error_iff {error : Error} :
    (environment.generate inputs output format).error = some error ↔
      ∃ stage, environment.FailsAt inputs output stage error := by
  constructor
  · exact generate_generates.exists_failsAt
  · rintro ⟨stage, fails⟩
    exact generate_error_of_failsAt fails

/-- An inspection fails exactly if a run that generates, wherever it would write, fails
before it writes. -/
theorem inspect_error_iff {error : Error} :
    (environment.inspect inputs format).error = some error ↔
      ∃ stage, stage ≠ .placement ∧ environment.FailsAt inputs output stage error := by
  rw [← dryRun_result_eq_error_iff, inspect]
  cases (environment.dryRun inputs).result with
  | error fault => simp [Execution.failed]
  | ok made => simp [Execution.completed]

end Environment

end RpcTools
