/-
Module: RpcTools.Proofs.Inspection
Purpose: What an inspection tells comes true: it fails where a run that generates would
  fail before it writes, and what it shows is what the summary of that run says.
Main exports: MethodsTold, Foretells, Environment.InspectionHolds,
  Environment.inspection_holds
-/
import RpcTools.Proofs.CommandStages

namespace RpcTools

/-! ### What an inspection shows and a summary says -/

/-- The word for a calling convention. -/
inductive CallingConvention.Spelled : CallingConvention → String → Prop where
  | unary : Spelled .unary "unary"
  | serverStreaming : Spelled .serverStreaming "server_streaming"
  | clientStreaming : Spelled .clientStreaming "client_streaming"
  | bidiStreaming : Spelled .bidiStreaming "bidi_streaming"

/-- The value that an inspection shows for an obstacle, and the words of a summary for it. -/
inductive Obstacle.Told : Obstacle → Json → String → Prop where
  | unsupportedField (field reason : String) :
      Told (.unsupportedField ⟨field, reason⟩)
        (.object
          [("kind", .string "unsupported_field"), ("field", .string field),
           ("reason", .string reason)])
        ("unsupported field '" ++ field ++ "': " ++ reason)
  | notYetSupported {convention : CallingConvention} {word : String}
      (spelled : convention.Spelled word) :
      Told (.notYetSupported convention)
        (.object [("kind", .string "not_yet_supported"), ("call_kind", .string word)])
        (word ++ " methods are not supported yet")

/-- The value that shows a method, with the word for its calling convention and with what
stands for the reason why it makes no tool. -/
def ReportLine.shown (line : ReportLine) (convention : String) (skipped : Json) : Json :=
  .object
    [("service", .string line.service), ("method", .string line.method),
     ("call_kind", .string convention), ("is_pure_list", .bool line.pattern.isPureList),
     ("call_name", .string line.names.callName),
     ("internal_name", .string line.names.internalName), ("label", .string line.names.label),
     ("skipped", skipped)]

/-- Methods as an inspection shows them, with the tools and the methods left out that a summary
lists for them, all in the same order. -/
inductive MethodsTold : List ReportLine → List Json → List Json → List Json → Prop where
  | nil : MethodsTold [] [] [] []
  /-- A method that is not skipped is a tool, under the name that it is called by. -/
  | tool {line : ReportLine} {convention : String} {lines : List ReportLine}
      {methods tools skipped : List Json} (noObstacle : line.obstacle = none)
      (spelled : line.pattern.convention.Spelled convention)
      (rest : MethodsTold lines methods tools skipped) :
      MethodsTold (line :: lines) (line.shown convention .null :: methods)
        (.string line.names.callName :: tools) skipped
  /-- A method that is skipped is left out, for the same reason in words. -/
  | omitted {line : ReportLine} {convention : String} {obstacle : Obstacle} {reason : Json}
      {words : String} {lines : List ReportLine} {methods tools skipped : List Json}
      (hindered : line.obstacle = some obstacle) (told : obstacle.Told reason words)
      (spelled : line.pattern.convention.Spelled convention)
      (rest : MethodsTold lines methods tools skipped) :
      MethodsTold (line :: lines) (line.shown convention reason :: methods) tools
        (.object
          [("service", .string line.service), ("method", .string line.method),
           ("reason", .string words)] :: skipped)

/-- The value for a path that there may be. -/
inductive PathTold : Option String → Json → Prop where
  | missing : PathTold none .null
  | path (path : String) : PathTold (some path) (.string path)

/-- The value that an inspection prints of what inputs make, and the value that a summary is. -/
inductive Foretells : Option GeneratedModule → Json → Json → Prop where
  | module {generated : GeneratedModule} {commandFile : Json} {path : String}
      {methods tools skipped : List Json}
      (selected : PathTold generated.report.commandFile commandFile)
      (listed : MethodsTold generated.report.methods methods tools skipped) :
      Foretells (some generated)
        (.object
          [("has_services", .bool true), ("command_file", commandFile),
           ("methods", .array methods)])
        (.object
          [("command_file", commandFile), ("output", .string path),
           ("tools", .array tools), ("skipped", .array skipped)])
  /-- Without services there is no command file, no method and no path. -/
  | nothing :
      Foretells none
        (.object [("has_services", .bool false), ("command_file", .null), ("methods", .array [])])
        (.object
          [("command_file", .null), ("output", .null), ("tools", .array []),
           ("skipped", .array [])])

theorem CallingConvention.spelled_word (convention : CallingConvention) :
    convention.Spelled convention.word := by
  cases convention <;> constructor

theorem Obstacle.told (obstacle : Obstacle) : obstacle.Told obstacle.toJson obstacle.text := by
  cases obstacle with
  | unsupportedField fault => exact .unsupportedField fault.field fault.reason
  | notYetSupported convention => exact .notYetSupported convention.spelled_word

/-- Lines of a report are shown as they are, and summed up in order. -/
theorem methodsTold (commandFile : Option String) (lines : List ReportLine) :
    MethodsTold lines (lines.map ReportLine.toJson)
      ((Report.mk commandFile lines).emitted.map .string)
      ((Report.mk commandFile lines).omitted.map fun (line, obstacle) =>
        (OmittedMethod.ofLine line obstacle).toJson) := by
  induction lines with
  | nil => exact .nil
  | cons line rest inductionHypothesis =>
      have spelled := line.pattern.convention.spelled_word
      cases hindered : line.obstacle with
      | none =>
          have shown : line.toJson = line.shown line.pattern.convention.word .null := by
            rw [ReportLine.toJson, hindered]
            rfl
          simp only [Report.emitted, Report.omitted, ReportLine.isEmitted, hindered, shown,
            List.map_cons, List.filter_cons, List.filterMap_cons, Option.isNone_none,
            Option.map_none, if_true]
          exact .tool hindered spelled inductionHypothesis
      | some obstacle =>
          have shown :
              line.toJson = line.shown line.pattern.convention.word obstacle.toJson := by
            rw [ReportLine.toJson, hindered]
            rfl
          simp only [Report.emitted, Report.omitted, ReportLine.isEmitted, hindered, shown,
            List.map_cons, List.filter_cons, List.filterMap_cons, Option.isNone_some,
            Option.map_some, Bool.false_eq_true, if_false]
          exact .omitted hindered obstacle.told spelled inductionHypothesis

theorem pathTold_ofNullable (path : Option String) : PathTold path (.ofNullable path) := by
  cases path <;> constructor

theorem foretells_ofModule (generated : GeneratedModule) (target : String) :
    Foretells (some generated) (Preview.ofModule (some generated)).toJson
      (Summary.ofModule generated target).toJson := by
  have listed := methodsTold generated.report.commandFile generated.report.methods
  simp only [Preview.toJson, Preview.ofModule, Summary.toJson, Summary.ofModule, Report.members,
    Json.ofStrings, List.map_map, Option.isSome_some, Option.map_some, Option.getD_some]
  exact .module (pathTold_ofNullable _) listed

namespace Environment

variable {environment : Environment} {inputs : Inputs} {output : Option String}

/-! ### Inspections and runs that generate -/

/-- The run of an inspection stands for the run that generates from the same inputs,
whatever the formats in which the two print. -/
structure InspectionHolds (environment : Environment) (inputs : Inputs)
    (output : Option String) : Prop where
  /-- The other run fails exactly if it fails at a stage, with the error of the stage. -/
  fails : ∀ format error, (environment.generate inputs output format).error = some error ↔
    ∃ stage, environment.FailsAt inputs output stage error
  /-- The inspection fails exactly if the other run fails before it writes, with the same
  error. -/
  failsBefore : ∀ shown error, (environment.inspect inputs shown).error = some error ↔
    ∃ stage, stage ≠ .placement ∧ environment.FailsAt inputs output stage error
  /-- It does not fail where the other run fails because it cannot write. -/
  passes : ∀ shown fault, environment.FailsAt inputs output .placement fault →
    (environment.inspect inputs shown).error = none
  /-- It writes nothing. -/
  unchanged : ∀ shown, (environment.inspect inputs shown).files = environment.files
  /-- If the other run prints a summary, the inspection shows what it says. -/
  tells : ∀ format, (environment.generate inputs output format).error = none →
    output ≠ some "-" →
      ∃ made inspected summary, environment.Makes inputs made ∧
        Foretells made inspected summary ∧
        (environment.generate inputs output format).printed =
          format.print environment.colored summary ++ "\n" ∧
        ∀ shown, (environment.inspect inputs shown).error = none ∧
          (environment.inspect inputs shown).printed =
            shown.print environment.colored inspected ++ "\n"

theorem inspect_of_makes {made : Option GeneratedModule} (makes : environment.Makes inputs made)
    (shown : OutputFormat) :
    environment.inspect inputs shown =
      .completed (environment.summaryText shown (Preview.ofModule made).toJson)
        (environment.dryRun inputs).events environment.files := by
  simp only [inspect, dryRun_result_eq_ok_iff.2 makes]

theorem inspect_files (shown : OutputFormat) :
    (environment.inspect inputs shown).files = environment.files := by
  rw [inspect]
  cases (environment.dryRun inputs).result <;> rfl

/-- A run that prints a summary makes something, and the summary says what. -/
theorem Generates.exists_summary {format : OutputFormat} {run : Execution}
    (generates : environment.Generates inputs output format run) (succeeds : run.error = none)
    (toFile : output ≠ some "-") :
    ∃ made summary, environment.Makes inputs made ∧
      Foretells made (Preview.ofModule made).toJson summary ∧
        run.printed = environment.summaryText format summary := by
  cases generates with
  | failed => cases succeeds
  | printed _ toStandardOutput => exact absurd toStandardOutput toFile
  | nothing makes _ => exact ⟨_, _, makes, .nothing, rfl⟩
  | unwritten => cases succeeds
  | written makes _ _ => exact ⟨_, _, makes, foretells_ofModule _ _, rfl⟩

/-- Inspecting is generating up to the point where something would be written. -/
theorem inspection_holds (environment : Environment) (inputs : Inputs)
    (output : Option String) : environment.InspectionHolds inputs output where
  fails _ _ := generate_error_iff
  failsBefore _ _ := inspect_error_iff
  passes := by
    intro shown fault fails
    cases fails with
    | placement makes _ _ =>
        rw [inspect_of_makes makes]
        rfl
  unchanged := inspect_files
  tells := by
    intro format succeeds toFile
    obtain ⟨made, summary, makes, foretells, printed⟩ :=
      generate_generates.exists_summary succeeds toFile
    refine ⟨made, _, summary, makes, foretells, printed, ?_⟩
    intro shown
    rw [inspect_of_makes makes]
    exact ⟨rfl, rfl⟩

end Environment

end RpcTools
