/-
Module: RpcTools.Report
Purpose: What a generation run made of every method.
Main exports: ReportLine, Report, GeneratedModule
-/
import RpcTools.CallPattern
import RpcTools.Tool.Names
import RpcTools.Tool

namespace RpcTools

/-- What was made of one method. -/
structure ReportLine where
  service : String
  method : String
  pattern : CallPattern
  names : ToolNames
  /-- Why the method makes no tool, if it makes none. -/
  obstacle : Option Obstacle
deriving Repr, DecidableEq

namespace ReportLine

/-- Whether the method became a tool. -/
def isEmitted (report : ReportLine) : Bool :=
  report.obstacle.isNone

def toJson (report : ReportLine) : Json :=
  .object
    ([("service", .string report.service), ("method", .string report.method)] ++
      report.pattern.members ++
      [("call_name", .string report.names.callName),
       ("internal_name", .string report.names.internalName),
       ("label", .string report.names.label),
       ("skipped", (report.obstacle.map Obstacle.toJson).getD .null)])

end ReportLine

/-- What a run made of the command file. -/
structure Report where
  commandFile : Option String
  methods : List ReportLine
deriving Repr, DecidableEq

namespace Report

/-- The report of a run that had nothing to do. -/
def empty : Report := ⟨none, []⟩

/-- The names of the tools, in the order of the module. -/
def emitted (report : Report) : List String :=
  (report.methods.filter (·.isEmitted)).map (·.names.callName)

/-- The methods that were left out, each with the reason. -/
def omitted (report : Report) : List (ReportLine × Obstacle) :=
  report.methods.filterMap fun line => line.obstacle.map fun obstacle => (line, obstacle)

def toolCount (report : Report) : Nat := report.emitted.length

def omittedCount (report : Report) : Nat := report.omitted.length

/-- The members of the report's JSON form. -/
def members (report : Report) : List (String × Json) :=
  [("command_file", .ofNullable report.commandFile),
   ("methods", .array (report.methods.map ReportLine.toJson))]

def toJson (report : Report) : Json := .object report.members

theorem toolCount_add_omittedCount (report : Report) :
    report.toolCount + report.omittedCount = report.methods.length := by
  obtain ⟨commandFile, methods⟩ := report
  simp only [toolCount, omittedCount, emitted, omitted, List.length_map]
  induction methods with
  | nil => rfl
  | cons method rest inductionHypothesis =>
      cases reason : method.obstacle <;>
        simp [ReportLine.isEmitted, reason] at inductionHypothesis ⊢ <;> omega

end Report

/-- A generated module and how it came about. -/
structure GeneratedModule where
  path : String
  content : String
  report : Report
deriving Repr, DecidableEq

end RpcTools
