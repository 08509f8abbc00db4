/-
Module: RpcTools.Summary
Purpose: What a run tells about the tools that it made or would make.
Main exports: Preview, Preview.ofModule, Summary, Summary.ofModule
-/
import RpcTools.Report

namespace RpcTools

/-- What would be generated. -/
structure Preview where
  /-- Whether there is anything to generate from. -/
  hasServices : Bool
  report : Report
deriving Repr, DecidableEq

namespace Preview

/-- What is told about a module, or that there is none. -/
def ofModule (generated : Option GeneratedModule) : Preview where
  hasServices := generated.isSome
  report := (generated.map (·.report)).getD .empty

def toJson (preview : Preview) : Json :=
  .object (("has_services", .bool preview.hasServices) :: preview.report.members)

end Preview

/-- A method that makes no tool, as a summary tells it. -/
structure OmittedMethod where
  service : String
  method : String
  reason : String
deriving Repr, DecidableEq

namespace OmittedMethod

def ofLine (line : ReportLine) (obstacle : Obstacle) : OmittedMethod where
  service := line.service
  method := line.method
  reason := obstacle.text

def toJson (omitted : OmittedMethod) : Json :=
  .object
    [("service", .string omitted.service), ("method", .string omitted.method),
     ("reason", .string omitted.reason)]

end OmittedMethod

/-- What was generated. -/
structure Summary where
  commandFile : Option String
  /-- The path that the module was written to. -/
  output : Option String
  tools : List String
  omitted : List OmittedMethod
deriving Repr, DecidableEq

namespace Summary

/-- The summary where there was nothing to generate from. -/
def empty : Summary := ⟨none, none, [], []⟩

/-- The summary of a module that was written to a path. -/
def ofModule (generated : GeneratedModule) (output : String) : Summary where
  commandFile := generated.report.commandFile
  output := some output
  tools := generated.report.emitted
  omitted := generated.report.omitted.map fun (line, obstacle) => .ofLine line obstacle

def toJson (summary : Summary) : Json :=
  .object
    [("command_file", .ofNullable summary.commandFile),
     ("output", .ofNullable summary.output),
     ("tools", .ofStrings summary.tools),
     ("skipped", .array (summary.omitted.map OmittedMethod.toJson))]

end Summary

end RpcTools
