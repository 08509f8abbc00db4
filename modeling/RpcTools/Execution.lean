/-
Module: RpcTools.Execution
Purpose: Running commands.
Main exports: Environment.dryRun, Execution, Environment.generate, Environment.inspect,
  Environment.complete, Environment.execute
-/
import RpcTools.CommandLine.Manual
import RpcTools.Environment
import RpcTools.FileSystem.Placement
import RpcTools.Generator
import RpcTools.OutputFormat
import RpcTools.Summary

/-!
Making a module only reads; writing it is the one step that changes files, and comes
last.  So a run that fails before has changed nothing, and inspecting is making a module
and not writing it.
-/

namespace RpcTools

/-- The module that the inputs make, written nowhere. -/
def Environment.dryRun (environment : Environment) (inputs : Inputs) :
    Logged (Option GeneratedModule) := do
  let config ← environment.effectiveConfig inputs.config inputs.commandFile none
  let files ← environment.schemaAt inputs.descriptorSet
  let generator ← Logged.ofExcept (Generator.ofConfig config)
  generator.generate files

/-- What a run comes to. -/
structure Execution where
  /-- What ended the run before it was complete. -/
  error : Option Error
  printed : String
  events : List Event
  /-- The files after the run. -/
  files : FileSystem
deriving Repr, DecidableEq

namespace Execution

/-- A run that ends with an error prints nothing. -/
def failed (error : Error) (events : List Event) (files : FileSystem) : Execution :=
  ⟨some error, "", events, files⟩

/-- A run that is complete. -/
def completed (printed : String) (events : List Event) (files : FileSystem) : Execution :=
  ⟨none, printed, events, files⟩

/-- The exit status of a run. -/
def exitStatus (execution : Execution) : ExitStatus :=
  (execution.error.map Error.exitStatus).getD .success

end Execution

namespace Environment

/-- The output that stands for printing the module. -/
def printedOutput : String := "-"

/-- The path that a module goes to: into a directory, to a path, or to where the
configuration says. -/
def targetPath (environment : Environment) (output : Option String) (modulePath : String) :
    String :=
  match output with
  | some path =>
      if environment.files.isDirectory path then Path.join path modulePath else path
  | none => modulePath

/-- A value in the format of summaries, and the end of the line. -/
def summaryText (environment : Environment) (format : OutputFormat) (summary : Json) : String :=
  format.print environment.colored summary ++ "\n"

/-- Writes a module, and tells about it. -/
def deliver (environment : Environment) (generated : GeneratedModule) (target : String)
    (format : OutputFormat) (events : List Event) : Execution :=
  match environment.files.place target generated.content.toUTF8.toList with
  | ⟨files, some error⟩ => .failed error events files
  | ⟨files, none⟩ =>
      .completed (environment.summaryText format (Summary.ofModule generated target).toJson)
        (events ++ [.moduleWritten target]) files

/-- Makes a module and prints or writes it. -/
def generate (environment : Environment) (inputs : Inputs) (output : Option String)
    (format : OutputFormat) : Execution :=
  let made := environment.dryRun inputs
  match made.result with
  | .error error => .failed error made.events environment.files
  | .ok generated =>
      if output = some printedOutput then
        .completed ((generated.map (·.content)).getD "") made.events environment.files
      else
        match generated with
        | none =>
            .completed (environment.summaryText format Summary.empty.toJson) made.events
              environment.files
        | some generated =>
            environment.deliver generated (environment.targetPath output generated.path)
              format made.events

/-- Tells what would be generated. -/
def inspect (environment : Environment) (inputs : Inputs) (format : OutputFormat) :
    Execution :=
  let made := environment.dryRun inputs
  match made.result with
  | .error error => .failed error made.events environment.files
  | .ok generated =>
      .completed (environment.summaryText format (Preview.ofModule generated).toJson)
        made.events environment.files

/-- Prints the script with which a shell completes command lines. -/
def complete (environment : Environment) (shell : Shell) : Execution :=
  .completed (CommandLine.completionScript shell) [.completionsGenerated shell.name]
    environment.files

/-- Runs a command. -/
def execute (environment : Environment) (command : Command) (format : OutputFormat) :
    Execution :=
  match command with
  | .generate inputs output => environment.generate inputs output format
  | .inspect inputs => environment.inspect inputs format
  | .completions shell => environment.complete shell

end Environment

end RpcTools
