/-
Module: RpcTools.Program
Purpose: Whole runs of the program and of the plugin, apart from input and output.
Main exports: Outcome, Environment.runLine, Environment.runProgram,
  Environment.runPlugin
-/
import RpcTools.CommandLine.Reading
import RpcTools.Execution
import RpcTools.Plugin.Response

namespace RpcTools

/-- What a run leaves. -/
structure Outcome where
  status : ExitStatus
  printed : Wire.Bytes
  /-- What is said where errors are told. -/
  complaint : Option String
  events : List Event
  /-- The files after the run. -/
  files : FileSystem
deriving Repr, DecidableEq

/-- The words for an error that ends a run of a command. -/
def Command.explain (command : Command) (error : Error) : String :=
  match command with
  | .generate inputs _ | .inspect inputs => error.explained inputs.descriptorSet
  | .completions _ => error.messageWithCause

namespace CommandLine

/-- Why a command line is refused, in words. -/
def Halt.message : Halt → String
  | .nothingSaid | .verbMissing => "error: a command is required"
  | .verbUnknown word => s!"error: unrecognized command '{word}'"
  | .argumentUnknown word => s!"error: unexpected argument '{word}'"
  | .argumentMissing argument => s!"error: missing argument: {argument.about}"
  | .argumentRepeated argument => s!"error: argument given more than once: {argument.about}"
  | .valueMissing argument => s!"error: a value is required: {argument.about}"
  | .valueRefused argument value => s!"error: invalid value '{value}': {argument.about}"
  | .valueUnexpected argument => s!"error: no value is expected: {argument.about}"
  | .helpAsked _ | .versionAsked => ""

end CommandLine

namespace Environment

/-- The outcome of a run that touches no file. -/
def untouched (environment : Environment) (status : ExitStatus) (printed : String)
    (complaint : Option String) : Outcome :=
  ⟨status, printed.toUTF8.toList, complaint, [], environment.files⟩

/-- Runs a command line; the format is looked at first. -/
def runLine (environment : Environment) (line : CommandLine) : Outcome :=
  match OutputFormat.ofName line.format with
  | .error error =>
      environment.untouched error.exitStatus "" (some ("Error: " ++ error.messageWithCause))
  | .ok format =>
      let execution := environment.execute line.command format
      { status := execution.exitStatus
        printed := execution.printed.toUTF8.toList
        complaint := execution.error.map fun error => "Error: " ++ line.command.explain error
        events := execution.events
        files := execution.files }

/-- Runs the program with the words of a command line, its own name apart, and with the
path of a configuration that the surroundings designate. -/
def runProgram (environment : Environment) (designatedConfig : Option String)
    (words : List String) : Outcome :=
  match CommandLine.ofArguments designatedConfig words with
  | .ok line => environment.runLine line
  | .error (.helpAsked verb) =>
      environment.untouched .success (CommandLine.help verb) none
  | .error .versionAsked =>
      environment.untouched .success (programName ++ " " ++ programVersion ++ "\n") none
  | .error halt => environment.untouched halt.exitStatus "" (some halt.message)

/-- The name that the plugin goes by. -/
def pluginName : String := "protoc-gen-agent-tools"

/-- Runs the plugin on a request in binary form. -/
def runPlugin (environment : Environment) (input : Wire.Bytes) : Outcome :=
  match Descriptor.readRequest input with
  | .error error =>
      environment.untouched .failure ""
        (some (pluginName ++ ": " ++ error.messageWithCause))
  | .ok request =>
      let (response, events) := environment.answer request
      ⟨.success, response.encode, none, events, environment.files⟩

end Environment

end RpcTools
