/-
Module: RpcTools.Environment
Purpose: What surrounds a run, and what a run reads there.
Main exports: Environment, Environment.configAt, Environment.configAtOrDefault,
  Environment.effectiveConfig, Environment.schemaAt
-/
import RpcTools.Config.Toml
import RpcTools.FileSystem
import RpcTools.Schema.Reading

namespace RpcTools

/-- What surrounds a run. -/
structure Environment where
  files : FileSystem
  /-- The path of the directory that holds the configurations of programs. -/
  configHome : Option String
  /-- Whether what is printed may be coloured. -/
  colored : Bool
deriving Repr, DecidableEq

namespace Environment

/-- The path of the configuration that is used when none is named. -/
def defaultConfigPath (environment : Environment) : Option String :=
  environment.configHome.map (Path.join · "agent-tools/config.toml")

/-- The configuration in a file. -/
def configAt (environment : Environment) (path : String) : Logged Config := do
  let text ← Logged.ofExcept ((environment.files.readText path).mapError (.io path))
  let config ← Logged.ofExcept (Config.ofToml text)
  Logged.tell (.configLoaded path)
  pure config

/-- The configuration in the file that is named; if none is, the one in the file that is
used then, and without such a file the default. -/
def configAtOrDefault (environment : Environment) : Option String → Logged Config
  | some path => environment.configAt path
  | none =>
      match environment.defaultConfigPath.filter environment.files.has with
      | some path => environment.configAt path
      | none => do
          Logged.tell .configDefaulted
          pure Config.default

/-- The configuration in a file, with what is said elsewhere in place of what it says;
it has to be a valid one even then. -/
def effectiveConfig (environment : Environment)
    (path commandFile outputFile : Option String) : Logged Config := do
  let loaded ← environment.configAtOrDefault path
  let resolved : Config :=
    { loaded with
      commandFile := commandFile.or loaded.commandFile
      outputFile := outputFile.getD loaded.outputFile }
  Logged.ofExcept resolved.validate
  pure resolved

/-- The schema of the descriptor set in a file. -/
def schemaAt (environment : Environment) (path : String) : Logged (List ProtoFile) := do
  schemaOfSet
    (← Logged.ofExcept ((environment.files.readBytes path).mapError (.io path)))

end Environment

/-- The words for an error of a run that loads a descriptor set.  Only loading a set
gives errors about descriptors, and these are told with the path of the set. -/
def Error.explained (error : Error) (descriptorSet : String) : String :=
  if error.isDescriptorError then
    s!"failed to load descriptor set {descriptorSet}: {error.messageWithCause}"
  else error.messageWithCause

end RpcTools
