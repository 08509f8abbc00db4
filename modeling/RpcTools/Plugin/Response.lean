/-
Module: RpcTools.Plugin.Response
Purpose: What the plugin answers to a compiler.
Main exports: PluginResponse, Environment.moduleFor, Environment.answer,
  PluginResponse.encode
-/
import RpcTools.Environment
import RpcTools.Generator
import RpcTools.Plugin.Options
import RpcTools.Wire.Writer

/-!
A request is answered in stages: its parameter is read, the configuration is resolved,
the files are loaded, and the module is made.  The first stage that fails decides the
answer.
-/

namespace RpcTools

/-- A file that the compiler is to write. -/
structure ResponseFile where
  name : String
  content : String
deriving Repr, DecidableEq

/-- An answer to a compiler. -/
structure PluginResponse where
  /-- The words for the error that there is, if there is one. -/
  errorText : Option String
  files : List ResponseFile
deriving Repr, DecidableEq

namespace Environment

/-- The configuration that options describe. -/
def configOfOptions (environment : Environment) (options : PluginOptions) : Logged Config :=
  environment.effectiveConfig options.config options.commandFile options.outputFile

/-- The module that a request asks for. -/
def moduleFor (environment : Environment) (request : Descriptor.Request) :
    Logged (Option GeneratedModule) := do
  let options ← Logged.ofExcept (PluginOptions.ofParameter (request.parameter.getD ""))
  let config ← environment.configOfOptions options
  let generator ← Logged.ofExcept (Generator.ofConfig config)
  let files ← schemaOfRequest request
  Logged.tell (.filesReceived files.length)
  generator.generate files

/-- The answer to a request, and what was told on the way. -/
def answer (environment : Environment) (request : Descriptor.Request) :
    PluginResponse × List Event :=
  let made := environment.moduleFor request
  match made.result with
  | .error error => (⟨some error.message, []⟩, made.events ++ [.requestFailed error])
  | .ok generated =>
      (⟨none, generated.toList.map fun generated => ⟨generated.path, generated.content⟩⟩,
        made.events)

end Environment

namespace PluginResponse

/-- What the plugin can deal with, as a set of bits: fields with the `optional` marker of
syntax 3. -/
def supportedFeatures : Nat := 1

/-- A file in binary form. -/
def encodeFile (file : ResponseFile) : Wire.Bytes :=
  Wire.textField 1 file.name ++ Wire.textField 15 file.content

/-- A response in binary form. -/
def encode (response : PluginResponse) : Wire.Bytes :=
  (response.errorText.map (Wire.textField 1)).getD [] ++
    Wire.numberField 2 supportedFeatures ++
    response.files.flatMap fun file => Wire.bytesField 15 (encodeFile file)

end PluginResponse

end RpcTools
