/-
Module: RpcTools.Config.Toml
Purpose: Reading a configuration from TOML text.
Main exports: Config.ofToml
-/
import RpcTools.Config.Json
import RpcTools.Config.Validation
import RpcTools.Toml

namespace RpcTools

/-- The configuration that a text spells, if it is a valid one. -/
def Config.ofToml (text : String) : Except Error Config := do
  match (Toml.read? text).bind Config.ofJson? with
  | none => .error (.config (.unreadable "the text is no configuration"))
  | some config =>
      config.validate
      pure config

end RpcTools
