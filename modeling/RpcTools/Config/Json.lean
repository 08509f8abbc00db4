/-
Module: RpcTools.Config.Json
Purpose: The JSON form of a configuration, written and read.
Main exports: Invocation.toJson, Invocation.ofJson?, Config.toJson, Config.ofJson?
-/
import RpcTools.Config
import RpcTools.Json

namespace RpcTools

/-- The text filed under a key; the default if there is none. -/
def settingText? (members : List (String × Json)) (key default : String) : Option String :=
  match Json.lookup? key members with
  | none => some default
  | some value => value.asString?

namespace Invocation

/-- The keys of an invocation. -/
def keys : List String :=
  ["runtime_import", "runtime_accessor", "accounts_import", "account_resolver",
   "resolved_account_type", "types_import", "config_type", "client_package", "client_type",
   "client_namespaces", "client_factory", "client_close_method", "client_key_field",
   "server_url_field", "default_account_id", "schema_package", "tools_export"]

def toJson (invocation : Invocation) : Json :=
  .object
    [("runtime_import", .string invocation.runtimeImport),
     ("runtime_accessor", .string invocation.runtimeAccessor),
     ("accounts_import", .string invocation.accountsImport),
     ("account_resolver", .string invocation.accountResolver),
     ("resolved_account_type", .string invocation.resolvedAccountType),
     ("types_import", .string invocation.typesImport),
     ("config_type", .string invocation.configType),
     ("client_package", .string invocation.clientPackage),
     ("client_type", .string invocation.clientType),
     ("client_namespaces", .ofStrings invocation.clientNamespaces),
     ("client_factory", .string invocation.clientFactory),
     ("client_close_method", .string invocation.clientCloseMethod),
     ("client_key_field", .string invocation.clientKeyField),
     ("server_url_field", .string invocation.serverUrlField),
     ("default_account_id", .string invocation.defaultAccountId),
     ("schema_package", .string invocation.schemaPackage),
     ("tools_export", .string invocation.toolsExport)]

/-- Reads an invocation.  Every key may be left out, and no other key is known. -/
def ofJson? (value : Json) : Option Invocation := do
  let members ← value.record? keys
  if !members.all (fun member => keys.contains member.1) then none
  let text := settingText? members
  let clientNamespaces ←
    match Json.lookup? "client_namespaces" members with
    | none => some default.clientNamespaces
    | some value => value.asStrings?
  pure
    { runtimeImport := ← text "runtime_import" default.runtimeImport
      runtimeAccessor := ← text "runtime_accessor" default.runtimeAccessor
      accountsImport := ← text "accounts_import" default.accountsImport
      accountResolver := ← text "account_resolver" default.accountResolver
      resolvedAccountType := ← text "resolved_account_type" default.resolvedAccountType
      typesImport := ← text "types_import" default.typesImport
      configType := ← text "config_type" default.configType
      clientPackage := ← text "client_package" default.clientPackage
      clientType := ← text "client_type" default.clientType
      clientNamespaces
      clientFactory := ← text "client_factory" default.clientFactory
      clientCloseMethod := ← text "client_close_method" default.clientCloseMethod
      clientKeyField := ← text "client_key_field" default.clientKeyField
      serverUrlField := ← text "server_url_field" default.serverUrlField
      defaultAccountId := ← text "default_account_id" default.defaultAccountId
      schemaPackage := ← text "schema_package" default.schemaPackage
      toolsExport := ← text "tools_export" default.toolsExport }

end Invocation

namespace Config

/-- The keys of a configuration. -/
def keys : List String :=
  ["services_marker", "command_file_pattern", "command_file", "output_file", "file_header",
   "invocation"]

def toJson (config : Config) : Json :=
  .object
    [("services_marker", .string config.servicesMarker),
     ("command_file_pattern", .string config.commandFilePattern),
     ("command_file", .ofNullable config.commandFile),
     ("output_file", .string config.outputFile),
     ("file_header", .string config.fileHeader),
     ("invocation", config.invocation.toJson)]

/-- Reads a configuration.  Every key may be left out, and no other key is known. -/
def ofJson? (value : Json) : Option Config := do
  let members ← value.record? keys
  if !members.all (fun member => keys.contains member.1) then none
  let text := settingText? members
  let commandFile ←
    match Json.lookup? "command_file" members with
    | none => some default.commandFile
    | some value => value.asNullableString?
  let invocation ←
    match Json.lookup? "invocation" members with
    | none => some default.invocation
    | some value => Invocation.ofJson? value
  pure
    { servicesMarker := ← text "services_marker" default.servicesMarker
      commandFilePattern := ← text "command_file_pattern" default.commandFilePattern
      commandFile
      outputFile := ← text "output_file" default.outputFile
      fileHeader := ← text "file_header" default.fileHeader
      invocation }

end Config

end RpcTools
