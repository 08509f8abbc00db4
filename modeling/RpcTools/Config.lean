/-
Module: RpcTools.Config
Purpose: What a generation run can be told: which files count, where the module goes,
  and the names of everything that the module calls.
Main exports: Invocation, Invocation.default, Invocation.identifiers,
  Invocation.literals, Config, Config.default
-/
namespace RpcTools

/-- The names of what a generated module depends on. -/
structure Invocation where
  /-- The module that exports the runtime accessor. -/
  runtimeImport : String
  /-- The function that returns the host runtime. -/
  runtimeAccessor : String
  /-- The module that exports the account resolver. -/
  accountsImport : String
  /-- The function that finds an account. -/
  accountResolver : String
  /-- The type of the account that is found. -/
  resolvedAccountType : String
  /-- The module that exports the configuration type. -/
  typesImport : String
  /-- The type of the configuration given to the account resolver. -/
  configType : String
  /-- The package that provides the client. -/
  clientPackage : String
  /-- The class of the client. -/
  clientType : String
  /-- Namespaces imported from the client's package, for the types of enums. -/
  clientNamespaces : List String
  /-- The generated function that makes a client. -/
  clientFactory : String
  /-- The method that releases a client. -/
  clientCloseMethod : String
  /-- The account's property with the client key. -/
  clientKeyField : String
  /-- The account's property with the server's address. -/
  serverUrlField : String
  /-- The account used when the one asked for is incomplete. -/
  defaultAccountId : String
  /-- The package that provides the schema builder. -/
  schemaPackage : String
  /-- The name of the exported list of tools. -/
  toolsExport : String
deriving Repr, DecidableEq

namespace Invocation

/-- The names used when nothing else is said. -/
def default : Invocation where
  runtimeImport := "../runtime"
  runtimeAccessor := "getOlvidRuntime"
  accountsImport := "../accounts"
  accountResolver := "resolveOlvidAccount"
  resolvedAccountType := "ResolvedOlvidAccount"
  typesImport := "../types"
  configType := "CoreConfig"
  clientPackage := "@olvid/bot-node"
  clientType := "OlvidClient"
  clientNamespaces := ["datatypes", "command"]
  clientFactory := "getOlvidClient"
  clientCloseMethod := "stop"
  clientKeyField := "clientKey"
  serverUrlField := "daemonUrl"
  defaultAccountId := "default"
  schemaPackage := "@sinclair/typebox"
  toolsExport := "olvidAgentTools"

instance : Inhabited Invocation := ⟨default⟩

/-- The values that the module uses as identifiers, by key, in the order in which they
are checked. -/
def identifiers (invocation : Invocation) : List (String × String) :=
  [("invocation.runtime_accessor", invocation.runtimeAccessor),
   ("invocation.account_resolver", invocation.accountResolver),
   ("invocation.resolved_account_type", invocation.resolvedAccountType),
   ("invocation.config_type", invocation.configType),
   ("invocation.client_type", invocation.clientType),
   ("invocation.client_factory", invocation.clientFactory),
   ("invocation.client_close_method", invocation.clientCloseMethod),
   ("invocation.client_key_field", invocation.clientKeyField),
   ("invocation.server_url_field", invocation.serverUrlField),
   ("invocation.tools_export", invocation.toolsExport)]

/-- The values that the module puts between double quotes, by key, in the order in
which they are checked. -/
def literals (invocation : Invocation) : List (String × String) :=
  [("invocation.runtime_import", invocation.runtimeImport),
   ("invocation.accounts_import", invocation.accountsImport),
   ("invocation.types_import", invocation.typesImport),
   ("invocation.client_package", invocation.clientPackage),
   ("invocation.schema_package", invocation.schemaPackage),
   ("invocation.default_account_id", invocation.defaultAccountId)]

end Invocation

/-- The configuration of a generation run. -/
structure Config where
  /-- What the path of a file with services contains. -/
  servicesMarker : String
  /-- What the path of the command file contains. -/
  commandFilePattern : String
  /-- The command file, if it is designated and not looked for. -/
  commandFile : Option String
  /-- The name of the generated file. -/
  outputFile : String
  /-- The comment that the generated file starts with. -/
  fileHeader : String
  invocation : Invocation
deriving Repr, DecidableEq

/-- The configuration used when nothing else is said. -/
def Config.default : Config where
  servicesMarker := "/services/"
  commandFilePattern := "/services/v1/command"
  commandFile := none
  outputFile := "agent_tools.ts"
  fileHeader := "Code generated by protoc-gen-agent-tools. DO NOT EDIT."
  invocation := Invocation.default

instance : Inhabited Config := ⟨Config.default⟩

end RpcTools
