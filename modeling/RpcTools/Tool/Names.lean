/-
Module: RpcTools.Tool.Names
Purpose: The names under which a method appears as a tool.
Main exports: ToolNames, isAdminService, ToolNames.ofMethod
-/
import RpcTools.Schema
import RpcTools.Text.Case

namespace RpcTools

/-- The names derived from a service's and a method's name. -/
structure ToolNames where
  /-- The client's method that the tool calls, and the tool's name. -/
  callName : String
  /-- The method's name in small letters with underscores. -/
  internalName : String
  /-- The name shown to people. -/
  label : String
deriving Repr, Inhabited, DecidableEq

/-- Whether a service's calls are found on the client under `admin…`. -/
def isAdminService (service : String) : Bool :=
  "AdminService".toList.isSuffixOf service.toList

/-- The client's method for a method of a service. -/
def callName (service method : String) : String :=
  if isAdminService service then "admin" ++ method else Text.uncapitalized method

/-- The names of a method of a service. -/
def ToolNames.ofMethod (service method : String) : ToolNames where
  callName := RpcTools.callName service method
  internalName := Text.underscoredWords method
  label := Text.capitalized (Text.raisedCapitals method)

end RpcTools
