/-
Module: RpcTools.CallPattern
Purpose: Which invocation a method gets, by its calling convention and response.
Main exports: CallPattern, BodyForm, CallPattern.ofMethod, CallPattern.bodyForm
-/
import RpcTools.Json
import RpcTools.Schema

namespace RpcTools

/-- What matters about a method for the way it is called. -/
structure CallPattern where
  convention : CallingConvention
  /-- The responses are a stream whose messages hold one list and nothing else. -/
  isPureList : Bool
deriving Repr, Inhabited, DecidableEq

/-- The invocation that a method gets. -/
inductive BodyForm where
  /-- One call is awaited and its result packed. -/
  | unary
  /-- The stream is iterated, and every element packed. -/
  | streamList
  /-- There is no invocation for the method. -/
  | notYetSupported
deriving Repr, Inhabited, DecidableEq

/-- The word for an invocation. -/
def BodyForm.word : BodyForm → String
  | .unary => "unary"
  | .streamList => "stream_list"
  | .notYetSupported => "not_yet_supported"

/-- The invocation that a word names. -/
def BodyForm.ofWord? : String → Option BodyForm
  | "unary" => some .unary
  | "stream_list" => some .streamList
  | "not_yet_supported" => some .notYetSupported
  | _ => none

namespace CallPattern

/-- Whether a response is one list and nothing else. -/
def isSingleList : List Field → Bool
  | [only] => only.shape = .list
  | _ => false

/-- How a method is called. -/
def ofMethod (method : Method) : CallPattern where
  convention := method.convention
  isPureList := method.convention = .serverStreaming && isSingleList method.outputFields

/-- The invocation for a pattern: of all streams only pure lists have one. -/
def bodyForm (pattern : CallPattern) : BodyForm :=
  match pattern.convention with
  | .unary => .unary
  | .serverStreaming => if pattern.isPureList then .streamList else .notYetSupported
  | .clientStreaming | .bidiStreaming => .notYetSupported

def members (pattern : CallPattern) : List (String × Json) :=
  [("call_kind", .string pattern.convention.word),
   ("is_pure_list", .bool pattern.isPureList)]

end CallPattern

end RpcTools
