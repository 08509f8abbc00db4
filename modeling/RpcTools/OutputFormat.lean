/-
Module: RpcTools.OutputFormat
Purpose: The formats that summaries are printed in.
Main exports: OutputFormat, OutputFormat.ofName, OutputFormat.print
-/
import RpcTools.Error
import RpcTools.Json.Lines
import RpcTools.Json.Printer
import RpcTools.Json.Tree

namespace RpcTools

/-- How a summary is printed. -/
inductive OutputFormat where
  /-- Indented JSON, members in the order of the summary. -/
  | json
  /-- Lines `path=value`, members in the order of their keys. -/
  | text
  /-- A tree that may be coloured, members in the order of their keys. -/
  | pretty
deriving Repr, DecidableEq

namespace OutputFormat

instance : Inhabited OutputFormat := ⟨.pretty⟩

/-- Every format, in the order in which messages list them. -/
def all : List OutputFormat := [.json, .text, .pretty]

def name : OutputFormat → String
  | .json => "json"
  | .text => "text"
  | .pretty => "pretty"

/-- Whether two texts differ in nothing but the case of ASCII letters. -/
def sameIgnoringCase (left right : String) : Bool :=
  left.toList.map Char.toLower == right.toList.map Char.toLower

/-- The format with a name, in whatever case. -/
def ofName (text : String) : Except Error OutputFormat :=
  match all.find? fun format => sameIgnoringCase format.name text with
  | some format => .ok format
  | none => .error (.invalidArgument (.unknownFormat text (all.map name)))

/-- A value in a format. -/
def print (colored : Bool) (format : OutputFormat) (value : Json) : String :=
  match format with
  | .json => value.indented
  | .text => value.sortKeys.lines
  | .pretty => value.sortKeys.tree colored

theorem ofName_name (format : OutputFormat) : ofName format.name = .ok format := by
  cases format <;> rfl

end OutputFormat

end RpcTools
