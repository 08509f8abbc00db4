/-
Module: RpcTools.Json.Lines
Purpose: JSON as lines `path=value`, one for every leaf that holds something.
Main exports: Json.Step, Json.pathText, Json.scalarText?, Json.leaves, Json.lines
-/
import RpcTools.Json
import RpcTools.Text.Segments

namespace RpcTools.Json

/-- One step into a value. -/
inductive Step where
  | key (name : String)
  | index (position : Nat)
deriving Repr, DecidableEq

/-- The text of a path with one more step: keys are joined by points, positions stand
between brackets. -/
def extendPath (path : String) : Step → String
  | .key name => if path.isEmpty then name else path ++ "." ++ name
  | .index position => path ++ "[" ++ toString position ++ "]"

/-- The text of a path. -/
def pathText (path : List Step) : String :=
  path.foldl extendPath ""

/-- How a scalar is shown; `null` is not shown. -/
def scalarText? : Json → Option String
  | .bool value => some (if value then "true" else "false")
  | .number value => some value.text
  | .string text => some text
  | .null | .array _ | .object _ => none

mutual

/-- The scalars inside a value other than `null`, as they are shown, in order and each
with its path. -/
def leavesBelow (path : List Step) : Json → List (List Step × String)
  | .array items => leavesOfItems path 0 items
  | .object members => leavesOfMembers path members
  | .null => []
  | .bool value => [(path, if value then "true" else "false")]
  | .number value => [(path, value.text)]
  | .string text => [(path, text)]

/-- The scalars inside items, the first of which has the given position. -/
def leavesOfItems (path : List Step) (position : Nat) : List Json → List (List Step × String)
  | [] => []
  | item :: rest =>
      leavesBelow (path ++ [.index position]) item ++ leavesOfItems path (position + 1) rest

/-- The scalars inside members. -/
def leavesOfMembers (path : List Step) : List (String × Json) → List (List Step × String)
  | [] => []
  | (key, value) :: rest =>
      leavesBelow (path ++ [.key key]) value ++ leavesOfMembers path rest

end

/-- The leaves of a whole value. -/
def leaves (value : Json) : List (List Step × String) :=
  leavesBelow [] value

/-- The line for a leaf; without a path it is the value alone. -/
def leafLine (path : List Step) (shown : String) : String :=
  if (pathText path).isEmpty then shown else pathText path ++ "=" ++ shown

/-- The lines of a value. -/
def lines (value : Json) : String :=
  Text.joinWith "\n" (value.leaves.map fun (path, shown) => leafLine path shown)

/-! ### Following paths -/

/-- The value that a path leads to. -/
def at? : List Step → Json → Option Json
  | [], value => some value
  | .key name :: rest, .object members => (lookup? name members).bind (at? rest)
  | .index position :: rest, .array items => items[position]?.bind (at? rest)
  | _ :: _, _ => none

end RpcTools.Json
