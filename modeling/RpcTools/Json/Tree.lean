/-
Module: RpcTools.Json.Tree
Purpose: JSON as an indented tree for readers at a terminal.
Main exports: Json.TreeLine, Json.treeLines, Json.tree
-/
import RpcTools.Json.Printer
import RpcTools.Text.Blank
import RpcTools.Text.Segments
import RpcTools.Text.Styled

/-!
Every member and every item has a line of its own.  Scalars and empty containers stand
on the line of their key or dash; what is inside other values follows, one level
deeper.
-/

namespace RpcTools.Json

/-- A leaf as a tree shows it. -/
def leafText (colored : Bool) : Json → String
  | .null => Style.paint colored .dimmed "none"
  | .bool value => Style.paint colored .yellow (if value then "true" else "false")
  | .number value => Style.paint colored .cyan value.text
  | .string text => Style.paint colored .green text
  | .array _ => Style.paint colored .dimmed "[]"
  | .object _ => Style.paint colored .dimmed "\x7b\x7d"

/-- One line of a tree. -/
structure TreeLine where
  /-- How many levels the line is indented. -/
  depth : Nat
  /-- The key of a member; items have none. -/
  key : Option String
  /-- The leaf that stands on the line. -/
  leaf : Option Json

namespace TreeLine

/-- What a line starts with after its margin. -/
def head (colored : Bool) (line : TreeLine) : String :=
  match line.key with
  | some key => Style.paint colored .boldBlue key ++ ":"
  | none => "-"

/-- The text of a line. -/
def text (colored : Bool) (line : TreeLine) : String :=
  margin line.depth ++ line.head colored ++
    match line.leaf with
    | some leaf => " " ++ leafText colored leaf
    | none => ""

end TreeLine

/-- The leaf that a value is, if it is one. -/
def leaf? (value : Json) : Option Json :=
  if value.isLeaf then some value else none

mutual

/-- The lines for what is inside a value, which stands `depth` levels deep. -/
def treeLines (depth : Nat) : Json → List TreeLine
  | .array items => treeLinesOfItems depth items
  | .object members => treeLinesOfMembers depth members
  | .null | .bool _ | .number _ | .string _ => []

/-- The lines for items. -/
def treeLinesOfItems (depth : Nat) : List Json → List TreeLine
  | [] => []
  | item :: rest =>
      ⟨depth, none, item.leaf?⟩ :: (treeLines (depth + 1) item ++ treeLinesOfItems depth rest)

/-- The lines for members. -/
def treeLinesOfMembers (depth : Nat) : List (String × Json) → List TreeLine
  | [] => []
  | (key, value) :: rest =>
      ⟨depth, some key, value.leaf?⟩ ::
        (treeLines (depth + 1) value ++ treeLinesOfMembers depth rest)

end

/-- The tree of a value, without white space at its end; a scalar is shown alone. -/
def tree (colored : Bool) (value : Json) : String :=
  match value with
  | .array _ | .object _ =>
      Text.trimEnd (Text.joinWith "\n" ((value.treeLines 0).map (·.text colored)))
  | scalar => Text.trimEnd (leafText colored scalar)

end RpcTools.Json
