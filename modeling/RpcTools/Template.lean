/-
Module: RpcTools.Template
Purpose: Text templates with values, loops and choices, and what they render to.
Main exports: TemplatePath, TemplateNode, Template, mergedNodes, Scope, RenderFault,
  TemplateNode.render, Template.render
-/
import RpcTools.Json
import RpcTools.Text.Segments

namespace RpcTools

/-- Where a template finds a value. -/
inductive TemplatePath where
  /-- Below the value at hand, or below the one that was at hand `levels` loops
  further out. -/
  | inScope (levels : Nat) (keys : List String)
  /-- In what the innermost loop tells about its turn: `first`, `last`, `index` or
  `key`. -/
  | ofLoop (name : String)
deriving Repr, Inhabited, DecidableEq

/-- The path as templates write it. -/
def TemplatePath.text : TemplatePath → String
  | .inScope levels keys =>
      Text.joinWith "/" (List.replicate levels ".." ++
        [if keys.isEmpty then "this" else Text.joinWith "." keys])
  | .ofLoop name => "@" ++ name

/-- A part of a template. -/
inductive TemplateNode where
  | text (content : String)
  | value (path : TemplatePath)
  /-- Renders `body` for every item in turn.  Without items `otherwise` is rendered, if
  there is such a part. -/
  | each (path : TemplatePath) (body : List TemplateNode)
      (otherwise : Option (List TemplateNode))
  /-- Renders `body` if the value's truth is as expected, `otherwise` if not. -/
  | choice (path : TemplatePath) (expected : Bool) (body otherwise : List TemplateNode)
  /-- A call of something that no template knows. -/
  | unknown (name : String)
deriving Repr, Inhabited

/-- A template is a list of parts. -/
abbrev Template := List TemplateNode

/-- The part before others; a text runs on into a text that follows. -/
def TemplateNode.before : TemplateNode → List TemplateNode → List TemplateNode
  | .text first, .text second :: rest => .text (first ++ second) :: rest
  | node, rest => node :: rest

mutual

/-- The part with all texts inside it run together. -/
def TemplateNode.merged : TemplateNode → TemplateNode
  | .text content => .text content
  | .value path => .value path
  | .each path body none => .each path (mergedNodes body) none
  | .each path body (some otherwise) =>
      .each path (mergedNodes body) (some (mergedNodes otherwise))
  | .choice path expected body otherwise =>
      .choice path expected (mergedNodes body) (mergedNodes otherwise)
  | .unknown name => .unknown name

/-- The parts with texts next to each other run together, as they are read. -/
def mergedNodes : List TemplateNode → List TemplateNode
  | [] => []
  | node :: rest => node.merged.before (mergedNodes rest)

end

/-- Why a template could not be rendered. -/
inductive RenderFault where
  /-- A value is missing. -/
  | missing (path : TemplatePath)
  /-- A loop runs over something that has no items. -/
  | noItems (path : TemplatePath)
  | unknownHelper (name : String)
  | unknownTemplate (name : String)
deriving Repr, DecidableEq

def RenderFault.message : RenderFault → String
  | .missing path => s!"variable {path.text} not found"
  | .noItems path => s!"{path.text} is no list"
  | .unknownHelper name => s!"helper {name} not found"
  | .unknownTemplate name => s!"template {name} not found"

namespace Json

/-- The value below a key: a member of an object or an item of an array. -/
def below? (key : String) : Json → Option Json
  | .object members => lookup? key members
  | .array items => key.toNat?.bind fun index => items[index]?
  | _ => none

/-- The value at the end of a path of keys. -/
def follow? (value : Json) : List String → Option Json
  | [] => some value
  | key :: keys => (value.below? key).bind fun next => next.follow? keys

/-- Whether a choice takes the value for true. -/
def isTruthy : Json → Bool
  | .null => false
  | .bool value => value
  | .number value => value.isNormal
  | .string text => !text.isEmpty
  | .array items => !items.isEmpty
  | .object members => !members.isEmpty

mutual

/-- The text that a value puts into a template. -/
def inserted : Json → String
  | .null => ""
  | .bool value => if value then "true" else "false"
  | .number value => value.text
  | .string text => text
  | .array items => "[" ++ insertedItems items ++ "]"
  | .object _ => "[object]"

/-- The texts of items, with commas between them. -/
def insertedItems : List Json → String
  | [] => ""
  | [item] => item.inserted
  | item :: rest => item.inserted ++ ", " ++ insertedItems rest

end

end Json

/-- What a template can refer to at one point: the value at hand, those of the loops
further out, and what the innermost loop tells about its turn. -/
structure Scope where
  here : Json
  outer : List Json
  turn : List (String × Json)

namespace Scope

/-- The scope outside of every loop. -/
def ofContext (context : Json) : Scope := ⟨context, [], []⟩

/-- The value that a path leads to. -/
def resolve? (scope : Scope) : TemplatePath → Option Json
  | .inScope levels keys => ((scope.here :: scope.outer)[levels]?).bind (·.follow? keys)
  | .ofLoop name => Json.lookup? name scope.turn

/-- The scopes of a loop's turns, from the one with the given number on. -/
def turnsFrom (scope : Scope) (index : Nat) : List Json → List Scope
  | [] => []
  | item :: rest =>
      { here := item
        outer := scope.here :: scope.outer
        turn :=
          [("first", .bool (index == 0)), ("last", .bool rest.isEmpty),
           ("index", .number (.ofNat index))] } :: scope.turnsFrom (index + 1) rest

/-- The scopes of a loop's turns over the members of an object. -/
def memberTurnsFrom (scope : Scope) (index : Nat) : List (String × Json) → List Scope
  | [] => []
  | (key, value) :: rest =>
      { here := value
        outer := scope.here :: scope.outer
        turn :=
          [("first", .bool (index == 0)), ("last", .bool rest.isEmpty),
           ("key", .string key)] } :: scope.memberTurnsFrom (index + 1) rest

/-- The scopes of the turns of a loop over a value, unless that has no items. -/
def turns? (scope : Scope) : Json → Option (List Scope)
  | .array items => some (scope.turnsFrom 0 items)
  | .object members => some (scope.memberTurnsFrom 0 members)
  | _ => none

end Scope

mutual

/-- The text of one part. -/
def TemplateNode.render (scope : Scope) : TemplateNode → Except RenderFault String
  | .text content => .ok content
  | .value path =>
      match scope.resolve? path with
      | none => .error (.missing path)
      | some value => .ok value.inserted
  | .each path body none =>
      match (scope.resolve? path).bind scope.turns? with
      | none => .error (.noItems path)
      | some turns => do
          let texts ← turns.mapM fun turn => renderNodes turn body
          pure (String.join texts)
  | .each path body (some otherwise) =>
      match (scope.resolve? path).bind scope.turns? with
      | none | some [] => renderNodes scope otherwise
      | some (turn :: turns) => do
          let texts ← (turn :: turns).mapM fun turn => renderNodes turn body
          pure (String.join texts)
  | .choice path expected body otherwise =>
      if ((scope.resolve? path).getD .null).isTruthy = expected then renderNodes scope body
      else renderNodes scope otherwise
  | .unknown name => .error (.unknownHelper name)

/-- The texts of the parts, one after the other. -/
def renderNodes (scope : Scope) : List TemplateNode → Except RenderFault String
  | [] => .ok ""
  | node :: rest => do
      let first ← node.render scope
      let others ← renderNodes scope rest
      pure (first ++ others)

end

/-- The text of a template over a context. -/
def Template.render (template : Template) (context : Json) : Except RenderFault String :=
  renderNodes (Scope.ofContext context) template

end RpcTools
