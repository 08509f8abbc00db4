/-
Module: RpcTools.Template.Reader
Purpose: Reading a template from its text.
Main exports: TemplatePath.ofText?, Tag, Tag.ofContent?, Token, tokens?, Template.ofText?
-/
import RpcTools.Template

/-!
Tags stand between double braces.  A tag that opens, divides or closes a block and has a
line for itself takes the line away with it: the blanks before it and everything up to
and including the line break after it do not belong to the text.
-/

namespace RpcTools

/-- Whether a character may stand in a name. -/
def isNameCharacter (character : Char) : Bool :=
  character.isAlphanum || character = '_' || character = '-' || 0x80 ≤ character.toNat

/-- Whether characters make a name. -/
def isName (characters : List Char) : Bool :=
  !characters.isEmpty && characters.all isNameCharacter

/-- The keys between dots or slashes, if all are names.  `this` is the value at hand and
no key. -/
def pathKeys? (characters : List Char) : Option (List String) :=
  let pieces := Text.segments '.' (characters.map fun c => if c = '/' then '.' else c)
  if pieces.all isName then some ((pieces.map String.ofList).filter (· ≠ "this")) else none

/-- Reads a path. -/
def pathOfCharacters? (levels : Nat) : List Char → Option TemplatePath
  | ['.', '.'] => some (.inScope (levels + 1) [])
  | '.' :: '.' :: '/' :: rest => pathOfCharacters? (levels + 1) rest
  | '@' :: name =>
      if levels = 0 ∧ isName name then some (.ofLoop (String.ofList name)) else none
  | characters => (pathKeys? characters).map (.inScope levels)

/-- What opens a block. -/
inductive Opening where
  | each (path : TemplatePath)
  | choice (word : String) (path : TemplatePath) (expected : Bool)
  | unknown (name : String)
deriving Repr, Inhabited

/-- The name that closes the block again. -/
def Opening.name : Opening → String
  | .each _ => "each"
  | .choice word _ _ => word
  | .unknown name => name

/-- What stands between double braces. -/
inductive Tag where
  | value (path : TemplatePath)
  | call (name : String)
  | opens (opening : Opening)
  | otherwise
  | closes (name : String)
deriving Repr, Inhabited

/-- Whether the tag belongs to a block and so can have a line for itself. -/
def Tag.isOfBlock : Tag → Bool
  | .value _ | .call _ => false
  | .opens _ | .otherwise | .closes _ => true

/-- Whether a character separates words in a tag. -/
def isGap (character : Char) : Bool :=
  character = ' ' || character = '\t' || character = '\n' || character = '\r'

/-- The words of a tag. -/
def tagWords (content : List Char) : List (List Char) :=
  (Text.segments ' ' (content.map fun c => if isGap c then ' ' else c)).filter (!·.isEmpty)

/-- Reads the tag that opens a block, from its words. -/
def Opening.ofWords? : List (List Char) → Option Opening
  | name :: argument :: others =>
      if isName name && others.all (fun word => (pathOfCharacters? 0 word).isSome) then
        (pathOfCharacters? 0 argument).map fun path =>
          match String.ofList name with
          | "each" => .each path
          | "if" => .choice "if" path true
          | "unless" => .choice "unless" path false
          | other => .unknown other
      else none
  | _ => none

/-- Reads a tag from what stands between the braces. -/
def Tag.ofContent? (content : List Char) : Option Tag :=
  match content.dropWhile isGap with
  | '#' :: rest => (Opening.ofWords? (tagWords rest)).map .opens
  | '/' :: rest =>
      match tagWords rest with
      | [name] => if isName name then some (.closes (String.ofList name)) else none
      | _ => none
  | _ =>
      match tagWords content with
      | [word] =>
          match String.ofList word with
          | "else" => some .otherwise
          | "each" | "if" | "unless" => some (.call (String.ofList word))
          | _ => (pathOfCharacters? 0 word).map .value
      | name :: argument :: others =>
          if isName name && (argument :: others).all fun word => (pathOfCharacters? 0 word).isSome
          then some (.call (String.ofList name)) else none
      | [] => none

/-! ### Tags and the text between them -/

/-- The tags, each with the text before it, and the text after the last. -/
structure Pieces where
  tags : List (List Char × Tag)
  rest : List Char

/-- Cuts a text at its tags.  `inside` tells whether the place is between braces, and
`reversed` holds what was read there, last character first. -/
def piecesFrom? (inside : Bool) (before reversed : List Char) : List Char → Option Pieces
  | [] => if inside then none else some ⟨[], reversed.reverse⟩
  | [character] =>
      if inside then none else some ⟨[], (character :: reversed).reverse⟩
  | first :: second :: rest =>
      if !inside && first = '{' && second = '{' then
        piecesFrom? true reversed.reverse [] rest
      else if inside && first = '}' && second = '}' then do
        let tag ← Tag.ofContent? reversed.reverse
        let pieces ← piecesFrom? false [] [] rest
        pure { pieces with tags := (before, tag) :: pieces.tags }
      else piecesFrom? inside before (first :: reversed) (second :: rest)

/-- A text or a tag. -/
inductive Token where
  | text (content : String)
  | tag (tag : Tag)
deriving Repr, Inhabited

/-- A blank within a line. -/
def isSpace (character : Char) : Bool :=
  character = ' ' || character = '\t'

def isLineBreak (character : Char) : Bool :=
  character = '\n' || character = '\r'

/-- The text without the blanks at its end. -/
def dropSpacesEnd (text : List Char) : List Char :=
  (text.reverse.dropWhile isSpace).reverse

/-- Whether nothing but blanks stands between a line's start and the end of the text. -/
def endsAtLineStart (isFirst : Bool) (text : List Char) : Bool :=
  match (dropSpacesEnd text).getLast? with
  | none => isFirst
  | some character => isLineBreak character

/-- Whether nothing but blanks stands between the start of the text and a line's end. -/
def startsAtLineEnd (isLast : Bool) (text : List Char) : Bool :=
  match text.dropWhile isSpace with
  | [] => isLast && text.isEmpty
  | character :: _ => isLineBreak character

/-- The text without what is left of the line that it starts in. -/
def dropLineEnd (text : List Char) : List Char :=
  match text.dropWhile isSpace with
  | '\r' :: '\n' :: rest => rest
  | '\n' :: rest => rest
  | rest => rest

def textTokens (text : List Char) : List Token :=
  if text.isEmpty then [] else [.text (String.ofList text)]

/-- The tokens of the pieces, without the lines that tags have for themselves.
`cutStart` tells that the tag before had its line for itself. -/
def settle (isFirst cutStart : Bool) (rest : List Char) : List (List Char × Tag) → List Token
  | [] => textTokens (if cutStart then dropLineEnd rest else rest)
  | (before, tag) :: others =>
      let after := match others with
        | [] => rest
        | (next, _) :: _ => next
      let alone :=
        tag.isOfBlock && endsAtLineStart isFirst before && startsAtLineEnd others.isEmpty after
      let opened := if cutStart then dropLineEnd before else before
      let closed := if alone then dropSpacesEnd opened else opened
      textTokens closed ++ .tag tag :: settle false alone rest others

/-- The tokens of a template's text. -/
def tokens? (text : String) : Option (List Token) :=
  (piecesFrom? false [] [] text.toList).map fun pieces => settle true false pieces.rest pieces.tags

/-! ### Blocks -/

/-- A block that is not closed yet. -/
structure Block where
  opening : Opening
  /-- The parts before the block, last first. -/
  outer : List TemplateNode
  /-- The part before the dividing tag, once that was met. -/
  body : Option (List TemplateNode)

/-- The part that a block becomes when it closes after the given parts. -/
def Block.close (block : Block) (last : List TemplateNode) : TemplateNode :=
  match block.opening with
  | .each path =>
      match block.body with
      | none => .each path last none
      | some body => .each path body (some last)
  | .choice _ path expected =>
      match block.body with
      | none => .choice path expected last []
      | some body => .choice path expected body last
  | .unknown name => .unknown name

/-- Puts the tokens together, inside the blocks that are open, innermost first.
`reversed` holds the parts of the innermost one, last first. -/
def nodes? (blocks : List Block) (reversed : List TemplateNode) :
    List Token → Option Template
  | [] => if blocks.isEmpty then some reversed.reverse else none
  | .text content :: rest => nodes? blocks (.text content :: reversed) rest
  | .tag (.value path) :: rest => nodes? blocks (.value path :: reversed) rest
  | .tag (.call name) :: rest => nodes? blocks (.unknown name :: reversed) rest
  | .tag (.opens opening) :: rest =>
      nodes? (⟨opening, reversed, none⟩ :: blocks) [] rest
  | .tag .otherwise :: rest =>
      match blocks with
      | ⟨opening, outer, none⟩ :: others =>
          nodes? (⟨opening, outer, some reversed.reverse⟩ :: others) [] rest
      | _ => none
  | .tag (.closes name) :: rest =>
      match blocks with
      | block :: others =>
          if block.opening.name = name then
            nodes? others (block.close reversed.reverse :: block.outer) rest
          else none
      | [] => none

/-- Reads a template.  Braces without an end, blocks that are not closed or closed by
another name, and tags without their argument make no template. -/
def Template.ofText? (text : String) : Option Template :=
  (tokens? text).bind (nodes? [] [])

end RpcTools
