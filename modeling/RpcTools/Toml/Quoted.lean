/-
Module: RpcTools.Toml.Quoted
Purpose: The four kinds of quoted text in TOML.
Main exports: Toml.quoted?, Toml.lineQuoted?
-/
import RpcTools.Text.Blank

namespace RpcTools.Toml

/-- Whether a character stands for itself in a text or a comment. -/
def isPlain (character : Char) : Bool :=
  character = '\t' || (0x20 ≤ character.toNat && character.toNat ≠ 0x7F)

/-- A blank within a line. -/
def isSpace (character : Char) : Bool :=
  character = ' ' || character = '\t'

/-- The value of a hexadecimal digit. -/
def hexValue? (character : Char) : Option Nat :=
  if '0' ≤ character ∧ character ≤ '9' then some (character.toNat - '0'.toNat)
  else if 'a' ≤ character ∧ character ≤ 'f' then some (character.toNat - 'a'.toNat + 10)
  else if 'A' ≤ character ∧ character ≤ 'F' then some (character.toNat - 'A'.toNat + 10)
  else none

/-- The character with a code point, unless there is none. -/
def scalar? (code : Nat) : Option Char :=
  if code.isValidChar then some (Char.ofNat code) else none

/-- The character that a one-letter escape stands for. -/
def simpleEscape? : Char → Option Char
  | 'b' => some '\x08'
  | 't' => some '\t'
  | 'n' => some '\n'
  | 'f' => some '\x0c'
  | 'r' => some '\r'
  | 'e' => some '\x1b'
  | '"' => some '"'
  | '\\' => some '\\'
  | _ => none

/-- The number of hexadecimal digits that an escape asks for. -/
def escapeDigits? : Char → Option Nat
  | 'x' => some 2
  | 'u' => some 4
  | 'U' => some 8
  | _ => none

/-- Where the reader of a text with escapes stands. -/
inductive Position where
  /-- Between characters, after this many quotes. -/
  | plain (quotes : Nat)
  /-- After a backslash. -/
  | escaped
  /-- Before the last digits of an escape. -/
  | digits (left value : Nat)
  /-- In the blanks after a backslash at a line's end. -/
  | joining (broken : Bool)

/-- What a character after a backslash leads to: a character, or digits to come. -/
def escape? (character : Char) : Option (Option Char × Position) :=
  match simpleEscape? character with
  | some meant => some (some meant, .plain 0)
  | none => (escapeDigits? character).map fun left => (none, .digits left 0)

/-- What a digit of an escape leads to. -/
def digit? (left value : Nat) (character : Char) : Option (Option Char × Position) := do
  let total := value * 16 + (← hexValue? character)
  if left ≤ 1 then pure (some (← scalar? total), .plain 0)
  else pure (none, .digits (left - 1) total)

/-- Puts a character that was read before the others. -/
def pushed (character : Option Char) (reversed : List Char) : List Char :=
  character.toList ++ reversed

/-- Whether a carriage return is part of a line break. -/
def breaksLine (rest : List Char) : Bool :=
  rest.head? = some '\n'

/-- Reads a text with escapes to the quote that ends it; the line may not end before. -/
def basic? (position : Position) (reversed : List Char) :
    List Char → Option (String × List Char)
  | [] => none
  | character :: rest =>
      match position with
      | .plain _ =>
          if character = '"' then some (String.ofList reversed.reverse, rest)
          else if character = '\\' then basic? .escaped reversed rest
          else if isPlain character then basic? (.plain 0) (character :: reversed) rest
          else none
      | .escaped =>
          match escape? character with
          | some (meant, next) => basic? next (pushed meant reversed) rest
          | none => none
      | .digits left value =>
          match digit? left value character with
          | some (meant, next) => basic? next (pushed meant reversed) rest
          | none => none
      | .joining _ => none

/-- Reads a text without escapes to the quote that ends it. -/
def literal? (reversed : List Char) : List Char → Option (String × List Char)
  | [] => none
  | character :: rest =>
      if character = '\'' then some (String.ofList reversed.reverse, rest)
      else if isPlain character then literal? (character :: reversed) rest
      else none

/-- The text before three quotes that were read with it. -/
def withoutQuotes (reversed : List Char) : String :=
  String.ofList (reversed.drop 3).reverse

/-- Reads a text of several lines with escapes.  Three quotes end it; up to two more
before them belong to it.  A backslash at a line's end takes the blanks after it away. -/
def basicBlock? (position : Position) (reversed : List Char) :
    List Char → Option (String × List Char)
  | [] =>
      match position with
      | .plain quotes => if 3 ≤ quotes then some (withoutQuotes reversed, []) else none
      | _ => none
  | character :: rest =>
      let here :=
        match position with
        | .joining true =>
            if isSpace character || character = '\n' || character = '\r' then position
            else .plain 0
        | _ => position
      match here with
      | .plain quotes =>
          if character = '"' ∧ quotes < 5 then
            basicBlock? (.plain (quotes + 1)) (character :: reversed) rest
          else if 3 ≤ quotes then some (withoutQuotes reversed, character :: rest)
          else if character = '\\' then basicBlock? .escaped reversed rest
          else if character = '\n' || isPlain character ||
              (character = '\r' && breaksLine rest) then
            basicBlock? (.plain 0) (character :: reversed) rest
          else none
      | .escaped =>
          match escape? character with
          | some (meant, next) => basicBlock? next (pushed meant reversed) rest
          | none =>
              if isSpace character then basicBlock? (.joining false) reversed rest
              else if character = '\n' then basicBlock? (.joining true) reversed rest
              else if character = '\r' && breaksLine rest then
                basicBlock? (.joining false) reversed rest
              else none
      | .digits left value =>
          match digit? left value character with
          | some (meant, next) => basicBlock? next (pushed meant reversed) rest
          | none => none
      | .joining broken =>
          if isSpace character then basicBlock? (.joining broken) reversed rest
          else if character = '\n' then basicBlock? (.joining true) reversed rest
          else if character = '\r' && breaksLine rest then
            basicBlock? (.joining broken) reversed rest
          else none

/-- Reads a text of several lines without escapes, after `quotes` quotes. -/
def literalBlock? (quotes : Nat) (reversed : List Char) :
    List Char → Option (String × List Char)
  | [] => if 3 ≤ quotes then some (withoutQuotes reversed, []) else none
  | character :: rest =>
      if character = '\'' ∧ quotes < 5 then
        literalBlock? (quotes + 1) (character :: reversed) rest
      else if 3 ≤ quotes then some (withoutQuotes reversed, character :: rest)
      else if character = '\n' || isPlain character || (character = '\r' && breaksLine rest) then
        literalBlock? 0 (character :: reversed) rest
      else none

/-- The text after a line break at its start. -/
def afterBreak : List Char → List Char
  | '\n' :: rest => rest
  | '\r' :: '\n' :: rest => rest
  | rest => rest

/-- Reads a quoted text of one line. -/
def lineQuoted? : List Char → Option (String × List Char)
  | '"' :: rest => basic? (.plain 0) [] rest
  | '\'' :: rest => literal? [] rest
  | _ => none

/-- Reads a quoted text of any kind. -/
def quoted? : List Char → Option (String × List Char)
  | '"' :: '"' :: '"' :: rest => basicBlock? (.plain 0) [] (afterBreak rest)
  | '\'' :: '\'' :: '\'' :: rest => literalBlock? 0 [] (afterBreak rest)
  | characters => lineQuoted? characters

end RpcTools.Toml
