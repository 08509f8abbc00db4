/-
Module: RpcTools.Json.Printer
Purpose: JSON text, one member or item to a line.
Main exports: Json.quoted, Json.indented
-/
import RpcTools.Json

namespace RpcTools.Json

/-- The digit that writes a number below sixteen. -/
def hexDigit (value : Nat) : Char :=
  Char.ofNat (if value < 10 then 0x30 + value else 0x57 + value)

/-- What a character of a string is written as: quote, backslash and the characters
below the blank are escaped, all others stand for themselves. -/
def escaped (character : Char) : List Char :=
  match character with
  | '"' => ['\\', '"']
  | '\\' => ['\\', '\\']
  | '\n' => ['\\', 'n']
  | '\r' => ['\\', 'r']
  | '\t' => ['\\', 't']
  | '\x08' => ['\\', 'b']
  | '\x0c' => ['\\', 'f']
  | _ =>
      if character.toNat < 0x20 then
        ['\\', 'u', '0', '0', hexDigit (character.toNat / 16), hexDigit (character.toNat % 16)]
      else [character]

/-- A string between quotes. -/
def quoted (text : String) : String :=
  "\"" ++ String.ofList (text.toList.flatMap escaped) ++ "\""

/-- Two blanks for each level. -/
def margin (depth : Nat) : String :=
  String.ofList (List.replicate (2 * depth) ' ')

mutual

/-- The text of a value that stands `depth` levels deep. -/
def indentedAt (depth : Nat) : Json → String
  | .null => "null"
  | .bool value => if value then "true" else "false"
  | .number value => value.text
  | .string text => quoted text
  | .array [] => "[]"
  | .array (item :: rest) =>
      "[\n" ++ margin (depth + 1) ++ indentedAt (depth + 1) item ++
        indentedItems (depth + 1) rest ++ "\n" ++ margin depth ++ "]"
  | .object [] => "\x7b\x7d"
  | .object ((key, value) :: rest) =>
      "\x7b\n" ++ margin (depth + 1) ++ quoted key ++ ": " ++ indentedAt (depth + 1) value ++
        indentedMembers (depth + 1) rest ++ "\n" ++ margin depth ++ "\x7d"

/-- The items after the first. -/
def indentedItems (depth : Nat) : List Json → String
  | [] => ""
  | item :: rest =>
      ",\n" ++ margin depth ++ indentedAt depth item ++ indentedItems depth rest

/-- The members after the first. -/
def indentedMembers (depth : Nat) : List (String × Json) → String
  | [] => ""
  | (key, value) :: rest =>
      ",\n" ++ margin depth ++ quoted key ++ ": " ++ indentedAt depth value ++
        indentedMembers depth rest

end

/-- The text of a value, indented by two blanks a level, empty containers closed at
once. -/
def indented (value : Json) : String :=
  indentedAt 0 value

end RpcTools.Json
