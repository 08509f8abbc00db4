/-
Module: RpcTools.Toml
Purpose: Reading TOML documents whose values are texts, lists of them and tables.
Main exports: Toml.Entry, Toml.assign?, Toml.enter?, Toml.read?
-/
import RpcTools.Json
import RpcTools.Text.Segments
import RpcTools.Toml.Quoted

/-!
No setting of a configuration is a number, a truth value, a date or a list of tables, so
a document with one of these is refused as a whole, as one with a setting of a wrong type
is.  All else follows TOML 1.1: texts of four kinds, bare, quoted and dotted keys, tables
by header, by dotted keys and in one line, comments, and every rule about keys that are
defined twice.
-/

namespace RpcTools.Toml

/-! ### Tables under construction -/

/-- How a table came to be. -/
inductive Origin where
  /-- By a header that names it. -/
  | header
  /-- By a header that names a table below it. -/
  | implied
  /-- By a dotted key. -/
  | dotted
deriving Repr, DecidableEq

/-- What is filed under a key: a value, to which nothing can be added any more, or a
table. -/
inductive Entry where
  | value (value : Json)
  | table (origin : Origin) (members : List (String × Entry))
deriving Inhabited

/-- The members of a table. -/
abbrev Members := List (String × Entry)

/-- What is filed under a key. -/
def find? (key : String) (members : Members) : Option Entry :=
  (members.find? (·.1 == key)).map (·.2)

/-- Files another entry under a key that is taken. -/
def replace (key : String) (entry : Entry) (members : Members) : Members :=
  members.map fun member => if member.1 = key then (key, entry) else member

/-- Defines a dotted key.  It must be new, and tables on the way to it may not have a
header of their own. -/
def assign? (value : Json) : List String → Members → Option Members
  | [], _ => none
  | [key], members =>
      match find? key members with
      | none => some (members ++ [(key, .value value)])
      | some _ => none
  | key :: path, members =>
      match find? key members with
      | none => do
          let inner ← assign? value path []
          pure (members ++ [(key, .table .dotted inner)])
      | some (.table .header _) => none
      | some (.table origin inner) => do
          let inner ← assign? value path inner
          pure (replace key (.table origin inner) members)
      | some (.value _) => none

/-- Defines a table by a header.  It may be there only as the way to another one. -/
def enter? : List String → Members → Option Members
  | [], _ => none
  | [key], members =>
      match find? key members with
      | none => some (members ++ [(key, .table .header [])])
      | some (.table .implied inner) => some (replace key (.table .header inner) members)
      | some _ => none
  | key :: path, members =>
      match find? key members with
      | none => do
          let inner ← enter? path []
          pure (members ++ [(key, .table .implied inner)])
      | some (.table origin inner) => do
          let inner ← enter? path inner
          pure (replace key (.table origin inner) members)
      | some (.value _) => none

/-- Defines a dotted key in the table that a header opened. -/
def assignBelow? (value : Json) (path : List String) : List String → Members → Option Members
  | [], members => assign? value path members
  | key :: header, members =>
      match find? key members with
      | some (.table origin inner) => do
          let inner ← assignBelow? value path header inner
          pure (replace key (.table origin inner) members)
      | _ => none

mutual

/-- The value of an entry. -/
def Entry.toJson : Entry → Json
  | .value value => value
  | .table _ members => .object (membersToJson members)

/-- The values of the members. -/
def membersToJson : List (String × Entry) → List (String × Json)
  | [] => []
  | (key, entry) :: rest => (key, entry.toJson) :: membersToJson rest

end

/-! ### Blanks, comments and keys -/

/-- The text without the blanks of its line. -/
def dropSpaces (characters : List Char) : List Char :=
  characters.dropWhile isSpace

/-- The text without blanks, line breaks and comments. -/
def dropGaps? (inComment : Bool) : List Char → Option (List Char)
  | [] => some []
  | '\n' :: rest => dropGaps? false rest
  | '\r' :: '\n' :: rest => dropGaps? false rest
  | character :: rest =>
      if inComment then if isPlain character then dropGaps? true rest else none
      else if isSpace character then dropGaps? false rest
      else if character = '#' then dropGaps? true rest
      else some (character :: rest)

/-- The text after the end of a line that holds nothing more but a comment. -/
def lineEnd? (inComment : Bool) : List Char → Option (List Char)
  | [] => some []
  | '\n' :: rest => some rest
  | '\r' :: '\n' :: rest => some rest
  | character :: rest =>
      if inComment then if isPlain character then lineEnd? true rest else none
      else if isSpace character then lineEnd? false rest
      else if character = '#' then lineEnd? true rest
      else none

/-- Whether a character may stand in a key without quotes. -/
def isBare (character : Char) : Bool :=
  character.isAlphanum || character = '_' || character = '-'

/-- Reads one part of a key. -/
def keyPart? (characters : List Char) : Option (String × List Char) :=
  match lineQuoted? characters with
  | some found => some found
  | none =>
      let bare := characters.takeWhile isBare
      if bare.isEmpty then none
      else some (String.ofList bare, characters.dropWhile isBare)

/-- Reads a key: parts with dots between them.  Every part takes a character, so that
as many steps as there are characters suffice. -/
def keyWithin? : Nat → List Char → Option (List String × List Char)
  | 0, _ => none
  | steps + 1, characters => do
      let (part, rest) ← keyPart? (dropSpaces characters)
      match dropSpaces rest with
      | '.' :: more =>
          let (parts, rest) ← keyWithin? steps more
          pure (part :: parts, rest)
      | rest => pure ([part], rest)

/-- Reads a key. -/
def key? (characters : List Char) : Option (List String × List Char) :=
  keyWithin? (characters.length + 1) characters

/-! ### Values -/

mutual

/-- Reads a value.  The steps bound how deep lists and tables go and how long they are:
each step takes a character. -/
def valueWithin? : Nat → List Char → Option (Json × List Char)
  | 0, _ => none
  | steps + 1, characters =>
      match characters with
      | '[' :: rest => do
          let (items, rest) ← itemsWithin? steps rest
          pure (.array items, rest)
      | '{' :: rest => do
          let (members, rest) ← membersWithin? steps [] rest
          pure (.object (membersToJson members), rest)
      | _ => (quoted? characters).map fun (text, rest) => (.string text, rest)

/-- Reads the items of a list and the bracket that closes it. -/
def itemsWithin? : Nat → List Char → Option (List Json × List Char)
  | 0, _ => none
  | steps + 1, characters => do
      match ← dropGaps? false characters with
      | ']' :: rest => pure ([], rest)
      | characters =>
          let (item, rest) ← valueWithin? steps characters
          match ← dropGaps? false rest with
          | ']' :: rest => pure ([item], rest)
          | ',' :: rest =>
              let (items, rest) ← itemsWithin? steps rest
              pure (item :: items, rest)
          | _ => none

/-- Reads the members of a table in braces and the brace that closes it. -/
def membersWithin? : Nat → Members → List Char → Option (Members × List Char)
  | 0, _, _ => none
  | steps + 1, members, characters => do
      match ← dropGaps? false characters with
      | '}' :: rest => pure (members, rest)
      | characters =>
          let (path, rest) ← key? characters
          match rest with
          | '=' :: rest =>
              let (value, rest) ← valueWithin? steps (dropSpaces rest)
              let members ← assign? value path members
              match ← dropGaps? false rest with
              | '}' :: rest => pure (members, rest)
              | ',' :: rest => membersWithin? steps members rest
              | _ => none
          | _ => none

end

/-! ### Documents -/

/-- Reads the lines of a document: headers, and definitions in the table that the last
header opened.  Each line takes a character. -/
def linesWithin? : Nat → List String → Members → List Char → Option Members
  | 0, _, _, _ => none
  | steps + 1, header, members, characters => do
      match ← dropGaps? false characters with
      | [] => pure members
      | '[' :: rest =>
          let (path, rest) ← key? rest
          match rest with
          | ']' :: rest =>
              let members ← enter? path members
              linesWithin? steps path members (← lineEnd? false rest)
          | _ => none
      | characters =>
          let (path, rest) ← key? characters
          match rest with
          | '=' :: rest =>
              let (value, rest) ← valueWithin? (rest.length + 1) (dropSpaces rest)
              let members ← assignBelow? value path header members
              linesWithin? steps header members (← lineEnd? false rest)
          | _ => none

/-- The text without the mark that some editors put before it. -/
def dropMark : List Char → List Char
  | '\uFEFF' :: rest => rest
  | characters => characters

/-- Reads a document as an object. -/
def read? (text : String) : Option Json := do
  let characters := dropMark text.toList
  let members ← linesWithin? (characters.length + 1) [] [] characters
  pure (.object (membersToJson members))

end RpcTools.Toml
