/-
Module: RpcTools.Text.Case
Purpose: Full upper- and lower-case forms of one character, and the changes of case
  that names are derived with.
Main exports: upperForm, lowerForm, capitalized, uncapitalized, underscoredWords,
  raisedCapitals
-/
import RpcTools.Text.CaseTable

namespace RpcTools.Text

/-- The case form of a character beyond ASCII: its expansion if it has one, else its
image under the run that covers it, else the character itself. -/
def mappedForm (expansions : List (Nat × List Nat)) (runs : List CaseRun)
    (character : Char) : List Char :=
  match expansions.find? (fun entry => entry.1 == character.toNat) with
  | some entry => entry.2.map Char.ofNat
  | none =>
      match runs.find? (·.covers character.toNat) with
      | some run => [Char.ofNat (run.image character.toNat)]
      | none => [character]

/-- Whether a character is one of the 128 of ASCII, whose case forms core knows. -/
def isAscii (character : Char) : Bool :=
  character.toNat < 128

/-- The upper-case form of a character.  It may be several characters: `ß` becomes
`SS`. -/
def upperForm (character : Char) : List Char :=
  if isAscii character then [character.toUpper]
  else mappedForm uppercaseExpansions uppercaseRuns character

/-- The lower-case form of a character. -/
def lowerForm (character : Char) : List Char :=
  if isAscii character then [character.toLower]
  else mappedForm lowercaseExpansions lowercaseRuns character

/-- The text with its first character in upper case. -/
def capitalized (text : String) : String :=
  match text.toList with
  | [] => ""
  | first :: rest => String.ofList (upperForm first ++ rest)

/-- The text with its first character in lower case. -/
def uncapitalized (text : String) : String :=
  match text.toList with
  | [] => ""
  | first :: rest => String.ofList (lowerForm first ++ rest)

/-- What one character becomes in a name that separates words by underscores. -/
def underscored (character : Char) : List Char :=
  if character.isUpper then ['_', character.toLower] else [character]

/-- Puts `_` before every ASCII capital and writes it small, so that a name in
capitalised words starts with an underscore. -/
def underscoredWords (text : String) : String :=
  String.ofList (text.toList.flatMap underscored)

/-- Writes every ASCII capital in upper case: the text itself. -/
def raisedCapitals (text : String) : String :=
  text.map fun character => if character.isUpper then character.toUpper else character

/-! ### Small laws -/

@[simp] theorem toList_underscoredWords (text : String) :
    (underscoredWords text).toList = text.toList.flatMap underscored := by
  simp [underscoredWords]

theorem upperForm_of_isAscii {character : Char} (ascii : isAscii character) :
    upperForm character = [character.toUpper] := by
  simp [upperForm, ascii]

theorem lowerForm_of_isAscii {character : Char} (ascii : isAscii character) :
    lowerForm character = [character.toLower] := by
  simp [lowerForm, ascii]

end RpcTools.Text
