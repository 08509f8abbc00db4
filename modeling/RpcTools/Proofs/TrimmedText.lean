/-
Module: RpcTools.Proofs.TrimmedText
Purpose: What is left of a text when the white space at its ends is removed.
Main exports: Text.OnlyBlanks, Text.trim_padded, Text.toList_trim_around, Text.trimEnd_joinWith
-/
import Mathlib.Data.List.TakeWhile
import RpcTools.Text.Blank
import RpcTools.Text.Segments

namespace RpcTools.Text

variable {characters before after left right : List Char}

/-- All these characters are white space. -/
def OnlyBlanks (characters : List Char) : Prop :=
  ∀ character ∈ characters, isBlank character = true

theorem onlyBlanks_nil : OnlyBlanks [] := fun _ member => absurd member List.not_mem_nil

theorem dropBlanks_append_of_blank (blank : OnlyBlanks left) :
    dropBlanks (left ++ characters) = dropBlanks characters := by
  rw [dropBlanks, List.dropWhile_append_of_pos blank, dropBlanks]

theorem dropBlanksEnd_append_of_blank (blank : OnlyBlanks right) :
    dropBlanksEnd (characters ++ right) = dropBlanksEnd characters := by
  have reversed : OnlyBlanks right.reverse := fun character member =>
    blank character (List.mem_reverse.1 member)
  rw [dropBlanksEnd, List.reverse_append, dropBlanks_append_of_blank reversed, dropBlanksEnd]

theorem exists_blanks_dropBlanks (characters : List Char) :
    ∃ left, OnlyBlanks left ∧ characters = left ++ dropBlanks characters :=
  ⟨characters.takeWhile isBlank, fun _ => List.mem_takeWhile_imp,
    List.takeWhile_append_dropWhile.symm⟩

theorem exists_dropBlanksEnd_blanks (characters : List Char) :
    ∃ right, OnlyBlanks right ∧ characters = dropBlanksEnd characters ++ right := by
  obtain ⟨left, blank, whole⟩ := exists_blanks_dropBlanks characters.reverse
  refine ⟨left.reverse, fun character member => blank character (List.mem_reverse.1 member), ?_⟩
  rw [dropBlanksEnd, ← List.reverse_append, ← whole, List.reverse_reverse]

/-- White space around a text is trimmed away together with what is trimmed of the text. -/
theorem trim_padded (characters : List Char) (blankLeft : OnlyBlanks left)
    (blankRight : OnlyBlanks right) :
    trim (String.ofList (left ++ characters ++ right)) = trim (String.ofList characters) := by
  simp only [trim, String.toList_ofList]
  rw [List.append_assoc, dropBlanks_append_of_blank blankLeft, dropBlanks, List.dropWhile_append]
  split
  case isTrue nothing =>
    -- then nothing is left of the text at all
    rw [List.dropWhile_eq_nil_iff.2 blankRight, dropBlanks, List.isEmpty_iff.1 nothing]
  case isFalse => rw [dropBlanksEnd_append_of_blank blankRight, dropBlanks]

theorem trim_dropBlanks :
    trim (String.ofList (dropBlanks characters)) = trim (String.ofList characters) := by
  obtain ⟨left, blank, whole⟩ := exists_blanks_dropBlanks characters
  have padded := trim_padded (dropBlanks characters) blank onlyBlanks_nil
  rw [List.append_nil, ← whole] at padded
  exact padded.symm

theorem trim_dropBlanksEnd :
    trim (String.ofList (dropBlanksEnd characters)) = trim (String.ofList characters) := by
  obtain ⟨right, blank, whole⟩ := exists_dropBlanksEnd_blanks characters
  have padded := trim_padded (dropBlanksEnd characters) onlyBlanks_nil blank
  rw [List.nil_append, ← whole] at padded
  exact padded.symm

theorem dropBlanks_append_cons {character : Char} (solid : isBlank character = false) :
    dropBlanks (before ++ character :: after) = dropBlanks before ++ character :: after := by
  rw [dropBlanks, List.dropWhile_append]
  split
  case isTrue nothing =>
    rw [dropBlanks, List.isEmpty_iff.1 nothing, List.dropWhile_cons_of_neg (by simp [solid])]
    rfl
  case isFalse => rfl

theorem dropBlanksEnd_append_cons {character : Char} (solid : isBlank character = false) :
    dropBlanksEnd (before ++ character :: after) =
      before ++ character :: dropBlanksEnd after := by
  rw [dropBlanksEnd, List.reverse_append, List.reverse_cons, List.append_assoc,
    List.singleton_append, dropBlanks_append_cons solid, List.reverse_append, List.reverse_cons,
    List.reverse_reverse, List.append_assoc, List.singleton_append, dropBlanksEnd]

/-- What stands before a character that is not blank is trimmed at its own start, and what
stands after it at its own end. -/
theorem toList_trim_around {text : String} {character : Char}
    (whole : text.toList = before ++ character :: after) (solid : isBlank character = false) :
    (trim text).toList = dropBlanks before ++ character :: dropBlanksEnd after := by
  rw [toList_trim, whole, dropBlanks_append_cons solid, dropBlanksEnd_append_cons solid]

/-- Only what follows the last character that is not blank is trimmed. -/
theorem trimEnd_append {character : Char} {last : String} (text : String)
    (inLast : character ∈ last.toList) (solid : isBlank character = false) :
    trimEnd (text ++ last) = text ++ trimEnd last := by
  obtain ⟨before, after, whole⟩ := List.append_of_mem inLast
  apply String.toList_injective
  rw [String.toList_append, toList_trimEnd, toList_trimEnd, String.toList_append, whole,
    ← List.append_assoc, dropBlanksEnd_append_cons solid, dropBlanksEnd_append_cons solid,
    List.append_assoc]

/-- What is not blank stays. -/
theorem mem_trimEnd {character : Char} {text : String} (member : character ∈ text.toList)
    (solid : isBlank character = false) : character ∈ (trimEnd text).toList := by
  obtain ⟨before, after, whole⟩ := List.append_of_mem member
  rw [toList_trimEnd, whole, dropBlanksEnd_append_cons solid]
  simp

theorem exists_joinWith_concat (separator : String) (front : List String) :
    ∃ start, ∀ last, joinWith separator (front ++ [last]) = start ++ last := by
  induction front with
  | nil => exact ⟨"", fun last => by simp [joinWith]⟩
  | cons line rest inductionHypothesis =>
      obtain ⟨start, joins⟩ := inductionHypothesis
      refine ⟨line ++ separator ++ start, fun last => ?_⟩
      cases whole : rest ++ [last] with
      | nil => simp at whole
      | cons second others =>
          have further : joinWith separator (line :: second :: others) =
              line ++ separator ++ joinWith separator (second :: others) := by
            simp [joinWith]
          rw [List.cons_append, whole, further, ← whole, joins]
          simp [String.append_assoc]

/-- Of joined lines only the last is trimmed at its end, if it is not blank. -/
theorem trimEnd_joinWith {character : Char} {last : String} (separator : String)
    (front : List String) (inLast : character ∈ last.toList)
    (solid : isBlank character = false) :
    trimEnd (joinWith separator (front ++ [last])) =
      joinWith separator (front ++ [trimEnd last]) := by
  obtain ⟨start, joins⟩ := exists_joinWith_concat separator front
  rw [joins, joins, trimEnd_append start inLast solid]

end RpcTools.Text
