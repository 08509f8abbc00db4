/-
Module: RpcTools.Proofs.ExportedNames
Purpose: The names under which generated client code knows fields and types: what they
  never contain, and which part of a full name they keep.
Main exports: Text.HasUpperForm, underscore_not_mem_propertyName,
  propertyName_not_mem_objectProperties, belowPackage_qualified, exportedName_qualified
-/
import RpcTools.Descriptor.Name
import RpcTools.Schema.FieldName

namespace RpcTools

open Descriptor (qualified)

/-! ### Upper-case forms -/

namespace Text

/-- Where the upper-case form of a character comes from. -/
inductive HasUpperForm (character : Char) : List Char → Prop where
  | ascii (ascii : isAscii character = true) : HasUpperForm character [character.toUpper]
  | expanded {entry : Nat × List Nat} (listed : entry ∈ uppercaseExpansions) :
      HasUpperForm character (entry.2.map Char.ofNat)
  | shifted {run : CaseRun} (listed : run ∈ uppercaseRuns)
      (covered : run.covers character.toNat = true) :
      HasUpperForm character [Char.ofNat (run.image character.toNat)]
  | kept (beyondAscii : isAscii character = false) : HasUpperForm character [character]

theorem hasUpperForm (character : Char) : HasUpperForm character (upperForm character) := by
  rw [upperForm]
  split
  next ascii => exact .ascii ascii
  next beyondAscii =>
    rw [mappedForm]
    split
    next entry found => exact .expanded (List.mem_of_find?_eq_some found)
    next =>
      split
      next run found =>
        have covered : run.covers character.toNat = true := by
          simpa using List.find?_some found
        exact .shifted (List.mem_of_find?_eq_some found) covered
      next => exact .kept (Bool.eq_false_iff.2 beyondAscii)

/-- Only the character that stands for invalid codes is that of several codes. -/
theorem eq_toNat_of_ofNat_eq {code : Nat} {character : Char} (nonzero : character.toNat ≠ 0)
    (same : Char.ofNat code = character) : code = character.toNat := by
  subst same
  by_cases valid : code.isValidChar
  · rw [Char.ofNat, dif_pos valid]
    rfl
  · rw [Char.ofNat, dif_neg valid] at nonzero
    exact absurd rfl nonzero

/-- The images of a run lie between those of its ends. -/
theorem CaseRun.image_bounds {run : CaseRun} {code : Nat} (covered : run.covers code = true)
    (nonzero : run.image code ≠ 0) :
    (run.first : Int) + run.shift ≤ run.image code ∧
      (run.image code : Int) ≤ run.last + run.shift := by
  simp only [covers, Bool.and_eq_true, decide_eq_true_eq] at covered
  simp only [image, Int.ofNat_eq_natCast] at nonzero ⊢
  omega

/-- What is so for every code of ASCII is so for every character of it. -/
theorem forall_isAscii {motive : Char → Prop}
    (inTable : ∀ code < 128, motive (Char.ofNat code)) {character : Char}
    (ascii : isAscii character = true) : motive character := by
  have bound : character.toNat < 128 := by simpa [isAscii] using ascii
  have checked := inTable character.toNat bound
  rwa [Char.ofNat_toNat] at checked

/-- No character but the underscore itself has it in its upper-case form. -/
theorem underscore_not_mem_upperForm {character : Char} (different : character ≠ '_') :
    '_' ∉ upperForm character := by
  intro member
  have origin := hasUpperForm character
  generalize upperForm character = form at member origin
  cases origin with
  | ascii ascii =>
      have absent := forall_isAscii
        (motive := fun character => character ≠ '_' → '_' ∉ [character.toUpper])
        (by decide) ascii
      exact absent different member
  | expanded listed =>
      have noExpansion : ∀ entry ∈ uppercaseExpansions, 95 ∉ entry.2 := by decide
      obtain ⟨code, inEntry, same⟩ := List.mem_map.1 member
      obtain rfl : code = 95 := eq_toNat_of_ofNat_eq (by decide) same
      exact noExpansion _ listed inEntry
  | @shifted run listed covered =>
      have aside : ∀ run ∈ uppercaseRuns,
          95 < (run.first : Int) + run.shift ∨ (run.last : Int) + run.shift < 95 := by
        decide +kernel
      have image : run.image character.toNat = 95 :=
        eq_toNat_of_ofNat_eq (by decide) (List.mem_singleton.1 member).symm
      have bounds := CaseRun.image_bounds covered (by rw [image]; decide)
      rw [image] at bounds
      have apart := aside run listed
      omega
  | kept => exact different (List.mem_singleton.1 member).symm

end Text

/-! ### Fields -/

theorem underscore_not_mem_camelCased (capital : Bool) (characters : List Char) :
    '_' ∉ camelCased capital characters := by
  induction characters generalizing capital with
  | nil => simp [camelCased]
  | cons character rest inductionHypothesis =>
      rw [camelCased]
      split
      next => exact inductionHypothesis true
      next different =>
        have keepsCharacter : '_' ∉ character :: camelCased false rest := by
          simp [Ne.symm different, inductionHypothesis false]
        split
        next => exact keepsCharacter
        next =>
          split
          next =>
            simp [Text.underscore_not_mem_upperForm different, inductionHypothesis false]
          next => exact keepsCharacter

/-- The name of a field has no underscore left. -/
theorem underscore_not_mem_propertyName (declaredName : String) :
    '_' ∉ (propertyName declaredName).toList := by
  have camel := underscore_not_mem_camelCased false declaredName.toList
  simp only [propertyName]
  split
  · simpa using camel
  · simpa using camel

/-- A field is not named by a property that every object has. -/
theorem propertyName_not_mem_objectProperties (declaredName : String) :
    propertyName declaredName ∉ objectProperties := by
  have marked : ∀ property ∈ objectProperties, property ++ "$" ∉ objectProperties := by decide
  simp only [propertyName]
  split
  next collides => exact marked _ collides
  next free => exact free

/-! ### Types -/

/-- A text with underscores for the dots. -/
def underscoresForDots (text : String) : String :=
  String.ofList (text.toList.map fun character => if character = '.' then '_' else character)

theorem dot_not_mem_underscoresForDots (text : String) :
    '.' ∉ (underscoresForDots text).toList := by
  rw [underscoresForDots, String.toList_ofList, List.mem_map]
  rintro ⟨character, _, isDot⟩
  split at isDot
  next => cases isDot
  next other => exact other isDot

theorem toList_qualified (scope name : String) :
    (qualified scope name).toList =
      if scope.toList.isEmpty then name.toList else scope.toList ++ '.' :: name.toList := by
  by_cases root : scope = ""
  · simp [qualified, root]
  · simp [qualified, root]

theorem belowPackage_qualified (package path : String) :
    belowPackage package.toList (qualified package path).toList = path.toList := by
  rw [toList_qualified, belowPackage]
  split
  next => rfl
  next =>
    have inPackage : package.toList ++ ['.'] <+: package.toList ++ '.' :: path.toList :=
      ⟨path.toList, by simp⟩
    rw [if_pos (List.isPrefixOf_iff_prefix.2 inPackage)]
    simp

/-- The exported name of a type is its path below the package with underscores for the
dots. -/
theorem exportedName_qualified (package path : String) :
    exportedName (qualified package path) package = underscoresForDots path := by
  rw [exportedName, belowPackage_qualified, underscoresForDots]

end RpcTools
