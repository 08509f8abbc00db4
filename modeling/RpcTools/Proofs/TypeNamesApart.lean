/-
Module: RpcTools.Proofs.TypeNamesApart
Purpose: The exported name of a type spells its path below the package, so that generated code
  can tell types apart as long as none of their names has an underscore.
Main exports: Descriptor.PlainPath, Descriptor.nameBelow, PlainPath.split_exportedName,
  Pool.DeclaredBy.eq_of_reference_eq, exportedNames_apart
-/
import RpcTools.Proofs.DependencyServices
import RpcTools.Proofs.ParameterSpelling
import RpcTools.Proofs.SchemaCorrespondence

namespace RpcTools

open Descriptor (qualified fullNameOf)

/-! ### Underscores for dots -/

theorem underscoresForDots_append (text other : String) :
    underscoresForDots (text ++ other) = underscoresForDots text ++ underscoresForDots other := by
  simp [underscoresForDots]

theorem underscoresForDots_eq_self {text : String} (noDot : '.' ∉ text.toList) :
    underscoresForDots text = text := by
  have kept : ∀ character ∈ text.toList,
      (if character = '.' then '_' else character) = id character := by
    intro character member
    apply if_neg
    intro isDot
    rw [isDot] at member
    exact noDot member
  rw [underscoresForDots, List.map_congr_left kept, List.map_id, String.ofList_toList]

/-- Where the pieces have no dots of their own, the underscores stand between the pieces. -/
theorem underscoresForDots_joinWith {pieces : List String}
    (noDot : ∀ piece ∈ pieces, '.' ∉ piece.toList) :
    underscoresForDots (Text.joinWith "." pieces) = Text.joinWith "_" pieces := by
  induction pieces with
  | nil => rfl
  | cons piece rest inductionHypothesis =>
      have first : underscoresForDots piece = piece :=
        underscoresForDots_eq_self (noDot piece List.mem_cons_self)
      have onwards := inductionHypothesis fun other member =>
        noDot other (List.mem_cons_of_mem piece member)
      cases rest with
      | nil => exact first
      | cons next others =>
          have dots : Text.joinWith "." (piece :: next :: others) =
              piece ++ "." ++ Text.joinWith "." (next :: others) := rfl
          rw [dots, underscoresForDots_append, underscoresForDots_append, first, onwards]
          rfl

/-! ### Paths below a package -/

namespace Descriptor

/-- Names that lead from a package down to a type: none of them is empty, and none has a dot or
an underscore. -/
structure PlainPath (names : List String) : Prop where
  leads : names ≠ []
  named : "" ∉ names
  noDot : ∀ name ∈ names, '.' ∉ name.toList
  noUnderscore : ∀ name ∈ names, '_' ∉ name.toList

/-- The full name of what stands at the end of a path below a package. -/
def nameBelow (package : String) (names : List String) : String :=
  qualified package (Text.joinWith "." names)

namespace PlainPath

variable {names others : List String}

theorem fullNameOf_eq (plain : PlainPath names) (package : String) :
    fullNameOf package names = nameBelow package names := by
  obtain ⟨path, below, dotted⟩ := exists_path package plain.leads
  rw [below, dotted plain.named, nameBelow]

/-- The exported name has the names of the path with underscores between them. -/
theorem exportedName_eq (plain : PlainPath names) (package : String) :
    exportedName (nameBelow package names) package = Text.joinWith "_" names := by
  rw [nameBelow, exportedName_qualified, underscoresForDots_joinWith plain.noDot]

theorem split_exportedName (plain : PlainPath names) (package : String) :
    Text.split '_' (exportedName (nameBelow package names) package) = names := by
  rw [plain.exportedName_eq package]
  obtain ⟨first, rest, rfl⟩ := List.exists_cons_of_ne_nil plain.leads
  exact Text.split_joinWith plain.noUnderscore

/-- Two paths with one exported name are the same, whatever the packages above them. -/
theorem eq_of_exportedName_eq (plain : PlainPath names) (otherPlain : PlainPath others)
    {package otherPackage : String}
    (same : exportedName (nameBelow package names) package =
      exportedName (nameBelow otherPackage others) otherPackage) : names = others := by
  rw [← plain.split_exportedName package, same, otherPlain.split_exportedName otherPackage]

end PlainPath

end Descriptor

open Descriptor (PlainPath nameBelow)

/-- No dot is left, wherever the package ends. -/
theorem dot_not_mem_exportedName (fullName package : String) :
    '.' ∉ (exportedName fullName package).toList := by
  have below : exportedName fullName package =
      underscoresForDots (String.ofList (belowPackage package.toList fullName.toList)) := by
    rw [exportedName, underscoresForDots, String.toList_ofList]
  rw [below]
  exact dot_not_mem_underscoresForDots _

/-! ### Types of a pool -/

namespace Pool

variable {pool : Pool}

theorem DeclaredBy.mem_declarations {declaration : Declaration} {file : Descriptor.File}
    {names : List String} (declaredBy : pool.DeclaredBy declaration file names) :
    declaration ∈ (Names.ofFiles pool.files).declarations := by
  obtain ⟨fullName, declared, path, package⟩ := declaration
  have inFile : (fullName, declared) ∈ file.declaredNames :=
    (Descriptor.File.mem_declaredNames_iff declaredBy.declares.isType).2
      ⟨names, declaredBy.declares, declaredBy.fullName⟩
  obtain rfl : path = file.path := declaredBy.path
  obtain rfl : package = file.package := declaredBy.package
  exact List.mem_flatMap.2 ⟨file, declaredBy.member, List.mem_map.2 ⟨_, inFile, rfl⟩⟩

/-- Types that generated code refers to in one way are one type. -/
theorem DeclaredBy.eq_of_reference_eq {declaration other : Declaration}
    {file otherFile : Descriptor.File} {names others : List String}
    (declaredBy : pool.DeclaredBy declaration file names)
    (otherDeclaredBy : pool.DeclaredBy other otherFile others) (plain : PlainPath names)
    (otherPlain : PlainPath others) (same : reference declaration = reference other) :
    declaration = other := by
  obtain ⟨sameName, samePath⟩ := TypeReference.mk.inj same
  have sameFile : file = otherFile := by
    apply List.inj_on_of_nodup_map pool.nodup_paths declaredBy.member otherDeclaredBy.member
    rw [← declaredBy.path, samePath, otherDeclaredBy.path]
  subst sameFile
  rw [declaredBy.package, otherDeclaredBy.package, declaredBy.fullName, otherDeclaredBy.fullName,
    plain.fullNameOf_eq, otherPlain.fullNameOf_eq] at sameName
  have sameWay : names = others := plain.eq_of_exportedName_eq otherPlain sameName
  apply List.inj_on_of_nodup_map pool.nodup_fullNames declaredBy.mem_declarations
    otherDeclaredBy.mem_declarations
  rw [declaredBy.fullName, otherDeclaredBy.fullName, sameWay]

end Pool

/-- The exported name of a type has no dot and spells the path below the package, whatever the
package is: cut at the underscores it gives the names of the path back.  So types of a package
with one exported name have one full name, and types of a pool to which generated code refers in
one way are one type. -/
theorem exportedNames_apart :
    (∀ (package : String) (names : List String), PlainPath names →
      '.' ∉ (exportedName (nameBelow package names) package).toList ∧
        Text.split '_' (exportedName (nameBelow package names) package) = names) ∧
    (∀ (package : String) (names others : List String), PlainPath names → PlainPath others →
      (exportedName (nameBelow package names) package =
          exportedName (nameBelow package others) package ↔
        nameBelow package names = nameBelow package others)) ∧
    ∀ (pool : Pool) (declaration other : Declaration) (file otherFile : Descriptor.File)
      (names others : List String), pool.DeclaredBy declaration file names →
      pool.DeclaredBy other otherFile others → PlainPath names → PlainPath others →
      (Pool.reference declaration = Pool.reference other ↔ declaration = other) := by
  refine ⟨?_, ?_, ?_⟩
  · intro package names plain
    exact ⟨dot_not_mem_exportedName _ _, plain.split_exportedName package⟩
  · intro package names others plain otherPlain
    constructor
    · intro same
      rw [plain.eq_of_exportedName_eq otherPlain same]
    · intro same
      rw [same]
  · intro pool declaration other file otherFile names others declaredBy otherDeclaredBy plain
      otherPlain
    constructor
    · exact declaredBy.eq_of_reference_eq otherDeclaredBy plain otherPlain
    · intro same
      rw [same]

/-- A message inside one that is named like their package. -/
def keyMessage : Descriptor.Message := Environment.bareMessage "Key" [] []

/-- A message whose name goes on where that of the package ends. -/
def apiKeyMessage : Descriptor.Message := Environment.bareMessage "apiKey" [] []

def apiFile : Descriptor.File :=
  Environment.bareFile "lib" "api" []
    [Environment.bareMessage "api" [] [keyMessage], apiKeyMessage] []

def apiPool : Pool := ⟨[apiFile], by decide +kernel⟩

/-- The declaration of a message of the file by the path to it. -/
def apiDeclaration (names : List String) (message : Descriptor.Message) : Declaration :=
  ⟨fullNameOf "api" names, .message message, "lib", "api"⟩

theorem declaredBy_apiDeclaration {names : List String} {message : Descriptor.Message}
    (within : Descriptor.Within apiFile.messages names message) :
    apiPool.DeclaredBy (apiDeclaration names message) apiFile names where
  member := List.mem_singleton_self _
  path := rfl
  package := rfl
  declares := .message within
  fullName := rfl
  alone := fun _ member _ _ _ _ => List.mem_singleton.1 member

theorem exportedNames_apart_api :
    PlainPath ["api", "Key"] ∧ PlainPath ["apiKey"] ∧
      ('.' ∉ (exportedName (nameBelow "api" ["api", "Key"]) "api").toList ∧
        Text.split '_' (exportedName (nameBelow "api" ["api", "Key"]) "api") =
          ["api", "Key"]) ∧
      (exportedName (nameBelow "api" ["api", "Key"]) "api" =
          exportedName (nameBelow "api" ["apiKey"]) "api" ↔
        nameBelow "api" ["api", "Key"] = nameBelow "api" ["apiKey"]) ∧
      apiPool.DeclaredBy (apiDeclaration ["api", "Key"] keyMessage) apiFile ["api", "Key"] ∧
      apiPool.DeclaredBy (apiDeclaration ["apiKey"] apiKeyMessage) apiFile ["apiKey"] ∧
      (Pool.reference (apiDeclaration ["api", "Key"] keyMessage) =
          Pool.reference (apiDeclaration ["apiKey"] apiKeyMessage) ↔
        apiDeclaration ["api", "Key"] keyMessage = apiDeclaration ["apiKey"] apiKeyMessage) := by
  have plain : PlainPath ["api", "Key"] := ⟨by decide, by decide, by decide, by decide⟩
  have otherPlain : PlainPath ["apiKey"] := ⟨by decide, by decide, by decide, by decide⟩
  have declaredBy : apiPool.DeclaredBy (apiDeclaration ["api", "Key"] keyMessage) apiFile
      ["api", "Key"] :=
    declaredBy_apiDeclaration (.inside List.mem_cons_self (.here List.mem_cons_self))
  have otherDeclaredBy : apiPool.DeclaredBy (apiDeclaration ["apiKey"] apiKeyMessage) apiFile
      ["apiKey"] :=
    declaredBy_apiDeclaration (.here (List.mem_cons_of_mem _ List.mem_cons_self))
  exact ⟨plain, otherPlain, exportedNames_apart.1 "api" _ plain,
    exportedNames_apart.2.1 "api" _ _ plain otherPlain, declaredBy, otherDeclaredBy,
    exportedNames_apart.2.2 apiPool _ _ apiFile apiFile _ _ declaredBy otherDeclaredBy plain
      otherPlain⟩

/-- An underscore in the name of a type cannot be told from a dot before a name. -/
example : exportedName "api.api.Key" "api" = exportedName "api.api_Key" "api" := by decide

end RpcTools
