/-
Module: RpcTools.Proofs.SuppliedTypes
Purpose: Names in files of which some have lost their services: a name refers to what it
  referred to before, as long as no type is declared below the name of a lost service.
Main exports: Descriptor.File.withoutServices, Descriptor.Keeps, Descriptor.NoTypeBelow,
  Viewpoint.resolve?_viewAt_map, Viewpoint.Agrees, Pool.protoFile_eq_of_agree
-/
import RpcTools.Proofs.DescriptorTools
import RpcTools.Proofs.TypeDeclarations

namespace RpcTools

open Descriptor (qualified)

namespace Descriptor

/-! ### Files that lose their services -/

/-- A file and all that it declares, services apart. -/
def File.withoutServices (file : File) : File :=
  { file with services := [] }

/-- Every file is left as it is or loses its services. -/
def Keeps (keep : File → File) : Prop :=
  ∀ file, keep file = file ∨ keep file = file.withoutServices

namespace Keeps

variable {keep : File → File} (keeps : Keeps keep) (file : File)

include keeps

/-- Nothing but the services can be lost. -/
theorem eq_withServices : keep file = { file with services := (keep file).services } := by
  rcases keeps file with same | lost
  · rw [same]
  · rw [lost]
    rfl

theorem path : (keep file).path = file.path := by
  rw [keeps.eq_withServices file]

theorem package : (keep file).package = file.package := by
  rw [keeps.eq_withServices file]

theorem dependencies : (keep file).dependencies = file.dependencies := by
  rw [keeps.eq_withServices file]

theorem passedOn : (keep file).passedOn = file.passedOn := by
  rw [keeps.eq_withServices file]
  rfl

end Keeps

/-! ### What files see of each other -/

section Visible

variable {keep : File → File} (keeps : Keeps keep) (files : List File)

include keeps

theorem fileAt?_map (path : String) :
    fileAt? (files.map keep) path = (fileAt? files path).map keep := by
  have samePaths : ((fun file : File => file.path == path) ∘ keep) =
      fun file => file.path == path := by
    funext file
    rw [Function.comp_apply, keeps.path]
  rw [fileAt?, fileAt?, List.find?_map, samePaths]

theorem followImports_map (steps : Nat) :
    followImports (files.map keep) steps = followImports files steps := by
  induction steps with
  | zero => rfl
  | succ steps inductionHypothesis =>
      funext seen path
      rw [followImports, followImports, fileAt?_map keeps, inductionHypothesis]
      cases fileAt? files path with
      | none => rfl
      | some file =>
          rw [Option.map_some]
          simp only [keeps.passedOn]

theorem visiblePaths_map (file : File) :
    visiblePaths (files.map keep) (keep file) = visiblePaths files file := by
  simp only [visiblePaths, keeps.dependencies, keeps.path, List.length_map,
    followImports_map keeps]

end Visible

/-! ### What files declare -/

/-- The types among what a file declares do not depend on its services. -/
theorem File.filter_declaredNames_withoutServices (file : File) :
    file.withoutServices.declaredNames.filter (·.2.isType) =
      file.declaredNames.filter (·.2.isType) := by
  have noTypes :
      (file.services.flatMap (serviceNames file.package)).filter (·.2.isType) = [] := by
    rw [List.filter_eq_nil_iff]
    intro named member
    obtain ⟨service, _, named⟩ := List.mem_flatMap.1 member
    rcases List.mem_cons.1 named with rfl | inService
    · exact Bool.false_ne_true
    · obtain ⟨method, _, rfl⟩ := List.mem_map.1 inService
      exact Bool.false_ne_true
  simp only [declaredNames, List.filter_append, noTypes]
  rfl

theorem File.filter_declarations_withoutServices (file : File) :
    file.withoutServices.declarations.filter (·.declared.isType) =
      file.declarations.filter (·.declared.isType) := by
  have names := file.filter_declaredNames_withoutServices
  simp only [declarations, List.filter_map, Function.comp_def]
  rw [names]
  rfl

theorem File.declaredNames_withoutServices_subset (file : File) :
    file.withoutServices.declaredNames ⊆ file.declaredNames := by
  intro named member
  simp only [declaredNames, withoutServices, List.mem_append] at member ⊢
  rcases member with ((member | none) | member)
  · exact .inl (.inl member)
  · cases none
  · exact .inr member

theorem File.mem_declaredNames_service_iff {file : File} {fullName : String} :
    (fullName, Declared.service) ∈ file.declaredNames ↔
      ∃ service ∈ file.services, qualified file.package service.name = fullName := by
  simp [declaredNames, memberNames, enumerationNames, serviceNames, eq_comm]

section Names

variable {keep : File → File} (keeps : Keeps keep) {files : List File}

include keeps

theorem filter_declarations_map :
    (Names.ofFiles (files.map keep)).declarations.filter (·.declared.isType) =
      (Names.ofFiles files).declarations.filter (·.declared.isType) := by
  simp only [Names.ofFiles, List.flatMap_map, List.filter_flatMap]
  apply List.flatMap_congr
  intro file _
  rcases keeps file with same | lost
  · rw [same]
  · rw [lost, File.filter_declarations_withoutServices]

theorem packages_map :
    (Names.ofFiles (files.map keep)).packages = (Names.ofFiles files).packages := by
  simp only [Names.ofFiles, List.flatMap_map, keeps.package]

theorem declarations_map_subset :
    (Names.ofFiles (files.map keep)).declarations ⊆ (Names.ofFiles files).declarations := by
  intro declaration member
  simp only [Names.ofFiles, List.flatMap_map] at member ⊢
  obtain ⟨file, inFiles, member⟩ := List.mem_flatMap.1 member
  apply List.mem_flatMap.2
  refine ⟨file, inFiles, ?_⟩
  rcases keeps file with same | lost
  · rwa [same] at member
  · rw [lost] at member
    obtain ⟨named, inKept, rfl⟩ := List.mem_map.1 member
    exact List.mem_map.2 ⟨named, file.declaredNames_withoutServices_subset inKept, rfl⟩

theorem isParent_of_map {fullName : String}
    (parent : (Names.ofFiles (files.map keep)).isParent fullName = true) :
    (Names.ofFiles files).isParent fullName = true := by
  rw [Names.isParent, Bool.or_eq_true] at parent ⊢
  rcases parent with package | declared
  · rw [packages_map keeps] at package
    exact .inl package
  · obtain ⟨declaration, member, here⟩ := List.any_eq_true.1 declared
    exact .inr (List.any_eq_true.2 ⟨declaration, declarations_map_subset keeps member, here⟩)

/-- A name stops having others below it only if it is that of a lost service. -/
theorem exists_lostService {fullName : String}
    (parent : (Names.ofFiles files).isParent fullName = true)
    (childless : ¬ (Names.ofFiles (files.map keep)).isParent fullName = true) :
    ∃ file ∈ files, keep file ≠ file ∧
      ∃ service ∈ file.services, qualified file.package service.name = fullName := by
  rw [Names.isParent, Bool.or_eq_true, packages_map keeps] at childless
  rw [Names.isParent, Bool.or_eq_true] at parent
  rcases parent with package | declared
  · exact absurd (.inl package) childless
  · obtain ⟨declaration, member, here⟩ := List.any_eq_true.1 declared
    have gone : declaration ∉ (Names.ofFiles (files.map keep)).declarations := by
      intro still
      exact childless (.inr (List.any_eq_true.2 ⟨declaration, still, here⟩))
    have noType : declaration.declared.isType = false := by
      rw [← Bool.not_eq_true]
      intro isType
      have inTypes : declaration ∈
          (Names.ofFiles files).declarations.filter (·.declared.isType) :=
        List.mem_filter.2 ⟨member, isType⟩
      rw [← filter_declarations_map keeps] at inTypes
      exact gone (List.mem_of_mem_filter inTypes)
    obtain ⟨file, inFiles, inFile⟩ := List.mem_flatMap.1 member
    refine ⟨file, inFiles, ?_, ?_⟩
    · intro same
      apply gone
      refine List.mem_flatMap.2 ⟨file, ?_, inFile⟩
      exact List.mem_map.2 ⟨file, inFiles, same⟩
    · obtain ⟨⟨name, what⟩, named, rfl⟩ := List.mem_map.1 inFile
      obtain ⟨sameName, isParent⟩ := Bool.and_eq_true_iff.1 here
      obtain rfl : name = fullName := by simpa using sameName
      cases what with
      | service => exact File.mem_declaredNames_service_iff.1 named
      | message => cases noType
      | enumeration => cases noType
      | field | oneof | enumValue | method | extension => cases isParent

end Names

/-! ### Looking names up -/

/-- No type of some files has a full name that goes on below another name. -/
def NoTypeBelow (files : List File) (fullName : String) : Prop :=
  ∀ declaration ∈ (Names.ofFiles files).declarations, declaration.declared.isType = true →
    ¬ fullName.toList ++ ['.'] <+: declaration.fullName.toList

instance (files : List File) (fullName : String) : Decidable (NoTypeBelow files fullName) :=
  inferInstanceAs (Decidable (∀ declaration ∈ (Names.ofFiles files).declarations,
    declaration.declared.isType = true →
      ¬ fullName.toList ++ ['.'] <+: declaration.fullName.toList))

/-- The view from the file at a path; from where there is no file nothing can be used. -/
def viewAt (files : List File) (path : String) : Viewpoint where
  names := Names.ofFiles files
  visible := ((fileAt? files path).map (visiblePaths files)).getD []

end Descriptor

namespace Viewpoint

open Descriptor (Keeps NoTypeBelow viewAt)

variable {keep : Descriptor.File → Descriptor.File} {files : List Descriptor.File}
  {accepts : Declared → Bool}

theorem visible_viewAt_map (keeps : Keeps keep) (path : String) :
    (viewAt (files.map keep) path).visible = (viewAt files path).visible := by
  simp only [viewAt, Descriptor.fileAt?_map keeps, Option.map_map]
  congr 2
  funext file
  exact Descriptor.visiblePaths_map keeps files file

/-- Types are found as before. -/
theorem find?_viewAt_map (keeps : Keeps keep)
    (onlyTypes : ∀ declared, accepts declared = true → declared.isType = true)
    (path fullName : String) :
    (viewAt (files.map keep) path).find? accepts fullName =
      (viewAt files path).find? accepts fullName := by
  -- what is looked for is looked for among the types alone
  have amongTypes : ∀ view : Viewpoint, view.find? accepts fullName =
      (view.names.declarations.filter (·.declared.isType)).find? fun declaration =>
        declaration.fullName == fullName && accepts declaration.declared &&
          view.visible.contains declaration.path := by
    intro view
    rw [find?, List.find?_filter]
    congr 1
    funext declaration
    rw [Bool.eq_iff_iff, decide_eq_true_iff]
    constructor
    · intro found
      simp only [Bool.and_eq_true] at found
      exact ⟨onlyTypes _ found.1.2, by simp only [found, Bool.and_self]⟩
    · intro found
      exact found.2
  rw [amongTypes, amongTypes, visible_viewAt_map keeps]
  congr 1
  exact Descriptor.filter_declarations_map keeps

theorem fullName_of_find? {view : Viewpoint} {fullName : String} {declaration : Declaration}
    (found : view.find? accepts fullName = some declaration) :
    declaration.fullName = fullName := by
  have here := List.find?_some found
  simp only [Bool.and_eq_true, beq_iff_eq] at here
  exact here.1.1

theorem isType_of_find? {view : Viewpoint} {fullName : String} {declaration : Declaration}
    (onlyTypes : ∀ declared, accepts declared = true → declared.isType = true)
    (found : view.find? accepts fullName = some declaration) :
    declaration.declared.isType = true := by
  have here := List.find?_some found
  simp only [Bool.and_eq_true] at here
  exact onlyTypes _ here.1.2

/-- A name with dots stands below the name of its first part. -/
theorem prefix_qualified {scope name : String} {first rest : List Char}
    (cut : Text.cutFirst? '.' name.toList = some (first, rest)) :
    (qualified scope (String.ofList first)).toList ++ ['.'] <+:
      (qualified scope name).toList := by
  obtain ⟨whole, _⟩ := Text.cutFirst?_eq_some_iff.1 cut
  refine ⟨rest, ?_⟩
  rw [toList_qualified, toList_qualified, whole, String.toList_ofList]
  split <;> simp

section Apart

variable (keeps : Keeps keep)
  (onlyTypes : ∀ declared, accepts declared = true → declared.isType = true)
  (apart : ∀ file ∈ files, keep file ≠ file → ∀ service ∈ file.services,
    NoTypeBelow files (qualified file.package service.name))

include keeps onlyTypes apart

/-- The first part of a name with dots leads to the scope that it led to before: were it the
name of a lost service, the type that is found would be below it. -/
theorem find?_isParent_map {scopes : List String} {around path name : String}
    {first rest : List Char} {declaration : Declaration}
    (cut : Text.cutFirst? '.' name.toList = some (first, rest))
    (inside : scopes.find? (fun around =>
      (Names.ofFiles files).isParent (qualified around (String.ofList first))) = some around)
    (found : (viewAt files path).find? accepts (qualified around name) = some declaration) :
    scopes.find? (fun around =>
      (Names.ofFiles (files.map keep)).isParent (qualified around (String.ofList first))) =
        some around := by
  obtain ⟨parent, before, after, split, outside⟩ := List.find?_eq_some_iff_append.1 inside
  refine List.find?_eq_some_iff_append.2 ⟨?_, before, after, split, ?_⟩
  · by_contra childless
    obtain ⟨file, inFiles, loses, service, inFile, named⟩ :=
      Descriptor.exists_lostService keeps parent childless
    apply apart file inFiles loses service inFile declaration (mem_of_find? found)
    · exact isType_of_find? onlyTypes found
    · rw [named, fullName_of_find? found]
      exact prefix_qualified cut
  · intro inner member
    have childless := outside inner member
    rw [Bool.not_eq_true', ← Bool.not_eq_true] at childless ⊢
    intro parent
    exact childless (Descriptor.isParent_of_map keeps parent)

/-- What a name refers to is found as before, unless it is below a lost service. -/
theorem resolve?_viewAt_map {path scope name : String} {declaration : Declaration}
    (resolves : (viewAt files path).resolve? accepts scope name = some declaration) :
    (viewAt (files.map keep) path).resolve? accepts scope name = some declaration := by
  rw [resolve?] at resolves ⊢
  split at resolves
  · rw [find?_viewAt_map keeps onlyTypes]
    exact resolves
  · cases cut : Text.cutFirst? '.' name.toList with
    | none =>
        simp only [cut, find?_viewAt_map keeps onlyTypes] at resolves ⊢
        exact resolves
    | some parts =>
        simp only [cut] at resolves ⊢
        split at resolves
        · next inside =>
            have same := find?_isParent_map keeps onlyTypes apart cut inside resolves
            rw [← find?_viewAt_map keeps onlyTypes] at resolves
            rw [viewAt] at resolves ⊢
            simp only [same, resolves]
        · cases resolves

end Apart

/-! ### Views that agree -/

/-- Two views agree if no name refers to one type in the one and to another in the other. -/
def Agrees (left right : Viewpoint) : Prop :=
  ∀ {accepts : Declared → Bool} {scope name : String} {one other : Declaration},
    (∀ declared, accepts declared = true → declared.isType = true) →
      left.resolve? accepts scope name = some one →
        right.resolve? accepts scope name = some other → one = other

variable {left right : Viewpoint} {scope name : String}

theorem exists_resolve?_of_message? {view : Viewpoint}
    {found : Declaration × Descriptor.Message} (refers : view.message? scope name = some found) :
    view.resolve? Declared.isMessage scope name = some found.1 ∧
      found.1.declared = .message found.2 := by
  rw [message?] at refers
  split at refers
  · next declaration resolves =>
      split at refers
      · next message declared =>
          cases refers
          exact ⟨resolves, declared⟩
      · cases refers
  · cases refers

theorem Agrees.message?_eq (agrees : left.Agrees right)
    {one other : Declaration × Descriptor.Message}
    (refers : left.message? scope name = some one)
    (also : right.message? scope name = some other) : one = other := by
  obtain ⟨declaration, message⟩ := one
  obtain ⟨another, anotherMessage⟩ := other
  obtain ⟨oneResolves, oneDeclared⟩ := exists_resolve?_of_message? refers
  obtain ⟨otherResolves, otherDeclared⟩ := exists_resolve?_of_message? also
  have onlyTypes : ∀ declared, Declared.isMessage declared = true → declared.isType = true := by
    intro declared isMessage
    cases declared with
    | message => rfl
    | _ => cases isMessage
  obtain rfl : declaration = another := agrees onlyTypes oneResolves otherResolves
  obtain rfl := Declared.message.inj (oneDeclared.symm.trans otherDeclared)
  rfl

theorem Agrees.fieldType?_eq (agrees : left.Agrees right) {field : Descriptor.Field}
    {one other : ResolvedType} (typed : left.fieldType? name field = some one)
    (also : right.fieldType? name field = some other) : one = other := by
  rw [fieldType?] at typed also
  split at typed
  · next untyped =>
      -- the code alone decides
      rw [if_pos untyped] at also
      exact Option.some.inj (typed.symm.trans also)
  · next named =>
      rw [if_neg named] at also
      cases resolves : left.resolve? Declared.isType name field.typeName with
      | none =>
          rw [resolves] at typed
          cases typed
      | some declaration =>
          cases alsoResolves : right.resolve? Declared.isType name field.typeName with
          | none =>
              rw [alsoResolves] at also
              cases also
          | some another =>
              have same := agrees (fun _ isType => isType) resolves alsoResolves
              rw [resolves] at typed
              rw [alsoResolves, ← same] at also
              exact Option.some.inj (typed.symm.trans also)

end Viewpoint

namespace Pool

open Descriptor (Keeps NoTypeBelow viewAt)

theorem viewFromPath_eq_viewAt (pool : Pool) (path : String) :
    pool.viewFromPath path = viewAt pool.files path := by
  rw [viewFromPath, fileAt?, viewAt]
  cases Descriptor.fileAt? pool.files path with
  | none => rfl
  | some file => rfl

/-- Pools whose files differ in lost services alone have views that agree. -/
theorem agrees_of_map_eq {left right : Pool} {keep : Descriptor.File → Descriptor.File}
    (keeps : Keeps keep) (same : left.files.map keep = right.files.map keep)
    (leftApart : ∀ file ∈ left.files, keep file ≠ file → ∀ service ∈ file.services,
      NoTypeBelow left.files (qualified file.package service.name))
    (rightApart : ∀ file ∈ right.files, keep file ≠ file → ∀ service ∈ file.services,
      NoTypeBelow right.files (qualified file.package service.name)) (path : String) :
    (left.viewFromPath path).Agrees (right.viewFromPath path) := by
  intro accepts scope name one other onlyTypes resolves also
  rw [viewFromPath_eq_viewAt] at resolves also
  have kept := Viewpoint.resolve?_viewAt_map keeps onlyTypes leftApart resolves
  have alsoKept := Viewpoint.resolve?_viewAt_map keeps onlyTypes rightApart also
  rw [same] at kept
  exact Option.some.inj (kept.symm.trans alsoKept)

/-! ### What agreeing pools tell about a file of both -/

section Agree

variable {left right : Pool}
  (agree : ∀ path, (left.viewFromPath path).Agrees (right.viewFromPath path))
  {file : Descriptor.File} (inLeft : file ∈ left.files) (inRight : file ∈ right.files)

include agree inLeft inRight

theorem viewFrom_agrees : (left.viewFrom file).Agrees (right.viewFrom file) := by
  rw [← viewFromPath_path inLeft, ← viewFromPath_path inRight]
  exact agree file.path

theorem fieldsOf_eq_of_agree {scope name : String}
    {one other : Declaration × Descriptor.Message}
    (refers : (left.viewFrom file).message? scope name = some one)
    (also : (right.viewFrom file).message? scope name = some other) :
    left.fieldsOf ((left.viewFrom file).message? scope name) =
      right.fieldsOf ((right.viewFrom file).message? scope name) := by
  obtain rfl := Viewpoint.Agrees.message?_eq (viewFrom_agrees agree inLeft inRight) refers also
  obtain ⟨declaration, message⟩ := one
  rw [refers, also, fieldsOf, fieldsOf, fieldsFrom, fieldsFrom]
  apply List.map_congr_left
  intro field member
  have inMessage := (sortByNumber_perm message.fields).mem_iff.1 member
  obtain ⟨type, typed⟩ := exists_fieldType refers inMessage
  obtain ⟨another, alsoTyped⟩ := exists_fieldType also inMessage
  rw [typed, alsoTyped, Viewpoint.Agrees.fieldType?_eq (agree declaration.path) typed alsoTyped]

/-- The two pools tell the same about the services of the file. -/
theorem protoFile_eq_of_agree : left.protoFile file = right.protoFile file := by
  simp only [protoFile, ProtoFile.mk.injEq, true_and]
  apply List.map_congr_left
  intro service inFile
  simp only [serviceOf, Service.mk.injEq, true_and]
  apply List.map_congr_left
  intro method inService
  have fields : ∀ name, name = method.inputType ∨ name = method.outputType →
      left.fieldsOf ((left.viewFrom file).message?
        (qualified (qualified file.package service.name) method.name) name) =
      right.fieldsOf ((right.viewFrom file).message?
        (qualified (qualified file.package service.name) method.name) name) := by
    intro name isType
    obtain ⟨_, _, refers⟩ := exists_message inLeft inFile inService name isType
    obtain ⟨_, _, also⟩ := exists_message inRight inFile inService name isType
    exact fieldsOf_eq_of_agree agree inLeft inRight refers also
  simp only [methodOf, fields method.inputType (.inl rfl), fields method.outputType (.inr rfl)]

end Agree

end Pool

end RpcTools
