/-
Module: RpcTools.Proofs.PoolResolution
Purpose: References in a consistent set of files: what a name refers to is declared by a
  file of the set, and no method and no field refers to nothing.
Main exports: Pool.exists_message, Pool.exists_fieldType
-/
import Mathlib.Data.List.Nodup
import RpcTools.Pool

namespace RpcTools

open Descriptor (qualified)

/-! ### What names refer to -/

namespace Viewpoint

variable {view : Viewpoint} {accepts : Declared → Bool} {scope name : String}
  {declaration : Declaration}

theorem mem_of_find? (found : view.find? accepts name = some declaration) :
    declaration ∈ view.names.declarations :=
  List.mem_of_find?_eq_some found

/-- Whatever a name refers to is declared. -/
theorem mem_of_resolve? (resolves : view.resolve? accepts scope name = some declaration) :
    declaration ∈ view.names.declarations := by
  rw [resolve?] at resolves
  split at resolves
  · exact mem_of_find? resolves
  · split at resolves
    · obtain ⟨around, _, found⟩ := List.exists_of_findSome?_eq_some resolves
      exact mem_of_find? found
    · split at resolves
      · exact mem_of_find? resolves
      · cases resolves

theorem mem_of_message? {message : Descriptor.Message}
    (refers : view.message? scope name = some (declaration, message)) :
    declaration ∈ view.names.declarations ∧ declaration.declared = .message message := by
  rw [message?] at refers
  cases resolves : view.resolve? Declared.isMessage scope name with
  | none =>
      rw [resolves] at refers
      cases refers
  | some found =>
      rw [resolves] at refers
      cases declared : found.declared with
      | message inner =>
          simp only [declared, Option.some.injEq, Prod.mk.injEq] at refers
          obtain ⟨rfl, rfl⟩ := refers
          exact ⟨mem_of_resolve? resolves, declared⟩
      | _ =>
          simp only [declared] at refers
          cases refers

end Viewpoint

/-! ### What files declare -/

namespace Descriptor.File

/-- A file declares a message under a full name only if it is one of its messages. -/
theorem mem_allMessages {file : File} {fullName : String} {message : Message}
    (declared : (fullName, Declared.message message) ∈ file.declaredNames) :
    (fullName, message) ∈ file.allMessages := by
  simpa [declaredNames, memberNames, enumerationNames, serviceNames] using declared

end Descriptor.File

/-! ### What a pool can rely on -/

namespace Pool

variable {pool : Pool} {file : Descriptor.File}

/-- A pool has the files that it is made of. -/
theorem files_of_ofFiles {pool : Pool} {files : List Descriptor.File}
    (made : ofFiles files = .ok pool) : pool.files = files := by
  rw [ofFiles] at made
  split at made
  · cases made
    rfl
  · cases made

/-- No two files of a pool have the same path. -/
theorem nodup_paths (pool : Pool) : (pool.files.map (·.path)).Nodup := by
  have consistent := pool.consistent
  simp only [Descriptor.inconsistencies, List.append_eq_nil_iff, violation_eq_nil_iff]
    at consistent
  simpa using consistent.1.1

/-- No file of a pool violates a condition. -/
theorem faults_eq_nil (member : file ∈ pool.files) :
    file.faults pool.files (Names.ofFiles pool.files) = [] := by
  have consistent := pool.consistent
  simp only [Descriptor.inconsistencies, List.append_eq_nil_iff, List.flatMap_eq_nil_iff]
    at consistent
  exact consistent.2 file member

/-- The file at the path of a file is that file. -/
theorem fileAt?_path (member : file ∈ pool.files) : pool.fileAt? file.path = some file := by
  cases found : pool.fileAt? file.path with
  | none =>
      have different := List.find?_eq_none.1 found file member
      simp at different
  | some other =>
      have samePath : other.path = file.path := by simpa using List.find?_some found
      have same := List.inj_on_of_nodup_map pool.nodup_paths
        (List.mem_of_find?_eq_some found) member samePath
      rw [same]

theorem viewFromPath_path (member : file ∈ pool.files) :
    pool.viewFromPath file.path = pool.viewFrom file := by
  rw [viewFromPath, fileAt?_path member]

/-- What is declared in a pool is declared by one of its files. -/
theorem exists_declaring {declaration : Declaration}
    (declared : declaration ∈ (Names.ofFiles pool.files).declarations) :
    ∃ file ∈ pool.files, declaration.path = file.path ∧
      (declaration.fullName, declaration.declared) ∈ file.declaredNames := by
  obtain ⟨file, member, declared⟩ := List.mem_flatMap.1 declared
  obtain ⟨⟨fullName, inner⟩, named, rfl⟩ := List.mem_map.1 declared
  exact ⟨file, member, rfl, named⟩

theorem messageFaults_eq_nil {fullName : String} {message : Descriptor.Message}
    (member : file ∈ pool.files) (inFile : (fullName, message) ∈ file.allMessages) :
    Descriptor.messageFaults (pool.viewFrom file) file.isProto3 fullName message = [] := by
  have faultless := faults_eq_nil member
  simp only [Descriptor.File.faults, List.append_eq_nil_iff, List.flatMap_eq_nil_iff]
    at faultless
  exact faultless.1.1.1.1.2 (fullName, message) inFile

theorem fieldFaults_eq_nil {fullName : String} {message : Descriptor.Message}
    {field : Descriptor.Field} (member : file ∈ pool.files)
    (inFile : (fullName, message) ∈ file.allMessages) (inMessage : field ∈ message.fields) :
    Descriptor.fieldFaults (pool.viewFrom file) message (qualified fullName field.name)
      field = [] := by
  have faultless := messageFaults_eq_nil member inFile
  simp only [Descriptor.messageFaults, List.append_eq_nil_iff, List.flatMap_eq_nil_iff]
    at faultless
  exact faultless.1.1.1.2 field inMessage

/-- Every field of a message that is referred to has a type. -/
theorem exists_fieldType {scope name : String} {declaration : Declaration}
    {message : Descriptor.Message} {field : Descriptor.Field}
    (refers : (pool.viewFrom file).message? scope name = some (declaration, message))
    (member : field ∈ message.fields) :
    ∃ type, (pool.viewFromPath declaration.path).fieldType?
      (qualified declaration.fullName field.name) field = some type := by
  obtain ⟨inNames, isMessage⟩ := Viewpoint.mem_of_message? refers
  obtain ⟨declaring, inPool, samePath, named⟩ := exists_declaring inNames
  rw [isMessage] at named
  have faultless :=
    fieldFaults_eq_nil inPool (Descriptor.File.mem_allMessages named) member
  rw [samePath, viewFromPath_path inPool]
  cases typed : (pool.viewFrom declaring).fieldType?
      (qualified declaration.fullName field.name) field with
  | some type => exact ⟨type, rfl⟩
  | none => simp [Descriptor.fieldFaults, Descriptor.typeFaults, typed] at faultless

/-- The request and the response of a method are messages. -/
theorem exists_message {service : Descriptor.Service} {method : Descriptor.Method}
    (member : file ∈ pool.files) (inFile : service ∈ file.services)
    (inService : method ∈ service.methods) (name : String)
    (isType : name = method.inputType ∨ name = method.outputType) :
    ∃ declaration message,
      (pool.viewFrom file).message?
        (qualified (qualified file.package service.name) method.name) name =
          some (declaration, message) := by
  have faultless := faults_eq_nil member
  simp only [Descriptor.File.faults, List.append_eq_nil_iff, List.flatMap_eq_nil_iff]
    at faultless
  have serviceFaultless := faultless.1.1.2 service inFile
  simp only [Descriptor.serviceFaults, List.append_eq_nil_iff, List.flatMap_eq_nil_iff]
    at serviceFaultless
  have methodFaultless := serviceFaultless.1 method inService
  simp only [Descriptor.methodFaults, List.append_eq_nil_iff, List.flatMap_eq_nil_iff,
    violation_eq_nil_iff] at methodFaultless
  have refers := methodFaultless.1 name (by simpa using isType)
  obtain ⟨⟨declaration, message⟩, found⟩ :=
    Option.isSome_iff_exists.1 (Option.isNone_eq_false_iff.1 refers)
  exact ⟨declaration, message, found⟩

end Pool

end RpcTools
