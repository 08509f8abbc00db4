/-
Module: RpcTools.Proofs.RequestedFiles
Purpose: Schemas of requests beside schemas of sets: what a request for some of the files of
  a set comes to.
Main exports: Pool.requested_eq_ok_iff, Supplies, Supplies.schemaOf_eq,
  schemaOfRequest_of_files, schemaOfRequest_supplies
-/
import RpcTools.Proofs.DescriptorTools

namespace RpcTools

/-! ### Files of a pool by their paths -/

namespace Pool

variable {pool : Pool} {path : String}

theorem ofFiles_files (pool : Pool) : ofFiles pool.files = .ok pool := by
  rw [ofFiles]
  split
  · rfl
  · next inconsistent =>
      rw [pool.consistent] at inconsistent
      cases inconsistent

theorem mem_schema {file : ProtoFile} :
    file ∈ pool.schema ↔ ∃ described ∈ pool.files, pool.protoFile described = file :=
  List.mem_map

theorem nodup_schema_paths (pool : Pool) : (pool.schema.map (·.path)).Nodup := by
  have paths : pool.schema.map (·.path) = pool.files.map (·.path) := by
    rw [schema, List.map_map]
    rfl
  rw [paths]
  exact pool.nodup_paths

theorem requested_path {file : Descriptor.File} (member : file ∈ pool.files) :
    pool.requested file.path = .ok (pool.protoFile file) := by
  rw [requested, fileAt?_path member]

/-- The file that is asked for is the one of the schema at its path. -/
theorem requested_eq_ok_iff {file : ProtoFile} :
    pool.requested path = .ok file ↔ file ∈ pool.schema ∧ file.path = path := by
  constructor
  · intro found
    rw [requested] at found
    split at found
    · next described isThere =>
        cases found
        have samePath : described.path = path := by simpa using List.find?_some isThere
        exact ⟨mem_schema.2 ⟨described, List.mem_of_find?_eq_some isThere, rfl⟩, samePath⟩
    · cases found
  · rintro ⟨member, rfl⟩
    obtain ⟨described, inPool, rfl⟩ := mem_schema.1 member
    exact requested_path inPool

theorem requested_eq_error (absent : ∀ file ∈ pool.schema, file.path ≠ path) :
    pool.requested path = .error (.invalidDescriptor (.requestedFileMissing path)) := by
  cases found : pool.requested path with
  | ok file =>
      obtain ⟨member, samePath⟩ := requested_eq_ok_iff.1 found
      exact absurd samePath (absent file member)
  | error fault =>
      rw [requested] at found
      split at found <;> cases found
      rfl

/-- To ask for every file of a pool is to ask for the schema of the pool. -/
theorem schemaOf_paths (pool : Pool) :
    pool.schemaOf (pool.files.map (·.path)) = .ok pool.schema := by
  rw [schemaOf, mapM_eq_ok_iff, schema, List.forall₂_map_left_iff, List.forall₂_map_right_iff,
    List.forall₂_same]
  exact fun file member => requested_path member

end Pool

/-! ### What a schema supplies -/

/-- What comes of asking a schema for the files at some paths, in their order. -/
inductive Supplies (schema : List ProtoFile) (paths : List String) :
    Except Error (List ProtoFile) → Prop where
  /-- For every path, as often as it is named, there is the file at that path. -/
  | found {files : List ProtoFile}
      (each : List.Forall₂ (fun path file => file ∈ schema ∧ file.path = path) paths files) :
      Supplies schema paths (.ok files)
  /-- The first path without a file is the fault, whatever is asked for after it. -/
  | missing {before after : List String} {path : String}
      (split : paths = before ++ path :: after)
      (present : ∀ earlier ∈ before, ∃ file ∈ schema, file.path = earlier)
      (absent : ∀ file ∈ schema, file.path ≠ path) :
      Supplies schema paths (.error (.invalidDescriptor (.requestedFileMissing path)))

/-- The words of the fault give the path that is missing. -/
theorem message_requestedFileMissing (path : String) :
    (Error.invalidDescriptor (.requestedFileMissing path)).message =
      "Invalid descriptor set: file to generate '" ++ path ++ "' is not in the request" := by
  have words : (DescriptorFault.requestedFileMissing path).message =
      "file to generate '" ++ (path ++ "' is not in the request") := String.append_assoc
  have opening : "Invalid descriptor set: " ++ "file to generate '" =
      "Invalid descriptor set: file to generate '" := by decide
  calc (Error.invalidDescriptor (.requestedFileMissing path)).message
      = "Invalid descriptor set: " ++
          (DescriptorFault.requestedFileMissing path).message := rfl
    _ = "Invalid descriptor set: " ++ "file to generate '" ++
          (path ++ "' is not in the request") := by rw [words, String.append_assoc]
    _ = _ := by rw [opening, String.append_assoc]

namespace Supplies

variable {pool : Pool} {paths : List String}

theorem schemaOf_eq {outcome : Except Error (List ProtoFile)}
    (supplies : Supplies pool.schema paths outcome) : pool.schemaOf paths = outcome := by
  cases supplies with
  | found each =>
      exact mapM_eq_ok_iff.2 (each.imp fun _ _ => Pool.requested_eq_ok_iff.2)
  | missing split present absent =>
      rw [Pool.schemaOf, split]
      refine mapM_eq_error_of_first ?_ (Pool.requested_eq_error absent)
      intro earlier member
      obtain ⟨file, inSchema, samePath⟩ := present earlier member
      exact ⟨file, Pool.requested_eq_ok_iff.2 ⟨inSchema, samePath⟩⟩

/-- Whatever paths are asked for, something comes of it. -/
theorem exists_supplies (schema : List ProtoFile) (paths : List String) :
    ∃ outcome, Supplies schema paths outcome := by
  cases missing : paths.find? fun path => !schema.any (·.path == path) with
  | some path =>
      obtain ⟨isMissing, before, after, split, passed⟩ :=
        List.find?_eq_some_iff_append.1 missing
      refine ⟨_, .missing split ?_ ?_⟩
      · intro earlier member
        simpa using passed earlier member
      · simpa using isMissing
  | none =>
      have present := List.find?_eq_none.1 missing
      have each : ∀ path ∈ paths, ∃ file, file ∈ schema ∧ file.path = path := by
        intro path member
        simpa using present path member
      obtain ⟨files, found⟩ := exists_forall₂ each
      exact ⟨_, .found found⟩

theorem schemaOf_eq_iff {outcome : Except Error (List ProtoFile)} :
    pool.schemaOf paths = outcome ↔ Supplies pool.schema paths outcome := by
  constructor
  · rintro rfl
    obtain ⟨outcome, supplies⟩ := exists_supplies pool.schema paths
    rw [supplies.schemaOf_eq]
    exact supplies
  · exact schemaOf_eq

/-- Files come of it exactly if there is one at every path. -/
theorem exists_ok_iff {schema : List ProtoFile} :
    (∃ files, Supplies schema paths (.ok files)) ↔
      ∀ path ∈ paths, ∃ file ∈ schema, file.path = path := by
  constructor
  · rintro ⟨files, supplies⟩ path member
    cases supplies with
    | found each =>
        obtain ⟨file, _, inSchema, samePath⟩ := exists_of_mem_forall₂ each member
        exact ⟨file, inSchema, samePath⟩
  · intro present
    obtain ⟨files, each⟩ := exists_forall₂ present
    exact ⟨files, .found each⟩

/-- Whatever comes of it is files of the schema. -/
theorem mem_schema {schema files : List ProtoFile} {file : ProtoFile}
    (supplies : Supplies schema paths (.ok files)) (member : file ∈ files) :
    file ∈ schema := by
  cases supplies with
  | found each =>
      obtain ⟨path, _, inSchema, _⟩ := exists_of_mem_forall₂ each.flip member
      exact inSchema

theorem missing_path {schema : List ProtoFile} {error : Error}
    (fails : Supplies schema paths (.error error)) :
    ∃ path ∈ paths, (∀ file ∈ schema, file.path ≠ path) ∧
      error.message = "Invalid descriptor set: file to generate '" ++ path ++
        "' is not in the request" := by
  cases fails with
  | @missing before after path split present absent =>
      exact ⟨path, by simp [split], absent, message_requestedFileMissing path⟩

end Supplies

/-! ### Requests -/

theorem schemaOfRequest_of_files {request : Descriptor.Request} {pool : Pool}
    (carried : request.files = pool.files) :
    (schemaOfRequest request).result = pool.schemaOf request.filesToGenerate := by
  simp only [schemaOfRequest, carried, pool.ofFiles_files, Logged.result_bind,
    Logged.result_ofExcept]
  simp only [Bind.bind, Except.bind]
  cases pool.schemaOf request.filesToGenerate <;> rfl

/-- A schema is read only from a request with a consistent set of files, and has the files
that it asks for. -/
theorem exists_pool_of_schemaOfRequest {request : Descriptor.Request}
    {files : List ProtoFile} (loads : (schemaOfRequest request).result = .ok files) :
    ∃ pool, Pool.ofFiles request.files = .ok pool ∧
      pool.schemaOf request.filesToGenerate = .ok files := by
  obtain ⟨pool, made, _⟩ := Logged.exists_of_bind_eq_ok loads
  have made : Pool.ofFiles request.files = .ok pool := congrArg Logged.result made
  have carried := (Pool.files_of_ofFiles made).symm
  exact ⟨pool, made, (schemaOfRequest_of_files carried).symm.trans loads⟩

/-- A request that carries the files of a set is answered from the schema of the set: with
the file at each path that it asks for, or with the first path that is missing. -/
theorem schemaOfRequest_supplies {bytes : Wire.Bytes} {request : Descriptor.Request}
    {schema : List ProtoFile} (carried : Descriptor.readFileSet bytes = .ok request.files)
    (loads : (schemaOfSet bytes).result = .ok schema) :
    (schema.map (·.path)).Nodup ∧
      (∀ outcome, (schemaOfRequest request).result = outcome ↔
        Supplies schema request.filesToGenerate outcome) ∧
      ((∃ files, (schemaOfRequest request).result = .ok files) ↔
        ∀ path ∈ request.filesToGenerate, ∃ file ∈ schema, file.path = path) ∧
      (∀ error, (schemaOfRequest request).result = .error error →
        ∃ path ∈ request.filesToGenerate, (∀ file ∈ schema, file.path ≠ path) ∧
          error.message = "Invalid descriptor set: file to generate '" ++ path ++
            "' is not in the request") := by
  obtain ⟨pool, read, rfl⟩ := exists_pool_of_schemaOfSet loads
  have sameFiles : request.files = pool.files := Except.ok.inj (carried.symm.trans read)
  simp only [schemaOfRequest_of_files sameFiles]
  refine ⟨pool.nodup_schema_paths, fun _ => Supplies.schemaOf_eq_iff, ?_, ?_⟩
  · simp only [Supplies.schemaOf_eq_iff]
    exact Supplies.exists_ok_iff
  · intro error fails
    exact (Supplies.schemaOf_eq_iff.1 fails).missing_path

/-- A message with its fields against the order of their numbers, which is declared inside
another in one file, and a service that receives it in another file. -/
def crossedSet : Wire.Bytes :=
  [10, 84, 10, 3, 108, 105, 98, 18, 3, 112, 46, 113, 34, 72, 10, 5, 79, 117, 116, 101, 114,
   26, 45, 10, 3, 82, 101, 113, 18, 14, 10, 6, 115, 101, 99, 111, 110, 100, 24, 2, 32, 1, 40,
   9, 18, 22, 10, 8, 116, 111, 95, 102, 105, 114, 115, 116, 24, 1, 32, 1, 40, 14, 50, 4, 75,
   105, 110, 100, 34, 16, 10, 4, 75, 105, 110, 100, 18, 8, 10, 4, 90, 69, 82, 79, 16, 0, 10,
   67, 10, 20, 47, 115, 101, 114, 118, 105, 99, 101, 115, 47, 118, 49, 47, 99, 111, 109, 109,
   97, 110, 100, 26, 3, 108, 105, 98, 50, 38, 10, 1, 83, 18, 33, 10, 3, 71, 101, 116, 18, 14,
   46, 112, 46, 113, 46, 79, 117, 116, 101, 114, 46, 82, 101, 113, 26, 10, 46, 112, 46, 113,
   46, 79, 117, 116, 101, 114]

/-- What the set is read as. -/
def crossedSchema : List ProtoFile :=
  [{ path := "lib", services := [] },
   { path := "/services/v1/command"
     services :=
      [{ name := "S"
         methods :=
          [{ name := "Get"
             convention := .unary
             inputFields :=
              [.single "toFirst" (.enumeration ⟨"Outer_Kind", "lib"⟩),
               .single "second" (.scalar .string)]
             outputFields := [] }] }] }]

/-- A request that carries the set and asks for its second file twice. -/
def crossedRequest : Descriptor.Request where
  filesToGenerate := ["/services/v1/command", "lib", "/services/v1/command"]
  parameter := none
  files := (Descriptor.readFileSet crossedSet).toOption.getD []

theorem schemaOfSet_crossedSet : (schemaOfSet crossedSet).result = .ok crossedSchema := by
  decide +kernel

theorem readFileSet_crossedSet :
    Descriptor.readFileSet crossedSet = .ok crossedRequest.files := by
  obtain ⟨pool, read, _⟩ := exists_pool_of_schemaOfSet schemaOfSet_crossedSet
  rw [crossedRequest, read]
  rfl

theorem schemaOfRequest_supplies_crossed :
    Descriptor.readFileSet crossedSet = .ok crossedRequest.files ∧
      (schemaOfSet crossedSet).result = .ok crossedSchema ∧
      (crossedSchema.map (·.path)).Nodup ∧
      (∀ outcome, (schemaOfRequest crossedRequest).result = outcome ↔
        Supplies crossedSchema crossedRequest.filesToGenerate outcome) ∧
      ((∃ files, (schemaOfRequest crossedRequest).result = .ok files) ↔
        ∀ path ∈ crossedRequest.filesToGenerate, ∃ file ∈ crossedSchema, file.path = path) ∧
      (∀ error, (schemaOfRequest crossedRequest).result = .error error →
        ∃ path ∈ crossedRequest.filesToGenerate,
          (∀ file ∈ crossedSchema, file.path ≠ path) ∧
            error.message = "Invalid descriptor set: file to generate '" ++ path ++
              "' is not in the request") :=
  ⟨readFileSet_crossedSet, schemaOfSet_crossedSet,
    schemaOfRequest_supplies readFileSet_crossedSet schemaOfSet_crossedSet⟩

/-- The first of two missing files is the fault. -/
example :
    (schemaOfRequest
      { crossedRequest with filesToGenerate := ["lib", "Lib", "lib", "none"] }).result =
        .error (.invalidDescriptor (.requestedFileMissing "Lib")) := by
  decide +kernel

end RpcTools
