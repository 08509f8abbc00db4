/-
Module: RpcTools.Proofs.DependencyServices
Purpose: Requests whose files differ in services that nobody asks for: the answers are the
  same, and what is made is drawn from the files that are asked for.
Main exports: Descriptor.Request.AsksLike, Descriptor.Request.TypesApart,
  schemaOfRequest_eq_of_asksLike, Generator.DrawnFrom,
  Environment.dependencies_supply_types
-/
import RpcTools.Proofs.AnswerStages
import RpcTools.Proofs.SuppliedTypes

namespace RpcTools

open Descriptor (qualified Keeps NoTypeBelow)

namespace Descriptor.Request

/-! ### What the files of a request are there for -/

/-- A file as far as a request uses it: all of it if it is asked for, and else all but its
services. -/
def used (request : Request) (file : File) : File :=
  if file.path ∈ request.filesToGenerate then file else file.withoutServices

/-- Two requests ask for the same, and their files differ in nothing but the services of
files that are not asked for. -/
structure AsksLike (left right : Request) : Prop where
  parameter : left.parameter = right.parameter
  filesToGenerate : left.filesToGenerate = right.filesToGenerate
  files : left.files.map left.used = right.files.map right.used

/-- No message or enum has a name that goes on, after a dot, the name of a service that is
not asked for.  Only a name that has a dot itself could do so. -/
def TypesApart (request : Request) : Prop :=
  ∀ file ∈ request.files, file.path ∉ request.filesToGenerate →
    ∀ service ∈ file.services,
      NoTypeBelow request.files (qualified file.package service.name)

instance (request : Request) : Decidable request.TypesApart :=
  inferInstanceAs (Decidable (∀ file ∈ request.files, file.path ∉ request.filesToGenerate →
    ∀ service ∈ file.services,
      NoTypeBelow request.files (qualified file.package service.name)))

variable {request : Request}

theorem used_of_requested {file : File} (requested : file.path ∈ request.filesToGenerate) :
    request.used file = file := by
  rw [used, if_pos requested]

theorem keeps_used (request : Request) : Keeps request.used := by
  intro file
  rw [used]
  split
  · exact .inl rfl
  · exact .inr rfl

theorem TypesApart.of_used_ne (apart : request.TypesApart) :
    ∀ file ∈ request.files, request.used file ≠ file → ∀ service ∈ file.services,
      NoTypeBelow request.files (qualified file.package service.name) := by
  intro file member loses
  apply apart file member
  intro requested
  exact loses (used_of_requested requested)

/-- In a consistent set of files without dots in the names of messages and enums, no type
is declared below a service. -/
theorem typesApart_of_plainNames {pool : Pool} (made : Pool.ofFiles request.files = .ok pool)
    (plain : ∀ file ∈ request.files, ∀ names declared, file.Declares names declared →
      ∀ name ∈ names, '.' ∉ name.toList) : request.TypesApart := by
  have files := Pool.files_of_ofFiles made
  rw [← files] at plain
  rw [TypesApart, ← files]
  intro file member _ service inFile declaration declared isType below
  have serviceNamed := File.mem_declaredNames_service_iff.2 ⟨service, inFile, rfl⟩
  have serviceDeclared : (⟨qualified file.package service.name, .service, file.path,
      file.package⟩ : Declaration) ∈ (Names.ofFiles pool.files).declarations :=
    List.mem_flatMap.2 ⟨file, member, List.mem_map.2 ⟨_, serviceNamed, rfl⟩⟩
  obtain ⟨other, names, there⟩ := pool.exists_declaredBy declared isType
  rw [there.fullName] at below
  rcases below_fullNameOf (plain other there.member names _ there.declares) below with
    inPackage | ⟨before, name, after, rfl, nonempty, named⟩
  · apply Pool.fullName_not_mem_packages serviceDeclared
    exact List.mem_flatMap.2 ⟨other, there.member, inPackage⟩
  · obtain ⟨outer, within⟩ := there.declares.exists_outer nonempty
    have outerNamed := (File.mem_declaredNames_iff rfl).2 ⟨before, .message within, rfl⟩
    have outerDeclared : (⟨fullNameOf other.package before, .message outer, other.path,
        other.package⟩ : Declaration) ∈ (Names.ofFiles pool.files).declarations :=
      List.mem_flatMap.2 ⟨other, there.member, List.mem_map.2 ⟨_, outerNamed, rfl⟩⟩
    have same := List.inj_on_of_nodup_map pool.nodup_fullNames outerDeclared serviceDeclared
      named.symm
    cases congrArg Declaration.declared same

/-- A file that is asked for is the same in both requests. -/
theorem fileAt?_eq_of_map_eq {files others : List File}
    (same : files.map request.used = others.map request.used) {path : String}
    (requested : path ∈ request.filesToGenerate) :
    fileAt? files path = fileAt? others path := by
  have whole : ∀ all : List File,
      fileAt? (all.map request.used) path = fileAt? all path := by
    intro all
    rw [fileAt?_map request.keeps_used]
    cases found : fileAt? all path with
    | none => rfl
    | some file =>
        have here : file.path = path := by simpa using List.find?_some found
        rw [Option.map_some, used_of_requested (here ▸ requested)]
  rw [← whole files, ← whole others, same]

end Descriptor.Request

open Descriptor.Request (AsksLike)

/-! ### Two requests -/

variable {left right : Descriptor.Request}

/-- A consistent set of files is asked for its schema. -/
theorem schemaOfRequest_of_pool {request : Descriptor.Request} {pool : Pool}
    (made : Pool.ofFiles request.files = .ok pool) :
    schemaOfRequest request =
      Logged.ofExcept (pool.schemaOf request.filesToGenerate) >>= announced := by
  rw [schemaOfRequest, made]
  rfl

/-- The schema of one request is that of the other. -/
theorem schemaOfRequest_eq_of_asksLike {leftPool rightPool : Pool}
    (asks : left.AsksLike right) (leftMade : Pool.ofFiles left.files = .ok leftPool)
    (rightMade : Pool.ofFiles right.files = .ok rightPool) (leftApart : left.TypesApart)
    (rightApart : right.TypesApart) : schemaOfRequest left = schemaOfRequest right := by
  have leftFiles := Pool.files_of_ofFiles leftMade
  have rightFiles := Pool.files_of_ofFiles rightMade
  have sameUse : right.used = left.used := by
    funext file
    rw [Descriptor.Request.used, Descriptor.Request.used, asks.filesToGenerate]
  have same : leftPool.files.map left.used = rightPool.files.map left.used := by
    rw [leftFiles, rightFiles, asks.files, sameUse]
  have leftApart := leftApart.of_used_ne
  have rightApart := rightApart.of_used_ne
  rw [← leftFiles] at leftApart
  rw [← rightFiles, sameUse] at rightApart
  have agree := Pool.agrees_of_map_eq left.keeps_used same leftApart rightApart
  have sameSchema : leftPool.schemaOf left.filesToGenerate =
      rightPool.schemaOf left.filesToGenerate := by
    apply mapM_congr
    intro path requested
    have sameFile : leftPool.fileAt? path = rightPool.fileAt? path :=
      Descriptor.Request.fileAt?_eq_of_map_eq same requested
    rw [Pool.requested, Pool.requested, ← sameFile]
    cases found : leftPool.fileAt? path with
    | none => rfl
    | some file =>
        have inLeft := List.mem_of_find?_eq_some found
        have inRight := List.mem_of_find?_eq_some (sameFile.symm.trans found)
        exact congrArg Except.ok (Pool.protoFile_eq_of_agree agree inLeft inRight)
  rw [schemaOfRequest_of_pool leftMade, schemaOfRequest_of_pool rightMade,
    ← asks.filesToGenerate, sameSchema]

theorem Environment.answer_eq_of_schema_eq {environment : Environment}
    (asks : left.AsksLike right) (same : schemaOfRequest left = schemaOfRequest right) :
    environment.answer left = environment.answer right := by
  have sameModule : environment.moduleFor left = environment.moduleFor right := by
    rw [moduleFor, moduleFor, asks.parameter, same]
  rw [answer, answer, sameModule]

/-! ### One request -/

/-- What comes of a request is drawn from the files that it asks for. -/
structure Generator.DrawnFrom (generator : Generator) (request : Descriptor.Request)
    (outcome : Except Error (Option GeneratedModule)) : Prop where
  /-- Whether there is a module, and what its command file is, can be told from the paths
  that are asked for. -/
  decided : outcome.map (Option.map (·.report.commandFile)) =
    generator.outcomeOfPaths request.filesToGenerate
  /-- Only files that are asked for can be too many. -/
  candidates : ∀ {pattern candidates},
    outcome = .error (.ambiguousCommandFile pattern candidates) →
      candidates = request.filesToGenerate.filter (Text.contains · pattern)
  /-- A file that is not asked for is not there to be designated. -/
  designated : ∀ {path}, generator.config.commandFile = some path →
    path ∉ request.filesToGenerate →
      outcome = .ok none ∨ outcome = .error (.config (.commandFileAbsent path))
  /-- The tools, and the lines of the report, are those of a file that is asked for. -/
  tools : ∀ {generated}, outcome = .ok (some generated) → ∃ commandFile : Option ProtoFile,
    generated = generator.madeOf commandFile ∧
      ∀ file ∈ commandFile, ∃ pool described, Pool.ofFiles request.files = .ok pool ∧
        described ∈ request.files ∧ described.path ∈ request.filesToGenerate ∧
          file = pool.protoFile described

namespace Generator

variable {generator : Generator} {request : Descriptor.Request} {files : List ProtoFile}

/-- What a run comes to is drawn from the files that it is given. -/
theorem drawnFrom_of_supplies {pool : Pool}
    (made : Pool.ofFiles request.files = .ok pool)
    (supplies : Supplies pool.schema request.filesToGenerate (.ok files)) :
    generator.DrawnFrom request (generator.generate files).result := by
  have decides := generate_result_iff.1 (rfl : (generator.generate files).result = _)
  have paths := supplies.map_path
  refine ⟨?_, ?_, ?_, ?_⟩
  · rw [← paths]
    exact decides.map_commandFile
  · intro pattern candidates fails
    rw [fails] at decides
    cases decides with
    | failed _ selects =>
        cases selects with
        | ambiguous => rw [← paths, filter_paths]
  · intro path designated notRequested
    rw [← paths] at notRequested
    have absent : ∀ file ∈ files, file.path ≠ path := by
      intro file member same
      exact notRequested (List.mem_map.2 ⟨file, member, same⟩)
    by_cases services : ∃ file ∈ files, file.PathHas generator.config.servicesMarker
    · right
      exact Decides.result_eq (.failed services (.absent designated absent))
    · left
      apply Decides.result_eq (.nothing _)
      intro file member has
      exact services ⟨file, member, has⟩
  · intro generated generates
    obtain ⟨commandFile, _, selected, sameModule, _⟩ := exists_commandFile generates
    refine ⟨commandFile, sameModule, ?_⟩
    rintro file rfl
    have member := mem_of_commandFileOf (by rw [selected])
    have requested : file.path ∈ request.filesToGenerate := by
      rw [← paths]
      exact List.mem_map_of_mem member
    obtain ⟨described, inPool, rfl⟩ := Pool.mem_schema.1 (supplies.mem_schema member)
    rw [Pool.files_of_ofFiles made] at inPool
    exact ⟨pool, described, made, inPool, requested, rfl⟩

end Generator

namespace Environment

theorem Prepares.drawnFrom {environment : Environment} {request : Descriptor.Request}
    {options : PluginOptions} {generator : Generator} {files : List ProtoFile}
    (prepares : environment.Prepares request options generator files) :
    generator.DrawnFrom request (environment.moduleFor request).result := by
  obtain ⟨pool, made, supplies⟩ := prepares.exists_supplies
  have drawn : generator.DrawnFrom request (generator.generate files).result :=
    Generator.drawnFrom_of_supplies made supplies
  rwa [prepares.moduleFor_result]

/-- Files that are not asked for supply types and nothing else: their services can be
changed without any change of the answer, and no file or path of theirs plays a part in
what is made. -/
theorem dependencies_supply_types (environment : Environment) {leftPool rightPool : Pool}
    (asks : left.AsksLike right) (leftMade : Pool.ofFiles left.files = .ok leftPool)
    (rightMade : Pool.ofFiles right.files = .ok rightPool) (leftApart : left.TypesApart)
    (rightApart : right.TypesApart) :
    environment.answer left = environment.answer right ∧
      ∀ request options generator files,
        environment.Prepares request options generator files →
          generator.DrawnFrom request (environment.moduleFor request).result := by
  have sameSchema :=
    schemaOfRequest_eq_of_asksLike asks leftMade rightMade leftApart rightApart
  exact ⟨answer_eq_of_schema_eq asks sameSchema, fun _ _ _ _ => Prepares.drawnFrom⟩

/-! ### A service that comes between -/

/-- A message without fields of its own kinds, for requests that are written out. -/
def bareMessage (name : String) (fields : List Descriptor.Field)
    (nested : List Descriptor.Message) : Descriptor.Message where
  name
  fields
  oneofs := []
  nested
  enumerations := []
  extensions := []
  extensionRanges := []
  reservedRanges := []
  options := .empty

def bareFile (path package : String) (dependencies : List String)
    (messages : List Descriptor.Message) (services : List Descriptor.Service) :
    Descriptor.File where
  path
  package
  dependencies
  publicDependencies := []
  weakDependencies := []
  messages
  enumerations := []
  services
  extensions := []
  options := .empty
  syntaxName := none

/-- A text with the number 1. -/
def bareField (name : String) : Descriptor.Field where
  name
  number := 1
  label := .optional
  typeCode := some 9
  typeName := ""
  extendee := ""
  defaultValue := none
  oneofIndex := none
  jsonName := none
  proto3Optional := false
  options := .empty

/-- A request for a file whose method names `Foo.Bar`.  One file declares it as a message
inside another, outside of all packages; another file declares, in the package of the
method, a message whose own name has a dot, and some services. -/
def dottedRequest (services : List String) : Descriptor.Request where
  filesToGenerate := ["/services/v1/command"]
  parameter := none
  files :=
    [bareFile "outer" "" [] [bareMessage "Foo" [] [bareMessage "Bar" [bareField "far"] []]] [],
     bareFile "inner" "p" [] [bareMessage "Foo.Bar" [bareField "near"] []]
       (services.map fun name => ⟨name, [], .empty⟩),
     bareFile "/services/v1/command" "p" ["outer", "inner"] []
       [⟨"S", [⟨"Get", "Foo.Bar", "Foo.Bar", false, false, .empty⟩], .empty⟩]]

/-- Without any files, and without a directory for configurations. -/
def bareEnvironment : Environment where
  files := ⟨[], [], []⟩
  configHome := none
  colored := false

theorem asksLike_dottedRequest (services others : List String) :
    (dottedRequest services).AsksLike (dottedRequest others) :=
  ⟨rfl, rfl, rfl⟩

/-- A service without methods changes nothing where no type is declared below it, whatever
dots there are in other names. -/
theorem dependencies_supply_types_dotted :
    ∃ leftPool rightPool,
      (dottedRequest []).AsksLike (dottedRequest ["Other"]) ∧
      Pool.ofFiles (dottedRequest []).files = .ok leftPool ∧
      Pool.ofFiles (dottedRequest ["Other"]).files = .ok rightPool ∧
      (dottedRequest []).TypesApart ∧ (dottedRequest ["Other"]).TypesApart ∧
      bareEnvironment.answer (dottedRequest []) =
        bareEnvironment.answer (dottedRequest ["Other"]) ∧
      ∀ request options generator files,
        bareEnvironment.Prepares request options generator files →
          generator.DrawnFrom request (bareEnvironment.moduleFor request).result := by
  have leftMade := Pool.ofFiles_files ⟨(dottedRequest []).files, by decide +kernel⟩
  have rightMade := Pool.ofFiles_files ⟨(dottedRequest ["Other"]).files, by decide +kernel⟩
  have leftApart : (dottedRequest []).TypesApart := by decide +kernel
  have rightApart : (dottedRequest ["Other"]).TypesApart := by decide +kernel
  have asks := asksLike_dottedRequest [] ["Other"]
  exact ⟨_, _, asks, leftMade, rightMade, leftApart, rightApart,
    dependencies_supply_types bareEnvironment asks leftMade rightMade leftApart rightApart⟩

/-- A service that has the name before the dot takes the method's type for itself. -/
theorem answer_dottedRequest_ne :
    (dottedRequest []).AsksLike (dottedRequest ["Foo"]) ∧
      Descriptor.inconsistencies (dottedRequest []).files = [] ∧
      Descriptor.inconsistencies (dottedRequest ["Foo"]).files = [] ∧
      (bareEnvironment.answer (dottedRequest [])).1 ≠
        (bareEnvironment.answer (dottedRequest ["Foo"])).1 :=
  ⟨asksLike_dottedRequest [] ["Foo"], by decide +kernel, by decide +kernel, by decide +kernel⟩

end Environment

end RpcTools
