/-
Module: RpcTools.Proofs.SchemaCorrespondence
Purpose: What a schema tells about the descriptors that it is read from: its services and
  methods one for one, and the fields of every request and response with their names and
  types.
Main exports: Pool.RefersTo, Pool.FieldMirrors, Pool.MessageMirrors, Pool.FileMirrors,
  ReadFrom, schema_mirrors_descriptors
-/
import Mathlib.Data.List.Sort
import RpcTools.Proofs.RequestedFiles
import RpcTools.Proofs.TypeDeclarations

namespace RpcTools

open Descriptor (qualified fullNameOf)

/-! ### Dotted names of types -/

namespace Descriptor

variable {names : List String}

/-- Below a scope that has a name, the way to a type is spelled with dots. -/
theorem fullNameOf_cons {scope : String} (inside : scope ≠ "") (name : String)
    (names : List String) :
    fullNameOf scope (name :: names) = qualified scope (Text.joinWith "." (name :: names)) := by
  induction names generalizing scope name with
  | nil => rfl
  | cons next rest inductionHypothesis =>
      have below : qualified scope name ≠ "" := by simp [qualified, inside]
      have step : fullNameOf scope (name :: next :: rest) =
          fullNameOf (qualified scope name) (next :: rest) := rfl
      rw [step, inductionHypothesis below]
      simp [qualified, inside, Text.joinWith, String.append_assoc]

/-- A way whose names are all written is spelled with dots below the root as well. -/
theorem fullNameOf_root (way : names ≠ []) (named : "" ∉ names) :
    fullNameOf "" names = Text.joinWith "." names := by
  match names, way with
  | [name], _ => rfl
  | name :: next :: rest, _ =>
      have written : name ≠ "" := fun missing => named (by simp [missing])
      have step : fullNameOf "" (name :: next :: rest) = fullNameOf name (next :: rest) := rfl
      rw [step, fullNameOf_cons written]
      simp [qualified, written, Text.joinWith]

/-- A full name is that of a package with a path below it.  The path has the names with
dots between them, unless the root is left unnamed. -/
theorem exists_path (package : String) (way : names ≠ []) :
    ∃ path, fullNameOf package names = qualified package path ∧
      ("" ∉ names → path = Text.joinWith "." names) := by
  by_cases root : package = ""
  · subst root
    exact ⟨fullNameOf "" names, rfl, fullNameOf_root way⟩
  · match names, way with
    | name :: rest, _ => exact ⟨_, fullNameOf_cons root name rest, fun _ => rfl⟩

theorem Within.ne_nil {messages : List Message} {message : Message}
    (within : Within messages names message) : names ≠ [] := by
  cases within <;> simp

theorem File.Declares.ne_nil {file : File} {declared : Declared}
    (declares : file.Declares names declared) : names ≠ [] := by
  cases declares with
  | message within => exact within.ne_nil
  | enumeration => simp
  | innerEnumeration => simp

end Descriptor

/-! ### Schemas beside descriptors -/

namespace Pool

/-- A reference names a declared type: by the path of the file that declares it, and by the
path of the type below the package of that file, with underscores for the dots. -/
inductive RefersTo (pool : Pool) (declaration : Declaration) : TypeReference → Prop where
  | of {file : Descriptor.File} {names : List String} {path : String}
      (declaredBy : pool.DeclaredBy declaration file names)
      (below : declaration.fullName = qualified file.package path)
      (dotted : "" ∉ names → path = Text.joinWith "." names) :
      RefersTo pool declaration ⟨underscoresForDots path, file.path⟩

/-- The element type of a field is the type that its descriptor is written down with. -/
inductive TypeMirrors (pool : Pool) (view : Viewpoint) (fullName : String)
    (described : Descriptor.Field) : ElementType → Prop where
  | scalar {scalarType : ScalarType}
      (typed : view.HasType fullName described (.scalar scalarType)) :
      TypeMirrors pool view fullName described (.scalar scalarType)
  | message {declaration : Declaration} {message : Descriptor.Message}
      {reference : TypeReference}
      (typed : view.HasType fullName described (.message declaration message))
      (refers : pool.RefersTo declaration reference) :
      TypeMirrors pool view fullName described (.message reference)
  | enumeration {declaration : Declaration} {enumeration : Descriptor.Enumeration}
      {reference : TypeReference}
      (typed : view.HasType fullName described (.enumeration declaration enumeration))
      (refers : pool.RefersTo declaration reference) :
      TypeMirrors pool view fullName described (.enumeration reference)

/-- A field is the one that a descriptor in a message describes. -/
structure FieldMirrors (pool : Pool) (view : Viewpoint) (message : String)
    (described : Descriptor.Field) (field : Field) : Prop where
  name : field.propertyName = propertyName described.name
  noUnderscore : '_' ∉ field.propertyName.toList
  unreserved : field.propertyName ∉ objectProperties
  type : pool.TypeMirrors view (qualified message described.name) described field.elementType
  optional : field.isOptional = described.proto3Optional
  map : field.isMap = true ↔ view.IsMap (qualified message described.name) described
  repeated : field.isRepeated = true ↔
    described.label = .repeated ∧ ¬ view.IsMap (qualified message described.name) described
  notBoth : ¬ (field.isMap = true ∧ field.isRepeated = true)
  mapOfMessages : field.isMap = true → field.elementType.isMessage = true

/-- One field stands before another in the order of the numbers. -/
def Ascends (earlier later : Descriptor.Field) : Prop :=
  earlier.number < later.number

/-- Fields are those of the message that a name refers to, wherever it is declared: one for
each, in the order of the numbers.  That is the order of the declaration exactly if the
fields are declared in the order of their numbers. -/
inductive MessageMirrors (pool : Pool) (view : Viewpoint) (scope name : String)
    (fields : List Field) : Prop where
  | of {declaration : Declaration} {message : Descriptor.Message} {file : Descriptor.File}
      {names : List String} {listed : List Descriptor.Field}
      (refers : view.message? scope name = some (declaration, message))
      (declaredBy : pool.DeclaredBy declaration file names)
      (complete : listed.Perm message.fields)
      (ascending : listed.Pairwise Ascends)
      (mirrors : List.Forall₂ (pool.FieldMirrors (pool.viewFrom file) declaration.fullName)
        listed fields)
      (declaredOrder : listed = message.fields ↔ message.fields.Pairwise Ascends) :
      MessageMirrors pool view scope name fields

/-- A method is the one that a descriptor in a service describes. -/
structure MethodMirrors (pool : Pool) (view : Viewpoint) (service : String)
    (described : Descriptor.Method) (method : Method) : Prop where
  name : method.name = described.name
  convention : method.convention =
    .ofStreaming described.clientStreaming described.serverStreaming
  request : pool.MessageMirrors view (qualified service described.name) described.inputType
    method.inputFields
  response : pool.MessageMirrors view (qualified service described.name) described.outputType
    method.outputFields

/-- A service is the one that a descriptor describes, with its methods in the order of their
declaration. -/
structure ServiceMirrors (pool : Pool) (view : Viewpoint) (package : String)
    (described : Descriptor.Service) (service : Service) : Prop where
  name : service.name = described.name
  methods : List.Forall₂ (pool.MethodMirrors view (qualified package described.name))
    described.methods service.methods

/-- A file is the one that a descriptor describes, with its services in the order of their
declaration. -/
structure FileMirrors (pool : Pool) (described : Descriptor.File) (file : ProtoFile) :
    Prop where
  path : file.path = described.path
  services : List.Forall₂ (pool.ServiceMirrors (pool.viewFrom described) described.package)
    described.services file.services

end Pool

/-! ### Types -/

namespace Pool

variable {pool : Pool} {file : Descriptor.File}

theorem refersTo_reference {declaration : Declaration}
    (declared : declaration ∈ (Names.ofFiles pool.files).declarations)
    (isType : declaration.declared.isType = true) :
    pool.RefersTo declaration (reference declaration) := by
  obtain ⟨file, names, declaredBy⟩ := exists_declaredBy declared isType
  obtain ⟨path, below, dotted⟩ :=
    Descriptor.exists_path file.package declaredBy.declares.ne_nil
  have below : declaration.fullName = qualified file.package path :=
    declaredBy.fullName.trans below
  have referenceEq : reference declaration = ⟨underscoresForDots path, file.path⟩ := by
    rw [reference, below, declaredBy.package, exportedName_qualified, declaredBy.path]
  rw [referenceEq]
  exact .of declaredBy below dotted

theorem typeMirrors_elementType {fullName : String} {field : Descriptor.Field}
    {type : ResolvedType} (typed : (pool.viewFrom file).HasType fullName field type) :
    pool.TypeMirrors (pool.viewFrom file) fullName field (elementType (some type)) := by
  cases type with
  | scalar scalarType => exact .scalar typed
  | message declaration message =>
      refine .message typed ?_
      cases typed with
      | message named refers declared =>
          exact refersTo_reference (Viewpoint.mem_of_resolve? refers) (by rw [declared]; rfl)
  | enumeration declaration enumeration =>
      refine .enumeration typed ?_
      cases typed with
      | enumeration named refers declared =>
          exact refersTo_reference (Viewpoint.mem_of_resolve? refers) (by rw [declared]; rfl)

/-! ### Fields -/

theorem isMessage_of_isMapEntry {type : ResolvedType}
    (isEntry : isMapEntry (some type) = true) :
    (elementType (some type)).isMessage = true := by
  cases type with
  | scalar => cases isEntry
  | message => rfl
  | enumeration => cases isEntry

theorem fieldMirrors_fieldOf {message : String} {field : Descriptor.Field}
    {type : ResolvedType}
    (typed : (pool.viewFrom file).HasType (qualified message field.name) field type) :
    pool.FieldMirrors (pool.viewFrom file) message field (fieldOf field (some type)) where
  name := rfl
  noUnderscore := underscore_not_mem_propertyName field.name
  unreserved := propertyName_not_mem_objectProperties field.name
  type := typeMirrors_elementType typed
  optional := rfl
  map := (Viewpoint.isMap_iff typed).symm
  repeated := by
    rw [Viewpoint.isMap_iff typed]
    cases entry : isMapEntry (some type) <;> simp [fieldOf, entry]
  notBoth := by
    cases entry : isMapEntry (some type) <;> simp [fieldOf, entry]
  mapOfMessages := by
    intro isMap
    rw [fieldOf, Bool.and_eq_true] at isMap
    exact isMessage_of_isMapEntry isMap.2

theorem insertByNumber_sorted {field : Descriptor.Field} {fields : List Descriptor.Field}
    (sorted : fields.Pairwise fun earlier later => earlier.number ≤ later.number) :
    (insertByNumber field fields).Pairwise
      fun earlier later => earlier.number ≤ later.number := by
  induction fields with
  | nil => exact List.pairwise_singleton _ _
  | cons head rest inductionHypothesis =>
      obtain ⟨first, sortedRest⟩ := List.pairwise_cons.1 sorted
      rw [insertByNumber]
      split
      next before =>
        refine List.pairwise_cons.2 ⟨?_, sorted⟩
        intro other member
        rcases List.mem_cons.1 member with rfl | later
        · exact Int.le_of_lt before
        · exact Int.le_trans (Int.le_of_lt before) (first other later)
      next notBefore =>
        refine List.pairwise_cons.2 ⟨?_, inductionHypothesis sortedRest⟩
        intro other member
        rcases List.mem_cons.1 ((insertByNumber_perm field rest).mem_iff.1 member) with
          rfl | later
        · exact Int.not_lt.1 notBefore
        · exact first other later

theorem sortByNumber_sorted (fields : List Descriptor.Field) :
    (sortByNumber fields).Pairwise fun earlier later => earlier.number ≤ later.number := by
  induction fields with
  | nil => exact .nil
  | cons field rest inductionHypothesis => exact insertByNumber_sorted inductionHypothesis

/-- Fields with different numbers come one after the other. -/
theorem sortByNumber_ascending {fields : List Descriptor.Field}
    (distinct : (fields.map (·.number)).Nodup) : (sortByNumber fields).Pairwise Ascends := by
  have sortedDistinct : ((sortByNumber fields).map (·.number)).Nodup :=
    ((sortByNumber_perm fields).map (·.number)).nodup_iff.2 distinct
  have apart := List.pairwise_map.1 sortedDistinct
  refine ((sortByNumber_sorted fields).and apart).imp ?_
  rintro earlier later ⟨inOrder, different⟩
  exact lt_of_le_of_ne inOrder different

/-- Two lists of the same fields in the order of the numbers are the same. -/
theorem eq_of_ascending {fields others : List Descriptor.Field} (same : fields.Perm others)
    (ascending : fields.Pairwise Ascends) (othersAscending : others.Pairwise Ascends) :
    fields = others := by
  refine same.eq_of_pairwise ?_ ascending othersAscending
  intro earlier later _ _ before after
  exact absurd before (lt_asymm after)

theorem nodup_numbers {fullName : String} {message : Descriptor.Message}
    (member : file ∈ pool.files) (inFile : (fullName, message) ∈ file.allMessages) :
    (message.fields.map (·.number)).Nodup := by
  have faultless := faults_eq_nil member
  simp only [Descriptor.File.faults, List.append_eq_nil_iff, List.flatMap_eq_nil_iff]
    at faultless
  have messageFaultless := faultless.1.1.1.1.2 _ inFile
  simp only [Descriptor.messageFaults, List.append_eq_nil_iff, violation_eq_nil_iff]
    at messageFaultless
  simpa using messageFaultless.1.1.1.1.1.1

/-! ### Messages -/

theorem messageMirrors_fieldsOf {scope name : String} {declaration : Declaration}
    {message : Descriptor.Message}
    (refers : (pool.viewFrom file).message? scope name = some (declaration, message)) :
    pool.MessageMirrors (pool.viewFrom file) scope name
      (pool.fieldsOf (some (declaration, message))) := by
  obtain ⟨inNames, isMessage⟩ := Viewpoint.mem_of_message? refers
  obtain ⟨declaring, names, declaredBy⟩ := exists_declaredBy inNames (by rw [isMessage]; rfl)
  have declares := declaredBy.declares
  rw [isMessage] at declares
  have inFile : (declaration.fullName, message) ∈ declaring.allMessages :=
    Descriptor.File.mem_declaredNames_message_iff.1
      ((Descriptor.File.mem_declaredNames_iff rfl).2 ⟨names, declares, declaredBy.fullName⟩)
  have view : pool.viewFromPath declaration.path = pool.viewFrom declaring := by
    rw [declaredBy.path, viewFromPath_path declaredBy.member]
  have complete := sortByNumber_perm message.fields
  have ascending := sortByNumber_ascending (nodup_numbers declaredBy.member inFile)
  refine .of refers declaredBy complete ascending ?_ ?_
  · -- the types of the fields are looked up from the file that declares the message
    rw [fieldsOf, fieldsFrom, List.forall₂_map_right_iff, List.forall₂_same, view]
    intro field member
    obtain ⟨type, fieldType⟩ := exists_fieldType refers (complete.mem_iff.1 member)
    rw [view] at fieldType
    rw [fieldType]
    exact fieldMirrors_fieldOf (Viewpoint.hasType_of_fieldType? fieldType)
  · constructor
    · intro same
      rw [← same]
      exact ascending
    · exact eq_of_ascending complete ascending

/-! ### Services and files -/

theorem methodMirrors_methodOf {service : Descriptor.Service} {method : Descriptor.Method}
    (member : file ∈ pool.files) (inFile : service ∈ file.services)
    (inService : method ∈ service.methods) :
    pool.MethodMirrors (pool.viewFrom file) (qualified file.package service.name) method
      (pool.methodOf (pool.viewFrom file) (qualified file.package service.name) method) := by
  obtain ⟨request, requestMessage, sends⟩ :=
    exists_message member inFile inService method.inputType (.inl rfl)
  obtain ⟨response, responseMessage, returns⟩ :=
    exists_message member inFile inService method.outputType (.inr rfl)
  refine ⟨rfl, rfl, ?_, ?_⟩
  · simp only [methodOf, sends]
    exact messageMirrors_fieldsOf sends
  · simp only [methodOf, returns]
    exact messageMirrors_fieldsOf returns

theorem fileMirrors_protoFile (member : file ∈ pool.files) :
    pool.FileMirrors file (pool.protoFile file) where
  path := rfl
  services := by
    rw [protoFile, List.forall₂_map_right_iff, List.forall₂_same]
    intro service inFile
    refine ⟨rfl, ?_⟩
    rw [serviceOf, List.forall₂_map_right_iff, List.forall₂_same]
    exact fun method inService => methodMirrors_methodOf member inFile inService

end Pool

/-! ### Schemas of sets and of requests -/

/-- Files of a schema are read from descriptors: those of a set, or those that a request
carries. -/
inductive ReadFrom (descriptors : List Descriptor.File) (files : List ProtoFile) : Prop where
  | set {bytes : Wire.Bytes} (decoded : Descriptor.readFileSet bytes = .ok descriptors)
      (loads : (schemaOfSet bytes).result = .ok files) : ReadFrom descriptors files
  | request {request : Descriptor.Request} (carried : request.files = descriptors)
      (loads : (schemaOfRequest request).result = .ok files) : ReadFrom descriptors files

/-- Every file of a schema is one of a pool of all the descriptors. -/
theorem ReadFrom.exists_pool {descriptors : List Descriptor.File} {files : List ProtoFile}
    (read : ReadFrom descriptors files) :
    ∃ pool : Pool, pool.files = descriptors ∧
      ∀ file ∈ files, ∃ described ∈ pool.files, pool.protoFile described = file := by
  cases read with
  | set decoded loads =>
      obtain ⟨pool, read, rfl⟩ := exists_pool_of_schemaOfSet loads
      exact ⟨pool, Except.ok.inj (read.symm.trans decoded), fun _ => Pool.mem_schema.1⟩
  | @request request carried loads =>
      obtain ⟨pool, made, found⟩ := exists_pool_of_schemaOfRequest loads
      refine ⟨pool, (Pool.files_of_ofFiles made).trans carried, fun file member => ?_⟩
      exact Pool.mem_schema.1 ((Supplies.schemaOf_eq_iff.1 found).mem_schema member)

/-- Every schema mirrors the descriptors that it is read from.  Services and methods are in
the order of their declaration, and fields in the order of their numbers. -/
theorem schema_mirrors_descriptors {descriptors : List Descriptor.File}
    {files : List ProtoFile} (read : ReadFrom descriptors files) :
    ∃ pool : Pool, pool.files = descriptors ∧
      ∀ file ∈ files, ∃ described ∈ descriptors, pool.FileMirrors described file := by
  obtain ⟨pool, rfl, each⟩ := read.exists_pool
  refine ⟨pool, rfl, fun file member => ?_⟩
  obtain ⟨described, inPool, rfl⟩ := each file member
  exact ⟨described, inPool, Pool.fileMirrors_protoFile inPool⟩

theorem schema_mirrors_descriptors_crossed :
    ReadFrom crossedRequest.files crossedSchema ∧
      ∃ pool : Pool, pool.files = crossedRequest.files ∧
        ∀ file ∈ crossedSchema, ∃ described ∈ crossedRequest.files,
          pool.FileMirrors described file :=
  have read : ReadFrom crossedRequest.files crossedSchema :=
    .set readFileSet_crossedSet schemaOfSet_crossedSet
  ⟨read, schema_mirrors_descriptors read⟩

/-- Fields have the names that a message declares, in the order of their declaration. -/
def Viewpoint.InDeclaredOrder (view : Viewpoint) (scope name : String) (fields : List Field) :
    Prop :=
  (view.message? scope name).map (fun found => found.2.fields.map (propertyName ·.name)) =
    some (fields.map (·.propertyName))

instance (view : Viewpoint) (scope name : String) (fields : List Field) :
    Decidable (view.InDeclaredOrder scope name fields) :=
  inferInstanceAs (Decidable (_ = _))

/-- The pool of the set with the crossed fields. -/
def crossedPool : Pool := ⟨crossedRequest.files, by decide +kernel⟩

/-- Where a message declares its fields against the order of their numbers, they are not in
the order of their declaration. -/
theorem crossed_fields_change_places :
    ReadFrom crossedRequest.files crossedSchema ∧
      ∃ described ∈ crossedRequest.files, ∃ file ∈ crossedSchema, file.path = described.path ∧
        ∃ declared ∈ described.services, ∃ service ∈ file.services,
          service.name = declared.name ∧
          ∃ received ∈ declared.methods, ∃ method ∈ service.methods,
            method.name = received.name ∧
            ¬ (crossedPool.viewFrom described).InDeclaredOrder
              (qualified (qualified described.package declared.name) received.name)
              received.inputType method.inputFields := by
  refine ⟨.set readFileSet_crossedSet schemaOfSet_crossedSet, ?_⟩
  decide +kernel

end RpcTools
