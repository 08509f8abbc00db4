/-
Module: RpcTools.Proofs.DescriptorTools
Purpose: Which methods become tools, read off the descriptors of their requests and
  responses.
Main exports: Viewpoint.HasType, Viewpoint.PlainTyped, Viewpoint.IsMap, Pool.MakesTool,
  Pool.makesTool_iff, generate_emits_iff
-/
import Mathlib.Data.List.Perm.Basic
import RpcTools.Proofs.GenerationRun
import RpcTools.Proofs.MethodOutcome
import RpcTools.Proofs.PoolResolution
import RpcTools.Schema.Reading

namespace RpcTools

open Descriptor (qualified)

/-! ### The types of fields -/

/-- The codes of groups, messages and enums. -/
def declaredCodes : List Int := [10, 11, 14]

/-- The type that a field is written down with.  Where no type is named the code tells
which scalar it is, and it is not one of the codes of declared types; a code that is left
out or unknown means `double`.  A named type is a message, which groups are as well, or
an enum. -/
inductive Viewpoint.HasType (view : Viewpoint) (fullName : String)
    (field : Descriptor.Field) : ResolvedType → Prop where
  | scalar {scalarType : ScalarType} (unnamed : field.typeName = "")
      (coded : field.typeCode = some scalarType.code) :
      HasType view fullName field (.scalar scalarType)
  | uncoded (unnamed : field.typeName = "")
      (noScalar : ∀ scalarType : ScalarType, field.typeCode ≠ some scalarType.code)
      (noDeclared : ∀ code ∈ declaredCodes, field.typeCode ≠ some code) :
      HasType view fullName field (.scalar .double)
  | message {declaration : Declaration} {message : Descriptor.Message}
      (named : field.typeName ≠ "")
      (refers : view.resolve? Declared.isType fullName field.typeName = some declaration)
      (declared : declaration.declared = .message message) :
      HasType view fullName field (.message declaration message)
  | enumeration {declaration : Declaration} {enumeration : Descriptor.Enumeration}
      (named : field.typeName ≠ "")
      (refers : view.resolve? Declared.isType fullName field.typeName = some declaration)
      (declared : declaration.declared = .enumeration enumeration) :
      HasType view fullName field (.enumeration declaration enumeration)

/-- The values of a field are scalars or values of an enum. -/
inductive Viewpoint.PlainTyped (view : Viewpoint) (fullName : String)
    (field : Descriptor.Field) : Prop where
  | scalar {scalarType : ScalarType} (typed : view.HasType fullName field (.scalar scalarType))
  | enumeration {declaration : Declaration} {enumeration : Descriptor.Enumeration}
      (typed : view.HasType fullName field (.enumeration declaration enumeration))

/-- A field is a map: it is repeated, and its values are of a message that says it is the
entry of a map. -/
inductive Viewpoint.IsMap (view : Viewpoint) (fullName : String)
    (field : Descriptor.Field) : Prop where
  | of {declaration : Declaration} {entry : Descriptor.Message}
      (repeated : field.label = .repeated)
      (typed : view.HasType fullName field (.message declaration entry))
      (isEntry : entry.options.flagWithin .message "map_entry" = true)

/-! ### The two sides of a field's type -/

theorem ScalarType.code_of_ofCode? {code : Int} {scalarType : ScalarType}
    (known : ofCode? code = some scalarType) : scalarType.code = code := by
  simpa using List.find?_some known

theorem ScalarType.ofCode?_eq_none {code : Int}
    (unknown : ∀ scalarType : ScalarType, code ≠ scalarType.code) : ofCode? code = none := by
  cases known : ofCode? code with
  | none => rfl
  | some scalarType => exact absurd (code_of_ofCode? known).symm (unknown scalarType)

namespace Viewpoint

variable {view : Viewpoint} {fullName : String} {field : Descriptor.Field}
  {type : ResolvedType}

theorem HasType.fieldType?_eq (hasType : view.HasType fullName field type) :
    view.fieldType? fullName field = some type := by
  cases hasType with
  | @scalar scalarType unnamed coded =>
      rw [fieldType?, unnamed, coded]
      cases scalarType <;> rfl
  | uncoded unnamed noScalar noDeclared =>
      rw [fieldType?, unnamed]
      cases coded : field.typeCode with
      | none => rfl
      | some code =>
          simp only [coded, ne_eq, Option.some.injEq] at noScalar noDeclared
          have unknown := ScalarType.ofCode?_eq_none noScalar
          have noGroup : code ≠ 10 := noDeclared 10 (by decide)
          have noMessage : code ≠ 11 := noDeclared 11 (by decide)
          have noEnumeration : code ≠ 14 := noDeclared 14 (by decide)
          simp [unknown]
  | message named refers declared =>
      simp [fieldType?, named, refers, declared]
  | enumeration named refers declared =>
      simp [fieldType?, named, refers, declared]

/-- Where no type is named, every code but those of declared types is that of a scalar. -/
theorem hasType_of_code {code : Int} (unnamed : field.typeName = "")
    (coded : field.typeCode = some code) (noDeclared : code ∉ declaredCodes) :
    view.HasType fullName field (.scalar ((ScalarType.ofCode? code).getD .double)) := by
  cases known : ScalarType.ofCode? code with
  | some scalarType =>
      rw [← ScalarType.code_of_ofCode? known] at coded
      exact .scalar unnamed coded
  | none =>
      refine .uncoded unnamed ?_ ?_
      · intro scalarType same
        rw [coded, Option.some.injEq] at same
        rw [same, ScalarType.ofCode?_code] at known
        cases known
      · intro other member same
        rw [coded, Option.some.injEq] at same
        exact noDeclared (same ▸ member)

theorem hasType_of_fieldType? (typed : view.fieldType? fullName field = some type) :
    view.HasType fullName field type := by
  rw [fieldType?] at typed
  split at typed
  · next unnamed =>
      have unnamed : field.typeName = "" := by simpa using unnamed
      split at typed
      · cases typed
      · cases typed
      · cases typed
      · next code noGroup noMessage noEnumeration coded =>
          cases typed
          refine hasType_of_code unnamed coded ?_
          simp only [declaredCodes, List.mem_cons, List.not_mem_nil, or_false]
          rintro (isGroup | isMessage | isEnumeration)
          · exact noGroup isGroup
          · exact noMessage isMessage
          · exact noEnumeration isEnumeration
      · next coded =>
          cases typed
          exact .uncoded unnamed (by simp [coded]) (by simp [coded])
  · next named =>
      have named : field.typeName ≠ "" := by simpa using named
      split at typed
      · cases typed
      · next declaration refers =>
          split at typed
          · next message declared =>
              cases typed
              exact .message named refers declared
          · next enumeration declared =>
              cases typed
              exact .enumeration named refers declared
          · cases typed

theorem HasType.unique {other : ResolvedType} (hasType : view.HasType fullName field type)
    (hasOther : view.HasType fullName field other) : type = other :=
  Option.some.inj (hasType.fieldType?_eq.symm.trans hasOther.fieldType?_eq)

end Viewpoint

/-! ### The fields that descriptors describe -/

theorem Field.shape_eq_list_iff (field : Field) :
    field.shape = .list ↔ field.isMap = false ∧ field.isRepeated = true := by
  obtain ⟨propertyName, elementType, isOptional, isRepeated, isMap⟩ := field
  cases isMap <;> cases isRepeated <;> cases elementType <;> simp [Field.shape]

namespace Viewpoint

variable {view : Viewpoint} {fullName : String} {field : Descriptor.Field}
  {type : ResolvedType}

theorem plainTyped_iff (hasType : view.HasType fullName field type) :
    view.PlainTyped fullName field ↔
      (Pool.elementType (some type)).isMessage = false := by
  constructor
  · rintro (typed | typed)
    · rw [hasType.unique typed]
      rfl
    · rw [hasType.unique typed]
      rfl
  · intro noMessage
    cases type with
    | scalar scalarType => exact .scalar hasType
    | message declaration message => cases noMessage
    | enumeration declaration enumeration => exact .enumeration hasType

theorem isMap_iff (hasType : view.HasType fullName field type) :
    view.IsMap fullName field ↔ (Pool.fieldOf field (some type)).isMap = true := by
  rw [Pool.fieldOf, Bool.and_eq_true, decide_eq_true_eq]
  constructor
  · rintro ⟨repeated, typed, isEntry⟩
    rw [hasType.unique typed]
    exact ⟨repeated, isEntry⟩
  · rintro ⟨repeated, isEntry⟩
    cases type with
    | scalar scalarType => cases isEntry
    | message declaration message => exact .of repeated hasType isEntry
    | enumeration declaration enumeration => cases isEntry

/-- Only a message can be the entry of a map, so a field that is a map has the element
type of a message as well. -/
theorem obstructs_fieldOf_iff (hasType : view.HasType fullName field type) :
    (∃ reason, (Pool.fieldOf field (some type)).Obstructs reason) ↔
      ¬ view.PlainTyped fullName field := by
  rw [Field.obstructs_iff, plainTyped_iff hasType]
  cases type with
  | scalar scalarType =>
      simp [Pool.fieldOf, Pool.isMapEntry, Pool.elementType, ElementType.isMessage]
  | message declaration message =>
      simp [Pool.fieldOf, Pool.elementType, ElementType.isMessage]
  | enumeration declaration enumeration =>
      simp [Pool.fieldOf, Pool.isMapEntry, Pool.elementType, ElementType.isMessage]

/-- A field is a list if it is repeated and no map. -/
theorem shape_fieldOf_eq_list_iff (hasType : view.HasType fullName field type) :
    (Pool.fieldOf field (some type)).shape = .list ↔
      field.label = .repeated ∧ ¬ view.IsMap fullName field := by
  rw [isMap_iff hasType, Field.shape_eq_list_iff]
  cases entry : Pool.isMapEntry (some type) <;> simp [Pool.fieldOf, entry]

end Viewpoint

/-! ### The fields of messages -/

namespace Pool

theorem insertByNumber_perm (field : Descriptor.Field) (fields : List Descriptor.Field) :
    (insertByNumber field fields).Perm (field :: fields) := by
  induction fields with
  | nil => exact .refl _
  | cons head rest inductionHypothesis =>
      rw [insertByNumber]
      split
      · exact .refl _
      · exact (inductionHypothesis.cons head).trans (.swap field head rest)

/-- Putting fields in the order of their numbers neither loses nor repeats any. -/
theorem sortByNumber_perm (fields : List Descriptor.Field) :
    (sortByNumber fields).Perm fields := by
  induction fields with
  | nil => exact .refl _
  | cons field rest inductionHypothesis =>
      exact (insertByNumber_perm field _).trans (inductionHypothesis.cons field)

variable {pool : Pool} {declaration : Declaration} {message : Descriptor.Message}

theorem mem_fieldsOf {field : Field} :
    field ∈ pool.fieldsOf (some (declaration, message)) ↔
      ∃ described ∈ message.fields,
        fieldOf described
          ((pool.viewFromPath declaration.path).fieldType?
            (qualified declaration.fullName described.name) described) = field := by
  simp [fieldsOf, fieldsFrom, (sortByNumber_perm message.fields).mem_iff]

theorem fieldsOf_eq_singleton {field : Field} :
    pool.fieldsOf (some (declaration, message)) = [field] ↔
      ∃ described, message.fields = [described] ∧
        fieldOf described
          ((pool.viewFromPath declaration.path).fieldType?
            (qualified declaration.fullName described.name) described) = field := by
  simp only [fieldsOf, fieldsFrom, List.map_eq_singleton_iff]
  constructor
  · rintro ⟨described, sorted, same⟩
    have only := (sortByNumber_perm message.fields).symm
    rw [sorted, List.perm_singleton] at only
    exact ⟨described, only, same⟩
  · rintro ⟨described, only, same⟩
    rw [only]
    exact ⟨described, rfl, same⟩

section Typed

variable
  (typed : ∀ field ∈ message.fields,
    ∃ type, (pool.viewFromPath declaration.path).fieldType?
      (qualified declaration.fullName field.name) field = some type)

include typed

/-- No field that has to be given stands in the way of a tool exactly if all of them are of
plain types. -/
theorem unobstructed_fieldsOf_iff :
    (∀ field ∈ pool.fieldsOf (some (declaration, message)), field.isOptional = false →
        ∀ reason, ¬ field.Obstructs reason) ↔
      ∀ field ∈ message.fields, field.proto3Optional = false →
        (pool.viewFromPath declaration.path).PlainTyped
          (qualified declaration.fullName field.name) field := by
  constructor
  · intro unobstructed field member required
    obtain ⟨type, fieldType⟩ := typed field member
    have hasType := Viewpoint.hasType_of_fieldType? fieldType
    by_contra notPlain
    obtain ⟨reason, obstructs⟩ := (Viewpoint.obstructs_fieldOf_iff hasType).2 notPlain
    refine unobstructed _ (mem_fieldsOf.2 ⟨field, member, rfl⟩) required reason ?_
    rw [fieldType]
    exact obstructs
  · intro plain field member required reason obstructs
    obtain ⟨described, inMessage, rfl⟩ := mem_fieldsOf.1 member
    obtain ⟨type, fieldType⟩ := typed described inMessage
    have hasType := Viewpoint.hasType_of_fieldType? fieldType
    rw [fieldType] at obstructs
    exact (Viewpoint.obstructs_fieldOf_iff hasType).1 ⟨reason, obstructs⟩
      (plain described inMessage required)

/-- A response is one list and nothing else exactly if its only field is repeated and no
map. -/
theorem singleList_fieldsOf_iff :
    (∃ only, pool.fieldsOf (some (declaration, message)) = [only] ∧ only.shape = .list) ↔
      ∃ only, message.fields = [only] ∧ only.label = .repeated ∧
        ¬ (pool.viewFromPath declaration.path).IsMap
          (qualified declaration.fullName only.name) only := by
  constructor
  · rintro ⟨field, single, list⟩
    obtain ⟨only, fields, rfl⟩ := fieldsOf_eq_singleton.1 single
    obtain ⟨type, fieldType⟩ := typed only (by simp [fields])
    rw [fieldType] at list
    exact ⟨only, fields,
      (Viewpoint.shape_fieldOf_eq_list_iff (Viewpoint.hasType_of_fieldType? fieldType)).1 list⟩
  · rintro ⟨only, fields, list⟩
    obtain ⟨type, fieldType⟩ := typed only (by simp [fields])
    refine ⟨_, fieldsOf_eq_singleton.2 ⟨only, fields, rfl⟩, ?_⟩
    rw [fieldType]
    exact (Viewpoint.shape_fieldOf_eq_list_iff
      (Viewpoint.hasType_of_fieldType? fieldType)).2 list

end Typed

end Pool

/-! ### Methods -/

/-- A method is to become a tool, by its descriptors: every field of the request without
the `optional` marker is of a plain type, and either nothing streams, or only the
responses do and hold one list and nothing else. -/
inductive Pool.MakesTool (pool : Pool) (file : Descriptor.File)
    (service : Descriptor.Service) (method : Descriptor.Method) : Prop where
  | of {request response : Declaration} {requestMessage responseMessage : Descriptor.Message}
      (sends : (pool.viewFrom file).message?
        (qualified (qualified file.package service.name) method.name) method.inputType =
          some (request, requestMessage))
      (returns : (pool.viewFrom file).message?
        (qualified (qualified file.package service.name) method.name) method.outputType =
          some (response, responseMessage))
      (plain : ∀ field ∈ requestMessage.fields, field.proto3Optional = false →
        (pool.viewFromPath request.path).PlainTyped
          (qualified request.fullName field.name) field)
      (invocable :
        (method.clientStreaming = false ∧ method.serverStreaming = false) ∨
          (method.clientStreaming = false ∧ method.serverStreaming = true ∧
            ∃ only, responseMessage.fields = [only] ∧ only.label = .repeated ∧
              ¬ (pool.viewFromPath response.path).IsMap
                (qualified response.fullName only.name) only)) :
      pool.MakesTool file service method

/-- There is an invocation exactly if nothing streams, or only the responses do and hold
one list and nothing else. -/
theorem Method.not_lacksInvocation_iff {method : Method} {client server : Bool}
    (convention : method.convention = .ofStreaming client server) :
    ¬ method.LacksInvocation ↔
      (client = false ∧ server = false) ∨
        (client = false ∧ server = true ∧
          ∃ only, method.outputFields = [only] ∧ only.shape = .list) := by
  cases client with
  | true =>
      have lacking : method.LacksInvocation := by
        cases server with
        | true => exact .bidi convention
        | false => exact .client convention
      simp [lacking]
  | false =>
      cases server with
      | false =>
          refine iff_of_true ?_ (.inl ⟨rfl, rfl⟩)
          rintro (streaming | streaming | ⟨streaming, _⟩) <;>
            cases convention.symm.trans streaming
      | true =>
          simp only [true_and, reduceCtorEq, false_or]
          constructor
          · intro invocable
            by_contra noList
            exact invocable (.server convention noList)
          · rintro list (streaming | streaming | ⟨_, noList⟩)
            · cases convention.symm.trans streaming
            · cases convention.symm.trans streaming
            · exact noList list

namespace Pool

variable {pool : Pool} {file : Descriptor.File} {service : Descriptor.Service}
  {method : Descriptor.Method}

/-- The schema's method has a tool exactly if the descriptors say so. -/
theorem makesTool_iff (member : file ∈ pool.files) (inFile : service ∈ file.services)
    (inService : method ∈ service.methods) :
    let described :=
      pool.methodOf (pool.viewFrom file) (qualified file.package service.name) method
    described.Unobstructed ∧ ¬ described.LacksInvocation ↔
      pool.MakesTool file service method := by
  obtain ⟨request, requestMessage, sends⟩ :=
    exists_message member inFile inService method.inputType (.inl rfl)
  obtain ⟨response, responseMessage, returns⟩ :=
    exists_message member inFile inService method.outputType (.inr rfl)
  intro described
  have inputFields : described.inputFields =
      pool.fieldsOf (some (request, requestMessage)) := by
    rw [← sends]
    rfl
  have outputFields : described.outputFields =
      pool.fieldsOf (some (response, responseMessage)) := by
    rw [← returns]
    rfl
  rw [Method.Unobstructed, inputFields, Method.not_lacksInvocation_iff rfl, outputFields,
    unobstructed_fieldsOf_iff fun _ => exists_fieldType sends,
    singleList_fieldsOf_iff fun _ => exists_fieldType returns]
  constructor
  · rintro ⟨plain, invocable⟩
    exact .of sends returns plain invocable
  · rintro ⟨alsoSends, alsoReturns, plain, invocable⟩
    rw [sends] at alsoSends
    rw [returns] at alsoReturns
    cases alsoSends
    cases alsoReturns
    exact ⟨plain, invocable⟩

end Pool

/-! ### From descriptor sets to tools -/

/-- A schema is read only from a consistent set of files, and describes all of them. -/
theorem exists_pool_of_schemaOfSet {bytes : Wire.Bytes} {files : List ProtoFile}
    (loads : (schemaOfSet bytes).result = .ok files) :
    ∃ pool : Pool, Descriptor.readFileSet bytes = .ok pool.files ∧ files = pool.schema := by
  obtain ⟨descriptors, read, fromFiles⟩ := Logged.exists_of_bind_eq_ok loads
  obtain ⟨pool, made, announces⟩ := Logged.exists_of_bind_eq_ok fromFiles
  have descriptorsRead : Descriptor.readFileSet bytes = .ok descriptors :=
    congrArg Logged.result read
  have poolMade : Pool.ofFiles descriptors = .ok pool := congrArg Logged.result made
  exact ⟨pool, by rw [descriptorsRead, Pool.files_of_ofFiles poolMade],
    (Except.ok.inj announces).symm⟩

/-- The command file is one of the files. -/
theorem Generator.mem_of_commandFileOf {generator : Generator} {files : List ProtoFile}
    {commandFile : ProtoFile}
    (selected : (generator.commandFileOf files).result = .ok (some commandFile)) :
    commandFile ∈ files := by
  rw [commandFileOf] at selected
  split at selected
  · split at selected
    · next found =>
        cases selected
        exact List.mem_of_find?_eq_some found
    · cases selected
  · split at selected
    · cases selected
    · next single =>
        cases selected
        exact List.mem_of_mem_filter (single ▸ List.mem_singleton_self _)
    · cases selected

/-- A trace belongs to a method that descriptors declare, and its method became a tool
exactly if they say so. -/
structure MethodTrace.DecidedBy (pool : Pool) (file : Descriptor.File)
    (service : Descriptor.Service) (method : Descriptor.Method) (trace : MethodTrace) :
    Prop where
  ofService : trace.line.service = service.name
  ofMethod : trace.line.method = method.name
  reported : trace.line.isEmitted = true ↔ pool.MakesTool file service method
  appended : (∃ tool, trace.tool = some tool) ↔ pool.MakesTool file service method

/-- A trace belongs to a service that descriptors declare. -/
structure ServiceTrace.DecidedBy (pool : Pool) (file : Descriptor.File)
    (service : Descriptor.Service) (trace : ServiceTrace) : Prop where
  name : trace.name = service.name
  methods : List.Forall₂ (MethodTrace.DecidedBy pool file service) service.methods
    trace.methods

theorem methodTrace_decidedBy (invocation : Invocation) {pool : Pool}
    {file : Descriptor.File} {service : Descriptor.Service} {method : Descriptor.Method}
    (member : file ∈ pool.files) (inFile : service ∈ file.services)
    (inService : method ∈ service.methods) :
    MethodTrace.DecidedBy pool file service method
      (methodTrace invocation service.name
        (pool.methodOf (pool.viewFrom file) (qualified file.package service.name) method)) := by
  have decides :
      (∃ tool, plainOutcome invocation service.name
        (pool.methodOf (pool.viewFrom file) (qualified file.package service.name) method) =
          .tool tool) ↔ pool.MakesTool file service method :=
    plainOutcome_eq_tool_iff.trans (Pool.makesTool_iff member inFile inService)
  cases outcome : plainOutcome invocation service.name
      (pool.methodOf (pool.viewFrom file) (qualified file.package service.name) method) with
  | tool tool =>
      have makes := decides.1 ⟨tool, outcome⟩
      simp only [methodTrace, outcome]
      exact ⟨rfl, rfl, iff_of_true rfl makes, iff_of_true ⟨tool, rfl⟩ makes⟩
  | skipped reason =>
      have makesNone : ¬ pool.MakesTool file service method := by
        intro makes
        obtain ⟨tool, same⟩ := decides.2 makes
        rw [outcome] at same
        cases same
      simp only [methodTrace, outcome]
      exact ⟨rfl, rfl, iff_of_false Bool.false_ne_true makesNone,
        iff_of_false (by simp) makesNone⟩

/-- Whatever set of descriptors the schema was read from, in the report and in the module
of a run a method of the command file became a tool exactly if its descriptors say so. -/
theorem generate_emits_iff {bytes : Wire.Bytes} {files : List ProtoFile}
    {generator : Generator} {generated : GeneratedModule} {path : String}
    (loads : (schemaOfSet bytes).result = .ok files)
    (generates : (generator.generate files).result = .ok (some generated))
    (selected : generated.report.commandFile = some path) :
    ∃ (pool : Pool) (file : Descriptor.File) (sections : List ServiceTrace),
      Descriptor.readFileSet bytes = .ok pool.files ∧ file ∈ pool.files ∧ file.path = path ∧
        generated.report.methods = (sections.flatMap (·.methods)).map (·.line) ∧
        generated.content = plainModule generator.config (sections.map (·.group)) ∧
        List.Forall₂ (ServiceTrace.DecidedBy pool file) file.services sections := by
  obtain ⟨pool, read, rfl⟩ := exists_pool_of_schemaOfSet loads
  obtain ⟨commandFile, opening, selects, rfl, _⟩ := Generator.exists_commandFile generates
  cases commandFile with
  | none => cases selected
  | some commandFile =>
      cases selected
      have inSchema := Generator.mem_of_commandFileOf (congrArg Logged.result selects)
      obtain ⟨file, member, rfl⟩ := List.mem_map.1 inSchema
      refine ⟨pool, file, generator.sectionsOf (some (pool.protoFile file)), read, member,
        rfl, rfl, rfl, ?_⟩
      simp only [Generator.sectionsOf, Generator.servicesOf, Option.map_some,
        Option.getD_some, Pool.protoFile, List.map_map, List.forall₂_map_right_iff,
        List.forall₂_same]
      intro service inFile
      refine ⟨rfl, ?_⟩
      simp only [Function.comp_apply, serviceTrace, Pool.serviceOf,
        List.map_map, List.forall₂_map_right_iff, List.forall₂_same]
      exact fun method inService =>
        methodTrace_decidedBy generator.config.invocation member inFile inService

/-- A file with one message, which has a scalar and an optional message as its fields, and
with two methods, of which one streams requests. -/
def smallSet : Wire.Bytes :=
  [10, 93, 10, 20, 47, 115, 101, 114, 118, 105, 99, 101, 115, 47, 118, 49, 47, 99, 111, 109,
   109, 97, 110, 100, 34, 32, 10, 1, 77, 18, 9, 10, 1, 97, 24, 1, 32, 1, 40, 9, 18, 16, 10, 1,
   109, 24, 2, 32, 1, 40, 11, 50, 2, 46, 77, 136, 1, 1, 50, 35, 10, 1, 83, 18, 13, 10, 3, 71,
   101, 116, 18, 2, 46, 77, 26, 2, 46, 77, 18, 15, 10, 3, 80, 117, 116, 18, 2, 46, 77, 26, 2,
   46, 77, 40, 1]

/-- The fields of its message. -/
def smallFields : List Field :=
  [.single "a" (.scalar .string),
   (Field.single "m" (.message ⟨"M", "/services/v1/command"⟩)).optional]

/-- The file that it describes. -/
def smallFile : ProtoFile where
  path := "/services/v1/command"
  services :=
    [{ name := "S"
       methods :=
        [⟨"Get", .unary, smallFields, smallFields⟩,
         ⟨"Put", .clientStreaming, smallFields, smallFields⟩] }]

def smallGenerator : Generator := ⟨Config.default, Config.default_faults⟩

theorem generate_emits_iff_small :
    (schemaOfSet smallSet).result = .ok [smallFile] ∧
      (smallGenerator.generate [smallFile]).result =
        .ok (some (smallGenerator.madeOf (some smallFile))) ∧
      (smallGenerator.madeOf (some smallFile)).report.commandFile = some smallFile.path ∧
      ∃ (pool : Pool) (file : Descriptor.File) (sections : List ServiceTrace),
        Descriptor.readFileSet smallSet = .ok pool.files ∧ file ∈ pool.files ∧
          file.path = smallFile.path ∧
          (smallGenerator.madeOf (some smallFile)).report.methods =
            (sections.flatMap (·.methods)).map (·.line) ∧
          (smallGenerator.madeOf (some smallFile)).content =
            plainModule smallGenerator.config (sections.map (·.group)) ∧
          List.Forall₂ (ServiceTrace.DecidedBy pool file) file.services sections := by
  have loads : (schemaOfSet smallSet).result = .ok [smallFile] := by decide +kernel
  have services : [smallFile].any smallGenerator.hasServices = true := by decide +kernel
  have generates :=
    congrArg Logged.result (Generator.generate_of_commandFile services rfl)
  exact ⟨loads, generates, rfl, generate_emits_iff loads generates rfl⟩

/-- Only the method that does not stream becomes a tool. -/
example : (smallGenerator.madeOf (some smallFile)).report.emitted = ["get"] := by
  decide +kernel

end RpcTools
