/-
Module: RpcTools.Proofs.EnumNamespaces
Purpose: The namespaces that the parameters of a tool refer to, read off the paths of the files
  that declare their enums, beside those that the module imports.
Main exports: Tool.enumerations, EnumNamespaces, emitted_enum_namespaces
-/
import RpcTools.Proofs.EmittedTools

namespace RpcTools

/-! ### Enums of parameters -/

/-- The enums that a type refers to, each with the namespace that is written before it. -/
def ParameterType.enumerations : ParameterType → List (Option String × String)
  | .enumeration namespaceName name => [(namespaceName, name)]
  | .array element => element.enumerations
  | .optional inner => inner.enumerations
  | .number | .bigInt | .boolean | .string | .bytes => []

/-- The enums that the parameters of a tool refer to, in their order. -/
def Tool.enumerations (tool : Tool) : List (Option String × String) :=
  tool.parameters.flatMap (·.type.enumerations)

/-- The enum whose values a field has, if they are of one. -/
def Field.enumeration? (field : Field) : Option TypeReference :=
  match field.elementType with
  | .enumeration reference => some reference
  | .scalar _ | .message _ => none

/-- The enums of the fields that have to be given, in the order of the request. -/
def Method.requiredEnums (method : Method) : List TypeReference :=
  method.requiredFields.filterMap (·.enumeration?)

/-- How an enum is referred to: in the namespace of the file that declares it. -/
def TypeReference.written (reference : TypeReference) : Option String × String :=
  (namespaceOfPath? reference.file, reference.name)

/-- How a reference stands in the text of a type. -/
def enumText : Option String × String → String
  | (some namespaceName, name) => "Type.Enum(" ++ namespaceName ++ "." ++ name ++ ")"
  | (none, name) => "Type.Enum(" ++ name ++ ")"

/-- The enums that a type refers to stand in its text. -/
theorem ParameterType.infix_text {type : ParameterType} {enumeration : Option String × String}
    (member : enumeration ∈ type.enumerations) :
    (enumText enumeration).toList <:+: type.text.toList := by
  induction type with
  | number => cases member
  | bigInt => cases member
  | boolean => cases member
  | string => cases member
  | bytes => cases member
  | enumeration namespaceName name =>
      obtain rfl := List.mem_singleton.1 member
      cases namespaceName <;> exact List.infix_rfl
  | array element inductionHypothesis =>
      have whole : (array element).text = "Type.Array(" ++ element.text ++ ")" := rfl
      rw [whole, String.toList_append, String.toList_append]
      exact (inductionHypothesis member).trans ⟨_, _, rfl⟩
  | optional inner inductionHypothesis =>
      have whole : (optional inner).text = "Type.Optional(" ++ inner.text ++ ")" := rfl
      rw [whole, String.toList_append, String.toList_append]
      exact (inductionHypothesis member).trans ⟨_, _, rfl⟩

/-- A parameter refers to the enum of its field, whether it holds one value or a list. -/
theorem Field.ParameterAgrees.enumerations_eq {field : Field} {parameter : Parameter}
    (agrees : field.ParameterAgrees parameter) :
    parameter.type.enumerations = field.enumeration?.toList.map TypeReference.written := by
  cases agrees with
  | @of element required noMap typed =>
      have inElement :
          element.enumerations = field.enumeration?.toList.map TypeReference.written := by
        rw [Field.enumeration?]
        generalize field.elementType = elementType at typed
        have computed := ElementType.hasParameterType_iff.1 typed
        cases typed with
        | scalar entry => cases entry <;> rfl
        | enumeration placed =>
            rw [← Except.ok.inj computed]
            rfl
      cases repeated : field.isRepeated with
      | false => simpa [repeated] using inElement
      | true => simpa [repeated, ParameterType.enumerations] using inElement

theorem enumerations_of_agree {fields : List Field} {parameters : List Parameter}
    (agree : List.Forall₂ Field.ParameterAgrees fields parameters) :
    parameters.flatMap (·.type.enumerations) =
      (fields.filterMap (·.enumeration?)).map TypeReference.written := by
  induction agree with
  | nil => rfl
  | @cons field parameter fields parameters here _ inductionHypothesis =>
      rw [List.flatMap_cons, inductionHypothesis, here.enumerations_eq]
      cases enum : field.enumeration? with
      | none => simp [enum]
      | some reference => simp [enum]

/-! ### Imports -/

/-- The line that imports from the client's package: the client, and the namespaces that the
configuration lists. -/
def clientImportPieces (invocation : Invocation) : List String :=
  ["import \x7b ", invocation.clientType,
   String.join (invocation.clientNamespaces.map fun namespaceName => ", " ++ namespaceName),
   " \x7d from \"", invocation.clientPackage, "\";\n"]

theorem exists_preamblePieces (config : Config) :
    ∃ before after,
      preamblePieces config = before ++ clientImportPieces config.invocation ++ after :=
  ⟨(preamblePieces config).take 20, (preamblePieces config).drop 26, rfl⟩

/-! ### Emitted tools -/

/-- The enums that a tool refers to, and what the module imports for them. -/
structure EnumNamespaces (pool : Pool) (invocation : Invocation) (method : Method)
    (tool : Tool) (generated : GeneratedModule) : Prop where
  /-- The tool refers to the enums of the fields that have to be given, single or in a list,
  in the order of the request. -/
  written : tool.enumerations = method.requiredEnums.map TypeReference.written
  spelled : ∀ parameter ∈ tool.parameters, ∀ enumeration ∈ parameter.type.enumerations,
    (enumText enumeration).toList <:+: parameter.type.text.toList
  /-- Each is declared in a file of the descriptors. -/
  declared : ∀ reference ∈ method.requiredEnums, ∃ declaration enumeration,
    declaration.declared = .enumeration enumeration ∧ pool.RefersTo declaration reference
  /-- A namespace is the third segment from the end of that file's path. -/
  located : ∀ reference ∈ method.requiredEnums, ∀ namespaceName,
    reference.written.1 = some namespaceName ↔ ThirdFromEnd reference.file namespaceName
  /-- The module imports the configured namespaces. -/
  imported :
    (String.join (clientImportPieces invocation)).toList <:+: generated.content.toList
  /-- Every enum is in a namespace that is imported, exactly if every path is such that the
  configuration lists its third segment from the end. -/
  closed_iff :
    (∀ enumeration ∈ tool.enumerations, ∃ namespaceName ∈ invocation.clientNamespaces,
      enumeration.1 = some namespaceName) ↔
    ∀ reference ∈ method.requiredEnums, ∃ namespaceName ∈ invocation.clientNamespaces,
      ThirdFromEnd reference.file namespaceName

section Emitted

variable {descriptors : List Descriptor.File} {files : List ProtoFile} {generator : Generator}
  {service : Service} {method : Method} {tool : Tool} {generated : GeneratedModule}

theorem Generator.Emits.enumerations_eq
    (emits : generator.Emits files service method tool generated) :
    tool.enumerations = method.requiredEnums.map TypeReference.written := by
  obtain ⟨parameters, listed, agree⟩ := emits.exists_parameters
  rw [Tool.enumerations, listed, List.flatMap_cons, enumerations_of_agree agree]
  rfl

theorem Generator.Emits.infix_clientImport
    (emits : generator.Emits files service method tool generated) :
    (String.join (clientImportPieces generator.config.invocation)).toList <:+:
      generated.content.toList := by
  obtain ⟨tools, content, _⟩ := emits.exists_content
  obtain ⟨before, after, pieces⟩ := exists_preamblePieces generator.config
  rw [content, pieces, String.join_append, String.join_append]
  simp only [String.toList_append, List.append_assoc]
  exact ⟨_, _, List.append_assoc _ _ _⟩

/-- The enum of a field is declared where the field's descriptor refers to. -/
theorem Pool.Receives.exists_declared {pool : Pool} {message : Descriptor.Message}
    (receives : pool.Receives service method message) {reference : TypeReference}
    (member : reference ∈ method.requiredEnums) :
    ∃ declaration enumeration, declaration.declared = .enumeration enumeration ∧
      pool.RefersTo declaration reference := by
  obtain ⟨field, required, isEnum⟩ := List.mem_filterMap.1 member
  have inRequest := List.mem_of_mem_filter required
  obtain ⟨_, _, _, described, _, mirror⟩ := receives.exists_mirrored inRequest
  have type := mirror.type
  rw [Field.enumeration?] at isEnum
  generalize field.elementType = elementType at type isEnum
  cases type with
  | scalar => cases isEnum
  | message => cases isEnum
  | @enumeration declaration enumeration _ typed refers =>
      cases isEnum
      cases typed with
      | enumeration named found declared => exact ⟨declaration, enumeration, declared, refers⟩

/-- What the parameters of a tool refer to is decided by the paths of the files that declare
the enums, and what is imported for them by the configuration. -/
theorem emitted_enum_namespaces (read : ReadFrom descriptors files)
    (emits : generator.Emits files service method tool generated) :
    ∃ pool : Pool, pool.files = descriptors ∧
      EnumNamespaces pool generator.config.invocation method tool generated := by
  obtain ⟨pool, message, whole, receives⟩ := emits.exists_receives read
  refine ⟨pool, whole, emits.enumerations_eq, fun _ _ _ => ParameterType.infix_text,
    fun _ => receives.exists_declared, ?_, emits.infix_clientImport, ?_⟩
  · intro reference _ namespaceName
    exact namespaceOfPath?_eq_some_iff
  · rw [emits.enumerations_eq, List.forall_mem_map]
    simp only [TypeReference.written, namespaceOfPath?_eq_some_iff]

/-- An enum with one value. -/
def bareEnumeration (name value : String) : Descriptor.Enumeration where
  name
  values := [⟨value, 0, .empty⟩]
  reservedRanges := []
  options := .empty

/-- One value of a named enum. -/
def enumField (name : String) (number : Int) (typeName : String) : Descriptor.Field :=
  { Environment.bareField name with number, typeCode := some 14, typeName }

/-- The descriptors of a message with two enums: one of a file without directories, and one
of the command file. -/
def placedFiles : List Descriptor.File :=
  (askedRequest
    [{ Environment.bareFile "lib" "q" [] [] [] with
        enumerations := [bareEnumeration "Kind" "NONE"] }]
    [bareEnumeration "Level" "LOW"]
    [enumField "kind" 1 ".q.Kind", enumField "level" 2 ".p.Level"]).files

def placedFields : List Field :=
  [.single "kind" (.enumeration ⟨"Kind", "lib"⟩),
   .single "level" (.enumeration ⟨"Level", "/services/v1/command"⟩)]

/-- The tool for these fields. -/
def placedTool : Tool :=
  askedTool placedFields
    [⟨"kind", .enumeration none "Kind"⟩, ⟨"level", .enumeration (some "services") "Level"⟩]

theorem readFrom_placed : ReadFrom placedFiles [askedFile placedFields] :=
  .request rfl (by decide +kernel)

theorem emits_placed :
    smallGenerator.Emits [askedFile placedFields] (askedService placedFields)
      (askedMethod placedFields) placedTool
      (smallGenerator.madeOf (some (askedFile placedFields))) :=
  emits_asked (by decide)

theorem emitted_enum_namespaces_placed :
    ReadFrom placedFiles [askedFile placedFields] ∧
      smallGenerator.Emits [askedFile placedFields] (askedService placedFields)
        (askedMethod placedFields) placedTool
        (smallGenerator.madeOf (some (askedFile placedFields))) ∧
      ∃ pool : Pool, pool.files = placedFiles ∧
        EnumNamespaces pool smallGenerator.config.invocation (askedMethod placedFields)
          placedTool (smallGenerator.madeOf (some (askedFile placedFields))) :=
  ⟨readFrom_placed, emits_placed, emitted_enum_namespaces readFrom_placed emits_placed⟩

/-- One enum is in no namespace, and the other in one that is not imported. -/
theorem placed_enums_not_imported :
    ReadFrom placedFiles [askedFile placedFields] ∧
      smallGenerator.Emits [askedFile placedFields] (askedService placedFields)
        (askedMethod placedFields) placedTool
        (smallGenerator.madeOf (some (askedFile placedFields))) ∧
      placedTool.enumerations = [(none, "Kind"), (some "services", "Level")] ∧
      "services" ∉ smallGenerator.config.invocation.clientNamespaces :=
  ⟨readFrom_placed, emits_placed, by decide, by decide⟩

end Emitted

end RpcTools
