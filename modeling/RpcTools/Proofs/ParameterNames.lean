/-
Module: RpcTools.Proofs.ParameterNames
Purpose: The names of a tool's parameters: which fields come under the name of the account,
  and what is left of the account's type then.
Main exports: typeUnder?, ParameterNames, emitted_parameter_names
-/
import RpcTools.Proofs.EmittedTools
import RpcTools.Proofs.FieldSpelling

namespace RpcTools

/-! ### Objects with entries -/

/-- The type that an object has under a name.  A later entry takes the place of an earlier
one. -/
def typeUnder? (name : String) : List Parameter → Option ParameterType
  | [] => none
  | parameter :: rest =>
      match typeUnder? name rest with
      | some type => some type
      | none => if parameter.name = name then some parameter.type else none

section Entries

variable {name : String} {parameter : Parameter} {parameters : List Parameter}

theorem typeUnder?_of_not_mem (absent : name ∉ parameters.map (·.name)) :
    typeUnder? name parameters = none := by
  induction parameters with
  | nil => rfl
  | cons head rest inductionHypothesis =>
      rw [List.map_cons, List.mem_cons, not_or] at absent
      rw [typeUnder?, inductionHypothesis absent.2, if_neg (Ne.symm absent.1)]

/-- Where no other entry has its name, an entry is there to stay. -/
theorem typeUnder?_of_mem (distinct : (parameters.map (·.name)).Nodup)
    (member : parameter ∈ parameters) :
    typeUnder? parameter.name parameters = some parameter.type := by
  induction parameters with
  | nil => cases member
  | cons head rest inductionHypothesis =>
      obtain ⟨apart, distinctRest⟩ := List.nodup_cons.1 distinct
      rcases List.mem_cons.1 member with rfl | later
      · rw [typeUnder?, typeUnder?_of_not_mem apart, if_pos rfl]
      · rw [typeUnder?, inductionHypothesis distinctRest later]

end Entries

/-! ### Parameters and fields -/

/-- A parameter has the name of its field. -/
theorem Field.ParameterAgrees.name_eq {field : Field} {parameter : Parameter}
    (agrees : field.ParameterAgrees parameter) : parameter.name = field.propertyName := by
  cases agrees with
  | of => rfl

theorem ElementType.HasParameterType.eq_string_iff {elementType : ElementType}
    {type : ParameterType} (typed : elementType.HasParameterType type) :
    type = .string ↔ elementType = .scalar .string := by
  cases typed with
  | @scalar scalarType type text entry =>
      rw [← entry.ofScalar_eq]
      cases scalarType <;> simp [ParameterType.ofScalar]
  | enumeration placed => simp

/-- The type of a parameter is that of a text exactly if its field holds one text. -/
theorem Field.ParameterAgrees.type_eq_string_iff {field : Field} {parameter : Parameter}
    (agrees : field.ParameterAgrees parameter) :
    parameter.type = .string ↔
      field.elementType = .scalar .string ∧ field.isRepeated = false := by
  cases agrees with
  | of required noMap typed =>
      cases repeated : field.isRepeated with
      | false => simpa [repeated] using typed.eq_string_iff
      | true => simp

section Fields

variable {fields : List Field} {parameters : List Parameter}

theorem map_name_of_agree (agree : List.Forall₂ Field.ParameterAgrees fields parameters) :
    parameters.map (·.name) = fields.map (·.propertyName) := by
  induction agree with
  | nil => rfl
  | cons here _ inductionHypothesis =>
      rw [List.map_cons, List.map_cons, inductionHypothesis, here.name_eq]

/-- Under the name of the account there is still a text, exactly if every field of that name
holds one text. -/
theorem typeUnder?_account_iff (agree : List.Forall₂ Field.ParameterAgrees fields parameters)
    (distinct : (fields.map (·.propertyName)).Nodup) :
    typeUnder? "accountId" (accountParameter :: parameters) = some .string ↔
      ∀ field ∈ fields, field.propertyName = "accountId" →
        field.elementType = .scalar .string ∧ field.isRepeated = false := by
  have names := map_name_of_agree agree
  by_cases taken : "accountId" ∈ fields.map (·.propertyName)
  · obtain ⟨field, member, named⟩ := List.mem_map.1 taken
    obtain ⟨parameter, inParameters, agrees⟩ := exists_of_mem_forall₂ agree member
    have found : typeUnder? "accountId" parameters = some parameter.type := by
      rw [← named, ← agrees.name_eq]
      exact typeUnder?_of_mem (by rwa [names]) inParameters
    rw [typeUnder?, found, Option.some.injEq, agrees.type_eq_string_iff]
    constructor
    · intro text other otherMember otherNamed
      rwa [List.inj_on_of_nodup_map distinct otherMember member (otherNamed.trans named.symm)]
    · intro each
      exact each field member named
  · have free : "accountId" ∉ parameters.map (·.name) := by rwa [names]
    rw [typeUnder?, typeUnder?_of_not_mem free]
    refine iff_of_true rfl fun field member named => ?_
    exact absurd (List.mem_map.2 ⟨field, member, named⟩) taken

end Fields

/-! ### Emitted tools -/

/-- What the parameters of a tool are named, and what is left of the account. -/
structure ParameterNames (method : Method) (message : Descriptor.Message) (tool : Tool) :
    Prop where
  /-- The account comes first, then what has to be given, in the order of the request. -/
  names : tool.parameters.map (·.name) =
    "accountId" :: method.requiredFields.map (·.propertyName)
  account : tool.parameters.head? = some accountParameter
  /-- The names are different exactly if no field that has to be given is declared with a name
  that is spelled like the account's. -/
  nodup_iff : (tool.parameters.map (·.name)).Nodup ↔
    ∀ described ∈ message.fields, described.proto3Optional = false →
      ¬ SpellsAccountId described.name.toList
  /-- The account is a text that has to be given exactly if such a field holds one text. -/
  account_iff : typeUnder? "accountId" tool.parameters = some .string ↔
    ∀ field ∈ method.requiredFields, field.propertyName = "accountId" →
      field.elementType = .scalar .string ∧ field.isRepeated = false

section Emitted

variable {descriptors : List Descriptor.File} {files : List ProtoFile} {generator : Generator}
  {service : Service} {method : Method} {tool : Tool} {generated : GeneratedModule}

theorem nodup_requiredFields (distinct : method.argumentNames.Nodup) :
    (method.requiredFields.map (·.propertyName)).Nodup :=
  distinct.sublist (List.filter_sublist.map _)

/-- The names of the parameters are different exactly if none but the account's own is its
name. -/
theorem emitted_parameter_names (read : ReadFrom descriptors files)
    (emits : generator.Emits files service method tool generated)
    (distinct : method.argumentNames.Nodup) :
    ∃ (pool : Pool) (message : Descriptor.Message),
      pool.files = descriptors ∧ pool.Receives service method message ∧
        ParameterNames method message tool := by
  obtain ⟨pool, message, whole, receives⟩ := emits.exists_receives read
  obtain ⟨parameters, listed, agree⟩ := emits.exists_parameters
  have required := nodup_requiredFields distinct
  have names : tool.parameters.map (·.name) =
      "accountId" :: method.requiredFields.map (·.propertyName) := by
    rw [listed, List.map_cons, map_name_of_agree agree]
    rfl
  refine ⟨pool, message, whole, receives, names, by rw [listed]; rfl, ?_, ?_⟩
  · have taken :
        "accountId" ∉ method.requiredFields.map (·.propertyName) ↔
          ∀ field ∈ method.inputFields, field.isOptional = false →
            field.propertyName ≠ "accountId" := by
      simp [Method.requiredFields]
    rw [names, List.nodup_cons, and_iff_left required, taken,
      receives.forall_inputFields_iff
        fun name isOptional => isOptional = false → name ≠ "accountId"]
    simp only [ne_eq, propertyName_eq_accountId_iff]
  · rw [listed]
    exact typeUnder?_account_iff agree required

theorem emitted_parameter_names_setId :
    ReadFrom (onlyScalarFiles "set_id" .string) [askedFile (onlyScalar "setId" .string)] ∧
      smallGenerator.Emits [askedFile (onlyScalar "setId" .string)]
        (askedService (onlyScalar "setId" .string)) (askedMethod (onlyScalar "setId" .string))
        (askedTool (onlyScalar "setId" .string) [⟨"setId", .string⟩])
        (smallGenerator.madeOf (some (askedFile (onlyScalar "setId" .string)))) ∧
      (askedMethod (onlyScalar "setId" .string)).argumentNames.Nodup ∧
      ∃ (pool : Pool) (message : Descriptor.Message),
        pool.files = onlyScalarFiles "set_id" .string ∧
          pool.Receives (askedService (onlyScalar "setId" .string))
            (askedMethod (onlyScalar "setId" .string)) message ∧
          ParameterNames (askedMethod (onlyScalar "setId" .string)) message
            (askedTool (onlyScalar "setId" .string) [⟨"setId", .string⟩]) := by
  have distinct : (askedMethod (onlyScalar "setId" .string)).argumentNames.Nodup := by decide
  exact ⟨readFrom_setId, emits_onlyScalar "setId" .string, distinct,
    emitted_parameter_names readFrom_setId (emits_onlyScalar "setId" .string) distinct⟩

/-- A number that is declared as `account_id` comes under the name of the account, and the
account is a number then. -/
theorem account_id_field_replaces_account :
    ReadFrom (onlyScalarFiles "account_id" .int64)
        [askedFile (onlyScalar "accountId" .int64)] ∧
      smallGenerator.Emits [askedFile (onlyScalar "accountId" .int64)]
        (askedService (onlyScalar "accountId" .int64))
        (askedMethod (onlyScalar "accountId" .int64))
        (askedTool (onlyScalar "accountId" .int64) [⟨"accountId", .bigInt⟩])
        (smallGenerator.madeOf (some (askedFile (onlyScalar "accountId" .int64)))) ∧
      (askedMethod (onlyScalar "accountId" .int64)).argumentNames.Nodup ∧
      ¬ ((askedTool (onlyScalar "accountId" .int64)
          [⟨"accountId", .bigInt⟩]).parameters.map (·.name)).Nodup ∧
      typeUnder? "accountId" (askedTool (onlyScalar "accountId" .int64)
        [⟨"accountId", .bigInt⟩]).parameters = some .bigInt :=
  ⟨.request rfl (by decide +kernel), emits_onlyScalar "accountId" .int64, by decide, by decide,
    by decide⟩

end Emitted

end RpcTools
