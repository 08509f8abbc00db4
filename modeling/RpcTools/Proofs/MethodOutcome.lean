/-
Module: RpcTools.Proofs.MethodOutcome
Purpose: What becomes of a method with the built-in templates, read off its fields and its
  calling convention.
Main exports: Field.Obstructs, ScalarType.HasEntry, ElementType.HasParameterType,
  Field.ParameterAgrees, Method.LacksInvocation, MethodOutcome.Of, toolOf_builtIn_iff
-/
import RpcTools.Proofs.PathNamespaces
import RpcTools.Proofs.ToolText

namespace RpcTools

/-! ### Fields -/

/-- Why a field that has to be given keeps its method from becoming a tool.  That a field
is a map is looked at before its type. -/
inductive Field.Obstructs (field : Field) : String → Prop where
  | map (isMap : field.isMap = true) : field.Obstructs "map fields cannot be expanded"
  | message {reference : TypeReference} (noMap : field.isMap = false)
      (isMessage : field.elementType = .message reference) :
      field.Obstructs ("nested message type '" ++ reference.name ++ "' cannot be expanded")

/-- The documented table of the types of scalars, row by row, with how the types are written. -/
inductive ScalarType.HasEntry : ScalarType → ParameterType → String → Prop where
  | number {scalarType : ScalarType}
      (row : scalarType ∈
        [ScalarType.double, .float, .int32, .uint32, .fixed32, .sfixed32, .sint32]) :
      HasEntry scalarType .number "Type.Number()"
  | bigInt {scalarType : ScalarType}
      (row : scalarType ∈ [ScalarType.int64, .uint64, .fixed64, .sfixed64, .sint64]) :
      HasEntry scalarType .bigInt "Type.BigInt()"
  | boolean : HasEntry .bool .boolean "Type.Boolean()"
  | string : HasEntry .string .string "Type.String()"
  | bytes : HasEntry .bytes .bytes "Type.Uint8Array()"

/-- The parameter type of one value: a scalar's from the table, an enum's by its name in the
namespace of the file that declares it, if that has one. -/
inductive ElementType.HasParameterType : ElementType → ParameterType → Prop where
  | scalar {scalarType : ScalarType} {type : ParameterType} {text : String}
      (entry : scalarType.HasEntry type text) (written : type.text = text) :
      HasParameterType (.scalar scalarType) type
  | enumeration {reference : TypeReference} {namespaceName : Option String}
      (placed : ∀ segment,
        namespaceName = some segment ↔ ThirdFromEnd reference.file segment) :
      HasParameterType (.enumeration reference) (.enumeration namespaceName reference.name)

/-- The parameter of a field that has to be given: its type is that of one value, or
that of a list which may be left out exactly if the field is repeated. -/
inductive Field.ParameterAgrees (field : Field) : Parameter → Prop where
  | of {element : ParameterType} (required : field.isOptional = false)
      (noMap : field.isMap = false) (typed : field.elementType.HasParameterType element) :
      field.ParameterAgrees
        ⟨field.propertyName,
          if field.isRepeated then .optional (.array element) else element⟩

/-- The table has an entry for each scalar type. -/
theorem ScalarType.hasEntry (scalarType : ScalarType) :
    scalarType.HasEntry (ParameterType.ofScalar scalarType)
      (ParameterType.ofScalar scalarType).text := by
  cases scalarType with
  | double | float | int32 | uint32 | fixed32 | sfixed32 | sint32 => exact .number (by simp)
  | int64 | uint64 | fixed64 | sfixed64 | sint64 => exact .bigInt (by simp)
  | bool => exact .boolean
  | string => exact .string
  | bytes => exact .bytes

/-- It has no other. -/
theorem ScalarType.HasEntry.ofScalar_eq {scalarType : ScalarType} {type : ParameterType}
    {text : String} (entry : scalarType.HasEntry type text) :
    ParameterType.ofScalar scalarType = type := by
  cases entry with
  | number row =>
      simp only [List.mem_cons, List.not_mem_nil, or_false] at row
      rcases row with rfl | rfl | rfl | rfl | rfl | rfl | rfl <;> rfl
  | bigInt row =>
      simp only [List.mem_cons, List.not_mem_nil, or_false] at row
      rcases row with rfl | rfl | rfl | rfl | rfl <;> rfl
  | boolean => rfl
  | string => rfl
  | bytes => rfl

/-- What is computed for the type of one value is the type that it has. -/
theorem ElementType.hasParameterType_iff {elementType : ElementType} {type : ParameterType} :
    elementType.HasParameterType type ↔ ParameterType.ofElement elementType = .ok type := by
  constructor
  · intro typed
    cases typed with
    | scalar entry _ => rw [ParameterType.ofElement, entry.ofScalar_eq]
    | @enumeration reference namespaceName placed =>
        have same : namespaceOfPath? reference.file = namespaceName := by
          apply Option.ext
          intro segment
          exact namespaceOfPath?_eq_some_iff.trans (placed segment).symm
        rw [ParameterType.ofElement, same]
  · intro computed
    cases elementType with
    | scalar scalarType =>
        obtain rfl := Except.ok.inj computed
        exact .scalar scalarType.hasEntry rfl
    | enumeration reference =>
        obtain rfl := Except.ok.inj computed
        exact .enumeration fun segment => namespaceOfPath?_eq_some_iff
    | message reference => cases computed

namespace Field

theorem parameterOf_eq_error {field : Field} {reason : String}
    (obstructs : field.Obstructs reason) :
    parameterOf field = .error ⟨field.propertyName, reason⟩ := by
  cases obstructs with
  | map isMap => simp [parameterOf, ParameterType.ofField, isMap, ParameterType.mapReason,
      bind, Except.bind]
  | message noMap isMessage =>
      simp only [parameterOf, ParameterType.ofField, noMap, isMessage, ParameterType.ofElement]
      rfl

theorem parameterOf_eq_ok {field : Field} {parameter : Parameter}
    (agrees : field.ParameterAgrees parameter) : parameterOf field = .ok parameter := by
  obtain ⟨required, noMap, typed⟩ := agrees
  have element := ElementType.hasParameterType_iff.1 typed
  simp only [parameterOf, ParameterType.ofField, noMap, element, ParameterType.around,
    required]
  cases field.isRepeated <;> rfl

/-- A field without an obstacle is of a scalar or enum type. -/
theorem exists_parameterAgrees {field : Field} (required : field.isOptional = false)
    (unobstructed : ∀ reason, ¬ field.Obstructs reason) :
    ∃ parameter, field.ParameterAgrees parameter := by
  have noMap : field.isMap = false := by
    cases isMap : field.isMap with
    | false => rfl
    | true => exact absurd (.map isMap) (unobstructed _)
  cases element : ParameterType.ofElement field.elementType with
  | ok type => exact ⟨_, .of required noMap (ElementType.hasParameterType_iff.2 element)⟩
  | error reason =>
      cases type : field.elementType with
      | scalar scalarType => simp [type, ParameterType.ofElement] at element
      | enumeration reference => simp [type, ParameterType.ofElement] at element
      | message reference => exact absurd (.message noMap type) (unobstructed _)

theorem obstructs_iff {field : Field} :
    (∃ reason, field.Obstructs reason) ↔
      (field.isMap || field.elementType.isMessage) = true := by
  constructor
  · rintro ⟨reason, ⟨isMap⟩ | ⟨noMap, isMessage⟩⟩
    · simp [isMap]
    · simp [isMessage, ElementType.isMessage]
  · intro either
    cases isMap : field.isMap with
    | true => exact ⟨_, .map isMap⟩
    | false =>
        cases type : field.elementType with
        | message reference => exact ⟨_, .message isMap type⟩
        | scalar scalarType => simp [isMap, type, ElementType.isMessage] at either
        | enumeration reference => simp [isMap, type, ElementType.isMessage] at either

end Field

/-! ### Calling conventions -/

namespace Method

/-- The method has no invocation: its client streams, or the responses are a stream of
messages that do not consist of exactly one list. -/
inductive LacksInvocation (method : Method) : Prop where
  | client (streaming : method.convention = .clientStreaming)
  | bidi (streaming : method.convention = .bidiStreaming)
  | server (streaming : method.convention = .serverStreaming)
      (noList : ¬ ∃ only, method.outputFields = [only] ∧ only.shape = .list)

theorem isSingleList_iff (fields : List Field) :
    CallPattern.isSingleList fields = true ↔ ∃ only, fields = [only] ∧ only.shape = .list := by
  match fields with
  | [] => simp [CallPattern.isSingleList]
  | [only] => simp [CallPattern.isSingleList]
  | first :: second :: rest => simp [CallPattern.isSingleList]

theorem bodyForm_eq_notYetSupported_iff (method : Method) :
    (CallPattern.ofMethod method).bodyForm = .notYetSupported ↔ method.LacksInvocation := by
  have single := isSingleList_iff method.outputFields
  cases convention : method.convention with
  | unary =>
      simp only [CallPattern.bodyForm, CallPattern.ofMethod, convention]
      constructor
      · intro same
        cases same
      · rintro (streaming | streaming | ⟨streaming, _⟩) <;> simp [convention] at streaming
  | clientStreaming =>
      simp only [CallPattern.bodyForm, CallPattern.ofMethod, convention]
      exact ⟨fun _ => .client convention, fun _ => trivial⟩
  | bidiStreaming =>
      simp only [CallPattern.bodyForm, CallPattern.ofMethod, convention]
      exact ⟨fun _ => .bidi convention, fun _ => trivial⟩
  | serverStreaming =>
      simp only [CallPattern.bodyForm, CallPattern.ofMethod, convention, decide_true,
        Bool.true_and]
      cases list : CallPattern.isSingleList method.outputFields with
      | false =>
          refine ⟨fun _ => .server convention fun found => ?_, fun _ => rfl⟩
          exact Bool.noConfusion (list.symm.trans (single.2 found))
      | true =>
          constructor
          · intro same
            cases same
          · rintro (streaming | streaming | ⟨_, noList⟩)
            · simp [convention] at streaming
            · simp [convention] at streaming
            · exact absurd (single.1 list) noList

/-- Every form but the one without an invocation has a body. -/
theorem exists_plainBody {method : Method} (invocable : ¬ method.LacksInvocation)
    (invocation : Invocation) (methodName callName : String) (arguments : List String) :
    ∃ body, plainBody? invocation methodName callName arguments
      (CallPattern.ofMethod method).bodyForm = some body := by
  cases form : (CallPattern.ofMethod method).bodyForm with
  | unary => exact ⟨_, rfl⟩
  | streamList => exact ⟨_, rfl⟩
  | notYetSupported =>
      exact absurd (method.bodyForm_eq_notYetSupported_iff.1 form) invocable

end Method

/-! ### Methods -/

/-- The fields of a request that have to be given. -/
def Method.requiredFields (method : Method) : List Field :=
  method.inputFields.filter fun field => !field.isOptional

/-- No field that has to be given stands in the way of a tool. -/
def Method.Unobstructed (method : Method) : Prop :=
  ∀ field ∈ method.inputFields, field.isOptional = false →
    ∀ reason, ¬ field.Obstructs reason

/-- What becomes of a method. -/
inductive MethodOutcome.Of (invocation : Invocation) (service : String) (method : Method) :
    MethodOutcome → Prop where
  /-- The first field, in the order of the request, that has to be given and obstructs is
  the reason, however the method is called. -/
  | unsupportedField {before after : List Field} {field : Field} {reason : String}
      (fields : method.inputFields = before ++ field :: after)
      (required : field.isOptional = false) (obstructs : field.Obstructs reason)
      (first : ∀ earlier ∈ before, earlier.isOptional = false →
        ∀ reason, ¬ earlier.Obstructs reason) :
      Of invocation service method
        (.skipped (.unsupportedField ⟨field.propertyName, reason⟩))
  /-- Else the calling convention can be the reason. -/
  | notYetSupported (unobstructed : method.Unobstructed)
      (lacking : method.LacksInvocation) :
      Of invocation service method (.skipped (.notYetSupported method.convention))
  /-- Else there is a tool.  Its parameters are the account and the fields that have to be
  given, in the order of the request. -/
  | tool {parameters : List Parameter} {body : String} (unobstructed : method.Unobstructed)
      (invocable : ¬ method.LacksInvocation)
      (agree : List.Forall₂ Field.ParameterAgrees method.requiredFields parameters)
      (executes : plainBody? invocation method.name (callName service method.name)
        method.argumentNames (CallPattern.ofMethod method).bodyForm = some body) :
      Of invocation service method
        (.tool
          { name := callName service method.name
            label := (ToolNames.ofMethod service method.name).label
            description := s!"rpc service: {service}, method: {method.name}"
            parameters := ⟨"accountId", .string⟩ :: parameters
            body })

section Outcome

variable {invocation : Invocation} {service : String} {method : Method}

theorem parametersOf_eq_error {before after : List Field} {field : Field} {reason : String}
    (fields : method.inputFields = before ++ field :: after)
    (required : field.isOptional = false) (obstructs : field.Obstructs reason)
    (first : ∀ earlier ∈ before, earlier.isOptional = false →
      ∀ reason, ¬ earlier.Obstructs reason) :
    parametersOf method = .error ⟨field.propertyName, reason⟩ := by
  have passed :
      ∀ earlier ∈ before.filter (fun field => !field.isOptional),
        ∃ parameter, parameterOf earlier = .ok parameter := by
    intro earlier member
    obtain ⟨inBefore, given⟩ := List.mem_filter.1 member
    have earlierRequired : earlier.isOptional = false := by simpa using given
    obtain ⟨parameter, agrees⟩ :=
      Field.exists_parameterAgrees earlierRequired (first earlier inBefore earlierRequired)
    exact ⟨parameter, Field.parameterOf_eq_ok agrees⟩
  have split :
      method.inputFields.filter (fun field => !field.isOptional) =
        before.filter (fun field => !field.isOptional) ++
          field :: after.filter fun field => !field.isOptional := by
    simp [fields, required]
  rw [parametersOf, split, mapM_eq_error_of_first passed (Field.parameterOf_eq_error obstructs)]
  rfl

theorem parametersOf_eq_ok {parameters : List Parameter}
    (agree : List.Forall₂ Field.ParameterAgrees method.requiredFields parameters) :
    parametersOf method = .ok (accountParameter :: parameters) := by
  have walked : method.requiredFields.mapM parameterOf = .ok parameters :=
    mapM_eq_ok_iff.2 (agree.imp fun _ _ => Field.parameterOf_eq_ok)
  rw [Method.requiredFields] at walked
  rw [parametersOf, walked]
  rfl

theorem exists_parameters (unobstructed : method.Unobstructed) :
    ∃ parameters, List.Forall₂ Field.ParameterAgrees method.requiredFields parameters := by
  apply exists_forall₂
  intro field member
  obtain ⟨inRequest, given⟩ := List.mem_filter.1 member
  have required : field.isOptional = false := by simpa using given
  exact Field.exists_parameterAgrees required (unobstructed field inRequest required)

/-- What becomes of a method is what is computed for it. -/
theorem MethodOutcome.Of.plainOutcome_eq {outcome : MethodOutcome}
    (becomes : MethodOutcome.Of invocation service method outcome) :
    plainOutcome invocation service method = outcome := by
  cases becomes with
  | unsupportedField fields required obstructs first =>
      simp only [plainOutcome, parametersOf_eq_error fields required obstructs first]
  | notYetSupported unobstructed lacking =>
      obtain ⟨parameters, agree⟩ := exists_parameters unobstructed
      have form := method.bodyForm_eq_notYetSupported_iff.2 lacking
      simp only [plainOutcome, parametersOf_eq_ok agree, form, plainBody?]
  | tool unobstructed invocable agree executes =>
      have names :
          (ToolNames.ofMethod service method.name).callName = callName service method.name :=
        rfl
      simp only [plainOutcome, parametersOf_eq_ok agree, names, executes, accountParameter]

/-- Something becomes of every method. -/
theorem MethodOutcome.exists_of (invocation : Invocation) (service : String)
    (method : Method) : ∃ outcome, MethodOutcome.Of invocation service method outcome := by
  cases found : method.inputFields.find? fun field =>
      !field.isOptional && (field.isMap || field.elementType.isMessage) with
  | some field =>
      obtain ⟨offends, before, after, fields, passed⟩ := List.find?_eq_some_iff_append.1 found
      rw [Bool.and_eq_true] at offends
      have required : field.isOptional = false := by simpa using offends.1
      obtain ⟨reason, obstructs⟩ := Field.obstructs_iff.2 offends.2
      refine ⟨_, .unsupportedField fields required obstructs ?_⟩
      intro earlier member earlierRequired reason obstructsEarlier
      have offendsEarlier := Field.obstructs_iff.1 ⟨reason, obstructsEarlier⟩
      simpa [earlierRequired, offendsEarlier] using passed earlier member
  | none =>
      have unobstructed : method.Unobstructed := by
        intro field member required reason obstructs
        have offends := Field.obstructs_iff.1 ⟨reason, obstructs⟩
        simpa [required, offends] using List.find?_eq_none.1 found field member
      by_cases lacking : method.LacksInvocation
      · exact ⟨_, .notYetSupported unobstructed lacking⟩
      · obtain ⟨parameters, agree⟩ := exists_parameters unobstructed
        obtain ⟨body, executes⟩ := Method.exists_plainBody lacking invocation method.name
          (callName service method.name) method.argumentNames
        exact ⟨_, .tool unobstructed lacking agree executes⟩

/-- The outcome that is computed is the one that the fields and the calling convention
decide. -/
theorem plainOutcome_eq_iff {outcome : MethodOutcome} :
    plainOutcome invocation service method = outcome ↔
      MethodOutcome.Of invocation service method outcome := by
  constructor
  · rintro rfl
    obtain ⟨outcome, becomes⟩ := MethodOutcome.exists_of invocation service method
    rw [becomes.plainOutcome_eq]
    exact becomes
  · exact MethodOutcome.Of.plainOutcome_eq

/-- A method becomes a tool exactly if no field that has to be given obstructs and there is
an invocation for it. -/
theorem plainOutcome_eq_tool_iff :
    (∃ tool, plainOutcome invocation service method = .tool tool) ↔
      method.Unobstructed ∧ ¬ method.LacksInvocation := by
  constructor
  · rintro ⟨tool, same⟩
    cases plainOutcome_eq_iff.1 same with
    | tool unobstructed invocable agree executes => exact ⟨unobstructed, invocable⟩
  · rintro ⟨unobstructed, invocable⟩
    obtain ⟨outcome, becomes⟩ := MethodOutcome.exists_of invocation service method
    cases becomes with
    | unsupportedField fields required obstructs first =>
        have member : _ ∈ method.inputFields := fields ▸ List.mem_append_cons_self
        exact absurd obstructs (unobstructed _ member required _)
    | notYetSupported _ lacking => exact absurd lacking invocable
    | tool unobstructed invocable agree executes =>
        exact ⟨_, (MethodOutcome.Of.tool unobstructed invocable agree executes).plainOutcome_eq⟩

theorem plainOutcome_requiredFields {reason : Obstacle} :
    plainOutcome invocation service { method with inputFields := method.requiredFields } =
        .skipped reason ↔
      plainOutcome invocation service method = .skipped reason := by
  have parameters :
      parametersOf { method with inputFields := method.requiredFields } =
        parametersOf method := by
    simp [parametersOf, Method.requiredFields]
  have form :
      (CallPattern.ofMethod { method with inputFields := method.requiredFields }).bodyForm =
        (CallPattern.ofMethod method).bodyForm :=
    rfl
  simp only [plainOutcome, parameters, form]
  cases parametersOf method with
  | error fault => rfl
  | ok parameters =>
      cases (CallPattern.ofMethod method).bodyForm <;> simp [plainBody?]

end Outcome

/-- Assembling a method never fails with the built-in templates, and its outcome is the
one that the fields and the calling convention decide.  Fields that may be left out have
no part in whether and why there is no tool. -/
theorem toolOf_builtIn_iff (invocation : Invocation) (service : String) (method : Method) :
    (∃ outcome, toolOf TemplateStore.builtIn invocation service method = .ok outcome) ∧
      (∀ outcome, toolOf TemplateStore.builtIn invocation service method = .ok outcome ↔
        MethodOutcome.Of invocation service method outcome) ∧
      ∀ reason,
        toolOf TemplateStore.builtIn invocation service
            { method with inputFields := method.requiredFields } = .ok (.skipped reason) ↔
          toolOf TemplateStore.builtIn invocation service method = .ok (.skipped reason) := by
  simp only [toolOf_builtIn, Except.ok.injEq]
  exact ⟨⟨_, rfl⟩, fun _ => plainOutcome_eq_iff, fun _ => plainOutcome_requiredFields⟩

end RpcTools
