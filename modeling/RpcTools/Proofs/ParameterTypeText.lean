/-
Module: RpcTools.Proofs.ParameterTypeText
Purpose: The text of a parameter type says which type it is, and so which fields have one type.
Main exports: ParameterType.PlainNames, ParameterType.text_injective, Field.Loaded,
  Field.TypedLike, parameterTypes_told_apart
-/
import RpcTools.Proofs.EnumNamespaces

namespace RpcTools

/-! ### Types by their texts -/

namespace ParameterType

/-- No enum that a type refers to has a dot in its name.  A namespace may have dots. -/
def PlainNames (type : ParameterType) : Prop :=
  ∀ enumeration ∈ type.enumerations, '.' ∉ enumeration.2.toList

instance (type : ParameterType) : Decidable type.PlainNames :=
  inferInstanceAs (Decidable (∀ enumeration ∈ type.enumerations, _))

/-- What the expression of a type calls. -/
def builder : ParameterType → String
  | .number => "Number"
  | .bigInt => "BigInt"
  | .boolean => "Boolean"
  | .string => "String"
  | .bytes => "Uint8Array"
  | .enumeration _ _ => "Enum"
  | .array _ => "Array"
  | .optional _ => "Optional"

/-- An enum's name behind its namespace. -/
def enumerationPath : Option String → String → String
  | some namespaceName, name => namespaceName ++ "." ++ name
  | none, name => name

/-- What the expression of a type hands to what it calls. -/
def argument : ParameterType → String
  | .number | .bigInt | .boolean | .string | .bytes => ""
  | .enumeration namespaceName name => enumerationPath namespaceName name
  | .array element => element.text
  | .optional inner => inner.text

theorem text_eq_call (type : ParameterType) :
    type.text = "Type." ++ (type.builder ++ "(" ++ type.argument ++ ")") := by
  have regroup : ∀ opening builder argument : String, opening = "Type." ++ (builder ++ "(") →
      opening ++ argument ++ ")" = "Type." ++ (builder ++ "(" ++ argument ++ ")") := by
    rintro _ builder argument rfl
    simp only [String.append_assoc]
  cases type with
  | number => rfl
  | bigInt => rfl
  | boolean => rfl
  | string => rfl
  | bytes => rfl
  | enumeration namespaceName name =>
      cases namespaceName with
      | none => exact regroup "Type.Enum(" "Enum" name rfl
      | some placed =>
          refine Eq.trans ?_ (regroup "Type.Enum(" "Enum" (placed ++ "." ++ name) rfl)
          rw [← String.append_assoc, ← String.append_assoc]
          rfl
  | array element => exact regroup "Type.Array(" "Array" element.text rfl
  | optional inner => exact regroup "Type.Optional(" "Optional" inner.text rfl

theorem parenthesis_not_mem_builder (type : ParameterType) : '(' ∉ type.builder.toList := by
  cases type <;> simp [builder]

/-- Types with one text make the same call. -/
theorem text_eq_text_iff {type other : ParameterType} :
    type.text = other.text ↔
      type.builder = other.builder ∧ type.argument = other.argument := by
  constructor
  · intro same
    rw [text_eq_call, text_eq_call, String.append_right_inj] at same
    have cut :
        type.builder.toList ++ '(' :: (type.argument.toList ++ [')']) =
          other.builder.toList ++ '(' :: (other.argument.toList ++ [')']) := by
      simpa using congrArg String.toList same
    obtain ⟨sameBuilder, sameRest⟩ :=
      Text.cut_unique type.parenthesis_not_mem_builder other.parenthesis_not_mem_builder cut
    exact ⟨String.toList_inj.1 sameBuilder,
      String.toList_inj.1 (List.append_cancel_right sameRest)⟩
  · rintro ⟨sameBuilder, sameArgument⟩
    rw [text_eq_call, text_eq_call, sameBuilder, sameArgument]

theorem toList_enumerationPath (placed name : String) :
    (enumerationPath (some placed) name).toList = placed.toList ++ '.' :: name.toList := by
  simp [enumerationPath]

/-- A name without dots stands behind no namespace. -/
theorem enumerationPath_ne {placed name otherName : String} (plain : '.' ∉ otherName.toList) :
    enumerationPath (some placed) name ≠ otherName := by
  rintro rfl
  rw [toList_enumerationPath] at plain
  exact plain List.mem_append_cons_self

/-- A name without dots can be told from the namespace before it, whatever that is. -/
theorem enumerationPath_injective {namespaceName otherNamespace : Option String}
    {name otherName : String} (plain : '.' ∉ name.toList) (otherPlain : '.' ∉ otherName.toList)
    (same : enumerationPath namespaceName name = enumerationPath otherNamespace otherName) :
    namespaceName = otherNamespace ∧ name = otherName := by
  cases namespaceName with
  | none =>
      cases otherNamespace with
      | none => exact ⟨rfl, same⟩
      | some placed => exact absurd same.symm (enumerationPath_ne plain)
  | some placed =>
      cases otherNamespace with
      | none => exact absurd same (enumerationPath_ne otherPlain)
      | some otherPlaced =>
          have cut := congrArg String.toList same
          rw [toList_enumerationPath, toList_enumerationPath] at cut
          obtain ⟨sameNamespace, sameName⟩ := Text.cutLast_unique plain otherPlain cut
          rw [String.toList_inj.1 sameNamespace, String.toList_inj.1 sameName]
          exact ⟨rfl, rfl⟩

/-- Types with one text are the same, to any depth. -/
theorem text_injective {type other : ParameterType} (plain : type.PlainNames)
    (otherPlain : other.PlainNames) (same : type.text = other.text) : type = other := by
  induction type generalizing other with
  | number | bigInt | boolean | string | bytes =>
      cases other <;> first | rfl | simp [text_eq_text_iff, builder] at same
  | enumeration namespaceName name =>
      obtain ⟨sameBuilder, sameArgument⟩ := text_eq_text_iff.1 same
      cases other with
      | enumeration otherNamespace otherName =>
          obtain ⟨rfl, rfl⟩ := enumerationPath_injective (plain _ (List.mem_singleton.2 rfl))
            (otherPlain _ (List.mem_singleton.2 rfl)) sameArgument
          rfl
      | _ => simp [builder] at sameBuilder
  | array element inductionHypothesis =>
      obtain ⟨sameBuilder, sameArgument⟩ := text_eq_text_iff.1 same
      cases other with
      | array otherElement => exact congrArg _ (inductionHypothesis plain otherPlain sameArgument)
      | _ => simp [builder] at sameBuilder
  | optional inner inductionHypothesis =>
      obtain ⟨sameBuilder, sameArgument⟩ := text_eq_text_iff.1 same
      cases other with
      | optional otherInner => exact congrArg _ (inductionHypothesis plain otherPlain sameArgument)
      | _ => simp [builder] at sameBuilder

/-- A dot in a name could be taken for the one behind a namespace. -/
example : (enumeration none "a.b").text = (enumeration (some "a") "b").text := by decide

end ParameterType

/-! ### Fields of one type -/

namespace ScalarType

/-- The scalar types that callers are not told apart: numbers, big integers, and one by one
the truth values, the texts and the bytes. -/
def classes : List (List ScalarType) :=
  [[.double, .float, .int32, .fixed32, .uint32, .sfixed32, .sint32],
   [.int64, .uint64, .fixed64, .sfixed64, .sint64], [.bool], [.string], [.bytes]]

def SameClass (scalar other : ScalarType) : Prop :=
  ∃ together ∈ classes, scalar ∈ together ∧ other ∈ together

instance (scalar other : ScalarType) : Decidable (scalar.SameClass other) :=
  inferInstanceAs (Decidable (∃ together ∈ classes, _))

theorem sameClass_iff {scalar other : ScalarType} :
    scalar.SameClass other ↔ ParameterType.ofScalar scalar = ParameterType.ofScalar other := by
  cases scalar <;> cases other <;> decide

end ScalarType

/-- Values of two types are written alike: scalars of one class, or enums of one name in one
namespace. -/
inductive ElementType.WrittenLike : ElementType → ElementType → Prop where
  | scalar {scalarType other : ScalarType} (together : scalarType.SameClass other) :
      WrittenLike (.scalar scalarType) (.scalar other)
  | enumeration {reference other : TypeReference} (name : reference.name = other.name)
      (namespaceName : namespaceOfPath? reference.file = namespaceOfPath? other.file) :
      WrittenLike (.enumeration reference) (.enumeration other)

/-- Two fields can be left out alike, are lists alike, and have values that are written
alike. -/
structure Field.TypedLike (field other : Field) : Prop where
  optional : (field.isOptional || field.isRepeated) = (other.isOptional || other.isRepeated)
  repeated : field.isRepeated = other.isRepeated
  values : field.elementType.WrittenLike other.elementType

namespace ElementType.HasParameterType

variable {elementType other : ElementType} {element otherElement : ParameterType}

/-- One value is no list and cannot be left out. -/
theorem not_list (typed : elementType.HasParameterType element) (inner : ParameterType) :
    element ≠ .array inner ∧ element ≠ .optional inner := by
  cases typed with
  | scalar entry => cases entry <;> exact ⟨nofun, nofun⟩
  | enumeration placed => exact ⟨nofun, nofun⟩

theorem eq_iff_writtenLike (typed : elementType.HasParameterType element)
    (otherTyped : other.HasParameterType otherElement) :
    element = otherElement ↔ elementType.WrittenLike other := by
  have computed := hasParameterType_iff.1 typed
  have otherComputed := hasParameterType_iff.1 otherTyped
  cases typed with
  | scalar entry _ =>
      cases otherTyped with
      | scalar otherEntry _ =>
          rw [← entry.ofScalar_eq, ← otherEntry.ofScalar_eq, ← ScalarType.sameClass_iff]
          exact ⟨.scalar, fun | .scalar together => together⟩
      | enumeration placed =>
          refine ⟨fun same => ?_, nofun⟩
          cases entry <;> cases same
  | enumeration placed =>
      cases otherTyped with
      | scalar otherEntry _ =>
          refine ⟨fun same => ?_, nofun⟩
          cases otherEntry <;> cases same
      | enumeration otherPlaced =>
          rw [← Except.ok.inj computed, ← Except.ok.inj otherComputed,
            ParameterType.enumeration.injEq, and_comm]
          exact ⟨fun ⟨name, namespaceName⟩ => .enumeration name namespaceName,
            fun | .enumeration name namespaceName => ⟨name, namespaceName⟩⟩

end ElementType.HasParameterType

namespace ParameterType

variable {field other : Field} {element otherElement type otherType : ParameterType}

theorem ofField_eq_ok_iff :
    ofField field = .ok type ↔
      field.isMap = false ∧
        ∃ element, field.elementType.HasParameterType element ∧ around field element = type := by
  constructor
  · intro made
    rw [ofField] at made
    cases isMap : field.isMap with
    | true => simp [isMap] at made
    | false =>
        refine ⟨rfl, ?_⟩
        rw [isMap] at made
        cases computed : ofElement field.elementType with
        | error reason => simp [computed] at made
        | ok element =>
            simp only [computed] at made
            exact ⟨element, ElementType.hasParameterType_iff.2 computed, Except.ok.inj made⟩
  · rintro ⟨noMap, element, typed, rfl⟩
    simp [ofField, noMap, ElementType.hasParameterType_iff.1 typed]

/-- Whether something was put around a type can be told, as long as it is not around the type
already. -/
theorem wrapped_eq_wrapped_iff {wrap : ParameterType → ParameterType}
    (injective : wrap.Injective) {wrapped otherWrapped : Bool}
    (bare : ∀ inner, type ≠ wrap inner) (otherBare : ∀ inner, otherType ≠ wrap inner) :
    (if wrapped then wrap type else type) =
        (if otherWrapped then wrap otherType else otherType) ↔
      wrapped = otherWrapped ∧ type = otherType := by
  cases wrapped with
  | true =>
      cases otherWrapped with
      | true => simp [injective.eq_iff]
      | false => simp [(otherBare type).symm]
  | false =>
      cases otherWrapped with
      | true => simp [bare otherType]
      | false => simp

/-- What is put around the type of one value can be taken off again. -/
theorem around_eq_around_iff
    (single : ∀ inner, element ≠ .array inner ∧ element ≠ .optional inner)
    (otherSingle : ∀ inner, otherElement ≠ .array inner ∧ otherElement ≠ .optional inner) :
    around field element = around other otherElement ↔
      (field.isOptional || field.isRepeated) = (other.isOptional || other.isRepeated) ∧
        field.isRepeated = other.isRepeated ∧ element = otherElement := by
  have given : ∀ {repeated : Bool} {type : ParameterType}, (∀ inner, type ≠ .optional inner) →
      ∀ inner, (if repeated then .array type else type) ≠ .optional inner := by
    intro repeated type given inner
    cases repeated with
    | true => exact nofun
    | false => exact given inner
  rw [around, around,
    wrapped_eq_wrapped_iff (fun _ _ => optional.inj) (given fun inner => (single inner).2)
      (given fun inner => (otherSingle inner).2),
    wrapped_eq_wrapped_iff (fun _ _ => array.inj) (fun inner => (single inner).1)
      (fun inner => (otherSingle inner).1)]

/-- Fields have one type exactly if they are typed alike. -/
theorem eq_iff_typedLike (made : ofField field = .ok type)
    (otherMade : ofField other = .ok otherType) : type = otherType ↔ field.TypedLike other := by
  obtain ⟨_, element, typed, rfl⟩ := ofField_eq_ok_iff.1 made
  obtain ⟨_, otherElement, otherTyped, rfl⟩ := ofField_eq_ok_iff.1 otherMade
  rw [around_eq_around_iff typed.not_list otherTyped.not_list,
    typed.eq_iff_writtenLike otherTyped]
  exact ⟨fun ⟨leftOut, repeated, values⟩ => ⟨leftOut, repeated, values⟩,
    fun alike => ⟨alike.optional, alike.repeated, alike.values⟩⟩

theorem enumerations_around (field : Field) (element : ParameterType) :
    (around field element).enumerations = element.enumerations := by
  rw [around]
  cases field.isRepeated <;> cases field.isOptional <;> rfl

/-- The type of a field has plain names if the field's own enum has one. -/
theorem plainNames_of_ofField (made : ofField field = .ok type)
    (plain : ∀ reference, field.elementType = .enumeration reference →
      '.' ∉ reference.name.toList) : type.PlainNames := by
  obtain ⟨_, element, typed, rfl⟩ := ofField_eq_ok_iff.1 made
  rw [PlainNames, enumerations_around]
  generalize field.elementType = elementType at plain typed
  cases typed with
  | scalar entry => cases entry <;> exact nofun
  | enumeration placed =>
      intro enumeration member
      obtain rfl := List.mem_singleton.1 member
      exact plain _ rfl

end ParameterType

/-! ### Fields of schemas -/

/-- A field of a request or of a response, in a schema that was read. -/
inductive Field.Loaded (field : Field) : Prop where
  | of {descriptors : List Descriptor.File} {files : List ProtoFile} {file : ProtoFile}
      {service : Service} {method : Method} (read : ReadFrom descriptors files)
      (inSchema : file ∈ files) (inFile : service ∈ file.services)
      (inService : method ∈ service.methods)
      (inMethod : field ∈ method.inputFields ∨ field ∈ method.outputFields) : field.Loaded

namespace Pool

variable {pool : Pool} {view : Viewpoint}

theorem MessageMirrors.exists_typeMirrors {scope name : String} {fields : List Field}
    (mirrors : pool.MessageMirrors view scope name fields) {field : Field}
    (member : field ∈ fields) :
    ∃ inner fullName described, pool.TypeMirrors inner fullName described field.elementType := by
  cases mirrors with
  | of refers declaredBy complete ascending each declaredOrder =>
      obtain ⟨described, _, mirror⟩ := exists_of_mem_forall₂ each.flip member
      exact ⟨_, _, _, mirror.type⟩

/-- What refers to a type has no dot in its name. -/
theorem TypeMirrors.plain {fullName : String} {described : Descriptor.Field}
    {reference : TypeReference}
    (mirror : pool.TypeMirrors view fullName described (.enumeration reference)) :
    '.' ∉ reference.name.toList := by
  cases mirror with
  | enumeration typed refers =>
      cases refers with
      | of declaredBy below dotted => exact dot_not_mem_underscoresForDots _

end Pool

theorem Field.Loaded.plain {field : Field} (loaded : field.Loaded) {reference : TypeReference}
    (isEnum : field.elementType = .enumeration reference) : '.' ∉ reference.name.toList := by
  obtain ⟨read, inSchema, inFile, inService, inMethod⟩ := loaded
  obtain ⟨pool, _, each⟩ := read.exists_pool
  obtain ⟨described, inPool, rfl⟩ := each _ inSchema
  have inMirror := (Pool.fileMirrors_protoFile inPool).services
  obtain ⟨_, _, serviceMirrors⟩ := exists_of_mem_forall₂ inMirror.flip inFile
  obtain ⟨_, _, mirror⟩ := exists_of_mem_forall₂ serviceMirrors.methods.flip inService
  rcases inMethod with inRequest | inResponse
  · obtain ⟨_, _, _, type⟩ := mirror.request.exists_typeMirrors inRequest
    rw [isEnum] at type
    exact type.plain
  · obtain ⟨_, _, _, type⟩ := mirror.response.exists_typeMirrors inResponse
    rw [isEnum] at type
    exact type.plain

/-- The text of a type without dots in the names of its enums is that of no other, and the
names in a schema are without dots.  So fields of schemas have one text exactly if they have
one type, and one type exactly if they are typed alike. -/
theorem parameterTypes_told_apart :
    (∀ type other : ParameterType, type.PlainNames → other.PlainNames →
      type.text = other.text → type = other) ∧
    (∀ field : Field, field.Loaded → ∀ reference,
      field.elementType = .enumeration reference → '.' ∉ reference.name.toList) ∧
    ∀ (field other : Field) (type otherType : ParameterType), field.Loaded → other.Loaded →
      ParameterType.ofField field = .ok type → ParameterType.ofField other = .ok otherType →
        (type.text = otherType.text ↔ type = otherType) ∧
          (type = otherType ↔ field.TypedLike other) := by
  refine ⟨fun _ _ => ParameterType.text_injective, fun _ loaded _ => loaded.plain, ?_⟩
  intro field other type otherType loaded otherLoaded made otherMade
  have plain : type.PlainNames :=
    ParameterType.plainNames_of_ofField made fun _ => loaded.plain
  have otherPlain : otherType.PlainNames :=
    ParameterType.plainNames_of_ofField otherMade fun _ => otherLoaded.plain
  refine ⟨⟨ParameterType.text_injective plain otherPlain, fun same => ?_⟩,
    ParameterType.eq_iff_typedLike made otherMade⟩
  rw [same]

theorem loaded_placed {field : Field} (member : field ∈ placedFields) : field.Loaded :=
  .of readFrom_placed (List.mem_singleton.2 rfl) (List.mem_singleton.2 rfl)
    (List.mem_singleton.2 rfl) (.inl member)

/-- A list of lists of an enum. -/
def nestedType (namespaceName : String) : ParameterType :=
  .optional (.array (.array (.enumeration (some namespaceName) "Level")))

/-- Two types that differ in the namespace alone, and two enums of a request. -/
theorem parameterTypes_told_apart_placed :
    (nestedType "").PlainNames ∧ (nestedType "a.b").PlainNames ∧
      (nestedType "").text ≠ (nestedType "a.b").text ∧
      ∃ kind ∈ placedFields, ∃ level ∈ placedFields, ∃ kindType levelType,
        ParameterType.ofField kind = .ok kindType ∧
          ParameterType.ofField level = .ok levelType ∧
          kindType.text ≠ levelType.text ∧ ¬ kind.TypedLike level := by
  obtain ⟨byText, _, byField⟩ := parameterTypes_told_apart
  have plain : (nestedType "").PlainNames := by decide
  have otherPlain : (nestedType "a.b").PlainNames := by decide
  have inNamespaces : nestedType "" ≠ nestedType "a.b" := by decide
  refine ⟨plain, otherPlain, mt (byText _ _ plain otherPlain) inNamespaces, ?_⟩
  have kind : Field.single "kind" (.enumeration ⟨"Kind", "lib"⟩) ∈ placedFields := by decide
  have level :
      Field.single "level" (.enumeration ⟨"Level", "/services/v1/command"⟩) ∈ placedFields := by
    decide
  have different :
      ParameterType.enumeration none "Kind" ≠ .enumeration (some "services") "Level" := by decide
  obtain ⟨oneText, oneType⟩ :=
    byField _ _ _ _ (loaded_placed kind) (loaded_placed level) rfl rfl
  exact ⟨_, kind, _, level, _, _, rfl, rfl, mt oneText.1 different, mt oneType.2 different⟩

end RpcTools
