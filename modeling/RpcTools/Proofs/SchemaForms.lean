/-
Module: RpcTools.Proofs.SchemaForms
Purpose: The written form of a schema, level by level: what each reader asks of a value, that it
  reads back what was written, and that it gives the same when fields lose an `is_map` that is
  false.
Main exports: Field.ofJson?_eq_some_iff, Method.ofJson?_eq_some_iff, Service.ofJson?_eq_some_iff,
  ProtoFile.ofJson?_eq_some_iff, schemaOfJson?_schemaToJson, Field.Sheds, SchemaSheds,
  overlooks_schemaSheds
-/
import Mathlib.Tactic.Simproc.ExistsAndEq
import RpcTools.Proofs.RecordForms
import RpcTools.Schema.Json

namespace RpcTools

open Json (Overlooks InField InItem Drops listOf? listOf?_map bind_eq_elim elim_listOf?)

variable {value : Json}

/-! ### Types of fields -/

theorem TypeReference.ofJson?_toJson (reference : TypeReference) :
    ofJson? reference.toJson = some reference :=
  rfl

theorem ElementType.ofJson?_toJson (elementType : ElementType) :
    ofJson? elementType.toJson = some elementType := by
  cases elementType with
  | scalar scalarType =>
      change ((ScalarType.ofKeyword? scalarType.keyword).bind fun read => some (scalar read)) = _
      rw [ScalarType.ofKeyword?_keyword, Option.bind_some]
  | message reference => rfl
  | enumeration reference => rfl

/-! ### Fields -/

namespace Field

variable {field : Field}

theorem asBool?_getD (found : Option Json) (default : Bool) :
    (found.getD (.bool default)).asBool? = found.elim (some default) Json.asBool? := by
  cases found <;> rfl

/-- A field is read where each of its parts is, and only the mark of maps may be missing. -/
theorem ofJson?_eq_some_iff :
    ofJson? value = some field ↔
      value.field? keys none Json.asString? "local_name" = some field.propertyName ∧
      value.field? keys none ElementType.ofJson? "field_type" = some field.elementType ∧
      value.field? keys none Json.asBool? "is_optional" = some field.isOptional ∧
      value.field? keys none Json.asBool? "is_repeated" = some field.isRepeated ∧
      value.field? keys (some false) Json.asBool? "is_map" = some field.isMap := by
  obtain ⟨propertyName, elementType, isOptional, isRepeated, isMap⟩ := field
  simp only [ofJson?, Json.field?]
  cases value.record? keys with
  | none => simp
  | some members =>
      simp only [Option.bind_eq_bind, Option.bind_some, ← Option.bind_assoc, bind_eq_elim,
        asBool?_getD]
      simp [Option.bind_eq_some_iff, -Bool.exists_bool]

theorem ofJson?_toJson (field : Field) : ofJson? field.toJson = some field :=
  ofJson?_eq_some_iff.2 ⟨rfl, ElementType.ofJson?_toJson field.elementType, rfl, rfl, rfl⟩

/-- The field's form loses the mark of maps, which is false. -/
def Sheds : Json → Json → Prop :=
  Drops fun key value => key = "is_map" ∧ value = .bool false

theorem overlooks_sheds : Overlooks ofJson? Sheds := by
  intro value lighter sheds
  have required {Part : Type} {read : Json → Option Part} {key : String}
      (other : key ≠ "is_map") :
      lighter.field? keys none read key = value.field? keys none read key :=
    sheds.field?_eq fun _ mark => absurd mark.1 other
  have mark : lighter.field? keys (some false) Json.asBool? "is_map" =
      value.field? keys (some false) Json.asBool? "is_map" :=
    sheds.field?_eq fun part isFalse => by rw [isFalse.2, Json.asBool?_bool]
  refine Option.ext fun field => ?_
  rw [ofJson?_eq_some_iff, ofJson?_eq_some_iff, mark]
  simp only [required, ne_eq, String.reduceEq, not_false_eq_true]

end Field

/-! ### Methods -/

namespace Method

variable {method : Method}

/-- Reads the word for a calling convention. -/
def conventionOfJson? (value : Json) : Option CallingConvention :=
  (value.asVariant? Json.isNull).bind CallingConvention.ofWord?

theorem elim_conventionOfJson? (found : Option Json) :
    found.elim none conventionOfJson? =
      (found.elim none (Json.asVariant? Json.isNull)).bind CallingConvention.ofWord? := by
  cases found <;> rfl

theorem ofJson?_eq_some_iff :
    ofJson? value = some method ↔
      value.field? keys none Json.asString? "name" = some method.name ∧
      value.field? keys none conventionOfJson? "call_kind" = some method.convention ∧
      value.field? keys none (listOf? Field.ofJson?) "input_fields" = some method.inputFields ∧
      value.field? keys none (listOf? Field.ofJson?) "output_fields" =
        some method.outputFields := by
  obtain ⟨name, convention, inputFields, outputFields⟩ := method
  simp only [ofJson?, Json.field?]
  cases value.record? keys with
  | none => simp
  | some members =>
      simp only [Option.bind_eq_bind, Option.bind_some, ← Option.bind_assoc, bind_eq_elim,
        elim_listOf?, elim_conventionOfJson?]
      simp [Option.bind_eq_some_iff]

theorem ofJson?_toJson (method : Method) : ofJson? method.toJson = some method :=
  ofJson?_eq_some_iff.2
    ⟨rfl, CallingConvention.ofWord?_word method.convention,
      listOf?_map Field.ofJson?_toJson method.inputFields,
      listOf?_map Field.ofJson?_toJson method.outputFields⟩

/-- One field of the request or of the response loses its mark. -/
def Sheds (value lighter : Json) : Prop :=
  InField keys "input_fields" (InItem Field.Sheds) value lighter ∨
    InField keys "output_fields" (InItem Field.Sheds) value lighter

theorem overlooks_inField {key : String} (ofFields : key = "input_fields" ∨ key = "output_fields") :
    Overlooks ofJson? (InField keys key (InItem Field.Sheds)) := by
  intro value lighter change
  have single {Part : Type} {read : Json → Option Part} {other : String}
      (different : key ≠ other) :
      lighter.field? keys none read other = value.field? keys none read other :=
    change.field?_eq fun same => absurd same different
  have list (other : String) :
      lighter.field? keys none (listOf? Field.ofJson?) other =
        value.field? keys none (listOf? Field.ofJson?) other :=
    change.field?_eq fun _ => Field.overlooks_sheds.listOf?
  refine Option.ext fun method => ?_
  rw [ofJson?_eq_some_iff, ofJson?_eq_some_iff, list, list, single, single]
  all_goals rcases ofFields with rfl | rfl <;> decide

theorem overlooks_sheds : Overlooks ofJson? Sheds :=
  (overlooks_inField (.inl rfl)).or (overlooks_inField (.inr rfl))

end Method

/-! ### Services and files -/

namespace Service

variable {service : Service}

theorem ofJson?_eq_some_iff :
    ofJson? value = some service ↔
      value.field? keys none Json.asString? "name" = some service.name ∧
      value.field? keys none (listOf? Method.ofJson?) "methods" = some service.methods := by
  obtain ⟨name, methods⟩ := service
  simp only [ofJson?, Json.field?]
  cases value.record? keys with
  | none => simp
  | some members =>
      simp only [Option.bind_eq_bind, Option.bind_some, ← Option.bind_assoc, bind_eq_elim,
        elim_listOf?]
      simp [Option.bind_eq_some_iff]

theorem ofJson?_toJson (service : Service) : ofJson? service.toJson = some service :=
  ofJson?_eq_some_iff.2 ⟨rfl, listOf?_map Method.ofJson?_toJson service.methods⟩

/-- One field of one method loses its mark. -/
def Sheds : Json → Json → Prop :=
  InField keys "methods" (InItem Method.Sheds)

theorem overlooks_sheds : Overlooks ofJson? Sheds := by
  intro value lighter sheds
  refine Option.ext fun service => ?_
  rw [ofJson?_eq_some_iff, ofJson?_eq_some_iff, sheds.field?_eq (by simp),
    sheds.field?_eq fun _ => Method.overlooks_sheds.listOf?]

end Service

namespace ProtoFile

variable {file : ProtoFile}

theorem ofJson?_eq_some_iff :
    ofJson? value = some file ↔
      value.field? keys none Json.asString? "path" = some file.path ∧
      value.field? keys none (listOf? Service.ofJson?) "services" = some file.services := by
  obtain ⟨path, services⟩ := file
  simp only [ofJson?, Json.field?]
  cases value.record? keys with
  | none => simp
  | some members =>
      simp only [Option.bind_eq_bind, Option.bind_some, ← Option.bind_assoc, bind_eq_elim,
        elim_listOf?]
      simp [Option.bind_eq_some_iff]

theorem ofJson?_toJson (file : ProtoFile) : ofJson? file.toJson = some file :=
  ofJson?_eq_some_iff.2 ⟨rfl, listOf?_map Service.ofJson?_toJson file.services⟩

/-- One field of one of the file's methods loses its mark. -/
def Sheds : Json → Json → Prop :=
  InField keys "services" (InItem Service.Sheds)

theorem overlooks_sheds : Overlooks ofJson? Sheds := by
  intro value lighter sheds
  refine Option.ext fun file => ?_
  rw [ofJson?_eq_some_iff, ofJson?_eq_some_iff, sheds.field?_eq (by simp),
    sheds.field?_eq fun _ => Service.overlooks_sheds.listOf?]

end ProtoFile

/-! ### Schemas -/

theorem schemaOfJson?_schemaToJson (files : List ProtoFile) :
    schemaOfJson? (schemaToJson files) = some files :=
  listOf?_map ProtoFile.ofJson?_toJson files

/-- One field of a schema loses the mark of maps, which is false. -/
def SchemaSheds : Json → Json → Prop :=
  InItem ProtoFile.Sheds

theorem overlooks_schemaSheds : Overlooks schemaOfJson? SchemaSheds :=
  ProtoFile.overlooks_sheds.listOf?

end RpcTools
