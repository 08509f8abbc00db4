/-
Module: RpcTools.Proofs.ConfigForms
Purpose: The written form of a configuration: what its reader asks of a value, that it reads back
  what was written, and that a key whose value is the default may as well be left out.  Together
  with the form of schemas: the written forms lose nothing.
Main exports: Invocation.ofJson?_eq_some_iff, Config.ofJson?_eq_some_iff, Invocation.SaysDefault,
  Config.SaysDefault, Config.Sheds, written_forms_lose_nothing
-/
import Mathlib.Tactic.Simproc.ExistsAndEq
import Mathlib.Tactic.Tauto
import RpcTools.Config.Json
import RpcTools.Proofs.SchemaForms

namespace RpcTools

open Json (Overlooks InField Drops mem_keys_of_lookup?)

variable {value : Json}

theorem settingText?_eq (members : List (String × Json)) (key default : String) :
    settingText? members key default =
      (Json.lookup? key members).elim (some default) Json.asString? := by
  rw [settingText?]
  cases Json.lookup? key members <;> rfl

/-! ### Invocations -/

namespace Invocation

variable {invocation : Invocation} {setting : String × (Invocation → String)}

/-- The settings that are single texts, by their keys. -/
def texts : List (String × (Invocation → String)) :=
  [("runtime_import", runtimeImport), ("runtime_accessor", runtimeAccessor),
   ("accounts_import", accountsImport), ("account_resolver", accountResolver),
   ("resolved_account_type", resolvedAccountType), ("types_import", typesImport),
   ("config_type", configType), ("client_package", clientPackage), ("client_type", clientType),
   ("client_factory", clientFactory), ("client_close_method", clientCloseMethod),
   ("client_key_field", clientKeyField), ("server_url_field", serverUrlField),
   ("default_account_id", defaultAccountId), ("schema_package", schemaPackage),
   ("tools_export", toolsExport)]

/-- An invocation is read where no key is strange and each setting is read, or is left out and
the default one. -/
theorem ofJson?_eq_some_iff :
    ofJson? value = some invocation ↔
      value.hasOnly keys ∧
      value.field? keys (some default.clientNamespaces) Json.asStrings? "client_namespaces" =
        some invocation.clientNamespaces ∧
      ∀ setting ∈ texts,
        value.field? keys (some (setting.2 default)) Json.asString? setting.1 =
          some (setting.2 invocation) := by
  cases isRecord : value.record? keys with
  | none =>
      have unread : ofJson? value = none := by
        rw [ofJson?, isRecord]
        rfl
      simp [unread, Json.hasOnly, isRecord]
  | some members =>
      simp only [Json.hasOnly_of_record? isRecord, Json.field?_of_record? isRecord]
      rw [ofJson?, isRecord, Option.bind_eq_bind, Option.bind_some]
      cases members.all fun member => keys.contains member.1 with
      | false =>
          constructor
          · intro refused
            cases refused
          · intro strange
            cases strange.1
      | true =>
          rw [if_neg (by decide)]
          obtain ⟨⟩ := invocation
          -- from the outside in: a congruence for binds would visit the rest of the chain twice
          cases Json.lookup? "client_namespaces" members with
          | none =>
              simp only [↓Json.bind_eq_some_iff, settingText?_eq]
              simp [texts, pure]
              tauto
          | some part =>
              simp only [↓Json.bind_eq_some_iff, settingText?_eq]
              simp [texts, pure]

theorem member?_toJson (invocation : Invocation) :
    ∀ setting ∈ texts,
      invocation.toJson.member? setting.1 = some (.string (setting.2 invocation)) := by
  simp only [texts, List.forall_mem_cons, List.not_mem_nil, IsEmpty.forall_iff, implies_true,
    and_true]
  repeat' apply And.intro
  all_goals rfl

theorem ofJson?_toJson (invocation : Invocation) : ofJson? invocation.toJson = some invocation := by
  refine ofJson?_eq_some_iff.2 ⟨rfl, ?_, fun setting listed => ?_⟩
  · exact Json.asStrings?_ofStrings invocation.clientNamespaces
  · rw [Json.field?_of_member? (invocation.member?_toJson setting listed), Json.asString?_string]

/-- The value is what the default invocation has under the key. -/
def SaysDefault (key : String) (value : Json) : Prop :=
  default.toJson.member? key = some value

theorem mem_keys_of_saysDefault {key : String} (isDefault : SaysDefault key value) :
    key ∈ keys := by
  have inKeys := mem_keys_of_lookup? isDefault
  exact inKeys

theorem asStrings?_of_saysDefault (isDefault : SaysDefault "client_namespaces" value) :
    value.asStrings? = some default.clientNamespaces := by
  obtain rfl := Option.some.inj isDefault
  exact Json.asStrings?_ofStrings default.clientNamespaces

theorem asString?_of_saysDefault (listed : setting ∈ texts)
    (isDefault : SaysDefault setting.1 value) : value.asString? = some (setting.2 default) := by
  rw [SaysDefault, default.member?_toJson setting listed] at isDefault
  obtain rfl := Option.some.inj isDefault
  rfl

theorem overlooks_drops : Overlooks ofJson? (Drops SaysDefault) := by
  intro value lighter drops
  refine Option.ext fun invocation => ?_
  rw [ofJson?_eq_some_iff, ofJson?_eq_some_iff,
    drops.hasOnly_eq fun _ _ => mem_keys_of_saysDefault,
    drops.field?_eq fun _ => asStrings?_of_saysDefault]
  refine and_congr_right' (and_congr_right' (forall₂_congr fun setting listed => ?_))
  rw [drops.field?_eq fun _ => asString?_of_saysDefault listed]

end Invocation

/-! ### Configurations -/

namespace Config

variable {config : Config} {setting : String × (Config → String)}

/-- The settings that are single texts, by their keys. -/
def texts : List (String × (Config → String)) :=
  [("services_marker", servicesMarker), ("command_file_pattern", commandFilePattern),
   ("output_file", outputFile), ("file_header", fileHeader)]

/-- A configuration is read where no key is strange and each setting is read, or is left out and
the default one. -/
theorem ofJson?_eq_some_iff :
    ofJson? value = some config ↔
      value.hasOnly keys ∧
      value.field? keys (some default.commandFile) Json.asNullableString? "command_file" =
        some config.commandFile ∧
      value.field? keys (some default.invocation) Invocation.ofJson? "invocation" =
        some config.invocation ∧
      ∀ setting ∈ texts,
        value.field? keys (some (setting.2 default)) Json.asString? setting.1 =
          some (setting.2 config) := by
  cases isRecord : value.record? keys with
  | none =>
      have unread : ofJson? value = none := by
        rw [ofJson?, isRecord]
        rfl
      simp [unread, Json.hasOnly, isRecord]
  | some members =>
      simp only [Json.hasOnly_of_record? isRecord, Json.field?_of_record? isRecord]
      rw [ofJson?, isRecord, Option.bind_eq_bind, Option.bind_some]
      cases members.all fun member => keys.contains member.1 with
      | false =>
          constructor
          · intro refused
            cases refused
          · intro strange
            cases strange.1
      | true =>
          rw [if_neg (by decide)]
          obtain ⟨⟩ := config
          cases Json.lookup? "command_file" members <;>
            cases Json.lookup? "invocation" members <;>
            simp only [↓Json.bind_eq_some_iff, settingText?_eq] <;>
            simp [texts, pure, and_assoc, and_comm, and_left_comm]

theorem member?_toJson (config : Config) :
    ∀ setting ∈ texts, config.toJson.member? setting.1 = some (.string (setting.2 config)) := by
  simp only [texts, List.forall_mem_cons, List.not_mem_nil, IsEmpty.forall_iff, implies_true,
    and_true]
  repeat' apply And.intro
  all_goals rfl

theorem ofJson?_toJson (config : Config) : ofJson? config.toJson = some config := by
  refine ofJson?_eq_some_iff.2 ⟨rfl, ?_, ?_, fun setting listed => ?_⟩
  · exact Json.asNullableString?_ofNullable config.commandFile
  · exact Invocation.ofJson?_toJson config.invocation
  · rw [Json.field?_of_member? (config.member?_toJson setting listed), Json.asString?_string]

/-- The value is what the default configuration has under the key, or an invocation that is read
as the default one. -/
def SaysDefault (key : String) (value : Json) : Prop :=
  default.toJson.member? key = some value ∨
    key = "invocation" ∧ Invocation.ofJson? value = some Invocation.default

/-- The configuration's form loses a key whose value is the default, itself or in its
invocation. -/
def Sheds (value lighter : Json) : Prop :=
  Drops SaysDefault value lighter ∨
    InField keys "invocation" (Drops Invocation.SaysDefault) value lighter

theorem mem_keys_of_saysDefault {key : String} (isDefault : SaysDefault key value) :
    key ∈ keys := by
  rcases isDefault with written | ⟨rfl, _⟩
  · have inKeys := mem_keys_of_lookup? written
    exact inKeys
  · decide

theorem asNullableString?_of_saysDefault (isDefault : SaysDefault "command_file" value) :
    value.asNullableString? = some default.commandFile := by
  rcases isDefault with written | ⟨same, _⟩
  · obtain rfl := Option.some.inj written
    rfl
  · exact absurd same (by decide)

theorem ofJson?_of_saysDefault (isDefault : SaysDefault "invocation" value) :
    Invocation.ofJson? value = some default.invocation := by
  rcases isDefault with written | ⟨_, reads⟩
  · obtain rfl := Option.some.inj written
    exact Invocation.ofJson?_toJson default.invocation
  · exact reads

theorem ne_invocation_of_mem_texts (listed : setting ∈ texts) : setting.1 ≠ "invocation" := by
  have others : "invocation" ∉ texts.map (·.1) := by decide
  exact fun same => others (List.mem_map.2 ⟨setting, listed, same⟩)

theorem asString?_of_saysDefault (listed : setting ∈ texts)
    (isDefault : SaysDefault setting.1 value) : value.asString? = some (setting.2 default) := by
  rcases isDefault with written | ⟨same, _⟩
  · rw [default.member?_toJson setting listed] at written
    obtain rfl := Option.some.inj written
    rfl
  · exact absurd same (ne_invocation_of_mem_texts listed)

theorem overlooks_drops : Overlooks ofJson? (Drops SaysDefault) := by
  intro value lighter drops
  refine Option.ext fun config => ?_
  rw [ofJson?_eq_some_iff, ofJson?_eq_some_iff,
    drops.hasOnly_eq fun _ _ => mem_keys_of_saysDefault,
    drops.field?_eq fun _ => asNullableString?_of_saysDefault,
    drops.field?_eq fun _ => ofJson?_of_saysDefault]
  refine and_congr_right' (and_congr_right' (and_congr_right'
    (forall₂_congr fun setting listed => ?_)))
  rw [drops.field?_eq fun _ => asString?_of_saysDefault listed]

theorem overlooks_inInvocation :
    Overlooks ofJson? (InField keys "invocation" (Drops Invocation.SaysDefault)) := by
  intro value lighter change
  refine Option.ext fun config => ?_
  rw [ofJson?_eq_some_iff, ofJson?_eq_some_iff, change.hasOnly_eq,
    change.field?_eq (by simp : "invocation" = "command_file" → _),
    change.field?_eq fun _ => Invocation.overlooks_drops]
  refine and_congr_right' (and_congr_right' (and_congr_right'
    (forall₂_congr fun setting listed => ?_)))
  rw [change.field?_eq fun same => absurd same.symm (ne_invocation_of_mem_texts listed)]

theorem overlooks_sheds : Overlooks ofJson? Sheds :=
  overlooks_drops.or overlooks_inInvocation

end Config

/-! ### Both forms -/

/-- Schemas and configurations are read back as they were written.  What is read stays the same
when fields lose marks of maps that are false, and when configurations lose keys whose values are
the defaults. -/
theorem written_forms_lose_nothing :
    (∀ files : List ProtoFile, schemaOfJson? (schemaToJson files) = some files) ∧
      (∀ config : Config, Config.ofJson? config.toJson = some config) ∧
      (∀ value lighter : Json, Relation.ReflTransGen SchemaSheds value lighter →
        schemaOfJson? lighter = schemaOfJson? value) ∧
      ∀ value lighter : Json, Relation.ReflTransGen Config.Sheds value lighter →
        Config.ofJson? lighter = Config.ofJson? value := by
  refine ⟨schemaOfJson?_schemaToJson, Config.ofJson?_toJson, ?_, ?_⟩
  · exact overlooks_schemaSheds.reflTransGen
  · exact Config.overlooks_sheds.reflTransGen

/-- A field with tags. -/
def tagsField : Field := (Field.single "tags" (.scalar .string)).repeated

/-- The form of the field without the mark of maps. -/
def unmarkedTagsField : Json :=
  .object
    [("local_name", .string "tags"), ("field_type", tagsField.elementType.toJson),
     ("is_optional", .bool false), ("is_repeated", .bool true)]

/-- A file with one method, which takes the tags. -/
def tagsFile : ProtoFile where
  path := "tags.proto"
  services := [⟨"TagService", [⟨"TagsSet", .unary, [tagsField], []⟩]⟩]

/-- The form of a schema with the file, given the form of its field. -/
def tagsForm (field : Json) : Json :=
  .array
    [.object
      [("path", .string "tags.proto"),
       ("services", .array
        [.object
          [("name", .string "TagService"),
           ("methods", .array
            [.object
              [("name", .string "TagsSet"), ("call_kind", .string "unary"),
               ("input_fields", .array [field]), ("output_fields", .array [])]])]])]]

theorem sheds_tagsField : Field.Sheds tagsField.toJson unmarkedTagsField :=
  .member
    [("local_name", .string "tags"), ("field_type", tagsField.elementType.toJson),
     ("is_optional", .bool false), ("is_repeated", .bool true)] [] (by decide) ⟨rfl, rfl⟩

theorem schemaSheds_tagsForm {field lighter : Json} (sheds : Field.Sheds field lighter) :
    SchemaSheds (tagsForm field) (tagsForm lighter) := by
  have ofMethod : Method.Sheds _ _ := .inl (.member
    [("name", .string "TagsSet"), ("call_kind", .string "unary")] [("output_fields", .array [])]
    (.item [] [] sheds))
  have ofService : Service.Sheds _ _ := .member [("name", .string "TagService")] []
    (.item [] [] ofMethod)
  exact .item [] [] (.member [("path", .string "tags.proto")] [] (.item [] [] ofService))

/-- The form of a configuration, given what else it says than the name of the output. -/
def namedOutput (others : List (String × Json)) : Json :=
  .object (("output_file", .string "tools.ts") :: others)

/-- First the invocation loses its only key, and then the configuration its invocation. -/
theorem sheds_namedOutput :
    Relation.ReflTransGen Config.Sheds
      (namedOutput [("invocation", .object [("tools_export", .string "olvidAgentTools")])])
      (namedOutput []) := by
  have inner : Config.Sheds
      (namedOutput [("invocation", .object [("tools_export", .string "olvidAgentTools")])])
      (namedOutput [("invocation", .object [])]) :=
    .inr (.member [("output_file", .string "tools.ts")] [] (.member [] [] (by decide) rfl))
  have outer : Config.Sheds (namedOutput [("invocation", .object [])]) (namedOutput []) :=
    .inl (.member [("output_file", .string "tools.ts")] [] (by decide) (.inr ⟨rfl, rfl⟩))
  exact .tail (.single inner) outer

theorem written_forms_lose_nothing_tags :
    (Relation.ReflTransGen SchemaSheds (schemaToJson [tagsFile]) (tagsForm unmarkedTagsField) ∧
      schemaOfJson? (tagsForm unmarkedTagsField) = some [tagsFile]) ∧
    Relation.ReflTransGen Config.Sheds
        (namedOutput [("invocation", .object [("tools_export", .string "olvidAgentTools")])])
        (namedOutput []) ∧
      Config.ofJson? (namedOutput []) = Config.ofJson?
        (namedOutput [("invocation", .object [("tools_export", .string "olvidAgentTools")])]) ∧
      Config.ofJson? (namedOutput []) = some { Config.default with outputFile := "tools.ts" } := by
  have unmarked : Relation.ReflTransGen SchemaSheds (schemaToJson [tagsFile])
      (tagsForm unmarkedTagsField) := .single (schemaSheds_tagsForm sheds_tagsField)
  have readBack := written_forms_lose_nothing.1 [tagsFile]
  have sameFiles := written_forms_lose_nothing.2.2.1 _ _ unmarked
  have sameConfig := written_forms_lose_nothing.2.2.2 _ _ sheds_namedOutput
  exact ⟨⟨unmarked, sameFiles.trans readBack⟩, sheds_namedOutput, sameConfig, rfl⟩

end RpcTools
