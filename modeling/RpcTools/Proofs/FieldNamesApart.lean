/-
Module: RpcTools.Proofs.FieldNamesApart
Purpose: Fields whose declared names do not conflict have names of their own in generated code.
Main exports: PlainlySpelled, foldedName_eq_of_propertyName_eq, FieldsApart,
  propertyNames_apart
-/
import RpcTools.Proofs.FieldPieces
import RpcTools.Proofs.ParameterNames

namespace RpcTools

open Descriptor (foldedName qualified)

/-! ### What a name keeps

Underscores get lost, letters change their case and a `$` may be added.  Nothing else happens to
the characters of ASCII, so both names of a field are the same to whoever disregards
underscores, case and the `$`. -/

/-- A name is spelled with letters, digits and underscores of ASCII. -/
def PlainlySpelled (name : String) : Prop :=
  ∀ character ∈ name.toList, character.isAlphanum = true ∨ character = '_'

instance (name : String) : Decidable (PlainlySpelled name) :=
  List.decidableBAll (fun character : Char => character.isAlphanum = true ∨ character = '_')
    name.toList

namespace Text

theorem isAscii_of_isAlphanum {character : Char} (plain : character.isAlphanum = true) :
    isAscii character = true := by
  have atMost : character.toNat ≤ 122 := by
    rcases Bool.or_eq_true_iff.1 plain with letter | digit
    · rcases Bool.or_eq_true_iff.1 letter with capital | small
      · have bounds := of_decide_eq_true capital
        have atMost : character.toNat ≤ 90 := bounds.2
        omega
      · exact (isLower_bounds small).2
    · have below := of_decide_eq_true (Bool.and_eq_true_iff.1 digit).2
      have atMost : character.toNat ≤ 57 := below
      omega
  simp only [isAscii, decide_eq_true_eq]
  omega

/-- The case of a letter is not seen in its small form. -/
theorem toLower_toUpper {character : Char} (ascii : isAscii character = true) :
    character.toUpper.toLower = character.toLower :=
  forall_isAscii (motive := fun character => character.toUpper.toLower = character.toLower)
    (by decide) ascii

/-- Letters and digits are told from a `$` in their small form as well. -/
theorem toLower_ne_dollar {character : Char} (plain : character.isAlphanum = true) :
    character.toLower ≠ '$' :=
  forall_isAscii
    (motive := fun character => character.isAlphanum = true → character.toLower ≠ '$')
    (by decide) (isAscii_of_isAlphanum plain) plain

end Text

section Characters

variable {characters : List Char}

/-- All that a name loses but its underscores is the case of letters. -/
theorem map_toLower_camelCased
    (plain : ∀ character ∈ characters, character.isAlphanum = true ∨ character = '_')
    (capital : Bool) :
    (camelCased capital characters).map Char.toLower =
      (characters.filter (· != '_')).map Char.toLower := by
  induction characters generalizing capital with
  | nil => rfl
  | cons character rest inductionHypothesis =>
      obtain ⟨here, plainRest⟩ := List.forall_mem_cons.1 plain
      have onwards := inductionHypothesis plainRest
      by_cases underscore : character = '_'
      · subst underscore
        rw [camelCased_underscore, onwards]
        rfl
      · have ascii := Text.isAscii_of_isAlphanum (here.resolve_right underscore)
        have kept : (character :: rest).filter (· != '_') =
            character :: rest.filter (· != '_') := by
          simp [underscore]
        rw [kept, List.map_cons, ← onwards false]
        cases capital with
        | false => rw [camelCased_kept underscore, List.map_cons]
        | true =>
            cases digit : character.isDigit with
            | true => rw [camelCased_digit true digit, List.map_cons]
            | false =>
                rw [camelCased_raised underscore digit, Text.upperForm_of_isAscii ascii,
                  List.singleton_append, List.map_cons, Text.toLower_toUpper ascii]

theorem dollar_not_mem_camelCased
    (plain : ∀ character ∈ characters, character.isAlphanum = true ∨ character = '_')
    (capital : Bool) : '$' ∉ camelCased capital characters := by
  intro member
  have small : Char.toLower '$' ∈ (camelCased capital characters).map Char.toLower :=
    List.mem_map_of_mem member
  rw [map_toLower_camelCased plain] at small
  obtain ⟨character, kept, same⟩ := List.mem_map.1 small
  obtain ⟨inName, noUnderscore⟩ := List.mem_filter.1 kept
  have alphanumeric := (plain character inName).resolve_right (by simpa using noUnderscore)
  exact Text.toLower_ne_dollar alphanumeric same

end Characters

/-- The `$` can be told from all that a name has without it. -/
theorem eq_of_setApart_eq {name other : String} (unmarked : '$' ∉ name.toList)
    (otherUnmarked : '$' ∉ other.toList) (same : setApart name = setApart other) :
    name = other := by
  unfold setApart at same
  split at same <;> split at same
  · exact String.append_left_inj "$" |>.1 same
  · rw [← same] at otherUnmarked
    simp at otherUnmarked
  · rw [same] at unmarked
    simp at unmarked
  · exact same

/-- Generated code knows two fields by one name only if their declared names conflict. -/
theorem foldedName_eq_of_propertyName_eq {name other : String} (plain : PlainlySpelled name)
    (otherPlain : PlainlySpelled other) (same : propertyName name = propertyName other) :
    foldedName name = foldedName other := by
  rw [propertyName_eq_setApart, propertyName_eq_setApart] at same
  have camel := eq_of_setApart_eq
    (by simpa using dollar_not_mem_camelCased plain false)
    (by simpa using dollar_not_mem_camelCased otherPlain false) same
  rw [String.ofList_inj] at camel
  rw [foldedName, foldedName, ← map_toLower_camelCased plain false, camel,
    map_toLower_camelCased otherPlain]

/-! ### Fields of one message -/

/-- The fields of a message are plainly spelled, and no two of their names conflict: they differ
in more than underscores and the case of letters. -/
structure FieldsApart (message : Descriptor.Message) : Prop where
  spelled : ∀ described ∈ message.fields, PlainlySpelled described.name
  apart : (message.fields.map fun described => foldedName described.name).Nodup

/-- Every field of the message has a name of its own in generated code. -/
theorem FieldsApart.nodup_propertyNames {message : Descriptor.Message}
    (apart : FieldsApart message) :
    (message.fields.map fun described => propertyName described.name).Nodup := by
  have folded := List.pairwise_map.1 apart.apart
  refine List.pairwise_map.2 (folded.imp_of_mem ?_)
  intro described other member otherMember different same
  exact different (foldedName_eq_of_propertyName_eq (apart.spelled described member)
    (apart.spelled other otherMember) same)

namespace Pool

variable {pool : Pool}

/-- In a file of proto3 no two fields of a message have names that conflict. -/
theorem nodup_foldedNames {file : Descriptor.File} {fullName : String}
    {message : Descriptor.Message} (member : file ∈ pool.files) (proto3 : file.isProto3 = true)
    (inFile : (fullName, message) ∈ file.allMessages) :
    (message.fields.map fun described => foldedName described.name).Nodup := by
  have faultless := messageFaults_eq_nil member inFile
  simp only [Descriptor.messageFaults, List.append_eq_nil_iff, violation_eq_nil_iff] at faultless
  simpa [proto3] using faultless.1.1.1.1.2

/-- The arguments of a method are the fields of the message that it receives. -/
theorem Receives.nodup_argumentNames {service : Service} {method : Method}
    {message : Descriptor.Message} (receives : pool.Receives service method message)
    (apart : FieldsApart message) : method.argumentNames.Nodup := by
  have names := receives.perm_inputFields.map Prod.fst
  rw [List.map_map, List.map_map] at names
  exact names.nodup_iff.2 apart.nodup_propertyNames

end Pool

/-- Two plainly spelled names that generated code makes one are one without their underscores in
small letters.  So where the fields of a message do not conflict, which proto3 asks of all its
messages, no two of them share an argument or a parameter of a tool. -/
theorem propertyNames_apart :
    (∀ name other : String, PlainlySpelled name → PlainlySpelled other →
      propertyName name = propertyName other → foldedName name = foldedName other) ∧
    (∀ (generator : Generator) (files : List ProtoFile) (service : Service) (method : Method)
      (tool : Tool) (generated : GeneratedModule) (pool : Pool) (message : Descriptor.Message),
      generator.Emits files service method tool generated →
      pool.Receives service method message → FieldsApart message →
      method.argumentNames.Nodup ∧ (tool.parameters.tail.map (·.name)).Nodup) ∧
    ∀ (pool : Pool) (file : Descriptor.File) (fullName : String) (message : Descriptor.Message),
      file ∈ pool.files → file.isProto3 = true → (fullName, message) ∈ file.allMessages →
      (message.fields.map fun described => foldedName described.name).Nodup := by
  refine ⟨fun _ _ => foldedName_eq_of_propertyName_eq, ?_, fun _ _ _ _ => Pool.nodup_foldedNames⟩
  intro generator files service method tool generated pool message emits receives apart
  have arguments := receives.nodup_argumentNames apart
  obtain ⟨parameters, listed, agree⟩ := emits.exists_parameters
  refine ⟨arguments, ?_⟩
  rw [listed, List.tail_cons, map_name_of_agree agree]
  exact nodup_requiredFields arguments

/-- A message with a text that is named like a property of every object, and with another
text. -/
def apartMessage : Descriptor.Message :=
  Environment.bareMessage "Ask"
    [Environment.bareField "to_string", { Environment.bareField "set_id" with number := 2 }] []

def apartMethod : Descriptor.Method := ⟨"Get", "Ask", "Answer", false, false, .empty⟩

def apartService : Descriptor.Service := ⟨"S", [apartMethod], .empty⟩

/-- A file of proto3 whose method receives this message. -/
def apartFile : Descriptor.File :=
  { Environment.bareFile "/services/v1/command" "p" []
      [apartMessage, Environment.bareMessage "Answer" [] []] [apartService] with
    syntaxName := some "proto3" }

def apartPool : Pool := ⟨[apartFile], by decide +kernel⟩

/-- The two texts as generated code knows them. -/
def apartFields : List Field :=
  [.single "toString$" (.scalar .string), .single "setId" (.scalar .string)]

theorem receives_apartMessage :
    apartPool.Receives (askedService apartFields) (askedMethod apartFields) apartMessage := by
  have inPool : apartFile ∈ apartPool.files := List.mem_singleton_self _
  have inFile : apartService ∈ apartFile.services := List.mem_singleton_self _
  have inService : apartMethod ∈ apartService.methods := List.mem_singleton_self _
  have mirrors := Pool.methodMirrors_methodOf inPool inFile inService
  have asked : apartPool.methodOf (apartPool.viewFrom apartFile)
      (qualified apartFile.package apartService.name) apartMethod = askedMethod apartFields := by
    decide +kernel
  rw [asked] at mirrors
  exact .of inPool inFile inService rfl mirrors rfl

theorem propertyNames_apart_toString :
    (PlainlySpelled "to_string" ∧ PlainlySpelled "toString_" ∧
      propertyName "to_string" = propertyName "toString_" ∧
      foldedName "to_string" = foldedName "toString_") ∧
    (smallGenerator.Emits [askedFile apartFields] (askedService apartFields)
        (askedMethod apartFields)
        (askedTool apartFields [⟨"toString$", .string⟩, ⟨"setId", .string⟩])
        (smallGenerator.madeOf (some (askedFile apartFields))) ∧
      apartPool.Receives (askedService apartFields) (askedMethod apartFields) apartMessage ∧
      FieldsApart apartMessage ∧ (askedMethod apartFields).argumentNames.Nodup ∧
      ((askedTool apartFields [⟨"toString$", .string⟩, ⟨"setId", .string⟩]).parameters.tail.map
        (·.name)).Nodup) ∧
    apartFile ∈ apartPool.files ∧ apartFile.isProto3 = true ∧
      ("p.Ask", apartMessage) ∈ apartFile.allMessages ∧
      (apartMessage.fields.map fun described => foldedName described.name).Nodup := by
  have spelled : PlainlySpelled "to_string" := by decide
  have otherSpelled : PlainlySpelled "toString_" := by decide
  have same : propertyName "to_string" = propertyName "toString_" := by decide
  have emits : smallGenerator.Emits [askedFile apartFields] (askedService apartFields)
      (askedMethod apartFields)
      (askedTool apartFields [⟨"toString$", .string⟩, ⟨"setId", .string⟩])
      (smallGenerator.madeOf (some (askedFile apartFields))) :=
    emits_asked rfl
  have inPool : apartFile ∈ apartPool.files := List.mem_singleton_self _
  have inFile : ("p.Ask", apartMessage) ∈ apartFile.allMessages := List.mem_cons_self
  have folded := propertyNames_apart.2.2 apartPool apartFile "p.Ask" apartMessage inPool rfl inFile
  have apart : FieldsApart apartMessage := ⟨by decide, folded⟩
  exact ⟨⟨spelled, otherSpelled, same, propertyNames_apart.1 _ _ spelled otherSpelled same⟩,
    ⟨emits, receives_apartMessage, apart,
      propertyNames_apart.2.1 _ _ _ _ _ _ _ _ emits receives_apartMessage apart⟩,
    inPool, rfl, inFile, folded⟩

end RpcTools
