/-
Module: RpcTools.Proofs.EmittedTools
Purpose: The tools that stand in a generated module, and the messages of the descriptors that
  their methods receive.
Main exports: Generator.Emits, Generator.Emits.body_eq, Generator.Emits.exists_parameters,
  Pool.Receives, Generator.Emits.exists_receives, askedRequest, emits_asked
-/
import RpcTools.Proofs.DependencyServices
import RpcTools.Proofs.MethodOutcome
import RpcTools.Proofs.SchemaCorrespondence

namespace RpcTools

open Descriptor (qualified)

/-! ### Texts of tools -/

/-- A piece stands in the text that it is joined into. -/
theorem infix_join_of_mem {piece : String} {pieces : List String} (member : piece ∈ pieces) :
    piece.toList <:+: (String.join pieces).toList := by
  obtain ⟨before, after, rfl⟩ := List.append_of_mem member
  rw [String.join_append, String.join_cons, String.toList_append, String.toList_append,
    ← List.append_assoc]
  exact ⟨_, _, rfl⟩

/-- A tool stands in the text of its service's section. -/
theorem infix_groupText {group : ToolGroup} {tool : String} (member : tool ∈ group.tools) :
    tool.toList <:+: (groupText group).toList := by
  have inLine : tool.toList <:+: (tool ++ ",\n").toList := by
    rw [String.toList_append]
    exact (List.prefix_append _ _).isInfix
  have inLines : tool ++ ",\n" ∈ group.tools.map fun tool => tool ++ ",\n" :=
    List.mem_map.2 ⟨tool, member, rfl⟩
  unfold groupText
  exact inLine.trans ((infix_join_of_mem inLines).trans
    (infix_join_of_mem (.tail _ (.tail _ (.tail _ (.tail _ (.tail _ (.head _))))))))

/-- The form of a method that has a body tells whether a stream is iterated. -/
theorem eq_executeLines_of_plainBody? {invocation : Invocation} {method : Method}
    {callName body : String} {arguments : List String}
    (executes : plainBody? invocation method.name callName arguments
      (CallPattern.ofMethod method).bodyForm = some body) :
    body = executeLines invocation method.name callName arguments
      (CallPattern.ofMethod method).isPureList := by
  cases convention : method.convention with
  | unary =>
      simp only [plainBody?, CallPattern.bodyForm, CallPattern.ofMethod, convention] at executes ⊢
      exact (Option.some.inj executes).symm
  | serverStreaming =>
      simp only [CallPattern.bodyForm, CallPattern.ofMethod, convention, decide_true,
        Bool.true_and] at executes ⊢
      cases list : CallPattern.isSingleList method.outputFields with
      | true =>
          rw [list] at executes
          exact (Option.some.inj executes).symm
      | false =>
          rw [list] at executes
          cases executes
  | clientStreaming =>
      simp only [CallPattern.bodyForm, CallPattern.ofMethod, convention] at executes
      cases executes
  | bidiStreaming =>
      simp only [CallPattern.bodyForm, CallPattern.ofMethod, convention] at executes
      cases executes

/-! ### Tools of a module -/

/-- A run makes a module in which the tool of a method stands. -/
inductive Generator.Emits (generator : Generator) (files : List ProtoFile) (service : Service)
    (method : Method) (tool : Tool) : GeneratedModule → Prop where
  | of {commandFile : ProtoFile} {generated : GeneratedModule}
      (generates : (generator.generate files).result = .ok (some generated))
      (selected : (generator.commandFileOf files).result = .ok (some commandFile))
      (declared : service ∈ commandFile.services) (received : method ∈ service.methods)
      (assembled : toolOf TemplateStore.builtIn generator.config.invocation service.name method =
        .ok (.tool tool)) :
      generator.Emits files service method tool generated

namespace Generator.Emits

variable {generator : Generator} {files : List ProtoFile} {service : Service} {method : Method}
  {tool : Tool} {generated : GeneratedModule}

/-- The tool was made of the fields that have to be given and of the calling convention. -/
theorem outcome (emits : generator.Emits files service method tool generated) :
    MethodOutcome.Of generator.config.invocation service.name method (.tool tool) := by
  cases emits with
  | of _ _ _ _ assembled =>
      rw [toolOf_builtIn] at assembled
      exact plainOutcome_eq_iff.1 (Except.ok.inj assembled)

/-- Behind the account a tool has one parameter for each field that has to be given. -/
theorem exists_parameters (emits : generator.Emits files service method tool generated) :
    ∃ parameters, tool.parameters = accountParameter :: parameters ∧
      List.Forall₂ Field.ParameterAgrees method.requiredFields parameters := by
  cases emits.outcome with
  | tool unobstructed invocable agree executes => exact ⟨_, rfl, agree⟩

/-- What a tool executes iterates exactly the streams that hold one list. -/
theorem body_eq (emits : generator.Emits files service method tool generated) :
    tool.body = executeLines generator.config.invocation method.name tool.name
      method.argumentNames (CallPattern.ofMethod method).isPureList := by
  cases emits.outcome with
  | tool unobstructed invocable agree executes => exact eq_executeLines_of_plainBody? executes

/-- The tool stands in the module behind its head. -/
theorem exists_content (emits : generator.Emits files service method tool generated) :
    ∃ tools, generated.content = String.join (preamblePieces generator.config) ++ tools ∧
      (toolLiteral tool).toList <:+: tools.toList := by
  cases emits with
  | @of commandFile _ generates selected declared received assembled =>
      obtain ⟨chosen, opening, selects, rfl, _⟩ := exists_commandFile generates
      rw [selects] at selected
      obtain rfl : chosen = some commandFile := Except.ok.inj selected
      refine ⟨_, by rw [madeOf, plainModule], ?_⟩
      rw [toolOf_builtIn] at assembled
      have inGroup : toolLiteral tool ∈ (plainGroup generator.config.invocation service).tools :=
        List.mem_filterMap.2 ⟨method, received, by rw [Except.ok.inj assembled]⟩
      have inModule :
          plainGroup generator.config.invocation service ∈
            (generator.sectionsOf (some commandFile)).map (·.group) := by
        rw [groups_sectionsOf]
        exact List.mem_map_of_mem declared
      exact (infix_groupText inGroup).trans
        ((infix_join_of_mem (List.mem_map_of_mem inModule)).trans
          (infix_join_of_mem (.tail _ (.tail _ (.tail _ (.head _))))))

end Generator.Emits

/-! ### What methods receive -/

namespace Pool

/-- A method of a service is one of a descriptor, and a message is the one that this descriptor
names for its request. -/
inductive Receives (pool : Pool) (service : Service) (method : Method)
    (message : Descriptor.Message) : Prop where
  | of {file : Descriptor.File} {describedService : Descriptor.Service}
      {describedMethod : Descriptor.Method} {declaration : Declaration}
      (member : file ∈ pool.files) (inFile : describedService ∈ file.services)
      (inService : describedMethod ∈ describedService.methods)
      (named : service.name = describedService.name)
      (mirrors : pool.MethodMirrors (pool.viewFrom file)
        (qualified file.package describedService.name) describedMethod method)
      (refers : (pool.viewFrom file).message?
        (qualified (qualified file.package describedService.name) describedMethod.name)
        describedMethod.inputType = some (declaration, message)) :
      Receives pool service method message

namespace Receives

variable {pool : Pool} {service : Service} {method : Method} {message : Descriptor.Message}

/-- The fields of the request are those of the message, each under its own name. -/
theorem exists_mirrors (receives : pool.Receives service method message) :
    ∃ (declaring : Descriptor.File) (declaration : Declaration)
      (listed : List Descriptor.Field),
      declaring ∈ pool.files ∧ listed.Perm message.fields ∧
        List.Forall₂ (pool.FieldMirrors (pool.viewFrom declaring) declaration.fullName) listed
          method.inputFields := by
  cases receives with
  | of member inFile inService named mirrors refers =>
      cases mirrors.request with
      | of found declaredBy complete _ fields _ =>
          rw [refers] at found
          obtain ⟨rfl, rfl⟩ := Prod.mk.inj (Option.some.inj found)
          exact ⟨_, _, _, declaredBy.member, complete, fields⟩

/-- Every field of the request is one of the message. -/
theorem exists_mirrored (receives : pool.Receives service method message) {field : Field}
    (member : field ∈ method.inputFields) :
    ∃ (declaring : Descriptor.File) (declaration : Declaration),
      declaring ∈ pool.files ∧ ∃ described ∈ message.fields,
        pool.FieldMirrors (pool.viewFrom declaring) declaration.fullName described field := by
  obtain ⟨declaring, declaration, listed, inPool, complete, mirrors⟩ := receives.exists_mirrors
  obtain ⟨described, inListed, mirror⟩ := exists_of_mem_forall₂ mirrors.flip member
  exact ⟨declaring, declaration, inPool, described, complete.mem_iff.1 inListed, mirror⟩

/-- What can be told from the name and the marker of a field can be told from those of its
descriptor. -/
theorem perm_inputFields (receives : pool.Receives service method message) :
    (method.inputFields.map fun field => (field.propertyName, field.isOptional)).Perm
      (message.fields.map fun described =>
        (propertyName described.name, described.proto3Optional)) := by
  obtain ⟨_, _, listed, _, complete, mirrors⟩ := receives.exists_mirrors
  have pairs :
      List.Forall₂ Eq
        (listed.map fun described => (propertyName described.name, described.proto3Optional))
        (method.inputFields.map fun field => (field.propertyName, field.isOptional)) := by
    rw [List.forall₂_map_left_iff, List.forall₂_map_right_iff]
    exact mirrors.imp fun _ _ mirror => by rw [mirror.name, mirror.optional]
  rw [List.forall₂_eq_eq_eq] at pairs
  rw [← pairs]
  exact complete.map _

theorem forall_inputFields_iff (receives : pool.Receives service method message)
    (holds : String → Bool → Prop) :
    (∀ field ∈ method.inputFields, holds field.propertyName field.isOptional) ↔
      ∀ described ∈ message.fields,
        holds (propertyName described.name) described.proto3Optional := by
  have same := receives.perm_inputFields
  constructor
  · intro each described member
    obtain ⟨field, inRequest, written⟩ :=
      List.mem_map.1 (same.mem_iff.2 (List.mem_map_of_mem member))
    obtain ⟨name, marker⟩ := Prod.mk.inj written
    rw [← name, ← marker]
    exact each field inRequest
  · intro each field member
    obtain ⟨described, inMessage, written⟩ :=
      List.mem_map.1 (same.mem_iff.1 (List.mem_map_of_mem member))
    obtain ⟨name, marker⟩ := Prod.mk.inj written
    rw [← name, ← marker]
    exact each described inMessage

end Receives

/-- Every method of a schema receives a message of the descriptors. -/
theorem receives_methodOf {pool : Pool} {file : Descriptor.File}
    {service : Descriptor.Service} {method : Descriptor.Method} (member : file ∈ pool.files)
    (inFile : service ∈ file.services) (inService : method ∈ service.methods) :
    ∃ message, pool.Receives (pool.serviceOf (pool.viewFrom file) file.package service)
      (pool.methodOf (pool.viewFrom file) (qualified file.package service.name) method)
      message := by
  obtain ⟨declaration, message, sends⟩ :=
    exists_message member inFile inService method.inputType (.inl rfl)
  exact ⟨message, .of member inFile inService rfl
    (methodMirrors_methodOf member inFile inService) sends⟩

end Pool

namespace Generator.Emits

variable {generator : Generator} {descriptors : List Descriptor.File} {files : List ProtoFile}
  {service : Service} {method : Method} {tool : Tool} {generated : GeneratedModule}

/-- A method with a tool receives a message of the descriptors that the schema is read
from. -/
theorem exists_receives (emits : generator.Emits files service method tool generated)
    (read : ReadFrom descriptors files) :
    ∃ (pool : Pool) (message : Descriptor.Message),
      pool.files = descriptors ∧ pool.Receives service method message := by
  cases emits with
  | of generates selected declared received assembled =>
      obtain ⟨pool, whole, each⟩ := read.exists_pool
      obtain ⟨file, member, rfl⟩ := each _ (mem_of_commandFileOf selected)
      obtain ⟨describedService, inFile, rfl⟩ := List.mem_map.1 declared
      obtain ⟨describedMethod, inService, rfl⟩ := List.mem_map.1 received
      obtain ⟨message, receives⟩ := Pool.receives_methodOf member inFile inService
      exact ⟨pool, message, whole, receives⟩

end Generator.Emits

/-! ### A module with one tool -/

/-- A method that receives some fields. -/
def askedMethod (fields : List Field) : Method where
  name := "Get"
  convention := .unary
  inputFields := fields
  outputFields := []

def askedService (fields : List Field) : Service where
  name := "S"
  methods := [askedMethod fields]

/-- A command file with this method alone. -/
def askedFile (fields : List Field) : ProtoFile where
  path := "/services/v1/command"
  services := [askedService fields]

/-- Its tool. -/
def askedTool (fields : List Field) (parameters : List Parameter) : Tool where
  name := "get"
  label := "Get"
  description := "rpc service: S, method: Get"
  parameters := accountParameter :: parameters
  body := executeLines smallGenerator.config.invocation "Get" "get"
    (fields.map (·.propertyName)) false

theorem commandFileOf_asked (fields : List Field) :
    smallGenerator.commandFileOf [askedFile fields] =
      ⟨.ok (some (askedFile fields)), [.commandFileSelected "/services/v1/command"]⟩ := by
  have matching : smallGenerator.matchesPattern (askedFile fields) = true := by
    change Text.contains "/services/v1/command" _ = true
    decide +kernel
  have undesignated : smallGenerator.config.commandFile = none := rfl
  simp only [Generator.commandFileOf, undesignated, List.filter_cons, matching, if_true,
    List.filter_nil]
  rfl

theorem generate_asked (fields : List Field) :
    (smallGenerator.generate [askedFile fields]).result =
      .ok (some (smallGenerator.madeOf (some (askedFile fields)))) := by
  have marked : smallGenerator.hasServices (askedFile fields) = true := by
    change Text.contains "/services/v1/command" _ = true
    decide +kernel
  rw [Generator.generate_of_commandFile (by simp [marked]) (commandFileOf_asked fields)]

theorem emits_asked {fields : List Field} {parameters : List Parameter}
    (typed : parametersOf (askedMethod fields) = .ok (accountParameter :: parameters)) :
    smallGenerator.Emits [askedFile fields] (askedService fields) (askedMethod fields)
      (askedTool fields parameters) (smallGenerator.madeOf (some (askedFile fields))) := by
  have called : (ToolNames.ofMethod "S" "Get").callName = "get" := by decide +kernel
  have shown : (ToolNames.ofMethod "S" "Get").label = "Get" := by decide +kernel
  have described :
      toString "rpc service: " ++ toString "S" ++ toString ", method: " ++ toString "Get" =
        "rpc service: S, method: Get" := by
    decide
  refine .of (generate_asked fields) (by rw [commandFileOf_asked]) List.mem_cons_self
    List.mem_cons_self ?_
  rw [toolOf_builtIn, plainOutcome, typed]
  simp only [askedService, askedMethod, called, shown, described]
  rfl

/-- A scalar as the only field that is received. -/
def onlyScalar (propertyName : String) (scalarType : ScalarType) : List Field :=
  [.single propertyName (.scalar scalarType)]

theorem emits_onlyScalar (name : String) (scalarType : ScalarType) :
    smallGenerator.Emits [askedFile (onlyScalar name scalarType)]
      (askedService (onlyScalar name scalarType)) (askedMethod (onlyScalar name scalarType))
      (askedTool (onlyScalar name scalarType) [⟨name, .ofScalar scalarType⟩])
      (smallGenerator.madeOf (some (askedFile (onlyScalar name scalarType)))) :=
  emits_asked rfl

/-- A request for the command file, whose method receives a message with some fields.  Other
files may declare types for them, as may the command file. -/
def askedRequest (others : List Descriptor.File) (enumerations : List Descriptor.Enumeration)
    (fields : List Descriptor.Field) : Descriptor.Request where
  filesToGenerate := ["/services/v1/command"]
  parameter := none
  files := others ++
    [{ Environment.bareFile "/services/v1/command" "p" (others.map (·.path))
        [Environment.bareMessage "Ask" fields [], Environment.bareMessage "Answer" [] []]
        [⟨"S", [⟨"Get", "Ask", "Answer", false, false, .empty⟩], .empty⟩] with
      enumerations }]

/-- The descriptors of a message with one scalar as its only field. -/
def onlyScalarFiles (name : String) (scalarType : ScalarType) : List Descriptor.File :=
  (askedRequest [] []
    [{ Environment.bareField name with typeCode := some scalarType.code }]).files

theorem readFrom_setId : ReadFrom (onlyScalarFiles "set_id" .string)
    [askedFile (onlyScalar "setId" .string)] :=
  .request rfl (by decide +kernel)

end RpcTools
