/-
Module: RpcTools.Proofs.ToolNameCollisions
Purpose: When two methods are called by one name, and when all the tools of a run have names of
  their own.
Main exports: CalledMethod, CalledMethod.Collides, CalledMethod.callName_eq_iff,
  Generator.makersOf, toolNames_distinct_iff
-/
import RpcTools.Proofs.ExportedNames
import RpcTools.Proofs.GenerationRun

namespace RpcTools

/-! ### Capitals -/

/-- A name that begins with a capital of ASCII. -/
def StartsCapital (name : String) : Prop :=
  ∃ first rest, name.toList = first :: rest ∧ first.isUpper = true

namespace Text

theorem isAscii_of_isUpper {character : Char} (capital : character.isUpper = true) :
    isAscii character = true := by
  have bounds := of_decide_eq_true capital
  have atMost : character.toNat ≤ 90 := bounds.2
  simp only [isAscii, decide_eq_true_eq]
  omega

/-- A capital can be told from its small letter. -/
theorem toUpper_toLower {character : Char} (capital : character.isUpper = true) :
    character.toLower.toUpper = character :=
  forall_isAscii
    (motive := fun character => character.isUpper = true → character.toLower.toUpper = character)
    (by decide) (isAscii_of_isUpper capital) capital

theorem toList_uncapitalized {name : String} {first : Char} {rest : List Char}
    (spelled : name.toList = first :: rest) (capital : first.isUpper = true) :
    (uncapitalized name).toList = first.toLower :: rest := by
  simp [uncapitalized, spelled, lowerForm_of_isAscii (isAscii_of_isUpper capital)]

end Text

/-- The small first letter is the only thing that gets lost of a name with a capital. -/
theorem uncapitalized_eq_iff {name other : String} (capital : StartsCapital name)
    (otherCapital : StartsCapital other) :
    Text.uncapitalized name = Text.uncapitalized other ↔ name = other := by
  refine ⟨fun same => ?_, fun same => by rw [same]⟩
  obtain ⟨first, rest, spelled, upper⟩ := capital
  obtain ⟨initial, others, otherSpelled, otherUpper⟩ := otherCapital
  have letters : first.toLower :: rest = initial.toLower :: others := by
    rw [← Text.toList_uncapitalized spelled upper, same,
      Text.toList_uncapitalized otherSpelled otherUpper]
  obtain ⟨sameLetter, rfl⟩ := List.cons.inj letters
  have sameFirst : first = initial := by
    rw [← Text.toUpper_toLower upper, sameLetter, Text.toUpper_toLower otherUpper]
  rw [← String.toList_inj, spelled, otherSpelled, sameFirst]

/-- A name is found among those that begin with `admin` only if it begins with `Admin`. -/
theorem admin_eq_uncapitalized_iff {name other : String} (capital : StartsCapital other) :
    "admin" ++ name = Text.uncapitalized other ↔ other = "Admin" ++ name := by
  constructor
  · intro same
    obtain ⟨first, rest, spelled, upper⟩ := capital
    have letters : 'a' :: ("dmin".toList ++ name.toList) = first.toLower :: rest := by
      rw [← Text.toList_uncapitalized spelled upper, ← same, String.toList_append]
      rfl
    obtain ⟨sameLetter, rfl⟩ := List.cons.inj letters
    have isA : first = 'A' := by
      rw [← Text.toUpper_toLower upper, ← sameLetter]
      rfl
    rw [← String.toList_inj, spelled, isA, String.toList_append]
    rfl
  · rintro rfl
    have spelled : ("Admin" ++ name).toList = 'A' :: ("dmin".toList ++ name.toList) := by
      rw [String.toList_append]
      rfl
    rw [← String.toList_inj, Text.toList_uncapitalized spelled rfl, String.toList_append]
    rfl

/-! ### Methods that are called by one name -/

/-- A method by its own name and that of its service. -/
structure CalledMethod where
  service : String
  name : String
deriving DecidableEq

namespace CalledMethod

/-- The name that the method is called by. -/
def callName (method : CalledMethod) : String :=
  (ToolNames.ofMethod method.service method.name).callName

/-- The method's service ends with `AdminService`. -/
def OfAdmin (method : CalledMethod) : Prop :=
  "AdminService".toList <:+ method.service.toList

/-- Two methods have names that fall together: one name in services of one kind, or a name of
an admin service and the same name with `Admin` before it in another service. -/
inductive Collides (method other : CalledMethod) : Prop where
  | sameName (kind : method.OfAdmin ↔ other.OfAdmin) (name : method.name = other.name) :
      Collides method other
  | prefixedOther (admin : method.OfAdmin) (plain : ¬ other.OfAdmin)
      (name : other.name = "Admin" ++ method.name) : Collides method other
  | prefixedSelf (plain : ¬ method.OfAdmin) (admin : other.OfAdmin)
      (name : method.name = "Admin" ++ other.name) : Collides method other

variable {method other : CalledMethod}

theorem callName_of_admin (admin : method.OfAdmin) : method.callName = "admin" ++ method.name :=
  if_pos (List.isSuffixOf_iff_suffix.2 admin)

theorem callName_of_not_admin (plain : ¬ method.OfAdmin) :
    method.callName = Text.uncapitalized method.name :=
  if_neg fun admin => plain (List.isSuffixOf_iff_suffix.1 admin)

/-- Two methods with capitals are called by one name exactly if their names fall together. -/
theorem callName_eq_iff (capital : StartsCapital method.name)
    (otherCapital : StartsCapital other.name) :
    method.callName = other.callName ↔ method.Collides other := by
  by_cases admin : method.OfAdmin <;> by_cases otherAdmin : other.OfAdmin
  · rw [callName_of_admin admin, callName_of_admin otherAdmin, String.append_right_inj]
    constructor
    · exact .sameName (iff_of_true admin otherAdmin)
    · rintro (⟨_, name⟩ | ⟨_, plain, _⟩ | ⟨plain, _, _⟩)
      · exact name
      · exact absurd otherAdmin plain
      · exact absurd admin plain
  · rw [callName_of_admin admin, callName_of_not_admin otherAdmin,
      admin_eq_uncapitalized_iff otherCapital]
    constructor
    · exact .prefixedOther admin otherAdmin
    · rintro (⟨kind, _⟩ | ⟨_, _, name⟩ | ⟨plain, _, _⟩)
      · exact absurd (kind.1 admin) otherAdmin
      · exact name
      · exact absurd admin plain
  · rw [callName_of_not_admin admin, callName_of_admin otherAdmin, eq_comm,
      admin_eq_uncapitalized_iff capital]
    constructor
    · exact .prefixedSelf admin otherAdmin
    · rintro (⟨kind, _⟩ | ⟨isAdmin, _, _⟩ | ⟨_, _, name⟩)
      · exact absurd (kind.2 otherAdmin) admin
      · exact absurd isAdmin admin
      · exact name
  · rw [callName_of_not_admin admin, callName_of_not_admin otherAdmin,
      uncapitalized_eq_iff capital otherCapital]
    constructor
    · exact .sameName (iff_of_false admin otherAdmin)
    · rintro (⟨_, name⟩ | ⟨isAdmin, _, _⟩ | ⟨_, isAdmin, _⟩)
      · exact name
      · exact absurd isAdmin admin
      · exact absurd isAdmin otherAdmin

end CalledMethod

/-! ### The names of a run's tools -/

/-- Whether a method makes a tool. -/
def makesTool (invocation : Invocation) (service : String) (method : Method) : Bool :=
  match toolOf TemplateStore.builtIn invocation service method with
  | .ok (.tool _) => true
  | .ok (.skipped _) | .error _ => false

/-- The methods of a service that make tools, in their order. -/
def Service.makers (invocation : Invocation) (service : Service) : List CalledMethod :=
  (service.methods.filter (makesTool invocation service.name)).map fun method =>
    ⟨service.name, method.name⟩

/-- A method leaves a tool in the module exactly if it makes one, and the tool has the name that
the method is called by. -/
theorem map_name_tool (invocation : Invocation) (service : String) (method : Method) :
    (methodTrace invocation service method).tool.map (·.name) =
      if makesTool invocation service method then
        some (CalledMethod.callName ⟨service, method.name⟩)
      else none := by
  rw [makesTool, toolOf_builtIn, methodTrace]
  cases outcome : plainOutcome invocation service method with
  | tool tool => exact congrArg some (plainOutcome_tool_name outcome)
  | skipped reason => rfl

theorem map_callName_makers (invocation : Invocation) (service : Service) :
    (service.makers invocation).map CalledMethod.callName =
      ((serviceTrace invocation service).methods.filterMap (·.tool)).map (·.name) := by
  rw [Service.makers, serviceTrace, List.filterMap_map, List.map_filterMap, List.map_map]
  induction service.methods with
  | nil => rfl
  | cons method rest inductionHypothesis =>
      rw [List.filter_cons, List.filterMap_cons, Function.comp_apply, map_name_tool]
      split
      · rw [List.map_cons, inductionHypothesis]
        rfl
      · exact inductionHypothesis

namespace Generator

variable {generator : Generator} {files : List ProtoFile}

/-- The methods of a command file that make tools, one service after the other. -/
def makersOf (generator : Generator) (commandFile : Option ProtoFile) : List CalledMethod :=
  (servicesOf commandFile).flatMap (·.makers generator.config.invocation)

theorem emitted_eq_makersOf (generator : Generator) (commandFile : Option ProtoFile) :
    (generator.reportOf commandFile).emitted =
      (generator.makersOf commandFile).map CalledMethod.callName := by
  rw [emitted_reportOf, tracesOf, sectionsOf, makersOf, List.map_flatMap, List.flatMap_map,
    List.filterMap_flatMap, List.map_flatMap]
  simp only [map_callName_makers]

/-- Methods that make tools are methods of the command file. -/
theorem exists_of_mem_makersOf {commandFile : Option ProtoFile} {maker : CalledMethod}
    (member : maker ∈ generator.makersOf commandFile) :
    ∃ service ∈ servicesOf commandFile, ∃ method ∈ service.methods,
      maker = ⟨service.name, method.name⟩ := by
  obtain ⟨service, inFile, made⟩ := List.mem_flatMap.1 member
  obtain ⟨method, filtered, rfl⟩ := List.mem_map.1 made
  exact ⟨service, inFile, method, List.mem_of_mem_filter filtered, rfl⟩

end Generator

/-- Two methods with capitals are called by one name exactly if their names fall together, and
so the tools of a run all have names of their own exactly if no two methods that make tools
have names that fall together. -/
theorem toolNames_distinct_iff :
    (∀ method other : CalledMethod, StartsCapital method.name → StartsCapital other.name →
      (method.callName = other.callName ↔ method.Collides other)) ∧
    ∀ (generator : Generator) (files : List ProtoFile) (commandFile : Option ProtoFile)
      (generated : GeneratedModule),
      (generator.generate files).result = .ok (some generated) →
      (generator.commandFileOf files).result = .ok commandFile →
      (∀ service ∈ Generator.servicesOf commandFile, ∀ method ∈ service.methods,
        StartsCapital method.name) →
      (generated.report.emitted.Nodup ↔
        (generator.makersOf commandFile).Pairwise fun maker later => ¬ maker.Collides later) := by
  refine ⟨fun method other => CalledMethod.callName_eq_iff, ?_⟩
  intro generator files commandFile generated generates selected capitals
  obtain ⟨chosen, opening, selects, rfl, _⟩ := Generator.exists_commandFile generates
  rw [selects] at selected
  obtain rfl := Except.ok.inj selected
  have emitted : (generator.madeOf chosen).report.emitted =
      (generator.makersOf chosen).map CalledMethod.callName :=
    generator.emitted_eq_makersOf chosen
  have capital : ∀ maker ∈ generator.makersOf chosen, StartsCapital maker.name := by
    intro maker member
    obtain ⟨service, inFile, method, declared, rfl⟩ := Generator.exists_of_mem_makersOf member
    exact capitals service inFile method declared
  rw [emitted, List.Nodup, List.pairwise_map]
  refine List.Pairwise.iff_of_mem ?_
  intro maker later member laterMember
  exact not_congr (CalledMethod.callName_eq_iff (capital maker member) (capital later laterMember))

/-- A method without fields. -/
def bareMethod (name : String) (convention : CallingConvention) : Method where
  name
  convention
  inputFields := []
  outputFields := []

/-- A command file with an admin service, and with a service that has a method of the same name
and one whose name falls together with it, called in the given way. -/
def adminFile (convention : CallingConvention) : ProtoFile where
  path := "admin/services/v1/command.proto"
  services :=
    [{ name := "UserAdminService", methods := [bareMethod "Ping" .unary] },
     { name := "UserService"
       methods := [bareMethod "AdminPing" convention, bareMethod "Ping" .unary] }]

theorem startsCapital_adminFile (convention : CallingConvention) :
    ∀ service ∈ Generator.servicesOf (adminFile convention), ∀ method ∈ service.methods,
      StartsCapital method.name := by
  have ping : StartsCapital "Ping" := ⟨'P', ['i', 'n', 'g'], by decide, by decide⟩
  have adminPing : StartsCapital "AdminPing" :=
    ⟨'A', ['d', 'm', 'i', 'n', 'P', 'i', 'n', 'g'], by decide, by decide⟩
  intro service inFile method declared
  simp only [Generator.servicesOf, adminFile, bareMethod, Option.map_some, Option.getD_some,
    List.mem_cons, List.not_mem_nil, or_false] at inFile
  rcases inFile with rfl | rfl
  · obtain rfl := List.mem_singleton.1 declared
    exact ping
  · simp only [List.mem_cons, List.not_mem_nil, or_false] at declared
    rcases declared with rfl | rfl
    · exact adminPing
    · exact ping

theorem toolNames_distinct_iff_admin :
    StartsCapital "Ping" ∧ StartsCapital "AdminPing" ∧
      (CalledMethod.callName ⟨"UserAdminService", "Ping"⟩ =
          CalledMethod.callName ⟨"UserService", "AdminPing"⟩ ↔
        CalledMethod.Collides ⟨"UserAdminService", "Ping"⟩ ⟨"UserService", "AdminPing"⟩) ∧
      (Generator.taggedGenerator.generate [adminFile .unary]).result =
        .ok (some (Generator.taggedGenerator.madeOf (some (adminFile .unary)))) ∧
      (Generator.taggedGenerator.commandFileOf [adminFile .unary]).result =
        .ok (some (adminFile .unary)) ∧
      (∀ service ∈ Generator.servicesOf (adminFile .unary), ∀ method ∈ service.methods,
        StartsCapital method.name) ∧
      ((Generator.taggedGenerator.madeOf (some (adminFile .unary))).report.emitted.Nodup ↔
        (Generator.taggedGenerator.makersOf (some (adminFile .unary))).Pairwise
          fun maker later => ¬ maker.Collides later) := by
  have capitals := startsCapital_adminFile .unary
  have ping : StartsCapital "Ping" := capitals _ (.head _) _ (.head _)
  have adminPing : StartsCapital "AdminPing" := capitals _ (.tail _ (.head _)) _ (.head _)
  have services : [adminFile .unary].any Generator.taggedGenerator.hasServices = true := by
    decide +kernel
  have selected : (Generator.taggedGenerator.commandFileOf [adminFile .unary]).result =
      .ok (some (adminFile .unary)) := rfl
  have generates := congrArg Logged.result (Generator.generate_of_commandFile services rfl)
  exact ⟨ping, adminPing, toolNames_distinct_iff.1 _ _ ping adminPing, generates, selected,
    capitals, toolNames_distinct_iff.2 _ _ _ _ generates selected capitals⟩

/-- The names fall together if both methods make tools. -/
example :
    (Generator.taggedGenerator.madeOf (some (adminFile .unary))).report.emitted =
        ["adminPing", "adminPing", "ping"] ∧
      (Generator.taggedGenerator.madeOf (some (adminFile .bidiStreaming))).report.emitted =
        ["adminPing", "ping"] := by
  decide +kernel

end RpcTools
