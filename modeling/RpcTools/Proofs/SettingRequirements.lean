/-
Module: RpcTools.Proofs.SettingRequirements
Purpose: What every setting of a configuration has to be like, in the order in which it is
  looked at, and that exactly the configurations which are like that are accepted.
Main exports: Demand, Requirement, Requirement.Met, Invocation.requirements,
  Config.requirements, Enforced, settings_enforced
-/
import RpcTools.Config.Validation

namespace RpcTools

/-! ### Requirements -/

/-- A character of `[A-Za-z_$]`. -/
def IdentifierStart (character : Char) : Prop :=
  ('A' ≤ character ∧ character ≤ 'Z') ∨ ('a' ≤ character ∧ character ≤ 'z') ∨
    character = '_' ∨ character = '$'

/-- A character of `[A-Za-z0-9_$]`. -/
def IdentifierPart (character : Char) : Prop :=
  IdentifierStart character ∨ ('0' ≤ character ∧ character ≤ '9')

/-- What can be demanded of the value of a setting. -/
inductive Demand where
  /-- There is something in it besides white space. -/
  | notBlank
  /-- As a path it stays in the directory that it is taken from. -/
  | staysInside
  | oneLine
  | identifier
  /-- It can stand between double quotes. -/
  | quotable
deriving Repr, DecidableEq

/-- What a value is like that meets a demand. -/
def Demand.Met (value : String) : Demand → Prop
  | .notBlank => ∃ character ∈ value.toList, Text.isBlank character = false
  | .staysInside => ¬ ['.', '.'] <:+: value.toList ∧ ¬ ['/'] <+: value.toList
  | .oneLine => '\n' ∉ value.toList
  | .identifier => ∃ first rest, value.toList = first :: rest ∧ IdentifierStart first ∧
      ∀ character ∈ rest, IdentifierPart character
  | .quotable => '"' ∉ value.toList ∧ '\n' ∉ value.toList

/-- A demand on the value that stands under a key. -/
structure Requirement where
  key : String
  value : String
  demand : Demand
deriving Repr, DecidableEq

namespace Requirement

def Met (requirement : Requirement) : Prop :=
  requirement.demand.Met requirement.value

/-- The fault of a value that does not meet the demand. -/
def fault (requirement : Requirement) : ConfigFault :=
  match requirement.demand with
  | .notBlank => .blank requirement.key
  | .staysInside => .outputOutside requirement.value
  | .oneLine => .headerNotOneLine
  | .identifier => .noIdentifier requirement.key requirement.value
  | .quotable => .quotesOrNewlines requirement.key

/-- How a value is refused: what is demanded under the key, and the value if it would have to be
written in another way. -/
def refusal (requirement : Requirement) : String :=
  requirement.key ++
    match requirement.demand with
    | .notBlank => " cannot be empty"
    | .staysInside => " must be a relative path without '..': '" ++ requirement.value ++ "'"
    | .oneLine => " must be a single line"
    | .identifier => " is not a valid identifier: '" ++ requirement.value ++ "'"
    | .quotable => " cannot contain quotes or newlines"

end Requirement

/-- What an invocation has to be like, in the order in which it is looked at: the names that code
is written with, the namespaces one after the other, and the texts between quotes. -/
def Invocation.requirements (invocation : Invocation) : List Requirement :=
  [⟨"invocation.runtime_accessor", invocation.runtimeAccessor, .identifier⟩,
   ⟨"invocation.account_resolver", invocation.accountResolver, .identifier⟩,
   ⟨"invocation.resolved_account_type", invocation.resolvedAccountType, .identifier⟩,
   ⟨"invocation.config_type", invocation.configType, .identifier⟩,
   ⟨"invocation.client_type", invocation.clientType, .identifier⟩,
   ⟨"invocation.client_factory", invocation.clientFactory, .identifier⟩,
   ⟨"invocation.client_close_method", invocation.clientCloseMethod, .identifier⟩,
   ⟨"invocation.client_key_field", invocation.clientKeyField, .identifier⟩,
   ⟨"invocation.server_url_field", invocation.serverUrlField, .identifier⟩,
   ⟨"invocation.tools_export", invocation.toolsExport, .identifier⟩] ++
  invocation.clientNamespaces.map (⟨"invocation.client_namespaces", ·, .identifier⟩) ++
  [⟨"invocation.runtime_import", invocation.runtimeImport, .notBlank⟩,
   ⟨"invocation.runtime_import", invocation.runtimeImport, .quotable⟩,
   ⟨"invocation.accounts_import", invocation.accountsImport, .notBlank⟩,
   ⟨"invocation.accounts_import", invocation.accountsImport, .quotable⟩,
   ⟨"invocation.types_import", invocation.typesImport, .notBlank⟩,
   ⟨"invocation.types_import", invocation.typesImport, .quotable⟩,
   ⟨"invocation.client_package", invocation.clientPackage, .notBlank⟩,
   ⟨"invocation.client_package", invocation.clientPackage, .quotable⟩,
   ⟨"invocation.schema_package", invocation.schemaPackage, .notBlank⟩,
   ⟨"invocation.schema_package", invocation.schemaPackage, .quotable⟩,
   ⟨"invocation.default_account_id", invocation.defaultAccountId, .notBlank⟩,
   ⟨"invocation.default_account_id", invocation.defaultAccountId, .quotable⟩]

/-- What a configuration has to be like, in the order in which it is looked at. -/
def Config.requirements (config : Config) : List Requirement :=
  [⟨"services_marker", config.servicesMarker, .notBlank⟩,
   ⟨"command_file_pattern", config.commandFilePattern, .notBlank⟩,
   ⟨"output_file", config.outputFile, .notBlank⟩,
   ⟨"output_file", config.outputFile, .staysInside⟩,
   ⟨"file_header", config.fileHeader, .oneLine⟩] ++
  config.commandFile.toList.map (⟨"command_file", ·, .notBlank⟩) ++
  config.invocation.requirements

/-- What comes of looking at requirements one after the other. -/
inductive Enforced (requirements : List Requirement) : Except Error Unit → Prop where
  | accepted (all : ∀ requirement ∈ requirements, requirement.Met) :
      Enforced requirements (.ok ())
  /-- The first requirement that is not met decides, whatever comes after it. -/
  | refused {before after : List Requirement} {requirement : Requirement}
      (split : requirements = before ++ requirement :: after)
      (passed : ∀ earlier ∈ before, earlier.Met) (unmet : ¬ requirement.Met) :
      Enforced requirements (.error (.config requirement.fault))

/-! ### Demands and how they are checked -/

theorem isAlpha_iff {character : Char} :
    character.isAlpha = true ↔
      ('A' ≤ character ∧ character ≤ 'Z') ∨ ('a' ≤ character ∧ character ≤ 'z') := by
  have capital : character.isUpper = true ↔ 'A' ≤ character ∧ character ≤ 'Z' :=
    decide_eq_true_iff
  have small : character.isLower = true ↔ 'a' ≤ character ∧ character ≤ 'z' :=
    Bool.and_eq_true_iff.trans (and_congr decide_eq_true_iff decide_eq_true_iff)
  rw [← capital, ← small]
  exact Bool.or_eq_true_iff

theorem isIdentifierStart_iff {character : Char} :
    isIdentifierStart character = true ↔ IdentifierStart character := by
  simp only [isIdentifierStart, IdentifierStart, Bool.or_eq_true, decide_eq_true_eq,
    isAlpha_iff, or_assoc]

theorem isIdentifierPart_iff {character : Char} :
    isIdentifierPart character = true ↔ IdentifierPart character := by
  have digit : character.isDigit = true ↔ '0' ≤ character ∧ character ≤ '9' :=
    Bool.and_eq_true_iff.trans (and_congr decide_eq_true_iff decide_eq_true_iff)
  have either : character.isAlphanum = true ↔
      character.isAlpha = true ∨ character.isDigit = true :=
    Bool.or_eq_true_iff
  rw [IdentifierPart, ← isIdentifierStart_iff, ← digit]
  simp only [isIdentifierPart, isIdentifierStart, Bool.or_eq_true, either]
  grind

/-- Whether a value falls short of a demand. -/
def Demand.isMissed (value : String) : Demand → Bool
  | .notBlank => Text.allBlank value
  | .staysInside => Config.leadsOutside value
  | .oneLine => value.toList.contains '\n'
  | .identifier => !isIdentifier value
  | .quotable => value.toList.any fun c => c = '"' || c = '\n'

theorem Demand.isMissed_eq_false_iff {value : String} {demand : Demand} :
    demand.isMissed value = false ↔ demand.Met value := by
  cases demand with
  | notBlank => simp [isMissed, Met, Text.allBlank]
  | staysInside =>
      have dots : Text.contains value ".." = true ↔ ['.', '.'] <:+: value.toList :=
        Text.occursIn_iff
      have slash : "/".toList.isPrefixOf value.toList = true ↔ ['/'] <+: value.toList :=
        List.isPrefixOf_iff_prefix
      rw [isMissed, Met, Config.leadsOutside, Bool.or_eq_false_iff, ← dots, ← slash,
        Bool.not_eq_true, Bool.not_eq_true]
  | oneLine => simp [isMissed, Met]
  | identifier =>
      rw [isMissed, Met, Bool.not_eq_false', isIdentifier]
      cases value.toList with
      | nil => simp
      | cons first rest =>
          simp only [Bool.and_eq_true, List.all_eq_true, isIdentifierStart_iff,
            isIdentifierPart_iff, List.cons.injEq]
          constructor
          · rintro ⟨starts, goesOn⟩
            exact ⟨first, rest, ⟨rfl, rfl⟩, starts, goesOn⟩
          · rintro ⟨_, _, ⟨rfl, rfl⟩, starts, goesOn⟩
            exact ⟨starts, goesOn⟩
  | quotable =>
      simp only [isMissed, Met, List.any_eq_false, Bool.or_eq_true, decide_eq_true_eq, not_or]
      constructor
      · intro free
        exact ⟨fun member => (free _ member).1 rfl, fun member => (free _ member).2 rfl⟩
      · rintro ⟨noQuote, noBreak⟩ character member
        exact ⟨fun same => noQuote (same ▸ member), fun same => noBreak (same ▸ member)⟩

/-- The fault of a value if it falls short of the demand. -/
def Requirement.violated (requirement : Requirement) : List ConfigFault :=
  violation (requirement.demand.isMissed requirement.value) requirement.fault

theorem Requirement.violated_of_met {requirement : Requirement} (met : requirement.Met) :
    requirement.violated = [] := by
  rw [violated, Demand.isMissed_eq_false_iff.2 met]
  rfl

theorem Requirement.violated_of_unmet {requirement : Requirement} (unmet : ¬ requirement.Met) :
    requirement.violated = [requirement.fault] := by
  have missed : requirement.demand.isMissed requirement.value = true := by
    rw [← Bool.not_eq_false, Demand.isMissed_eq_false_iff]
    exact unmet
  rw [violated, missed]
  rfl

theorem Invocation.faults_eq (invocation : Invocation) :
    invocation.faults = invocation.requirements.flatMap Requirement.violated := by
  have namespaces : identifierFaults "invocation.client_namespaces" = fun value =>
      Requirement.violated ⟨"invocation.client_namespaces", value, .identifier⟩ := rfl
  simp [faults, requirements, identifiers, literals, namespaces, List.flatMap_map,
    Requirement.violated, Requirement.fault, identifierFaults, literalFaults, blankFaults,
    Demand.isMissed]

theorem Config.faults_eq (config : Config) :
    config.faults = config.requirements.flatMap Requirement.violated := by
  cases commandFile : config.commandFile <;>
    simp [faults, requirements, commandFile, Invocation.faults_eq, Requirement.violated,
      Requirement.fault, blankFaults, Demand.isMissed]

/-! ### Settings -/

/-- What comes of a list of faults: only the first one is told. -/
def outcomeOfFaults (faults : List ConfigFault) : Except Error Unit :=
  match faults with
  | [] => .ok ()
  | fault :: _ => .error (.config fault)

theorem Enforced.outcome_eq {requirements : List Requirement} {outcome : Except Error Unit}
    (enforced : Enforced requirements outcome) :
    outcomeOfFaults (requirements.flatMap Requirement.violated) = outcome := by
  cases enforced with
  | accepted all =>
      have none : requirements.flatMap Requirement.violated = [] :=
        List.flatMap_eq_nil_iff.2 fun requirement member =>
          Requirement.violated_of_met (all requirement member)
      rw [none]
      rfl
  | @refused before after requirement split passed unmet =>
      have none : before.flatMap Requirement.violated = [] :=
        List.flatMap_eq_nil_iff.2 fun earlier member =>
          Requirement.violated_of_met (passed earlier member)
      rw [split, List.flatMap_append, none, List.flatMap_cons,
        Requirement.violated_of_unmet unmet]
      rfl

/-- Something comes of looking at any requirements. -/
theorem exists_enforced (requirements : List Requirement) :
    ∃ outcome, Enforced requirements outcome := by
  cases found : requirements.find? fun requirement =>
      requirement.demand.isMissed requirement.value with
  | none =>
      refine ⟨_, .accepted fun requirement member => ?_⟩
      have kept := List.find?_eq_none.1 found requirement member
      exact Demand.isMissed_eq_false_iff.1 (Bool.not_eq_true _ ▸ kept)
  | some requirement =>
      obtain ⟨missed, before, after, split, passed⟩ := List.find?_eq_some_iff_append.1 found
      refine ⟨_, .refused split (fun earlier member => ?_) ?_⟩
      · exact Demand.isMissed_eq_false_iff.1 (by simpa using passed earlier member)
      · intro met
        have kept := Demand.isMissed_eq_false_iff.2 met
        rw [kept] at missed
        cases missed

theorem outcomeOfFaults_eq_iff {requirements : List Requirement}
    {outcome : Except Error Unit} :
    outcomeOfFaults (requirements.flatMap Requirement.violated) = outcome ↔
      Enforced requirements outcome := by
  constructor
  · rintro rfl
    obtain ⟨outcome, enforced⟩ := exists_enforced requirements
    rw [enforced.outcome_eq]
    exact enforced
  · exact Enforced.outcome_eq

theorem Invocation.validate_eq_iff {invocation : Invocation} {outcome : Except Error Unit} :
    invocation.validate = outcome ↔ Enforced invocation.requirements outcome := by
  rw [← outcomeOfFaults_eq_iff, ← faults_eq]
  rfl

theorem Config.validate_eq_iff {config : Config} {outcome : Except Error Unit} :
    config.validate = outcome ↔ Enforced config.requirements outcome := by
  rw [← outcomeOfFaults_eq_iff, ← faults_eq]
  rfl

/-! ### The words of a refusal -/

/-- A demand that is made on one setting alone stands under the key of that setting. -/
def Requirement.WellKeyed (requirement : Requirement) : Prop :=
  match requirement.demand with
  | .staysInside => requirement.key = "output_file"
  | .oneLine => requirement.key = "file_header"
  | .notBlank | .identifier | .quotable => True

theorem Requirement.message_fault {requirement : Requirement} (keyed : requirement.WellKeyed) :
    requirement.fault.message = requirement.refusal := by
  obtain ⟨key, value, demand⟩ := requirement
  cases demand with
  | notBlank => rfl
  | staysInside =>
      obtain rfl : key = "output_file" := keyed
      have opening : "output_file" ++ " must be a relative path without '..': '" =
          "output_file must be a relative path without '..': '" := by decide
      simp only [refusal, ← String.append_assoc, opening]
      rfl
  | oneLine =>
      obtain rfl : key = "file_header" := keyed
      exact (by decide : ConfigFault.headerNotOneLine.message =
        "file_header" ++ " must be a single line")
  | identifier =>
      simp only [refusal, ← String.append_assoc]
      rfl
  | quotable => rfl

theorem Config.wellKeyed (config : Config) :
    ∀ requirement ∈ config.requirements, requirement.WellKeyed := by
  simp only [requirements, Invocation.requirements, List.forall_mem_append,
    List.forall_mem_cons, List.forall_mem_map, Requirement.WellKeyed]
  simp

/-- Settings are looked at in a fixed order, and the first that is not as it has to be is told,
by its key; if all are, they are accepted. -/
theorem settings_enforced :
    (∀ (config : Config) (outcome : Except Error Unit),
      config.validate = outcome ↔ Enforced config.requirements outcome) ∧
    (∀ (invocation : Invocation) (outcome : Except Error Unit),
      invocation.validate = outcome ↔ Enforced invocation.requirements outcome) ∧
    ∀ (config : Config), ∀ requirement ∈ config.requirements,
      (Error.config requirement.fault).message =
        "Configuration error: " ++ requirement.refusal := by
  refine ⟨fun _ _ => Config.validate_eq_iff, fun _ _ => Invocation.validate_eq_iff, ?_⟩
  intro config requirement member
  rw [← Requirement.message_fault (config.wellKeyed requirement member)]
  rfl

/-- A configuration with a blank pattern, a namespace that begins with a digit, and a quote in the
last text of all. -/
def offendingConfig : Config :=
  { Config.default with
    commandFilePattern := " \t"
    invocation :=
      { Invocation.default with
        clientNamespaces := ["datatypes", "1st"]
        defaultAccountId := "a\"b" } }

theorem settings_enforced_offending :
    (⟨"invocation.client_namespaces", "1st", .identifier⟩ : Requirement) ∈
        offendingConfig.requirements ∧
      (Error.config (.noIdentifier "invocation.client_namespaces" "1st")).message =
        "Configuration error: " ++
          (⟨"invocation.client_namespaces", "1st", .identifier⟩ : Requirement).refusal ∧
      Enforced offendingConfig.requirements
        (.error (.config (.blank "command_file_pattern"))) ∧
      Enforced offendingConfig.invocation.requirements
        (.error (.config (.noIdentifier "invocation.client_namespaces" "1st"))) := by
  have member : (⟨"invocation.client_namespaces", "1st", .identifier⟩ : Requirement) ∈
      offendingConfig.requirements := by decide
  exact ⟨member, settings_enforced.2.2 _ _ member,
    (settings_enforced.1 offendingConfig _).1 rfl,
    (settings_enforced.2.1 offendingConfig.invocation _).1 rfl⟩

end RpcTools
