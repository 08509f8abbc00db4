/-
Module: RpcTools.Proofs.RepeatedRequests
Purpose: Requests that name a file more than once: when the answer is the one to each name given
  once, and what is answered else.
Main exports: Descriptor.Request.withoutRepetitions, Environment.NamesCandidateTwice,
  Environment.RepetitionsTold, Environment.answer_to_repetitions
-/
import RpcTools.Proofs.DependencyServices
import RpcTools.Proofs.ExitStages

namespace RpcTools

/-! ### Lists without their repetitions -/

section Lists

variable {Entry : Type}

theorem exists_distinct_of_nodup {entries : List Entry} (distinct : entries.Nodup)
    (several : 2 ≤ entries.length) : ∃ one ∈ entries, ∃ other ∈ entries, one ≠ other := by
  match entries, several with
  | first :: second :: rest, _ =>
      refine ⟨first, by simp, second, by simp, ?_⟩
      rintro rfl
      simp at distinct

variable [DecidableEq Entry]

theorem eraseDups_sublist (entries : List Entry) : entries.eraseDups.Sublist entries := by
  match entries with
  | [] => exact .slnil
  | entry :: rest =>
      rw [List.eraseDups_cons]
      exact .cons_cons entry ((eraseDups_sublist _).trans List.filter_sublist)
termination_by entries.length
decreasing_by exact Nat.lt_succ_of_le (List.length_filter_le _ _)

theorem nodup_eraseDups (entries : List Entry) : entries.eraseDups.Nodup := by
  match entries with
  | [] => exact List.nodup_nil
  | entry :: rest =>
      rw [List.eraseDups_cons, List.nodup_cons, List.mem_eraseDups]
      exact ⟨by simp, nodup_eraseDups _⟩
termination_by entries.length
decreasing_by exact Nat.lt_succ_of_le (List.length_filter_le _ _)

/-- Entries of one kind are kept exactly if none of them is repeated. -/
theorem filter_eraseDups_eq_iff {entries : List Entry} {isKind : Entry → Bool} :
    entries.eraseDups.filter isKind = entries.filter isKind ↔ (entries.filter isKind).Nodup := by
  have kept : (entries.eraseDups.filter isKind).Sublist (entries.filter isKind) :=
    (eraseDups_sublist entries).filter isKind
  have distinct : (entries.eraseDups.filter isKind).Nodup := (nodup_eraseDups entries).filter _
  constructor
  · intro same
    rwa [← same]
  · intro unrepeated
    have members : (entries.eraseDups.filter isKind).Perm (entries.filter isKind) := by
      rw [List.perm_ext_iff_of_nodup distinct unrepeated]
      simp
    exact kept.eq_of_length members.length_eq

/-- Where entries of a kind are repeated, fewer of them are kept. -/
theorem length_filter_eraseDups_lt {entries : List Entry} {isKind : Entry → Bool}
    (repeated : ¬ (entries.filter isKind).Nodup) :
    (entries.eraseDups.filter isKind).length < (entries.filter isKind).length := by
  have kept : (entries.eraseDups.filter isKind).Sublist (entries.filter isKind) :=
    (eraseDups_sublist entries).filter isKind
  refine Nat.lt_of_le_of_ne kept.length_le fun sameLength => repeated ?_
  exact filter_eraseDups_eq_iff.1 (kept.eq_of_length sameLength)

theorem not_nodup_filter_iff {entries : List Entry} {isKind : Entry → Bool} :
    ¬ (entries.filter isKind).Nodup ↔
      ∃ entry, isKind entry = true ∧ 2 ≤ entries.count entry := by
  simp only [List.nodup_iff_count_le_one, not_forall, Nat.not_le]
  constructor
  · rintro ⟨entry, twice⟩
    have member : entry ∈ entries.filter isKind :=
      List.count_pos_iff.1 (Nat.lt_trans Nat.one_pos twice)
    have ofKind := List.of_mem_filter member
    rw [List.count_filter ofKind] at twice
    exact ⟨entry, ofKind, twice⟩
  · rintro ⟨entry, ofKind, twice⟩
    refine ⟨entry, ?_⟩
    rwa [List.count_filter ofKind]

end Lists

namespace Descriptor.Request

/-- A request that names each file once, where the other one names it first. -/
def withoutRepetitions (request : Request) : Request :=
  { request with filesToGenerate := request.filesToGenerate.eraseDups }

end Descriptor.Request

/-! ### What a schema supplies -/

namespace Supplies

variable {schema files : List ProtoFile} {paths : List String}

/-- The first path that is missing is the first one among those that are named once. -/
theorem eraseDups_error {error : Error} (fails : Supplies schema paths (.error error)) :
    Supplies schema paths.eraseDups (.error error) := by
  cases fails with
  | @missing before after path split present absent =>
      have notBefore : path ∉ before := by
        intro member
        obtain ⟨file, inSchema, samePath⟩ := present path member
        exact absent file inSchema samePath
      rw [split, List.eraseDups_append, List.removeAll, List.filter_cons_of_pos (by simpa),
        List.eraseDups_cons]
      refine .missing rfl ?_ absent
      intro earlier member
      exact present earlier (List.mem_eraseDups.1 member)

/-- Where every path is there, it is there as well if it is named once. -/
theorem exists_eraseDups (supplies : Supplies schema paths (.ok files)) :
    ∃ distinct, Supplies schema paths.eraseDups (.ok distinct) := by
  have present := exists_ok_iff.1 ⟨files, supplies⟩
  exact exists_ok_iff.2 fun path member => present path (List.mem_eraseDups.1 member)

/-- A file is supplied exactly if its path is named. -/
theorem mem_iff (onePath : (schema.map (·.path)).Nodup)
    (supplies : Supplies schema paths (.ok files)) {file : ProtoFile} :
    file ∈ files ↔ file ∈ schema ∧ file.path ∈ paths := by
  constructor
  · intro member
    refine ⟨supplies.mem_schema member, ?_⟩
    rw [← supplies.map_path]
    exact List.mem_map_of_mem member
  · rintro ⟨inSchema, named⟩
    rw [← supplies.map_path] at named
    obtain ⟨other, member, samePath⟩ := List.mem_map.1 named
    rwa [List.inj_on_of_nodup_map onePath inSchema (supplies.mem_schema member)
      samePath.symm]

theorem filter {isKind : String → Bool} (supplies : Supplies schema paths (.ok files)) :
    Supplies schema (paths.filter isKind) (.ok (files.filter (isKind ·.path))) := by
  cases supplies with
  | found each =>
      refine .found ?_
      induction each with
      | nil => exact .nil
      | @cons path file paths files here _ inductionHypothesis =>
          obtain ⟨inSchema, rfl⟩ := here
          cases kind : isKind file.path with
          | true => simpa [kind] using ⟨inSchema, inductionHypothesis⟩
          | false => simpa [kind] using inductionHypothesis

end Supplies

/-! ### Runs over the same files -/

namespace Generator

variable {generator : Generator} {pool : Pool} {paths : List String}
  {files distinct : List ProtoFile}

/-- Whether there are services does not depend on repetitions. -/
theorem any_hasServices_eq (generator : Generator)
    (sameMembers : ∀ file, file ∈ distinct ↔ file ∈ files) :
    distinct.any generator.hasServices = files.any generator.hasServices := by
  rw [Bool.eq_iff_iff, List.any_eq_true, List.any_eq_true]
  simp only [sameMembers]

/-- A designated file is found at its path, however often it is there. -/
theorem find?_path_eq
    (onePath : ∀ one ∈ files, ∀ other ∈ files, one.path = other.path → one = other)
    (sameMembers : ∀ file, file ∈ distinct ↔ file ∈ files) (path : String) :
    distinct.find? (·.path == path) = files.find? (·.path == path) := by
  cases found : files.find? (·.path == path) with
  | none =>
      rw [List.find?_eq_none] at found ⊢
      exact fun file member => found file ((sameMembers file).1 member)
  | some file =>
      have here := List.find?_some found
      have member := List.mem_of_find?_eq_some found
      cases kept : distinct.find? (·.path == path) with
      | none => exact absurd here (List.find?_eq_none.1 kept file ((sameMembers file).2 member))
      | some other =>
          have alsoHere := List.find?_some kept
          have alsoMember := (sameMembers other).1 (List.mem_of_find?_eq_some kept)
          rw [onePath other alsoMember file member]
          rw [beq_iff_eq] at here alsoHere
          rw [here, alsoHere]

/-- The paths that match the pattern of the command file. -/
def matchingPaths (generator : Generator) (paths : List String) : List String :=
  paths.filter (Text.contains · generator.config.commandFilePattern)

/-- The files that could be the command file are what is supplied for the paths that match. -/
theorem supplies_candidatesOf (generator : Generator)
    (supplies : Supplies pool.schema paths (.ok files)) :
    Supplies pool.schema (generator.matchingPaths paths)
      (.ok (generator.candidatesOf files)) := by
  rw [← filter_matchesPattern]
  exact supplies.filter

theorem map_path_candidatesOf (supplies : Supplies pool.schema paths (.ok files)) :
    (generator.candidatesOf files).map (·.path) = generator.matchingPaths paths :=
  (generator.supplies_candidatesOf supplies).map_path

/-- A path that matches is repeated exactly if the paths that match have a repetition. -/
theorem not_nodup_matchingPaths_iff :
    ¬ (generator.matchingPaths paths).Nodup ↔
      ∃ path : String, generator.config.commandFilePattern.toList <:+: path.toList ∧
        2 ≤ paths.count path := by
  rw [matchingPaths, not_nodup_filter_iff]
  simp only [Text.contains, Text.occursIn_iff]

/-- The files that could be the command file are told from the paths that match. -/
theorem candidatesOf_eq
    (supplies : Supplies pool.schema paths (.ok files))
    (once : Supplies pool.schema paths.eraseDups (.ok distinct))
    (unrepeated : (generator.matchingPaths paths).Nodup) :
    generator.candidatesOf distinct = generator.candidatesOf files := by
  have candidates := generator.supplies_candidatesOf supplies
  have kept := generator.supplies_candidatesOf once
  rw [matchingPaths, filter_eraseDups_eq_iff.2 unrepeated] at kept
  exact Except.ok.inj (kept.schemaOf_eq.symm.trans candidates.schemaOf_eq)

theorem mem_of_eraseDups (supplies : Supplies pool.schema paths (.ok files))
    (once : Supplies pool.schema paths.eraseDups (.ok distinct)) (file : ProtoFile) :
    file ∈ distinct ↔ file ∈ files := by
  rw [once.mem_iff pool.nodup_schema_paths, supplies.mem_iff pool.nodup_schema_paths,
    List.mem_eraseDups]

/-- The selection does not look at repetitions of a designated path, and else at those of the
paths that match alone. -/
theorem commandFileOf_eraseDups (supplies : Supplies pool.schema paths (.ok files))
    (once : Supplies pool.schema paths.eraseDups (.ok distinct))
    (unrepeated : generator.config.commandFile = none →
      (generator.matchingPaths paths).Nodup) :
    generator.commandFileOf distinct = generator.commandFileOf files := by
  rw [commandFileOf, commandFileOf, filter_matchesPattern, filter_matchesPattern]
  cases designated : generator.config.commandFile with
  | some path =>
      have onePath : ∀ one ∈ files, ∀ other ∈ files, one.path = other.path → one = other :=
        fun one member other alsoMember => List.inj_on_of_nodup_map pool.nodup_schema_paths
          (supplies.mem_schema member) (supplies.mem_schema alsoMember)
      simp only [find?_path_eq onePath (mem_of_eraseDups supplies once)]
  | none => rw [candidatesOf_eq supplies once (unrepeated designated)]

/-- A run over the files at some paths is the run over the same files each of them once, unless
a path is repeated that could be that of the command file. -/
theorem generate_eraseDups (supplies : Supplies pool.schema paths (.ok files))
    (once : Supplies pool.schema paths.eraseDups (.ok distinct))
    (unrepeated : generator.config.commandFile = none →
      (∃ path ∈ paths, generator.config.servicesMarker.toList <:+: path.toList) →
        (generator.matchingPaths paths).Nodup) :
    generator.generate distinct = generator.generate files := by
  rw [generate, generate, generator.any_hasServices_eq (mem_of_eraseDups supplies once)]
  by_cases services : files.any generator.hasServices = true
  · have marked := (supplies.exists_pathHas_iff _).1 (any_hasServices_iff.1 services)
    rw [if_pos services, if_pos services,
      commandFileOf_eraseDups supplies once fun designated => unrepeated designated marked]
  · rw [if_neg services, if_neg services]

/-- A run fails for want of the designated file, or as several paths match. -/
theorem eq_of_generate_error {error : Error} (supplies : Supplies pool.schema paths (.ok files))
    (fails : (generator.generate files).result = .error error) :
    (∃ path, generator.config.commandFile = some path ∧
        error = .config (.commandFileAbsent path)) ∨
      (generator.config.commandFile = none ∧
        (∃ path ∈ paths, generator.config.servicesMarker.toList <:+: path.toList) ∧
        error = .ambiguousCommandFile generator.config.commandFilePattern
          (generator.matchingPaths paths) ∧
        2 ≤ (generator.matchingPaths paths).length) := by
  cases generate_result_iff.1 fails with
  | failed services selects =>
      cases selects with
      | absent designated _ => exact .inl ⟨_, designated, rfl⟩
      | ambiguous undesignated several =>
          rw [map_path_candidatesOf supplies]
          refine .inr ⟨undesignated, (supplies.exists_pathHas_iff _).1 services, rfl, ?_⟩
          rwa [← map_path_candidatesOf supplies, List.length_map]

/-- All the paths that match are told where one of them is repeated. -/
theorem generate_of_repeated (supplies : Supplies pool.schema paths (.ok files))
    (services : ∃ path ∈ paths, generator.config.servicesMarker.toList <:+: path.toList)
    (undesignated : generator.config.commandFile = none)
    (repeated : ¬ (generator.matchingPaths paths).Nodup) :
    (generator.generate files).result =
      .error (.ambiguousCommandFile generator.config.commandFilePattern
        (generator.matchingPaths paths)) := by
  rw [← map_path_candidatesOf supplies] at repeated ⊢
  have several : 2 ≤ (generator.candidatesOf files).length := by
    by_contra few
    match candidates : generator.candidatesOf files, few with
    | [], _ => exact repeated (by simp [candidates])
    | [file], _ => exact repeated (by simp [candidates])
    | _ :: _ :: _, few => exact few (by simp)
  exact Decides.result_eq
    (.failed ((supplies.exists_pathHas_iff _).2 services) (.ambiguous undesignated several))

end Generator

/-! ### Words for an ambiguity -/

theorem toList_message_ambiguousCommandFile (pattern : String) (candidates : List String) :
    ∃ rest, (Error.ambiguousCommandFile pattern candidates).message.toList =
      "Ambiguous command file: ".toList ++ (Nat.toDigits 10 candidates.length ++ ' ' :: rest) := by
  have words : (Error.ambiguousCommandFile pattern candidates).message =
      "Ambiguous command file: " ++ toString candidates.length ++ " files match '" ++ pattern ++
        "' (" ++ Text.joinWith ", " candidates ++ ")" :=
    rfl
  have digits : (toString candidates.length).toList = Nat.toDigits 10 candidates.length := by
    simp
  refine ⟨("files match '" ++ pattern ++ "' (" ++ Text.joinWith ", " candidates ++ ")").toList, ?_⟩
  rw [words]
  simp only [String.toList_append, List.append_assoc, digits]
  rfl

/-- The words for an ambiguity tell how many files match. -/
theorem length_eq_of_message_eq {pattern : String} {candidates others : List String}
    (same : (Error.ambiguousCommandFile pattern candidates).message =
      (Error.ambiguousCommandFile pattern others).message) :
    candidates.length = others.length := by
  obtain ⟨rest, words⟩ := toList_message_ambiguousCommandFile pattern candidates
  obtain ⟨otherRest, otherWords⟩ := toList_message_ambiguousCommandFile pattern others
  have noBlank : ∀ count : Nat, ' ' ∉ Nat.toDigits 10 count := by
    intro count member
    exact absurd (Nat.isDigit_of_mem_toDigits (by decide) (by decide) member) (by decide)
  rw [same, otherWords] at words
  have digits := (Text.cut_unique (noBlank _) (noBlank _) (List.append_cancel_left words)).1
  rw [← Nat.ofDigitChars_ten_toDigits (n := candidates.length), ← digits,
    Nat.ofDigitChars_ten_toDigits]

/-! ### Answers -/

namespace Environment

variable {environment : Environment} {request : Descriptor.Request} {options : PluginOptions}
  {generator : Generator} {files : List ProtoFile}

/-- A request names a file twice whose path matches the pattern, where services are asked for
and no command file is designated. -/
inductive NamesCandidateTwice (environment : Environment) (request : Descriptor.Request) :
    Prop where
  | of {options : PluginOptions} {generator : Generator} {files : List ProtoFile} {path : String}
      (prepares : environment.Prepares request options generator files)
      (services : ∃ path ∈ request.filesToGenerate,
        generator.config.servicesMarker.toList <:+: path.toList)
      (undesignated : generator.config.commandFile = none)
      (matching : generator.config.commandFilePattern.toList <:+: path.toList)
      (twice : 2 ≤ request.filesToGenerate.count path) :
      environment.NamesCandidateTwice request

theorem answer_eq_of_result_eq {other : Descriptor.Request}
    (same : (environment.moduleFor other).result = (environment.moduleFor request).result) :
    (environment.answer other).1 = (environment.answer request).1 := by
  cases result : (environment.moduleFor request).result with
  | ok made => rw [answer_of_made result, answer_of_made (same.trans result)]
  | error fault => rw [answer_of_error result, answer_of_error (same.trans result)]

/-- What is loaded with each name given once is what is loaded else. -/
theorem Prepares.withoutRepetitions
    (prepares : environment.Prepares request options generator files) :
    ∃ (pool : Pool) (distinct : List ProtoFile),
      environment.Prepares request.withoutRepetitions options generator distinct ∧
        Supplies pool.schema request.filesToGenerate (.ok files) ∧
        Supplies pool.schema request.filesToGenerate.eraseDups (.ok distinct) := by
  obtain ⟨pool, made, supplies⟩ := prepares.exists_supplies
  obtain ⟨distinct, once⟩ := supplies.exists_eraseDups
  have carried : request.withoutRepetitions.files = pool.files :=
    (Pool.files_of_ofFiles made).symm
  refine ⟨pool, distinct, ⟨prepares.spelled, prepares.configured, ?_⟩, supplies, once⟩
  exact (schemaOfRequest_of_files carried).trans once.schemaOf_eq

/-- What is not loaded is not loaded either with each name given once. -/
theorem schemaOfRequest_withoutRepetitions {error : Error}
    (fails : (schemaOfRequest request).result = .error error) :
    (schemaOfRequest request.withoutRepetitions).result = .error error := by
  cases made : Pool.ofFiles request.files with
  | error fault =>
      have unmade : Pool.ofFiles request.withoutRepetitions.files = .error fault := made
      rw [schemaOfRequest, made] at fails
      rw [schemaOfRequest, unmade]
      exact fails
  | ok pool =>
      have carried : request.files = pool.files := (Pool.files_of_ofFiles made).symm
      have carriedToo : request.withoutRepetitions.files = pool.files := carried
      rw [schemaOfRequest_of_files carried] at fails
      rw [schemaOfRequest_of_files carriedToo]
      exact (Supplies.schemaOf_eq_iff.1 fails).eraseDups_error.schemaOf_eq

/-- As long as no candidate is named twice, what is made of a prepared request is what is made
with each name given once. -/
theorem Prepares.moduleFor_withoutRepetitions
    (prepares : environment.Prepares request options generator files)
    (once : ¬ environment.NamesCandidateTwice request) :
    (environment.moduleFor request.withoutRepetitions).result =
      (environment.moduleFor request).result := by
  obtain ⟨pool, distinct, prepared, supplies, kept⟩ := prepares.withoutRepetitions
  rw [prepared.moduleFor_result, prepares.moduleFor_result]
  refine congrArg Logged.result (Generator.generate_eraseDups supplies kept ?_)
  intro undesignated services
  by_contra repeated
  obtain ⟨path, matching, twice⟩ := Generator.not_nodup_matchingPaths_iff.1 repeated
  exact once (.of prepares services undesignated matching twice)

/-- As long as no candidate is named twice, the answer is that to each name given once. -/
theorem answer_withoutRepetitions (once : ¬ environment.NamesCandidateTwice request) :
    (environment.answer request.withoutRepetitions).1 = (environment.answer request).1 := by
  refine answer_eq_of_result_eq ?_
  cases result : (environment.moduleFor request).result with
  | ok made =>
      obtain ⟨options, generator, files, prepares, _⟩ := moduleFor_result_eq_ok_iff.1 result
      rw [prepares.moduleFor_withoutRepetitions once, result]
  | error fault =>
      obtain ⟨stage, refuses⟩ := moduleFor_result_eq_error_iff.1 result
      cases refuses with
      | parameter fails => exact moduleFor_result_eq_error_iff.2 ⟨_, .parameter fails⟩
      | configuration spelled fails =>
          exact moduleFor_result_eq_error_iff.2 ⟨_, .configuration spelled fails⟩
      | loading spelled configured fails =>
          exact moduleFor_result_eq_error_iff.2
            ⟨_, .loading spelled configured (schemaOfRequest_withoutRepetitions fails)⟩
      | generation prepares _ => rw [prepares.moduleFor_withoutRepetitions once, result]

/-- All the names that match are told of a request that names a candidate twice. -/
theorem NamesCandidateTwice.exists_refused (twice : environment.NamesCandidateTwice request) :
    ∃ options generator files, environment.Prepares request options generator files ∧
      generator.config.commandFile = none ∧
      ¬ (generator.matchingPaths request.filesToGenerate).Nodup ∧
      (environment.answer request).1 =
        ⟨some (Error.ambiguousCommandFile generator.config.commandFilePattern
          (generator.matchingPaths request.filesToGenerate)).message, []⟩ := by
  obtain ⟨prepares, services, undesignated, matching, twice⟩ := twice
  obtain ⟨pool, _, supplies⟩ := prepares.exists_supplies
  have repeated := Generator.not_nodup_matchingPaths_iff.2 ⟨_, matching, twice⟩
  refine ⟨_, _, _, prepares, undesignated, repeated, answer_of_error ?_⟩
  rw [prepares.moduleFor_result]
  exact Generator.generate_of_repeated supplies services undesignated repeated

/-- With each name given once there is a module, or fewer names that are told. -/
theorem NamesCandidateTwice.answer_ne (twice : environment.NamesCandidateTwice request) :
    (environment.answer request.withoutRepetitions).1 ≠ (environment.answer request).1 := by
  obtain ⟨options, generator, files, prepares, undesignated, repeated, refused⟩ :=
    twice.exists_refused
  obtain ⟨pool, distinct, prepared, _, once⟩ := prepares.withoutRepetitions
  rw [refused]
  intro same
  cases result : (environment.moduleFor request.withoutRepetitions).result with
  | ok made =>
      rw [answer_of_made result] at same
      cases congrArg PluginResponse.errorText same
  | error error =>
      rw [answer_of_error result] at same
      have sameWords := Option.some.inj (congrArg PluginResponse.errorText same)
      rw [prepared.moduleFor_result] at result
      rcases Generator.eq_of_generate_error once result with
        ⟨path, designated, _⟩ | ⟨_, _, rfl, _⟩
      · rw [undesignated] at designated
        cases designated
      · have sameLength := length_eq_of_message_eq sameWords
        exact absurd sameLength (Nat.ne_of_lt (length_filter_eraseDups_lt repeated))

/-- What repetitions of names do to the answer. -/
structure RepetitionsTold (environment : Environment) (request : Descriptor.Request) : Prop where
  /-- They do nothing, unless a candidate is named twice. -/
  same_iff : (environment.answer request.withoutRepetitions).1 = (environment.answer request).1 ↔
    ¬ environment.NamesCandidateTwice request
  /-- Then all the names that match are told, though there may be one file only. -/
  refused : environment.NamesCandidateTwice request →
    ∃ options generator files, environment.Prepares request options generator files ∧
      (environment.answer request).1 =
        ⟨some (Error.ambiguousCommandFile generator.config.commandFilePattern
          (generator.matchingPaths request.filesToGenerate)).message, []⟩
  /-- Without such repetitions it takes two paths for an ambiguity. -/
  several : ∀ stage pattern candidates,
    environment.RefusesAt request stage (.ambiguousCommandFile pattern candidates) →
      environment.NamesCandidateTwice request ∨
        ∃ one ∈ request.filesToGenerate, ∃ other ∈ request.filesToGenerate, one ≠ other ∧
          pattern.toList <:+: one.toList ∧ pattern.toList <:+: other.toList

/-- An ambiguity is found only where all the other stages have passed. -/
theorem RefusesAt.stage_of_ambiguous {stage : AnswerStage} {pattern : String}
    {candidates : List String}
    (refuses : environment.RefusesAt request stage (.ambiguousCommandFile pattern candidates)) :
    stage = .generation := by
  cases refuses with
  | parameter fails =>
      rw [PluginOptions.ofParameter] at fails
      split at fails <;> cases fails
  | configuration _ fails =>
      -- the settings are refused with faults of their own, which leaves those of reading them
      simp only [configOfOptions, effectiveConfig, Logged.result_bind_eq_error_iff,
        Logged.result_ofExcept, Logged.result_pure, reduceCtorEq, and_false, exists_false,
        or_false, Config.validate_eq_error_iff] at fails
      rw [configAtOrDefault_result] at fails
      split at fails
      · rcases configAt_result_eq_error_iff.1 fails with ⟨_, _, same⟩ | ⟨_, _, refused⟩
        · cases same
        · rcases Config.ofToml_eq_error_iff.1 refused with ⟨_, same⟩ | ⟨_, _, _, _, _, same⟩
          · cases same
          · cases same
      · cases fails
  | loading _ _ fails =>
      cases made : Pool.ofFiles request.files with
      | error fault =>
          obtain ⟨_, _, _, rfl⟩ := Pool.ofFiles_eq_error_iff.1 made
          rw [schemaOfRequest, made] at fails
          cases fails
      | ok pool =>
          rw [schemaOfRequest_of_files (Pool.files_of_ofFiles made).symm] at fails
          cases Supplies.schemaOf_eq_iff.1 fails
  | generation => rfl

/-- An ambiguity comes of two paths, or of one that is repeated. -/
theorem RefusesAt.several {stage : AnswerStage} {pattern : String} {candidates : List String}
    (refuses : environment.RefusesAt request stage
      (.ambiguousCommandFile pattern candidates)) :
    environment.NamesCandidateTwice request ∨
      ∃ one ∈ request.filesToGenerate, ∃ other ∈ request.filesToGenerate, one ≠ other ∧
        pattern.toList <:+: one.toList ∧ pattern.toList <:+: other.toList := by
  obtain rfl := refuses.stage_of_ambiguous
  cases refuses with
  | @generation options generator files _ prepares fails =>
      obtain ⟨pool, _, supplies⟩ := prepares.exists_supplies
      rcases Generator.eq_of_generate_error supplies fails with
        ⟨_, _, same⟩ | ⟨undesignated, services, same, several⟩
      · cases same
      · cases same
        by_cases distinct : (generator.matchingPaths request.filesToGenerate).Nodup
        · obtain ⟨one, inOne, other, inOther, different⟩ :=
            exists_distinct_of_nodup distinct several
          obtain ⟨named, matching⟩ := List.mem_filter.1 inOne
          obtain ⟨alsoNamed, alsoMatching⟩ := List.mem_filter.1 inOther
          exact .inr ⟨one, named, other, alsoNamed, different, Text.occursIn_iff.1 matching,
            Text.occursIn_iff.1 alsoMatching⟩
        · obtain ⟨path, matching, twice⟩ := Generator.not_nodup_matchingPaths_iff.1 distinct
          exact .inl (.of prepares services undesignated matching twice)

/-- Whatever a request names more than once, the answer is that to each name given once, as long
as that is not the path of a file that could be the command file. -/
theorem answer_to_repetitions (environment : Environment) (request : Descriptor.Request) :
    environment.RepetitionsTold request where
  same_iff := ⟨fun same twice => twice.answer_ne same, answer_withoutRepetitions⟩
  refused := by
    intro twice
    obtain ⟨options, generator, files, prepares, _, _, refused⟩ := twice.exists_refused
    exact ⟨options, generator, files, prepares, refused⟩
  several := fun _ _ _ => RefusesAt.several

/-- A request that names its only file twice. -/
def repeatedRequest : Descriptor.Request where
  filesToGenerate := ["/services/v1/command", "/services/v1/command"]
  parameter := none
  files :=
    [bareFile "/services/v1/command" "p" [] [bareMessage "Ask" [] []]
      [⟨"S", [⟨"Get", "Ask", "Ask", false, false, .empty⟩], .empty⟩]]

/-- The file is ambiguous, though there is no other one. -/
theorem repetition_is_ambiguous :
    repeatedRequest.withoutRepetitions.filesToGenerate = ["/services/v1/command"] ∧
      (bareEnvironment.answer repeatedRequest).1.errorText =
        some ("Ambiguous command file: 2 files match '/services/v1/command' " ++
          "(/services/v1/command, /services/v1/command)") ∧
      (bareEnvironment.answer repeatedRequest.withoutRepetitions).1.errorText = none := by
  decide +kernel

end Environment

end RpcTools
