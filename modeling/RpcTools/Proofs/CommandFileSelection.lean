/-
Module: RpcTools.Proofs.CommandFileSelection
Purpose: What a run of the generator comes to, read off the paths of the files.
Main exports: ProtoFile.PathHas, Generator.Selects, Generator.Decides,
  Generator.generate_decided_by_paths
-/
import RpcTools.Proofs.GenerationRun

namespace RpcTools

/-! ### Paths -/

/-- A text stands somewhere in the path of a file. -/
def ProtoFile.PathHas (file : ProtoFile) (text : String) : Prop :=
  text.toList <:+: file.path.toList

theorem ProtoFile.contains_path_iff {file : ProtoFile} {text : String} :
    Text.contains file.path text = true ↔ file.PathHas text :=
  Text.occursIn_iff

instance (file : ProtoFile) (text : String) : Decidable (file.PathHas text) :=
  decidable_of_iff _ ProtoFile.contains_path_iff

namespace Generator

variable {generator : Generator} {files : List ProtoFile}

theorem hasServices_iff {file : ProtoFile} :
    generator.hasServices file = true ↔ file.PathHas generator.config.servicesMarker :=
  ProtoFile.contains_path_iff

theorem matchesPattern_iff {file : ProtoFile} :
    generator.matchesPattern file = true ↔
      file.PathHas generator.config.commandFilePattern :=
  ProtoFile.contains_path_iff

/-- The files that could be the command file, in the order of the schema. -/
def candidatesOf (generator : Generator) (files : List ProtoFile) : List ProtoFile :=
  files.filter fun file => file.PathHas generator.config.commandFilePattern

theorem filter_matchesPattern :
    files.filter generator.matchesPattern = generator.candidatesOf files :=
  List.filter_congr fun file _ => by
    rw [Bool.eq_iff_iff, matchesPattern_iff, decide_eq_true_iff]

theorem candidatesOf_eq_nil_iff :
    generator.candidatesOf files = [] ↔
      ∀ file ∈ files, ¬ file.PathHas generator.config.commandFilePattern := by
  simp [candidatesOf, List.filter_eq_nil_iff]

theorem candidatesOf_eq_singleton_iff {file : ProtoFile} :
    generator.candidatesOf files = [file] ↔
      ∃ before after, files = before ++ file :: after ∧
        file.PathHas generator.config.commandFilePattern ∧
          ∀ other ∈ before ++ after, ¬ other.PathHas generator.config.commandFilePattern := by
  rw [candidatesOf, List.filter_eq_cons_iff]
  simp only [decide_eq_true_eq, List.filter_eq_nil_iff, List.forall_mem_append]
  constructor
  · rintro ⟨before, after, split, noneBefore, matching, noneAfter⟩
    exact ⟨before, after, split, matching, noneBefore, noneAfter⟩
  · rintro ⟨before, after, split, matching, noneBefore, noneAfter⟩
    exact ⟨before, after, split, noneBefore, matching, noneAfter⟩

/-! ### The command file -/

/-- What the selection of a command file comes to. -/
inductive Selects (generator : Generator) (files : List ProtoFile) :
    Except Error (Option ProtoFile) → Prop where
  /-- The first file at the designated path is the command file, whatever other files
  match the pattern. -/
  | designated {path : String} {before after : List ProtoFile} {file : ProtoFile}
      (designated : generator.config.commandFile = some path)
      (split : files = before ++ file :: after) (here : file.path = path)
      (first : ∀ earlier ∈ before, earlier.path ≠ path) :
      Selects generator files (.ok (some file))
  /-- No file has the designated path. -/
  | absent {path : String} (designated : generator.config.commandFile = some path)
      (missing : ∀ file ∈ files, file.path ≠ path) :
      Selects generator files (.error (.config (.commandFileAbsent path)))
  /-- No path is designated, and one file alone matches the pattern. -/
  | unique {before after : List ProtoFile} {file : ProtoFile}
      (undesignated : generator.config.commandFile = none)
      (split : files = before ++ file :: after)
      (matching : file.PathHas generator.config.commandFilePattern)
      (alone : ∀ other ∈ before ++ after,
        ¬ other.PathHas generator.config.commandFilePattern) :
      Selects generator files (.ok (some file))
  /-- No path is designated, and no file matches the pattern. -/
  | unmatched (undesignated : generator.config.commandFile = none)
      (noMatch : ∀ file ∈ files, ¬ file.PathHas generator.config.commandFilePattern) :
      Selects generator files (.ok none)
  /-- No path is designated, and several entries of the schema match the pattern. -/
  | ambiguous (undesignated : generator.config.commandFile = none)
      (several : 2 ≤ (generator.candidatesOf files).length) :
      Selects generator files
        (.error (.ambiguousCommandFile generator.config.commandFilePattern
          ((generator.candidatesOf files).map (·.path))))

theorem Selects.result_eq {selection : Except Error (Option ProtoFile)}
    (selects : generator.Selects files selection) :
    (generator.commandFileOf files).result = selection := by
  rw [commandFileOf, filter_matchesPattern]
  cases selects with
  | @designated path before after file designated split here first =>
      have found : files.find? (·.path == path) = some file :=
        List.find?_eq_some_iff_append.2
          ⟨by simpa using here, before, after, split, by simpa using first⟩
      simp only [designated, found]
      rfl
  | @absent path designated missing =>
      have found : files.find? (·.path == path) = none :=
        List.find?_eq_none.2 (by simpa using missing)
      simp only [designated, found]
      rfl
  | @unique before after file undesignated split matching alone =>
      have single : generator.candidatesOf files = [file] :=
        candidatesOf_eq_singleton_iff.2 ⟨before, after, split, matching, alone⟩
      simp only [undesignated, single]
      rfl
  | unmatched undesignated noMatch =>
      simp only [undesignated, candidatesOf_eq_nil_iff.2 noMatch]
      rfl
  | ambiguous undesignated several =>
      simp only [undesignated]
      match candidates : generator.candidatesOf files, several with
      | first :: second :: rest, _ => rfl

/-- Whatever the files are, the selection comes to something. -/
theorem exists_selects (generator : Generator) (files : List ProtoFile) :
    ∃ selection, generator.Selects files selection := by
  cases designated : generator.config.commandFile with
  | some path =>
      cases found : files.find? (·.path == path) with
      | none =>
          have missing := List.find?_eq_none.1 found
          exact ⟨_, .absent designated (by simpa using missing)⟩
      | some file =>
          obtain ⟨here, before, after, split, first⟩ := List.find?_eq_some_iff_append.1 found
          exact ⟨_, .designated designated split (by simpa using here) (by simpa using first)⟩
  | none =>
      match candidates : generator.candidatesOf files with
      | [] => exact ⟨_, .unmatched designated (candidatesOf_eq_nil_iff.1 candidates)⟩
      | [file] =>
          obtain ⟨before, after, split, matching, alone⟩ :=
            candidatesOf_eq_singleton_iff.1 candidates
          exact ⟨_, .unique designated split matching alone⟩
      | first :: second :: rest =>
          exact ⟨_, .ambiguous designated (by simp [candidates])⟩

/-! ### Whole runs -/

/-- What a run comes to.  A command file is selected only if there are services. -/
inductive Decides (generator : Generator) (files : List ProtoFile) :
    Except Error (Option GeneratedModule) → Prop where
  /-- No path has the marker of services, and nothing is made, whether or not a command
  file is designated. -/
  | nothing (noServices : ∀ file ∈ files, ¬ file.PathHas generator.config.servicesMarker) :
      Decides generator files (.ok none)
  /-- A module is made from the services of the command file. -/
  | made {file : ProtoFile}
      (services : ∃ file ∈ files, file.PathHas generator.config.servicesMarker)
      (selects : generator.Selects files (.ok (some file))) :
      Decides generator files (.ok (some (generator.madeOf (some file))))
  /-- Without a command file there still is a module, which has no sections. -/
  | empty (services : ∃ file ∈ files, file.PathHas generator.config.servicesMarker)
      (selects : generator.Selects files (.ok none)) :
      Decides generator files
        (.ok (some
          { path := generator.config.outputFile
            content := plainModule generator.config []
            report := { commandFile := none, methods := [] } }))
  /-- Only the selection of the command file can fail. -/
  | failed {fault : Error}
      (services : ∃ file ∈ files, file.PathHas generator.config.servicesMarker)
      (selects : generator.Selects files (.error fault)) :
      Decides generator files (.error fault)

theorem any_hasServices_iff :
    files.any generator.hasServices = true ↔
      ∃ file ∈ files, file.PathHas generator.config.servicesMarker := by
  simp only [List.any_eq_true, hasServices_iff]

theorem not_any_hasServices
    (noServices : ∀ file ∈ files, ¬ file.PathHas generator.config.servicesMarker) :
    ¬ files.any generator.hasServices = true := by
  rw [any_hasServices_iff]
  rintro ⟨file, member, has⟩
  exact noServices file member has

theorem generate_of_noServices
    (noServices : ∀ file ∈ files, ¬ file.PathHas generator.config.servicesMarker) :
    generator.generate files =
      ⟨.ok none, [.nothingToGenerate generator.config.servicesMarker]⟩ := by
  rw [generate, if_neg (not_any_hasServices noServices)]
  rfl

/-- Where there are services, a run goes on with what the selection comes to. -/
theorem generate_result_of_services
    (services : ∃ file ∈ files, file.PathHas generator.config.servicesMarker) :
    (generator.generate files).result =
      (generator.commandFileOf files).result.map (some ∘ generator.madeOf) := by
  cases selected : generator.commandFileOf files with
  | mk selection opening =>
      cases selection with
      | ok commandFile =>
          rw [generate_of_commandFile (any_hasServices_iff.2 services) selected]
          rfl
      | error fault =>
          rw [generate, if_pos (any_hasServices_iff.2 services), selected]
          rfl

theorem Decides.result_eq {outcome : Except Error (Option GeneratedModule)}
    (decides : generator.Decides files outcome) :
    (generator.generate files).result = outcome := by
  cases decides with
  | nothing noServices => rw [generate_of_noServices noServices]
  | made services selects =>
      rw [generate_result_of_services services, selects.result_eq]
      rfl
  | empty services selects =>
      rw [generate_result_of_services services, selects.result_eq]
      rfl
  | failed services selects =>
      rw [generate_result_of_services services, selects.result_eq]
      rfl

theorem exists_decides (generator : Generator) (files : List ProtoFile) :
    ∃ outcome, generator.Decides files outcome := by
  by_cases services : ∃ file ∈ files, file.PathHas generator.config.servicesMarker
  · obtain ⟨selection, selects⟩ := generator.exists_selects files
    match selection with
    | .error fault => exact ⟨_, .failed services selects⟩
    | .ok none => exact ⟨_, .empty services selects⟩
    | .ok (some file) => exact ⟨_, .made services selects⟩
  · exact ⟨_, .nothing fun file member has => services ⟨file, member, has⟩⟩

theorem generate_result_iff {outcome : Except Error (Option GeneratedModule)} :
    (generator.generate files).result = outcome ↔ generator.Decides files outcome := by
  constructor
  · rintro rfl
    obtain ⟨outcome, decides⟩ := generator.exists_decides files
    rw [decides.result_eq]
    exact decides
  · exact Decides.result_eq

/-! ### What the paths alone tell -/

/-- What the selection of a command file comes to, its services apart. -/
def selectionOfPaths (generator : Generator) (paths : List String) :
    Except Error (Option String) :=
  match generator.config.commandFile with
  | some path =>
      if path ∈ paths then .ok (some path) else .error (.config (.commandFileAbsent path))
  | none =>
      match paths.filter (Text.contains · generator.config.commandFilePattern) with
      | [] => .ok none
      | [path] => .ok (some path)
      | candidates =>
          .error (.ambiguousCommandFile generator.config.commandFilePattern candidates)

/-- What a run comes to, the text of the module and the lines about methods apart:
nothing, a module with or without a command file, or an error. -/
def outcomeOfPaths (generator : Generator) (paths : List String) :
    Except Error (Option (Option String)) :=
  if paths.any (Text.contains · generator.config.servicesMarker) then
    (generator.selectionOfPaths paths).map some
  else .ok none

theorem filter_paths :
    (files.map (·.path)).filter (Text.contains · generator.config.commandFilePattern) =
      (generator.candidatesOf files).map (·.path) := by
  rw [List.filter_map, ← filter_matchesPattern]
  rfl

theorem Selects.map_path {selection : Except Error (Option ProtoFile)}
    (selects : generator.Selects files selection) :
    selection.map (Option.map (·.path)) = generator.selectionOfPaths (files.map (·.path)) := by
  rw [selectionOfPaths, filter_paths]
  cases selects with
  | @designated path before after file designated split here first =>
      have present : path ∈ files.map (·.path) := by simp [split, here]
      simp only [designated, if_pos present]
      rw [← here]
      rfl
  | @absent path designated missing =>
      have notPresent : path ∉ files.map (·.path) := by simpa using missing
      simp only [designated, if_neg notPresent]
      rfl
  | @unique before after file undesignated split matching alone =>
      have single : generator.candidatesOf files = [file] :=
        candidatesOf_eq_singleton_iff.2 ⟨before, after, split, matching, alone⟩
      simp only [undesignated, single]
      rfl
  | unmatched undesignated noMatch =>
      simp only [undesignated, candidatesOf_eq_nil_iff.2 noMatch]
      rfl
  | ambiguous undesignated several =>
      simp only [undesignated]
      match candidates : generator.candidatesOf files, several with
      | first :: second :: rest, _ => rfl

theorem any_contains_path :
    (files.map (·.path)).any (Text.contains · generator.config.servicesMarker) =
      files.any generator.hasServices := by
  rw [List.any_map]
  rfl

theorem Decides.map_commandFile {outcome : Except Error (Option GeneratedModule)}
    (decides : generator.Decides files outcome) :
    outcome.map (Option.map (·.report.commandFile)) =
      generator.outcomeOfPaths (files.map (·.path)) := by
  rw [outcomeOfPaths, any_contains_path]
  cases decides with
  | nothing noServices =>
      rw [if_neg (not_any_hasServices noServices)]
      rfl
  | made services selects =>
      rw [if_pos (any_hasServices_iff.2 services), ← selects.map_path]
      rfl
  | empty services selects =>
      rw [if_pos (any_hasServices_iff.2 services), ← selects.map_path]
      rfl
  | failed services selects =>
      rw [if_pos (any_hasServices_iff.2 services), ← selects.map_path]
      rfl

/-- Whatever the services of a schema are, the paths of its files decide what a run comes
to, and a run fails only where no file is the designated one or several match. -/
theorem generate_decided_by_paths (generator : Generator) (files : List ProtoFile) :
    (∀ outcome,
      (generator.generate files).result = outcome ↔ generator.Decides files outcome) ∧
    (generator.generate files).result.map (Option.map (·.report.commandFile)) =
      generator.outcomeOfPaths (files.map (·.path)) :=
  ⟨fun _ => generate_result_iff, (generate_result_iff.1 rfl).map_commandFile⟩

end Generator

end RpcTools
