/-
Module: RpcTools.Proofs.InputOrder
Purpose: What a run of the generator does not depend on: the order of the files, and what the
  files have in them that are not the command file.
Main exports: Generator.runOf, Generator.Rearranges, Generator.RunsAlike,
  Generator.runsAlike_of_rearranges
-/
import RpcTools.Proofs.CommandFileSelection
import RpcTools.Proofs.Traversal

namespace RpcTools

namespace Generator

variable {generator : Generator} {files others : List ProtoFile}

/-! ### Runs after the selection -/

/-- What is told of the selection of a command file. -/
def openingOf (generator : Generator) (commandFile : Option ProtoFile) : List Event :=
  match generator.config.commandFile, commandFile with
  | some _, _ => []
  | none, none => [.noCommandFile generator.config.commandFilePattern]
  | none, some file => [.commandFileSelected file.path]

/-- A run that has services, by what its selection comes to. -/
def runOf (generator : Generator) :
    Except Error (Option ProtoFile) → Logged (Option GeneratedModule)
  | .ok commandFile =>
      ⟨.ok (some (generator.madeOf commandFile)),
        generator.openingOf commandFile ++ generator.toldOf commandFile⟩
  | .error fault => ⟨.error fault, []⟩

theorem commandFileOf_of_ok {commandFile : Option ProtoFile}
    (selected : (generator.commandFileOf files).result = .ok commandFile) :
    generator.commandFileOf files = ⟨.ok commandFile, generator.openingOf commandFile⟩ := by
  cases designated : generator.config.commandFile with
  | some path =>
      simp only [commandFileOf, designated, openingOf] at selected ⊢
      cases found : files.find? (·.path == path) with
      | none => simp [found, Logged.fail] at selected
      | some file =>
          rw [found] at selected
          cases selected
          rfl
  | none =>
      simp only [commandFileOf, designated, openingOf] at selected ⊢
      cases candidates : files.filter generator.matchesPattern with
      | nil =>
          rw [candidates] at selected
          cases selected
          rfl
      | cons first rest =>
          rw [candidates] at selected
          cases rest with
          | nil =>
              cases selected
              rfl
          | cons second others => cases selected

theorem commandFileOf_of_error {fault : Error}
    (failed : (generator.commandFileOf files).result = .error fault) :
    generator.commandFileOf files = ⟨.error fault, []⟩ := by
  rw [commandFileOf] at failed ⊢
  split at failed
  · split at failed
    · cases failed
    · cases failed
      rfl
  · split at failed
    · cases failed
    · cases failed
    · cases failed
      rfl

/-- Beyond the selection, a run reads nothing of its files. -/
theorem generate_eq_runOf {selection : Except Error (Option ProtoFile)}
    (services : ∃ file ∈ files, file.PathHas generator.config.servicesMarker)
    (selects : generator.Selects files selection) :
    generator.generate files = generator.runOf selection := by
  cases selection with
  | ok commandFile =>
      exact generate_of_commandFile (any_hasServices_iff.2 services)
        (commandFileOf_of_ok selects.result_eq)
  | error fault =>
      rw [generate, if_pos (any_hasServices_iff.2 services),
        commandFileOf_of_error selects.result_eq]
      rfl

/-! ### Files and their paths -/

/-- The command file is the first file at its path, and any other in its place would have
been selected as well. -/
theorem Selects.exists_place {file : ProtoFile}
    (selects : generator.Selects files (.ok (some file))) :
    ∃ before after, files = before ++ file :: after ∧
      (∀ earlier ∈ before, earlier.path ≠ file.path) ∧
      ∀ other : ProtoFile, other.path = file.path →
        generator.Selects (before ++ other :: after) (.ok (some other)) := by
  cases selects with
  | @designated path before after file designated split here first =>
      subst here
      exact ⟨before, after, split, first, fun other samePath =>
        .designated designated rfl samePath first⟩
  | @unique before after file undesignated split matching alone =>
      refine ⟨before, after, split, ?_, fun other samePath => ?_⟩
      · intro earlier member samePath
        refine alone earlier (List.mem_append_left _ member) ?_
        rwa [ProtoFile.PathHas, samePath]
      · refine .unique undesignated rfl ?_ alone
        rwa [ProtoFile.PathHas, samePath]

/-- A path that no two files share tells where its file is. -/
theorem exists_split {file : ProtoFile} (distinct : (files.map (·.path)).Nodup)
    (member : file ∈ files) :
    ∃ before after, files = before ++ file :: after ∧
      ∀ other ∈ before ++ after, other.path ≠ file.path := by
  obtain ⟨before, after, rfl⟩ := List.append_of_mem member
  refine ⟨before, after, rfl, ?_⟩
  have apart := (List.perm_middle.map ProtoFile.path).nodup_iff.1 distinct
  rw [List.map_cons, List.nodup_cons] at apart
  intro other inRest samePath
  exact apart.1 (List.mem_map.2 ⟨other, inRest, samePath⟩)

section SamePaths

variable (samePaths : (others.map (·.path)).Perm (files.map (·.path)))

include samePaths

theorem exists_at_path {other : ProtoFile} (member : other ∈ others) :
    ∃ file ∈ files, file.path = other.path :=
  List.mem_map.1 (samePaths.mem_iff.1 (List.mem_map_of_mem member))

theorem exists_pathHas {text : String} (has : ∃ file ∈ others, file.PathHas text) :
    ∃ file ∈ files, file.PathHas text := by
  obtain ⟨other, member, inPath⟩ := has
  obtain ⟨file, inFiles, samePath⟩ := exists_at_path samePaths member
  refine ⟨file, inFiles, ?_⟩
  rwa [ProtoFile.PathHas, samePath]

theorem candidatesOf_paths_perm (generator : Generator) :
    ((generator.candidatesOf others).map (·.path)).Perm
      ((generator.candidatesOf files).map (·.path)) := by
  rw [← filter_paths, ← filter_paths]
  exact samePaths.filter _

/-- The selection is the same among files at the same paths, as long as the file is there
that it came to. -/
theorem Selects.of_samePaths {selection : Except Error (Option ProtoFile)}
    (selects : generator.Selects files selection) (distinct : (files.map (·.path)).Nodup)
    (kept : ∀ file, selection = .ok (some file) → file ∈ others)
    (unambiguous : ∀ pattern candidates,
      selection ≠ .error (.ambiguousCommandFile pattern candidates)) :
    generator.Selects others selection := by
  have distinctOthers : (others.map (·.path)).Nodup := samePaths.nodup_iff.2 distinct
  cases selects with
  | @designated path before after file designated split here first =>
      obtain ⟨earlier, later, splitOthers, apart⟩ :=
        exists_split distinctOthers (kept file rfl)
      refine .designated designated splitOthers here fun other member => ?_
      rw [← here]
      exact apart other (List.mem_append_left _ member)
  | @absent path designated missing =>
      refine .absent designated fun other member => ?_
      obtain ⟨file, inFiles, samePath⟩ := exists_at_path samePaths member
      rw [← samePath]
      exact missing file inFiles
  | @unique before after file undesignated split matching alone =>
      obtain ⟨earlier, later, splitOthers, apart⟩ :=
        exists_split distinctOthers (kept file rfl)
      refine .unique undesignated splitOthers matching fun other member matchingToo => ?_
      have inOthers : other ∈ others := by
        rw [splitOthers]
        exact List.perm_middle.mem_iff.2 (List.mem_cons_of_mem _ member)
      -- another match would stand at a path of the first files, where only one matches
      obtain ⟨twin, inFiles, samePath⟩ := exists_at_path samePaths inOthers
      rw [ProtoFile.PathHas, ← samePath] at matchingToo
      rw [split] at inFiles
      rcases List.mem_cons.1 (List.perm_middle.mem_iff.1 inFiles) with rfl | elsewhere
      · exact apart other member samePath.symm
      · exact alone twin elsewhere matchingToo
  | unmatched undesignated noMatch =>
      refine .unmatched undesignated fun other member matching => ?_
      obtain ⟨file, inFiles, has⟩ := exists_pathHas samePaths ⟨other, member, matching⟩
      exact noMatch file inFiles has
  | ambiguous undesignated several => exact absurd rfl (unambiguous _ _)

end SamePaths

/-! ### Rearranged files -/

/-- The module of a run is made from a file. -/
def MadeFrom (generator : Generator) (files : List ProtoFile) (file : ProtoFile) : Prop :=
  ∃ generated, (generator.generate files).result = .ok (some generated) ∧
    generated.report.commandFile = some file.path

theorem MadeFrom.path_eq {file : ProtoFile} {generated : GeneratedModule} {path : String}
    (madeFrom : generator.MadeFrom files file)
    (generates : (generator.generate files).result = .ok (some generated))
    (selected : generated.report.commandFile = some path) : file.path = path := by
  obtain ⟨made, makes, fromFile⟩ := madeFrom
  rw [generates] at makes
  cases makes
  exact Option.some.inj (fromFile.symm.trans selected)

/-- A file can be replaced by any other at its path, unless the module is made from it. -/
structure Replaces (generator : Generator) (files : List ProtoFile)
    (file replacement : ProtoFile) : Prop where
  path : replacement.path = file.path
  kept : generator.MadeFrom files file → replacement = file

/-- The files of a run with replacements, in some order. -/
def Rearranges (generator : Generator) (files others : List ProtoFile) : Prop :=
  ∃ replaced, List.Forall₂ (generator.Replaces files) files replaced ∧ replaced.Perm others

/-- Two lists of files come to the same, but for the order in which the paths are listed of
files that could be the command file. -/
inductive RunsAlike (generator : Generator) (files others : List ProtoFile) : Prop where
  | same
      (unambiguous : ∀ pattern candidates,
        (generator.generate files).result ≠
          .error (.ambiguousCommandFile pattern candidates))
      (same : generator.generate others = generator.generate files)
  | ambiguous
      (one : generator.generate files =
        ⟨.error (.ambiguousCommandFile generator.config.commandFilePattern
          ((generator.candidatesOf files).map (·.path))), []⟩)
      (other : generator.generate others =
        ⟨.error (.ambiguousCommandFile generator.config.commandFilePattern
          ((generator.candidatesOf others).map (·.path))), []⟩)
      (permuted : ((generator.candidatesOf others).map (·.path)).Perm
        ((generator.candidatesOf files).map (·.path)))

theorem Rearranges.samePaths (rearranges : generator.Rearranges files others) :
    (others.map (·.path)).Perm (files.map (·.path)) := by
  obtain ⟨replaced, replaces, reordered⟩ := rearranges
  have paths : replaced.map (·.path) = files.map (·.path) := by
    rw [← List.forall₂_eq_eq_eq, List.forall₂_map_left_iff, List.forall₂_map_right_iff]
    exact replaces.flip.imp fun _ _ replaces => replaces.path
  rw [← paths]
  exact (reordered.map _).symm

theorem Rearranges.mem (rearranges : generator.Rearranges files others) {file : ProtoFile}
    (member : file ∈ files) (madeFrom : generator.MadeFrom files file) : file ∈ others := by
  obtain ⟨replaced, replaces, reordered⟩ := rearranges
  obtain ⟨replacement, inReplaced, replacesFile⟩ := exists_of_mem_forall₂ replaces member
  rw [← replacesFile.kept madeFrom]
  exact reordered.mem_iff.1 inReplaced

/-- As long as no two files share a path, a run comes to the same in whatever order the files
are, and whatever the files have in them that the module is not made from. -/
theorem runsAlike_of_rearranges (distinct : (files.map (·.path)).Nodup)
    (rearranges : generator.Rearranges files others) : generator.RunsAlike files others := by
  have samePaths := rearranges.samePaths
  by_cases services : ∃ file ∈ files, file.PathHas generator.config.servicesMarker
  · have servicesOthers := exists_pathHas samePaths.symm services
    obtain ⟨selection, selects⟩ := generator.exists_selects files
    have run := generate_eq_runOf services selects
    by_cases ambiguous : ∃ pattern candidates,
        selection = .error (.ambiguousCommandFile pattern candidates)
    · obtain ⟨pattern, candidates, rfl⟩ := ambiguous
      -- the candidates are told in the order of the files, so these runs may differ
      cases selects with
      | ambiguous undesignated several =>
          have permuted := candidatesOf_paths_perm samePaths generator
          have severalOthers : 2 ≤ (generator.candidatesOf others).length := by
            have sameLength := permuted.length_eq
            rw [List.length_map, List.length_map] at sameLength
            rwa [sameLength]
          exact .ambiguous run
            (generate_eq_runOf servicesOthers (.ambiguous undesignated severalOthers)) permuted
    · have unambiguous : ∀ pattern candidates,
          selection ≠ .error (.ambiguousCommandFile pattern candidates) :=
        fun pattern candidates same => ambiguous ⟨pattern, candidates, same⟩
      have kept : ∀ file, selection = .ok (some file) → file ∈ others := by
        rintro file rfl
        obtain ⟨before, after, split, _⟩ := selects.exists_place
        refine rearranges.mem (by simp [split]) ?_
        exact ⟨_, congrArg Logged.result run, rfl⟩
      have selectsOthers := selects.of_samePaths samePaths distinct kept unambiguous
      refine .same ?_ ((generate_eq_runOf servicesOthers selectsOthers).trans run.symm)
      intro pattern candidates failed
      rw [run] at failed
      cases selection with
      | ok commandFile => cases failed
      | error fault =>
          cases failed
          exact unambiguous _ _ rfl
  · have none : ∀ file ∈ files, ¬ file.PathHas generator.config.servicesMarker :=
      fun file member has => services ⟨file, member, has⟩
    have noneOthers : ∀ file ∈ others, ¬ file.PathHas generator.config.servicesMarker :=
      fun file member has => services (exists_pathHas samePaths ⟨file, member, has⟩)
    refine .same ?_ ?_
    · rw [generate_of_noServices none]
      rintro pattern candidates ⟨⟩
    · rw [generate_of_noServices none, generate_of_noServices noneOthers]

/-- Files around a command file. -/
def surroundedFiles : List ProtoFile :=
  [⟨"tagged/services/v1/types.proto", []⟩, taggedFile, ⟨"tagged/empty.proto", []⟩]

/-- The same files in another order, with services in those around the command file. -/
def rearrangedFiles : List ProtoFile :=
  [⟨"tagged/empty.proto", taggedFile.services⟩,
   ⟨"tagged/services/v1/types.proto", taggedFile.services⟩, taggedFile]

theorem runsAlike_of_rearranges_tagged :
    (surroundedFiles.map (·.path)).Nodup ∧
      taggedGenerator.Rearranges surroundedFiles rearrangedFiles ∧
      taggedGenerator.RunsAlike surroundedFiles rearrangedFiles := by
  have distinct : (surroundedFiles.map (·.path)).Nodup := by decide
  have services : surroundedFiles.any taggedGenerator.hasServices = true := by decide +kernel
  have generates := congrArg Logged.result (generate_of_commandFile services rfl)
  have rearranges : taggedGenerator.Rearranges surroundedFiles rearrangedFiles := by
    refine ⟨[⟨"tagged/services/v1/types.proto", taggedFile.services⟩, taggedFile,
      ⟨"tagged/empty.proto", taggedFile.services⟩], ?_, by decide⟩
    refine .cons ⟨rfl, ?_⟩ (.cons ⟨rfl, fun _ => rfl⟩ (.cons ⟨rfl, ?_⟩ .nil))
    · intro madeFrom
      exact absurd (madeFrom.path_eq generates rfl) (by decide)
    · intro madeFrom
      exact absurd (madeFrom.path_eq generates rfl) (by decide)
  exact ⟨distinct, rearranges, runsAlike_of_rearranges distinct rearranges⟩

/-- A generator that is told its command file. -/
def designatedGenerator : Generator where
  config := { Config.default with commandFile := some taggedFile.path }
  valid := by decide +kernel

/-- Where two files share the path of the command file, their order matters. -/
example :
    (designatedGenerator.generate [taggedFile, ⟨taggedFile.path, []⟩]).result ≠
      (designatedGenerator.generate [⟨taggedFile.path, []⟩, taggedFile]).result := by
  decide +kernel

end Generator

end RpcTools
