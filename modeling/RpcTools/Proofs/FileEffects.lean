/-
Module: RpcTools.Proofs.FileEffects
Purpose: What a run that generates does to files, however it ends.
Main exports: Environment.GoesTo, Environment.AffectsFiles,
  Environment.generate_affectsFiles, Environment.generate_loses
-/
import RpcTools.Proofs.CommandFileSelection
import RpcTools.Proofs.CommandStages
import RpcTools.Proofs.DescriptorTools
import RpcTools.Proofs.FilePlacement

namespace RpcTools

/-! ### The path of the module -/

theorem Path.not_mem_steps_of_not_contains {path name : String}
    (absent : Text.contains path name = false) : name ∉ steps path := by
  intro member
  simp only [steps, pieces, Text.split, List.mem_filter, List.mem_map] at member
  obtain ⟨⟨piece, inPath, rfl⟩, _⟩ := member
  have present : Text.contains path (String.ofList piece) = true :=
    Text.occursIn_iff.2 (by simpa using Text.infix_of_mem_segments inPath)
  rw [absent] at present
  cases present

/-- The path of the module starts from no root and goes up nowhere. -/
structure StaysInside (path : String) : Prop where
  relative : Path.isAbsolute path = false
  noParent : ".." ∉ Path.steps path

theorem staysInside_of_not_leadsOutside {path : String}
    (inside : Config.leadsOutside path = false) : StaysInside path := by
  rw [Config.leadsOutside, Bool.or_eq_false_iff] at inside
  obtain ⟨noParent, relative⟩ := inside
  refine ⟨?_, Path.not_mem_steps_of_not_contains noParent⟩
  cases letters : path.toList with
  | nil => simp [Path.isAbsolute, letters]
  | cons first rest =>
      have different : '/' ≠ first := by simpa [letters, List.isPrefixOf] using relative
      simpa [Path.isAbsolute, letters] using different.symm

/-- A valid configuration names a path that stays inside. -/
theorem Generator.staysInside_outputFile (generator : Generator) :
    StaysInside generator.config.outputFile := by
  have valid := generator.valid
  simp only [Config.faults, List.append_eq_nil_iff, violation_eq_nil_iff] at valid
  exact staysInside_of_not_leadsOutside valid.1.1.1.2

theorem Generator.path_of_generate {generator : Generator} {files : List ProtoFile}
    {generated : GeneratedModule}
    (generates : (generator.generate files).result = .ok (some generated)) :
    generated.path = generator.config.outputFile := by
  obtain ⟨commandFile, _, _, rfl, _⟩ := exists_commandFile generates
  rfl

namespace Environment

variable {environment : Environment} {inputs : Inputs} {output : Option String}
  {format : OutputFormat}

/-! ### Where a module goes -/

/-- The path that a module with a path of its own goes to for an output, and the location
of the file there. -/
inductive GoesTo (environment : Environment) (modulePath : String) :
    Option String → String → Location → Prop where
  /-- An output that is a directory takes the module, somewhere inside. -/
  | intoDirectory {directory : String} {inner location : Location}
      (toDirectory : environment.files.resolve directory = .ok (.directory inner))
      (inside : inner <+: location) :
      GoesTo environment modulePath (some directory) (Path.join directory modulePath) location
  /-- Any other output is the path of the module. -/
  | atPath {path : String} {location : Location}
      (noDirectory : ∀ inner, environment.files.resolve path ≠ .ok (.directory inner)) :
      GoesTo environment modulePath (some path) path location
  /-- Without an output the module goes somewhere inside the current directory. -/
  | here {location : Location} (inside : environment.files.here <+: location) :
      GoesTo environment modulePath none modulePath location

theorem isDirectory_iff {files : FileSystem} {path : String} :
    files.isDirectory path = true ↔ ∃ inner, files.resolve path = .ok (.directory inner) := by
  rw [FileSystem.isDirectory]
  split
  · next inner toDirectory => simp [toDirectory]
  · next other => simpa using other

/-- A module with a path that stays inside goes to where the path leads, once the
directories on the way are there. -/
theorem goesTo_targetPath {modulePath : String} {prepared : FileSystem} {target : Target}
    (stays : StaysInside modulePath) (grows : environment.files.Grows prepared)
    (resolves : prepared.resolve (environment.targetPath output modulePath) = .ok target) :
    environment.GoesTo modulePath output (environment.targetPath output modulePath)
      target.location := by
  cases output with
  | none =>
      refine .here ?_
      -- making directories leaves the current one what it was
      rw [← grows.here]
      exact FileSystem.resolve_within stays.relative stays.noParent resolves
  | some path =>
      rw [targetPath] at resolves ⊢
      by_cases directory : environment.files.isDirectory path = true
      · rw [if_pos directory] at resolves ⊢
        obtain ⟨inner, toDirectory⟩ := isDirectory_iff.1 directory
        exact .intoDirectory toDirectory
          (FileSystem.resolve_join_within (grows.resolve_directory toDirectory)
            stays.relative stays.noParent resolves)
      · rw [if_neg directory] at resolves ⊢
        exact .atPath fun inner toDirectory => directory (isDirectory_iff.2 ⟨inner, toDirectory⟩)

theorem goesTo_of_generate {generator : Generator} {files : List ProtoFile}
    {generated : GeneratedModule} {prepared : FileSystem} {target : Target}
    (generates : (generator.generate files).result = .ok (some generated))
    (grows : environment.files.Grows prepared)
    (resolves : prepared.resolve (environment.targetPath output generated.path) = .ok target) :
    environment.GoesTo generator.config.outputFile output
      (environment.targetPath output generated.path) target.location := by
  rw [Generator.path_of_generate generates] at resolves ⊢
  exact goesTo_targetPath generator.staysInside_outputFile grows resolves

/-! ### Whole runs -/

/-- What a run did to the files when it has come to an end.  Directories that were made on
the way to a file are no files. -/
inductive AffectsFiles (environment : Environment) (inputs : Inputs) (output : Option String)
    (run : Execution) : Prop where
  /-- A run that fails before a file is opened prints nothing and leaves every file as it is. -/
  | failed {stage : Stage} {error : Error}
      (fails : environment.FailsAt inputs output stage error) (told : run.error = some error)
      (silent : run.printed = "")
      (unchanged : ∀ location,
        run.files.content? location = environment.files.content? location) :
      AffectsFiles environment inputs output run
  /-- A run that fails while the file is written prints nothing.  The file has lost what it held
  for a beginning of the module, and every other file is as before. -/
  | cutShort {generator : Generator} {files : List ProtoFile} {generated : GeneratedModule}
      {path : String} {location : Location} {medium : Medium} {fault : FileFault}
      {kept : Wire.Bytes} (reads : environment.Reads inputs generator files)
      (generates : (generator.generate files).result = .ok (some generated))
      (toFile : output ≠ some "-")
      (goesTo : environment.GoesTo generator.config.outputFile output path location)
      (listed : (location, medium) ∈ environment.files.media)
      (opens : medium.refusal = none) (faulty : medium.fault = some fault)
      (told : run.error = some (.io path fault)) (silent : run.printed = "")
      (beginning : kept <+: generated.content.toUTF8.toList)
      (found : run.files.resolve path = .ok (.file location kept))
      (changed : environment.files.WrittenAt run.files location kept) :
      AffectsFiles environment inputs output run
  /-- The text of the module is printed, and nothing else; without a module nothing is. -/
  | printed {made : Option GeneratedModule} (makes : environment.Makes inputs made)
      (toStandardOutput : output = some "-") (succeeds : run.error = none)
      (text : run.printed = (made.map (·.content)).getD "")
      (unchanged : run.files = environment.files) :
      AffectsFiles environment inputs output run
  /-- There are no services. -/
  | nothing {generator : Generator} {files : List ProtoFile}
      (reads : environment.Reads inputs generator files)
      (noServices : ∀ file ∈ files, ¬ file.PathHas generator.config.servicesMarker)
      (toFile : output ≠ some "-") (succeeds : run.error = none)
      (unchanged : run.files = environment.files) :
      AffectsFiles environment inputs output run
  /-- The module is in one file, and every other file is as before.  Only a medium that takes
  more than it keeps, and does not tell, leaves out the end. -/
  | written {generator : Generator} {files : List ProtoFile} {generated : GeneratedModule}
      {path : String} {location : Location} {kept : Wire.Bytes}
      (reads : environment.Reads inputs generator files)
      (generates : (generator.generate files).result = .ok (some generated))
      (toFile : output ≠ some "-") (succeeds : run.error = none)
      (goesTo : environment.GoesTo generator.config.outputFile output path location)
      (beginning : kept <+: generated.content.toUTF8.toList)
      (whole : kept = generated.content.toUTF8.toList ∨
        ∃ medium, (location, medium) ∈ environment.files.media ∧
          medium.capacity = some kept.length ∧ medium.fault = none)
      (found : run.files.resolve path = .ok (.file location kept))
      (changed : environment.files.WrittenAt run.files location kept) :
      AffectsFiles environment inputs output run

theorem Makes.exists_noServices (makes : environment.Makes inputs none) :
    ∃ generator files, environment.Reads inputs generator files ∧
      ∀ file ∈ files, ¬ file.PathHas generator.config.servicesMarker := by
  obtain ⟨reads, generates⟩ := makes
  refine ⟨_, _, reads, ?_⟩
  cases Generator.generate_result_iff.1 generates with
  | nothing noServices => exact noServices

/-- A module that could not be placed was not opened anywhere, or not written to its end. -/
theorem affectsFiles_of_unwritten {generated : GeneratedModule} {error : Error}
    {events : List Event} (makes : environment.Makes inputs (some generated))
    (toFile : output ≠ some "-")
    (fails : (environment.placing output generated).fault = some error) :
    environment.AffectsFiles inputs output
      (.failed error events (environment.placing output generated).files) := by
  have failsAt := FailsAt.placement makes toFile fails
  obtain ⟨reads, generates⟩ := makes
  have places := environment.files.place_places (environment.targetPath output generated.path)
    generated.content.toUTF8.toList
  rw [← placing] at places
  generalize environment.placing output generated = change at places fails ⊢
  cases places with
  | unopened closed fault grows => exact .failed failsAt rfl rfl grows.content?_eq
  | @opened prepared target grows resolves noDirectory opens =>
      obtain ⟨fault, faulty, rfl⟩ := Option.map_eq_some_iff.1 fails
      rcases environment.files.mediumAt_cases target.location with listed | ordinary
      · exact .cutShort reads generates toFile (goesTo_of_generate generates grows resolves)
          listed opens faulty rfl rfl (Medium.kept_prefix _ _)
          (FileSystem.resolve_put resolves noDirectory _)
          (grows.writtenAt_put resolves noDirectory _)
      · rw [ordinary] at faulty
        cases faulty

theorem affectsFiles_of_written {generated : GeneratedModule} {printed : String}
    {events : List Event} (makes : environment.Makes inputs (some generated))
    (toFile : output ≠ some "-")
    (done : (environment.placing output generated).fault = none) :
    environment.AffectsFiles inputs output
      (.completed printed events (environment.placing output generated).files) := by
  obtain ⟨reads, generates⟩ := makes
  have places := environment.files.place_places (environment.targetPath output generated.path)
    generated.content.toUTF8.toList
  rw [← placing] at places
  generalize environment.placing output generated = change at places done ⊢
  cases places with
  | unopened => cases done
  | @opened prepared target grows resolves noDirectory opens =>
      refine .written reads generates toFile rfl (goesTo_of_generate generates grows resolves)
        (Medium.kept_prefix _ _) ?_ (FileSystem.resolve_put resolves noDirectory _)
        (grows.writtenAt_put resolves noDirectory _)
      have untold : (environment.files.mediumAt target.location).fault = none :=
        Option.map_eq_none_iff.1 done
      rcases Medium.kept_cases (environment.files.mediumAt target.location)
        generated.content.toUTF8.toList with whole | capacity
      · exact .inl whole
      · rcases environment.files.mediumAt_cases target.location with listed | ordinary
        · exact .inr ⟨_, listed, capacity, untold⟩
        · rw [ordinary] at capacity
          cases capacity

theorem Generates.affectsFiles {run : Execution}
    (generates : environment.Generates inputs output format run) :
    environment.AffectsFiles inputs output run := by
  cases generates with
  | failed _ fails => exact .failed fails rfl rfl fun _ => rfl
  | printed makes toStandardOutput => exact .printed makes toStandardOutput rfl rfl rfl
  | nothing makes toFile =>
      obtain ⟨_, _, reads, noServices⟩ := makes.exists_noServices
      exact .nothing reads noServices toFile rfl rfl
  | unwritten makes toFile fails => exact affectsFiles_of_unwritten makes toFile fails
  | written makes toFile done => exact affectsFiles_of_written makes toFile done

/-- However a run ends, it did one of five things. -/
theorem generate_affectsFiles (environment : Environment) (inputs : Inputs)
    (output : Option String) (format : OutputFormat) :
    environment.AffectsFiles inputs output (environment.generate inputs output format) :=
  generate_generates.affectsFiles

/-! ### Files that do not keep what is written -/

/-- A module from before on a disk that is full, and a device that keeps nothing. -/
def lossyEnvironment : Environment where
  files :=
    { entries :=
        [(["set.pb"], .file smallSet), (["module.ts"], .file [47, 47]),
         (["dev"], .directory), (["dev", "null"], .file [])]
      here := []
      media :=
        [(["module.ts"], ⟨none, some 0, some .noSpace⟩), (["dev", "null"], ⟨none, some 0, none⟩)] }
  configHome := none
  colored := false

/-- The set, and nothing else. -/
def plainInputs : Inputs where
  descriptorSet := "set.pb"
  config := none
  commandFile := none

theorem lossyEnvironment_makes :
    lossyEnvironment.Makes plainInputs (some (smallGenerator.madeOf (some smallFile))) := by
  have configured :
      (lossyEnvironment.effectiveConfig plainInputs.config plainInputs.commandFile none).result =
        .ok smallGenerator.config := by
    simp only [effectiveConfig, Logged.result_bind_eq_ok_iff, Logged.result_ofExcept,
      Logged.result_pure]
    exact ⟨Config.default, rfl, (), Config.default_validate, rfl⟩
  have services : [smallFile].any smallGenerator.hasServices = true := by decide +kernel
  exact .of ⟨configured, by decide +kernel⟩
    (congrArg Logged.result (Generator.generate_of_commandFile services rfl))

theorem Makes.unique {made other : Option GeneratedModule} (makes : environment.Makes inputs made)
    (again : environment.Makes inputs other) : made = other := by
  have result := dryRun_result_eq_ok_iff.2 makes
  rw [dryRun_result_eq_ok_iff.2 again] at result
  exact (Except.ok.inj result).symm

/-- Where a module is written, a run ends as the placing of the module does. -/
theorem Generates.ends_of_makes {run : Execution} {generated : GeneratedModule}
    (generates : environment.Generates inputs output format run)
    (makes : environment.Makes inputs (some generated)) (toFile : output ≠ some "-") :
    run.error = (environment.placing output generated).fault ∧
      run.files = (environment.placing output generated).files := by
  cases generates with
  | failed before fails =>
      have result := dryRun_result_eq_error_iff.2 ⟨_, before, fails⟩
      rw [dryRun_result_eq_ok_iff.2 makes] at result
      cases result
  | printed _ toStandardOutput => exact absurd toStandardOutput toFile
  | nothing again _ => cases makes.unique again
  | unwritten again _ fails =>
      cases makes.unique again
      generalize environment.placing output generated = change at fails ⊢
      exact ⟨fails.symm, rfl⟩
  | written again _ done =>
      cases makes.unique again
      generalize environment.placing output generated = change at done ⊢
      exact ⟨done.symm, rfl⟩

/-- A file on a medium that keeps nothing is empty after a run, whatever the run tells. -/
theorem generate_lossy (path : String) (location : Location) (old : Wire.Bytes)
    (fault : Option FileFault) (toFile : some path ≠ some "-")
    (prepares : lossyEnvironment.files.makeDirectories
      (Path.stages ((Path.parent? path).getD "")).reverse = (lossyEnvironment.files, none))
    (resolves : lossyEnvironment.files.resolve path = .ok (.file location old))
    (plain : Path.endsInSlash path = false)
    (medium : lossyEnvironment.files.mediumAt location = ⟨none, some 0, fault⟩)
    (noDirectory : lossyEnvironment.files.find? location ≠ some .directory)
    (format : OutputFormat) :
    (lossyEnvironment.generate plainInputs (some path) format).error = fault.map (.io path) ∧
      (lossyEnvironment.generate plainInputs (some path) format).files.content? location =
        some [] := by
  obtain ⟨error, files⟩ := generate_generates.ends_of_makes lossyEnvironment_makes toFile
  have places : ∀ generated, lossyEnvironment.placing (some path) generated =
      ⟨lossyEnvironment.files.put location (.file []), fault.map (.io path)⟩ := by
    intro generated
    simp only [placing, targetPath, FileSystem.isDirectory, FileSystem.place, prepares,
      FileSystem.writeFile, resolves, plain, medium, Medium.kept, List.take_zero,
      Bool.false_eq_true, if_false]
  rw [error, files, places]
  exact ⟨rfl, (FileSystem.writtenAt_put noDirectory []).written⟩

/-- A run that fails can have emptied a file, and one that succeeds can have left one empty
that a module was written to. -/
theorem generate_loses :
    (lossyEnvironment.files.content? ["module.ts"] = some [47, 47] ∧
      (lossyEnvironment.generate plainInputs (some "module.ts") .json).error =
        some (.io "module.ts" .noSpace) ∧
      (lossyEnvironment.generate plainInputs (some "module.ts") .json).files.content?
        ["module.ts"] = some []) ∧
    ((∃ generated, lossyEnvironment.Makes plainInputs (some generated) ∧
        generated.content ≠ "") ∧
      (lossyEnvironment.generate plainInputs (some "/dev/null") .json).error = none ∧
      (lossyEnvironment.generate plainInputs (some "/dev/null") .json).files.content?
        ["dev", "null"] = some []) := by
  refine ⟨⟨by decide +kernel, ?_⟩, ⟨_, lossyEnvironment_makes, plainModule_ne_empty _ _⟩, ?_⟩
  · exact generate_lossy "module.ts" ["module.ts"] [47, 47] (some .noSpace) (by decide)
      (by decide +kernel) (by decide +kernel) (by decide +kernel) (by decide +kernel)
      (by decide +kernel) .json
  · exact generate_lossy "/dev/null" ["dev", "null"] [] none (by decide) (by decide +kernel)
      (by decide +kernel) (by decide +kernel) (by decide +kernel) (by decide +kernel) .json

end Environment

end RpcTools
