/-
Module: RpcTools.Proofs.FilePlacement
Purpose: Placing a file in a file system: what is left of every other file, and where the
  placed file comes to be.
Main exports: FileSystem.Leads, FileSystem.Grows, FileSystem.WrittenAt,
  FileSystem.Places, FileSystem.place_places, FileSystem.resolve_join_within
-/
import RpcTools.FileSystem.Placement

namespace RpcTools

/-- The location that a path leads to. -/
def Target.location : Target → Location
  | .directory location | .file location _ | .absent location => location

/-- The entry that a path leads to. -/
def Target.entry? : Target → Option Entry
  | .directory _ => some .directory
  | .file _ content => some (.file content)
  | .absent _ => none

namespace FileSystem

/-! ### Where names lead -/

/-- A name that names an entry, and is not too long to name one. -/
structure PlainName (name : String) : Prop where
  noDot : name ≠ "."
  noParent : name ≠ ".."
  short : ¬ nameLimit < name.utf8ByteSize

/-- Where names lead from a location, one case for each kind of name. -/
inductive Leads (system : FileSystem) : Location → List String → Target → Prop where
  | arrived (start : Location) : Leads system start [] (.directory start)
  | stay {start : Location} {rest : List String} {target : Target}
      (onwards : Leads system start rest target) : Leads system start ("." :: rest) target
  | up {start : Location} {rest : List String} {target : Target}
      (onwards : Leads system start.dropLast rest target) :
      Leads system start (".." :: rest) target
  | enter {start : Location} {name : String} {rest : List String} {target : Target}
      (plain : PlainName name) (found : system.find? (start ++ [name]) = some .directory)
      (onwards : Leads system (start ++ [name]) rest target) :
      Leads system start (name :: rest) target
  | file {start : Location} {name : String} {content : Wire.Bytes} (plain : PlainName name)
      (found : system.find? (start ++ [name]) = some (.file content)) :
      Leads system start [name] (.file (start ++ [name]) content)
  | absent {start : Location} {name : String} (plain : PlainName name)
      (missing : system.find? (start ++ [name]) = none) :
      Leads system start [name] (.absent (start ++ [name]))

section Leads

variable {system : FileSystem} {start inner : Location} {names rest : List String}
  {target : Target}

theorem Leads.walk_eq (leads : system.Leads start names target) :
    system.walk start names = .ok target := by
  induction leads with
  | arrived => rfl
  | stay onwards inductionHypothesis => simpa [walk] using inductionHypothesis
  | up onwards inductionHypothesis => simpa [walk] using inductionHypothesis
  | enter plain found onwards inductionHypothesis =>
      simpa [walk, plain.noDot, plain.noParent, plain.short, found] using inductionHypothesis
  | file plain found => simp [walk, plain.noDot, plain.noParent, plain.short, found]
  | absent plain missing => simp [walk, plain.noDot, plain.noParent, plain.short, missing]

theorem leads_of_walk (walked : system.walk start names = .ok target) :
    system.Leads start names target := by
  induction names generalizing start with
  | nil =>
      cases walked
      exact .arrived start
  | cons name rest inductionHypothesis =>
      rw [walk] at walked
      split at walked
      · next dot => exact dot ▸ .stay (inductionHypothesis walked)
      · next noDot =>
          split at walked
          · next parent => exact parent ▸ .up (inductionHypothesis walked)
          · next noParent =>
              split at walked
              · cases walked
              · next short =>
                  have plain : PlainName name := ⟨noDot, noParent, short⟩
                  split at walked
                  · next found => exact .enter plain found (inductionHypothesis walked)
                  · next content found =>
                      cases rest with
                      | nil =>
                          cases walked
                          exact .file plain found
                      | cons next others => cases walked
                  · next missing =>
                      cases rest with
                      | nil =>
                          cases walked
                          exact .absent plain missing
                      | cons next others => cases walked

theorem walk_eq_ok_iff :
    system.walk start names = .ok target ↔ system.Leads start names target :=
  ⟨leads_of_walk, Leads.walk_eq⟩

namespace Leads

/-- What follows names that lead to a directory is followed from there. -/
theorem walk_append (leads : system.Leads start names (.directory inner)) :
    system.walk start (names ++ rest) = system.walk inner rest := by
  generalize reached : Target.directory inner = directory at leads
  induction leads with
  | arrived =>
      cases reached
      rfl
  | stay _ inductionHypothesis =>
      rw [List.cons_append, walk, if_pos rfl, inductionHypothesis reached]
  | up _ inductionHypothesis =>
      rw [List.cons_append, walk, if_neg (by decide), if_pos rfl, inductionHypothesis reached]
  | enter plain found _ inductionHypothesis =>
      rw [List.cons_append, walk, if_neg plain.noDot, if_neg plain.noParent,
        if_neg plain.short, found]
      exact inductionHypothesis reached
  | file => cases reached
  | absent => cases reached

/-- Without two dots names never lead out of the directory that they are followed from. -/
theorem within (leads : system.Leads start names target) (noParent : ".." ∉ names) :
    start <+: target.location := by
  induction leads with
  | arrived start => exact List.prefix_refl start
  | stay _ inductionHypothesis =>
      exact inductionHypothesis fun member => noParent (List.mem_cons_of_mem _ member)
  | up => exact absurd List.mem_cons_self noParent
  | @enter start name _ _ _ _ _ inductionHypothesis =>
      exact (List.prefix_append start [name]).trans
        (inductionHypothesis fun member => noParent (List.mem_cons_of_mem _ member))
  | @file start name => exact List.prefix_append start [name]
  | @absent start name => exact List.prefix_append start [name]

/-- Names that lead to no directory lead to what is found at their location. -/
theorem find?_eq (leads : system.Leads start names target)
    (noDirectory : ∀ location, target ≠ .directory location) :
    system.find? target.location = target.entry? := by
  induction leads with
  | arrived start => exact absurd rfl (noDirectory start)
  | stay _ inductionHypothesis => exact inductionHypothesis noDirectory
  | up _ inductionHypothesis => exact inductionHypothesis noDirectory
  | enter _ _ _ inductionHypothesis => exact inductionHypothesis noDirectory
  | file _ found => exact found
  | absent _ missing => exact missing

end Leads

end Leads

/-! ### Where paths lead -/

variable {system before after last : FileSystem} {path directory : String} {inner : Location}
  {content : Wire.Bytes} {target : Target}

/-- The location that a path starts from. -/
def startOf (system : FileSystem) (path : String) : Location :=
  if Path.isAbsolute path then [] else system.here

/-- Only a path that says something, and in few enough characters that a system takes,
leads anywhere. -/
structure WellSpelled (path : String) : Prop where
  named : path ≠ ""
  noNul : '\x00' ∉ path.toList
  short : ¬ pathLimit < path.utf8ByteSize

theorem resolve_eq_ok_iff :
    system.resolve path = .ok target ↔
      WellSpelled path ∧ system.Leads (system.startOf path) (Path.steps path) target := by
  rw [resolve, startOf, ← walk_eq_ok_iff]
  constructor
  · intro leads
    split at leads
    · cases leads
    · next named =>
        split at leads
        · cases leads
        · next noNul =>
            split at leads
            · cases leads
            · next short => exact ⟨⟨by simpa using named, by simpa using noNul, short⟩, leads⟩
  · rintro ⟨⟨named, noNul, short⟩, walked⟩
    rw [if_neg (by simpa using named), if_neg (by simpa using noNul), if_neg short]
    exact walked

/-- A relative path without two dots leads from a directory to somewhere inside it. -/
theorem resolve_join_within (toDirectory : system.resolve directory = .ok (.directory inner))
    (relative : Path.isAbsolute path = false) (noParent : ".." ∉ Path.steps path)
    (resolves : system.resolve (Path.join directory path) = .ok target) :
    inner <+: target.location := by
  obtain ⟨spelled, leadsToDirectory⟩ := resolve_eq_ok_iff.1 toDirectory
  obtain ⟨_, leads⟩ := resolve_eq_ok_iff.1 resolves
  rw [startOf, Path.isAbsolute_join spelled.named relative,
    Path.steps_join spelled.named relative, ← startOf, ← walk_eq_ok_iff,
    leadsToDirectory.walk_append] at leads
  exact (leads_of_walk leads).within noParent

theorem resolve_within (relative : Path.isAbsolute path = false)
    (noParent : ".." ∉ Path.steps path) (resolves : system.resolve path = .ok target) :
    system.here <+: target.location := by
  obtain ⟨_, leads⟩ := resolve_eq_ok_iff.1 resolves
  rw [startOf, relative] at leads
  exact leads.within noParent

/-! ### Directories that are added -/

/-- Directories were made where nothing was; everything else is as before. -/
structure Grows (before after : FileSystem) : Prop where
  here : after.here = before.here
  media : after.media = before.media
  kept : ∀ {location entry}, before.find? location = some entry →
    after.find? location = some entry
  added : ∀ {location}, before.find? location = none →
    after.find? location = none ∨ after.find? location = some .directory

namespace Grows

theorem refl (system : FileSystem) : system.Grows system :=
  ⟨rfl, rfl, id, .inl⟩

theorem trans (first : before.Grows after) (second : after.Grows last) : before.Grows last where
  here := second.here.trans first.here
  media := second.media.trans first.media
  kept found := second.kept (first.kept found)
  added missing := by
    rcases first.added missing with still | made
    · exact second.added still
    · exact .inr (second.kept made)

/-- Every file keeps its content, and there is no new one. -/
theorem content?_eq (grows : before.Grows after) (location : Location) :
    after.content? location = before.content? location := by
  cases found : before.find? location with
  | some entry => simp only [content?, found, grows.kept found]
  | none => rcases grows.added found with still | made <;> simp [content?, *]

theorem mediumAt_eq (grows : before.Grows after) (location : Location) :
    after.mediumAt location = before.mediumAt location := by
  rw [mediumAt, mediumAt, grows.media]

/-- What leads to a directory still does. -/
theorem leads_directory (grows : before.Grows after) {start : Location} {names : List String}
    (leads : before.Leads start names (.directory inner)) :
    after.Leads start names (.directory inner) := by
  generalize reached : Target.directory inner = directory at leads ⊢
  induction leads with
  | arrived start => exact .arrived start
  | stay _ inductionHypothesis => exact .stay (inductionHypothesis reached)
  | up _ inductionHypothesis => exact .up (inductionHypothesis reached)
  | enter plain found _ inductionHypothesis =>
      exact .enter plain (grows.kept found) (inductionHypothesis reached)
  | file => cases reached
  | absent => cases reached

theorem resolve_directory (grows : before.Grows after)
    (toDirectory : before.resolve path = .ok (.directory inner)) :
    after.resolve path = .ok (.directory inner) := by
  obtain ⟨spelled, leads⟩ := resolve_eq_ok_iff.1 toDirectory
  refine resolve_eq_ok_iff.2 ⟨spelled, ?_⟩
  rw [startOf, grows.here]
  exact grows.leads_directory leads

end Grows

theorem grows_put_directory {location : Location} (missing : system.find? location = none) :
    system.Grows (system.put location .directory) where
  here := rfl
  media := rfl
  kept := by
    intro other entry found
    rw [find?_put]
    split
    · next root => simpa [find?, root] using found
    · split
      · next same => simp [← same, missing] at found
      · exact found
  added := by
    intro other nothing
    rw [find?_put]
    split
    · exact .inr rfl
    · split
      · exact .inr rfl
      · exact .inl nothing

theorem makeDirectory_grows (made : system.makeDirectory path = .ok after) :
    system.Grows after := by
  rw [makeDirectory] at made
  split at made
  · cases made
  · cases made
  · cases made
  · next resolves =>
      split at made
      · cases made
      · cases made
        exact grows_put_directory ((resolve_eq_ok_iff.1 resolves).2.find?_eq (by simp))

theorem makeOrKeepDirectory_grows (system : FileSystem) (path : String) :
    system.Grows (system.makeOrKeepDirectory path).1 := by
  rw [makeOrKeepDirectory]
  split
  · next made => exact makeDirectory_grows made
  · exact .refl system

/-- However far the making of directories gets, it adds directories and nothing else. -/
theorem makeDirectories_grows (system : FileSystem) (paths : List String) :
    system.Grows (system.makeDirectories paths).1 := by
  induction paths with
  | nil => exact .refl system
  | cons path outer inductionHypothesis =>
      rw [makeDirectories]
      split
      · exact .refl system
      · split
        · -- the directory around the path is missing, and is made first
          split
          · next prepared around =>
              rw [around] at inductionHypothesis
              exact inductionHypothesis.trans (makeOrKeepDirectory_grows prepared path)
          · exact inductionHypothesis
        · exact makeOrKeepDirectory_grows system path

/-! ### The file that is written -/

/-- The file at a location has a content, and every other file is as before. -/
structure WrittenAt (before after : FileSystem) (location : Location)
    (content : Wire.Bytes) : Prop where
  written : after.content? location = some content
  others : ∀ other, other ≠ location → after.content? other = before.content? other

/-- Where names lead to no directory there is none. -/
theorem Leads.find?_ne_directory {start : Location} {names : List String}
    (leads : system.Leads start names target)
    (noDirectory : ∀ location, target ≠ .directory location) :
    system.find? target.location ≠ some .directory := by
  rw [leads.find?_eq noDirectory]
  cases target with
  | directory location => exact absurd rfl (noDirectory location)
  | file location content => simp [Target.entry?]
  | absent location => simp [Target.entry?]

/-- Once a file is put where names lead to, they lead to it. -/
theorem Leads.put_file {start : Location} {names : List String}
    (leads : system.Leads start names target)
    (noDirectory : ∀ location, target ≠ .directory location) (content : Wire.Bytes) :
    (system.put target.location (.file content)).Leads start names
      (.file target.location content) := by
  induction leads with
  | arrived start => exact absurd rfl (noDirectory start)
  | stay _ inductionHypothesis => exact .stay (inductionHypothesis noDirectory)
  | up _ inductionHypothesis => exact .up (inductionHypothesis noDirectory)
  | @enter start name rest target plain found onwards inductionHypothesis =>
      refine .enter plain ?_ (inductionHypothesis noDirectory)
      have elsewhere : target.location ≠ start ++ [name] := by
        intro same
        exact onwards.find?_ne_directory noDirectory (same ▸ found)
      rw [find?_put, if_neg (by simp), if_neg elsewhere, found]
  | file plain _ => exact .file plain (by simp [find?_put, Target.location])
  | absent plain _ => exact .file plain (by simp [find?_put, Target.location])

theorem writtenAt_put {location : Location}
    (noDirectory : system.find? location ≠ some .directory) (content : Wire.Bytes) :
    system.WrittenAt (system.put location (.file content)) location content where
  written := by
    have notRoot : location ≠ [] := fun root => noDirectory (root ▸ system.find?_nil)
    simp [content?, find?_put, notRoot]
  others := by
    intro other different
    simp only [content?, find?_put]
    by_cases root : other = []
    · simp [root, find?_nil]
    · rw [if_neg root, if_neg different.symm]

/-- What writing a content to a path comes to: the file there could not be opened, and nothing
changed, or it was opened, and holds what its medium kept. -/
inductive Writes (system : FileSystem) (path : String) (content : Wire.Bytes) :
    FileSystem × Option FileFault → Prop where
  | unopened (fault : FileFault) : Writes system path content (system, some fault)
  | opened {target : Target} (resolves : system.resolve path = .ok target)
      (noDirectory : ∀ location, target ≠ .directory location)
      (opens : (system.mediumAt target.location).refusal = none) :
      Writes system path content
        (system.put target.location (.file ((system.mediumAt target.location).kept content)),
          (system.mediumAt target.location).fault)

theorem writeFile_writes (system : FileSystem) (path : String) (content : Wire.Bytes) :
    system.Writes path content (system.writeFile path content) := by
  rw [writeFile]
  split
  · next fault _ => exact .unopened fault
  · exact .unopened .isADirectory
  all_goals
    next location resolves =>
      split
      · exact .unopened .isADirectory
      · simp only
        split
        · next fault _ => exact .unopened fault
        · next opens => exact .opened resolves (by simp) opens

/-! ### The file that is placed -/

/-- What placing a content comes to.  Directories are added first, and only then a file is
opened. -/
inductive Places (system : FileSystem) (path : String) (content : Wire.Bytes) :
    Change → Prop where
  | unopened {prepared : FileSystem} (closed : String) (fault : FileFault)
      (grows : system.Grows prepared) :
      Places system path content ⟨prepared, some (.io closed fault)⟩
  | opened {prepared : FileSystem} {target : Target} (grows : system.Grows prepared)
      (resolves : prepared.resolve path = .ok target)
      (noDirectory : ∀ location, target ≠ .directory location)
      (opens : (system.mediumAt target.location).refusal = none) :
      Places system path content
        ⟨prepared.put target.location (.file ((system.mediumAt target.location).kept content)),
          (system.mediumAt target.location).fault.map (.io path)⟩

theorem place_places (system : FileSystem) (path : String) (content : Wire.Bytes) :
    system.Places path content (system.place path content) := by
  rw [place]
  have grows := system.makeDirectories_grows
    (Path.stages ((Path.parent? path).getD "")).reverse
  cases made : system.makeDirectories (Path.stages ((Path.parent? path).getD "")).reverse with
  | mk prepared stopped =>
      rw [made] at grows
      cases stopped with
      | some fault => exact .unopened _ fault grows
      | none =>
          have writes := prepared.writeFile_writes path content
          change system.Places path content
            ⟨(prepared.writeFile path content).1,
              (prepared.writeFile path content).2.map (.io path)⟩
          generalize prepared.writeFile path content = written at writes ⊢
          cases writes with
          | unopened fault => exact .unopened path fault grows
          | opened resolves noDirectory opens =>
              rw [grows.mediumAt_eq] at opens ⊢
              exact .opened grows resolves noDirectory opens

/-- Whatever stops a content from being placed is a fault of the file system. -/
theorem exists_io_of_place {error : Error}
    (fails : (system.place path content).fault = some error) :
    ∃ path fault, error = .io path fault := by
  have places := system.place_places path content
  generalize system.place path content = change at places fails
  cases places with
  | unopened closed fault =>
      cases fails
      exact ⟨closed, fault, rfl⟩
  | opened =>
      obtain ⟨fault, _, rfl⟩ := Option.map_eq_some_iff.1 fails
      exact ⟨path, fault, rfl⟩

/-- Where a file was opened after directories were added, it is the only file that changed. -/
theorem Grows.writtenAt_put (grows : before.Grows after) (resolves : after.resolve path = .ok target)
    (noDirectory : ∀ location, target ≠ .directory location) (content : Wire.Bytes) :
    before.WrittenAt (after.put target.location (.file content)) target.location content := by
  obtain ⟨_, leads⟩ := resolve_eq_ok_iff.1 resolves
  have changed := FileSystem.writtenAt_put (leads.find?_ne_directory noDirectory) content
  refine ⟨changed.written, fun other different => ?_⟩
  rw [changed.others other different, grows.content?_eq other]

/-- It is found at its path. -/
theorem resolve_put (resolves : system.resolve path = .ok target)
    (noDirectory : ∀ location, target ≠ .directory location) (content : Wire.Bytes) :
    (system.put target.location (.file content)).resolve path =
      .ok (.file target.location content) := by
  obtain ⟨spelled, leads⟩ := resolve_eq_ok_iff.1 resolves
  exact resolve_eq_ok_iff.2 ⟨spelled, leads.put_file noDirectory content⟩

end FileSystem

end RpcTools
