/-
Module: RpcTools.FileSystem
Purpose: Files and directories, and how paths lead to them.
Main exports: Location, Medium, FileSystem, FileSystem.find?, FileSystem.put,
  FileSystem.resolve, FileSystem.readBytes, FileSystem.readText, FileSystem.writeFile,
  FileSystem.makeDirectory
-/
import RpcTools.Error
import RpcTools.Path
import RpcTools.Wire

/-!
A location names an entry from the root, one name a level.  A path is followed from the
root or from the current directory, name by name: a dot stays, two dots go up, and every
other name must be that of a directory, unless it is the last one.

A file that is opened to be written is emptied by that.  How much of the content it holds
afterwards is up to its medium: a full disk keeps the beginning and says so, and a device may
keep nothing and not say so.
-/

namespace RpcTools

/-- The names that lead from the root to an entry. -/
abbrev Location := List String

/-- What is found at a location. -/
inductive Entry where
  | directory
  | file (content : Wire.Bytes)
deriving Repr, DecidableEq

/-- How writing comes out at a location. -/
structure Medium where
  /-- Why nothing can be made or opened to be written there, if so. -/
  refusal : Option FileFault
  /-- How many bytes of a content are kept, unless all of them are. -/
  capacity : Option Nat
  /-- What is told about the writing, unless that all went well. -/
  fault : Option FileFault
deriving Repr, DecidableEq

namespace Medium

/-- Everything can be written, and is kept. -/
def ordinary : Medium := ⟨none, none, none⟩

/-- What is kept of a content. -/
def kept (medium : Medium) (content : Wire.Bytes) : Wire.Bytes :=
  match medium.capacity with
  | none => content
  | some capacity => content.take capacity

/-- Only the end of a content gets lost. -/
theorem kept_prefix (medium : Medium) (content : Wire.Bytes) :
    medium.kept content <+: content := by
  rw [kept]
  cases medium.capacity with
  | none => exact List.prefix_refl content
  | some capacity => exact List.take_prefix capacity content

/-- All of a content is kept, or as much as fits. -/
theorem kept_cases (medium : Medium) (content : Wire.Bytes) :
    medium.kept content = content ∨
      medium.capacity = some (medium.kept content).length := by
  rw [kept]
  cases medium.capacity with
  | none => exact .inl rfl
  | some capacity =>
      rcases Nat.le_total content.length capacity with fits | exceeds
      · exact .inl (List.take_of_length_le fits)
      · exact .inr (by rw [List.length_take_of_le exceeds])

end Medium

/-- Entries by location, of which the first at a location counts, the current directory, and
the locations whose medium is not an ordinary one.  The root is always a directory. -/
structure FileSystem where
  entries : List (Location × Entry)
  here : Location
  media : List (Location × Medium)
deriving Repr, DecidableEq

/-- Where a path leads. -/
inductive Target where
  | directory (location : Location)
  | file (location : Location) (content : Wire.Bytes)
  /-- Nothing is there, but the directory that it would be in is. -/
  | absent (location : Location)
deriving Repr, DecidableEq

namespace FileSystem

/-- The entry at a location. -/
def find? (system : FileSystem) (location : Location) : Option Entry :=
  if location = [] then some .directory
  else (system.entries.find? (·.1 == location)).map (·.2)

/-- The files with one entry put at a location, in place of an older one. -/
def put (system : FileSystem) (location : Location) (entry : Entry) : FileSystem :=
  { system with entries := (location, entry) :: system.entries }

/-- The medium of what is at a location, or would be. -/
def mediumAt (system : FileSystem) (location : Location) : Medium :=
  ((system.media.find? (·.1 == location)).map (·.2)).getD .ordinary

/-- The content of the file at a location. -/
def content? (system : FileSystem) (location : Location) : Option Wire.Bytes :=
  match system.find? location with
  | some (.file content) => some content
  | _ => none

/-! ### Following paths -/

/-- How many bytes a name may have. -/
def nameLimit : Nat := 255

/-- How many bytes a path may have. -/
def pathLimit : Nat := 4095

/-- Follows names from a location. -/
def walk (system : FileSystem) (location : Location) :
    List String → Except FileFault Target
  | [] => .ok (.directory location)
  | name :: rest =>
      if name = "." then walk system location rest
      else if name = ".." then walk system location.dropLast rest
      else if nameLimit < name.utf8ByteSize then .error .nameTooLong
      else
        match system.find? (location ++ [name]) with
        | some .directory => walk system (location ++ [name]) rest
        | some (.file content) =>
            if rest.isEmpty then .ok (.file (location ++ [name]) content)
            else .error .notADirectory
        | none =>
            if rest.isEmpty then .ok (.absent (location ++ [name])) else .error .notFound

/-- Where a path leads.  The empty path leads nowhere. -/
def resolve (system : FileSystem) (path : String) : Except FileFault Target :=
  if path.isEmpty then .error .notFound
  else if path.toList.contains '\x00' then .error .nulInPath
  else if pathLimit < path.utf8ByteSize then .error .nameTooLong
  else system.walk (if Path.isAbsolute path then [] else system.here) (Path.steps path)

/-- Whether a path leads to something; no file has a path that ends in a slash. -/
def has (system : FileSystem) (path : String) : Bool :=
  match system.resolve path with
  | .ok (.directory _) => true
  | .ok (.file _ _) => !Path.endsInSlash path
  | .ok (.absent _) | .error _ => false

/-- Whether a path leads to a directory. -/
def isDirectory (system : FileSystem) (path : String) : Bool :=
  match system.resolve path with
  | .ok (.directory _) => true
  | _ => false

/-! ### Reading -/

/-- The content of a file. -/
def readBytes (system : FileSystem) (path : String) : Except FileFault Wire.Bytes :=
  match system.resolve path with
  | .error fault => .error fault
  | .ok (.directory _) => .error .isADirectory
  | .ok (.absent _) => .error .notFound
  | .ok (.file _ content) =>
      if Path.endsInSlash path then .error .notADirectory else .ok content

/-- The content of a file as text. -/
def readText (system : FileSystem) (path : String) : Except FileFault String :=
  match system.readBytes path with
  | .error fault => .error fault
  | .ok content =>
      match String.fromUTF8? content.toByteArray with
      | some text => .ok text
      | none => .error .notUtf8

/-! ### Changing -/

/-- The files after a content was written to a path, and what stopped it, if anything did.
What cannot be opened stays as it is. -/
def writeFile (system : FileSystem) (path : String) (content : Wire.Bytes) :
    FileSystem × Option FileFault :=
  match system.resolve path with
  | .error fault => (system, some fault)
  | .ok (.directory _) => (system, some .isADirectory)
  | .ok (.file location _) | .ok (.absent location) =>
      if Path.endsInSlash path then (system, some .isADirectory)
      else
        let medium := system.mediumAt location
        match medium.refusal with
        | some fault => (system, some fault)
        | none => (system.put location (.file (medium.kept content)), medium.fault)

/-- The files after a directory was made at a path. -/
def makeDirectory (system : FileSystem) (path : String) : Except FileFault FileSystem :=
  match system.resolve path with
  | .error fault => .error fault
  | .ok (.directory _) | .ok (.file _ _) => .error .alreadyExists
  | .ok (.absent location) =>
      match (system.mediumAt location).refusal with
      | some fault => .error fault
      | none => .ok (system.put location .directory)

/-! ### Small laws -/

theorem find?_nil (system : FileSystem) : system.find? [] = some .directory := by
  simp [find?]

theorem find?_put (system : FileSystem) (location other : Location) (entry : Entry) :
    (system.put location entry).find? other =
      if other = [] then some .directory
      else if location = other then some entry else system.find? other := by
  by_cases root : other = []
  · simp [find?, root]
  · by_cases same : location = other <;> simp [find?, put, root, same]

/-- A medium that is not ordinary is listed. -/
theorem mediumAt_cases (system : FileSystem) (location : Location) :
    (location, system.mediumAt location) ∈ system.media ∨
      system.mediumAt location = .ordinary := by
  rw [mediumAt]
  cases found : system.media.find? (·.1 == location) with
  | none => exact .inr rfl
  | some entry =>
      have same : entry.1 = location := by simpa using List.find?_some found
      exact .inl (same ▸ List.mem_of_find?_eq_some found)

end FileSystem

end RpcTools
