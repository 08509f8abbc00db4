/-
Module: RpcTools.FileSystem.Placement
Purpose: Writing a file together with the directories that it needs.
Main exports: FileSystem.Change, FileSystem.makeDirectories, FileSystem.place
-/
import RpcTools.FileSystem

namespace RpcTools.FileSystem

/-- The files after a change, and what stopped the change half-way, if anything did. -/
structure Change where
  files : FileSystem
  fault : Option Error
deriving Repr, DecidableEq

/-- Makes a directory; one that is there already is as good. -/
def makeOrKeepDirectory (system : FileSystem) (path : String) :
    FileSystem × Option FileFault :=
  match system.makeDirectory path with
  | .ok next => (next, none)
  | .error fault => (system, if system.isDirectory path then none else some fault)

/-- Makes the directory that the first path names, given the paths of what it is in,
innermost first.  What it is in is made only if it turns out to be missing, and stays
if something inside cannot be made.  The empty path names the current directory. -/
def makeDirectories (system : FileSystem) : List String → FileSystem × Option FileFault
  | [] => (system, none)
  | path :: outer =>
      if path.isEmpty then (system, none)
      else
        match system.makeOrKeepDirectory path with
        | (_, some .notFound) =>
            match makeDirectories system outer with
            | (next, none) => next.makeOrKeepDirectory path
            | stopped => stopped
        | outcome => outcome

/-- Writes a content to a path, after the directory that it is in was made.  A fault in the
writing comes with what the writing left. -/
def place (system : FileSystem) (path : String) (content : Wire.Bytes) : Change :=
  let directory := (Path.parent? path).getD ""
  match system.makeDirectories (Path.stages directory).reverse with
  | (prepared, some fault) => ⟨prepared, some (.io directory fault)⟩
  | (prepared, none) =>
      let (written, fault) := prepared.writeFile path content
      ⟨written, fault.map (.io path)⟩

end RpcTools.FileSystem
