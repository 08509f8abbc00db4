/-
Module: RpcTools.Path
Purpose: Paths as they are written.
Main exports: Path.isAbsolute, Path.steps, Path.stages, Path.parent?, Path.join
-/
import RpcTools.Text.Segments

/-!
A path keeps the way in which it was written: slashes next to each other and dots stay
where they are, and only what is cut off at the end of a path is cut off.
-/

namespace RpcTools.Path

/-- What stands between the slashes. -/
def pieces (path : String) : List String :=
  Text.split '/' path

/-- Whether a path starts from the root. -/
def isAbsolute (path : String) : Bool :=
  path.toList.head? == some '/'

/-- Whether a path can name a directory only. -/
def endsInSlash (path : String) : Bool :=
  path.toList.getLast? == some '/'

/-- The names that a path follows one after the other. -/
def steps (path : String) : List String :=
  (pieces path).filter fun piece => !piece.isEmpty

/-- The text up to each piece that counts, given the pieces before it.  Empty pieces
count nowhere, and a dot counts as the first piece only. -/
def stagesFrom (before : List String) : List String → List String
  | [] => []
  | piece :: rest =>
      let through := before ++ [piece]
      if piece.isEmpty || (piece == "." && !before.isEmpty) then stagesFrom through rest
      else Text.joinWith "/" through :: stagesFrom through rest

/-- The paths of what a path goes through, outermost first: where it starts, which is
the root or, written as the empty path, the current directory; then the path up to each
piece that counts. -/
def stages (path : String) : List String :=
  (if isAbsolute path then "/" else "") :: stagesFrom [] (pieces path)

/-- The path of the directory that a path leads into last; a path that leads nowhere
from where it starts has none. -/
def parent? (path : String) : Option String :=
  (stages path).dropLast.getLast?

/-- The path of a file by its path from a directory. -/
def join (directory path : String) : String :=
  if isAbsolute path then path
  else if directory.isEmpty || endsInSlash directory then directory ++ path
  else directory ++ "/" ++ path

/-! ### Small laws -/

/-- A slash divides the names that a path follows. -/
theorem steps_of_toList_eq {path before after : String}
    (slash : path.toList = before.toList ++ '/' :: after.toList) :
    steps path = steps before ++ steps after := by
  simp only [steps, pieces, Text.split, slash, Text.segments_append_cons, List.map_append,
    List.filter_append]

/-- A path from a directory is followed after the path of the directory. -/
theorem steps_join {directory path : String} (named : directory ≠ "")
    (relative : isAbsolute path = false) :
    steps (join directory path) = steps directory ++ steps path := by
  have notEmpty : directory.isEmpty = false := by simpa using named
  rw [join, relative, notEmpty, Bool.false_or]
  cases ends : endsInSlash directory with
  | false =>
      refine steps_of_toList_eq ?_
      simp
  | true =>
      -- the slash at the end of the directory's path divides off an empty piece
      obtain ⟨before, split⟩ : ∃ before : List Char, directory.toList = before ++ ['/'] := by
        have last : directory.toList.getLast? = some '/' := by simpa [endsInSlash] using ends
        exact List.getLast?_eq_some_iff.1 last
      have ofDirectory : steps directory = steps (String.ofList before) ++ steps "" :=
        steps_of_toList_eq (by simp [split])
      have ofPath :
          steps (directory ++ path) = steps (String.ofList before) ++ steps path :=
        steps_of_toList_eq (by simp [split])
      have ofNothing : steps "" = [] := rfl
      simp only [Bool.false_eq_true, if_false, if_true]
      rw [ofPath, ofDirectory, ofNothing, List.append_nil]

theorem isAbsolute_join {directory path : String} (named : directory ≠ "")
    (relative : isAbsolute path = false) :
    isAbsolute (join directory path) = isAbsolute directory := by
  obtain ⟨first, rest, letters⟩ : ∃ first rest, directory.toList = first :: rest :=
    List.exists_cons_of_ne_nil (by simpa using named)
  rw [join, relative]
  simp only [Bool.false_eq_true, if_false]
  split <;> simp [isAbsolute, letters]

end RpcTools.Path
