/-
Module: RpcTools.Pool.Resolution
Purpose: What the names in a file refer to.
Main exports: Descriptor.visiblePaths, Viewpoint, Viewpoint.resolve?, ResolvedType,
  Viewpoint.fieldType?
-/
import RpcTools.Pool.Declaration
import RpcTools.Schema
import RpcTools.Text.Segments

namespace RpcTools

namespace Descriptor

/-- The first file at a path. -/
def fileAt? (files : List File) (path : String) : Option File :=
  files.find? (·.path == path)

/-- The import with an index, if there is one. -/
def File.importAt? (file : File) (index : Int) : Option String :=
  if 0 ≤ index then file.dependencies[index.toNat]? else none

/-- The paths of the imports that a file passes on. -/
def File.passedOn (file : File) : List String :=
  file.publicDependencies.filterMap file.importAt?

/-- The paths that are seen, together with those that the file at a path passes on.  What
these pass on in their turn is followed only from files that were seen before.  There
are no more steps than files, unless files pass each other on in a circle. -/
def followImports (files : List File) : (steps : Nat) → List String → String → List String
  | 0, seen, _ => seen
  | steps + 1, seen, path =>
      match fileAt? files path with
      | none => seen
      | some file =>
          file.passedOn.foldl
            (fun seen next =>
              if seen.contains next then followImports files steps seen next else next :: seen)
            seen

/-- The paths of the files whose declarations a file can use: its own, its imports, and
what they pass on. -/
def visiblePaths (files : List File) (file : File) : List String :=
  file.dependencies.foldl
    (fun seen path => followImports files files.length (path :: seen) path) [file.path]

end Descriptor

/-- A place from which names are looked up. -/
structure Viewpoint where
  names : Names
  /-- The paths of the files whose declarations can be used. -/
  visible : List String

namespace Viewpoint

/-- The view from a file. -/
def ofFile (files : List Descriptor.File) (names : Names) (file : Descriptor.File) :
    Viewpoint where
  names
  visible := Descriptor.visiblePaths files file

/-- The declaration with a full name, if it is acceptable and can be used. -/
def find? (view : Viewpoint) (accepts : Declared → Bool) (fullName : String) :
    Option Declaration :=
  view.names.declarations.find? fun declaration =>
    declaration.fullName == fullName && accepts declaration.declared &&
      view.visible.contains declaration.path

/-- What a name refers to in a scope.  After a point in front stands a full name.  Else
the scopes are tried from the inside to the root: a name of one part is that of the
first acceptable declaration, and of a name with points the first part decides the
scope. -/
def resolve? (view : Viewpoint) (accepts : Declared → Bool) (scope name : String) :
    Option Declaration :=
  match name.toList with
  | '.' :: absolute => view.find? accepts (String.ofList absolute)
  | characters =>
      match Text.cutFirst? '.' characters with
      | none =>
          (Descriptor.scopesAround scope).findSome? fun around =>
            view.find? accepts (Descriptor.qualified around name)
      | some (first, _) =>
          match
            (Descriptor.scopesAround scope).find? fun around =>
              view.names.isParent (Descriptor.qualified around (String.ofList first))
          with
          | some around => view.find? accepts (Descriptor.qualified around name)
          | none => none

/-- The message that a name refers to. -/
def message? (view : Viewpoint) (scope name : String) :
    Option (Declaration × Descriptor.Message) :=
  match view.resolve? Declared.isMessage scope name with
  | some declaration =>
      match declaration.declared with
      | .message message => some (declaration, message)
      | _ => none
  | none => none

end Viewpoint

/-- What one value of a field is, as descriptors tell it. -/
inductive ResolvedType where
  | scalar (scalarType : ScalarType)
  | message (declaration : Declaration) (message : Descriptor.Message)
  | enumeration (declaration : Declaration) (enumeration : Descriptor.Enumeration)
deriving Repr

/-- The type of a field with a full name.  A type that is named decides; else the code
does, and it cannot be that of a group, message or enum then.  A code that is left out or
unknown means `double`. -/
def Viewpoint.fieldType? (view : Viewpoint) (fullName : String) (field : Descriptor.Field) :
    Option ResolvedType :=
  if field.typeName.isEmpty then
    match field.typeCode with
    | some 10 | some 11 | some 14 => none
    | some code => some (.scalar ((ScalarType.ofCode? code).getD .double))
    | none => some (.scalar .double)
  else
    match view.resolve? Declared.isType fullName field.typeName with
    | none => none
    | some declaration =>
        match declaration.declared with
        | .message message => some (.message declaration message)
        | .enumeration enumeration => some (.enumeration declaration enumeration)
        | _ => none

end RpcTools
