/-
Module: RpcTools.Descriptor.Name
Purpose: Full names with dots, the scopes around them, and the two other names of a
  field.
Main exports: qualified, partsBeforeDots, scopesAround, packagePath, jsonNameOf,
  foldedName
-/
namespace RpcTools.Descriptor

/-- The full name of what a scope declares under a name. -/
def qualified (scope name : String) : String :=
  if scope.isEmpty then name else scope ++ "." ++ name

/-- What stands before each of the dots, from the first dot to the last. -/
def partsBeforeDots : List Char → List (List Char)
  | [] => []
  | character :: rest =>
      (if character = '.' then [[]] else []) ++ (partsBeforeDots rest).map (character :: ·)

/-- A full name and the scopes around it, from the inside to the root, which has the
empty name. -/
def scopesAround (fullName : String) : List String :=
  fullName :: ((partsBeforeDots fullName.toList).reverse.map String.ofList ++ [""])

/-- A package and the packages that it is part of.  The root is none of them. -/
def packagePath (package : String) : List String :=
  if package.isEmpty then []
  else (partsBeforeDots package.toList).map String.ofList ++ [package]

/-- The characters without underscores, each character after one as a capital.  Only
letters of ASCII have capitals here. -/
def withoutUnderscores (capital : Bool) : List Char → List Char
  | [] => []
  | character :: rest =>
      if character = '_' then withoutUnderscores true rest
      else (if capital then character.toUpper else character) :: withoutUnderscores false rest

/-- The name of a field in JSON, unless the field says another. -/
def jsonNameOf (name : String) : String :=
  String.ofList (withoutUnderscores false name.toList)

/-- What is left of a field's name where underscores and the case of ASCII letters do
not count. -/
def foldedName (name : String) : String :=
  String.ofList ((name.toList.filter (· != '_')).map Char.toLower)

end RpcTools.Descriptor
