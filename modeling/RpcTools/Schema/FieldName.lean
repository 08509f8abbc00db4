/-
Module: RpcTools.Schema.FieldName
Purpose: The names under which generated client code knows fields and types.
Main exports: propertyName, objectProperties, exportedName
-/
import RpcTools.Text.Case

namespace RpcTools

/-- The characters of a field's name without underscores.  `capital` tells that an
underscore was just left out: the next character is then written in upper case, unless
it is a digit, which takes the capital's place. -/
def camelCased (capital : Bool) : List Char → List Char
  | [] => []
  | character :: rest =>
      if character = '_' then camelCased true rest
      else if character.isDigit then character :: camelCased false rest
      else if capital then Text.upperForm character ++ camelCased false rest
      else character :: camelCased false rest

/-- Properties that every object has and a field therefore cannot be named by. -/
def objectProperties : List String :=
  ["constructor", "toString", "toJSON", "valueOf"]

/-- The name of a field in generated client code: underscores are dropped, the letter
after one is a capital, and a `$` sets it apart from what every object has. -/
def propertyName (declaredName : String) : String :=
  let name := String.ofList (camelCased false declaredName.toList)
  if name ∈ objectProperties then name ++ "$" else name

/-- What stands below the package in a full name; a name that is not in the package is
left whole. -/
def belowPackage (package fullName : List Char) : List Char :=
  if package.isEmpty then fullName
  else if (package ++ ['.']).isPrefixOf fullName then fullName.drop (package.length + 1)
  else fullName

/-- The name under which generated code exports a type: its path below the package,
with underscores for the dots. -/
def exportedName (fullName package : String) : String :=
  String.ofList ((belowPackage package.toList fullName.toList).map fun character =>
    if character = '.' then '_' else character)

end RpcTools
