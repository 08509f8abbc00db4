/-
Module: RpcTools.Proofs.FieldPieces
Purpose: The name of a field, put together from the pieces between the underscores of the name
  that it is declared with.
Main exports: raisedPiece, runTogether, setApart, camelCased_eq_pieces,
  propertyName_of_pieces
-/
import RpcTools.Proofs.FieldSpelling

namespace RpcTools

/-! ### Pieces

The pieces of a name are what `List.splitOn` finds between its underscores.  Where underscores
stand next to each other, or at an end of the name, there are empty pieces between and beside
them. -/

/-- A piece that follows an underscore: its first character is raised to the full upper-case
form, unless it is a digit. -/
def raisedPiece : List Char → List Char
  | [] => []
  | first :: rest => (if first.isDigit then [first] else Text.upperForm first) ++ rest

/-- The pieces one after the other: the first as it is, and those of the later ones that are not
empty raised. -/
def runTogether : List (List Char) → List Char
  | [] => []
  | first :: later => first ++ (later.filter (· ≠ [])).flatMap raisedPiece

/-- A name with a `$` if it would be that of a property that every object has. -/
def setApart (name : String) : String :=
  if name ∈ ["constructor", "toString", "toJSON", "valueOf"] then name ++ "$" else name

/-- An empty piece adds nothing, so it does not matter whether it is left out. -/
theorem flatMap_raisedPiece_filter (pieces : List (List Char)) :
    (pieces.filter (· ≠ [])).flatMap raisedPiece = pieces.flatMap raisedPiece := by
  induction pieces with
  | nil => rfl
  | cons piece rest inductionHypothesis =>
      cases piece with
      | nil => simpa [raisedPiece] using inductionHypothesis
      | cons first others => simpa using inductionHypothesis

/-! ### The walk through a name

What the walk carries from one character to the next is whether an underscore was just left
out.  Then the piece that it is in has yet to be raised; all later ones have to be in any
case. -/

theorem camelCased_eq_pieces {characters first : List Char} {later : List (List Char)}
    (cut : characters.splitOn '_' = first :: later) (capital : Bool) :
    camelCased capital characters =
      (if capital then raisedPiece first else first) ++ later.flatMap raisedPiece := by
  induction characters generalizing first later capital with
  | nil =>
      rw [List.splitOn_nil] at cut
      obtain ⟨rfl, rfl⟩ := List.cons.inj cut
      cases capital <;> rfl
  | cons character rest inductionHypothesis =>
      obtain ⟨piece, others, cutRest⟩ :=
        List.exists_cons_of_ne_nil (List.splitOn_ne_nil '_' rest)
      rw [List.splitOn_cons_eq_if_modifyHead, cutRest] at cut
      by_cases underscore : character = '_'
      · subst underscore
        -- the piece ends, and the one that comes next is a later one
        rw [if_pos (beq_self_eq_true _)] at cut
        obtain ⟨rfl, rfl⟩ := List.cons.inj cut
        rw [camelCased_underscore, inductionHypothesis cutRest true, List.flatMap_cons]
        cases capital <;> rfl
      · rw [if_neg (by simpa using underscore), List.modifyHead_cons] at cut
        obtain ⟨rfl, rfl⟩ := List.cons.inj cut
        have onwards := inductionHypothesis cutRest false
        rw [if_neg Bool.false_ne_true] at onwards
        cases capital with
        | false => rw [camelCased_kept underscore, onwards]; rfl
        | true =>
            cases digit : character.isDigit with
            | true => rw [camelCased_digit true digit, onwards]; simp [raisedPiece, digit]
            | false => rw [camelCased_raised underscore digit, onwards]; simp [raisedPiece, digit]

theorem camelCased_eq_runTogether (characters : List Char) :
    camelCased false characters = runTogether (characters.splitOn '_') := by
  obtain ⟨first, later, cut⟩ :=
    List.exists_cons_of_ne_nil (List.splitOn_ne_nil '_' characters)
  rw [camelCased_eq_pieces cut, cut, runTogether, flatMap_raisedPiece_filter]
  rfl

/-- Without underscores there is only one piece, and it stays as it is. -/
theorem camelCased_eq_self {characters : List Char} (absent : '_' ∉ characters) :
    camelCased false characters = characters := by
  rw [camelCased_eq_pieces (List.splitOn_eq_singleton absent)]
  simp

/-! ### Names of fields -/

theorem propertyName_eq_setApart (declaredName : String) :
    propertyName declaredName =
      setApart (String.ofList (camelCased false declaredName.toList)) :=
  rfl

/-- A name that a field can be known by is not changed any more. -/
theorem propertyName_eq_self {name : String} (absent : '_' ∉ name.toList)
    (free : name ∉ ["constructor", "toString", "toJSON", "valueOf"]) :
    propertyName name = name := by
  rw [propertyName_eq_setApart, camelCased_eq_self absent, String.ofList_toList, setApart,
    if_neg free]

/-- The name of a field is its pieces one after the other, set apart from what every object
has.  No underscore is left in it, it is no property of every object, and as a declared name it
would stay as it is. -/
theorem propertyName_of_pieces (declaredName : String) :
    propertyName declaredName =
        setApart (String.ofList (runTogether (declaredName.toList.splitOn '_'))) ∧
      '_' ∉ (propertyName declaredName).toList ∧
      propertyName declaredName ∉ ["constructor", "toString", "toJSON", "valueOf"] ∧
      propertyName (propertyName declaredName) = propertyName declaredName := by
  have absent := underscore_not_mem_propertyName declaredName
  have free : propertyName declaredName ∉ ["constructor", "toString", "toJSON", "valueOf"] :=
    propertyName_not_mem_objectProperties declaredName
  refine ⟨?_, absent, free, propertyName_eq_self absent free⟩
  rw [propertyName_eq_setApart, camelCased_eq_runTogether]

/-- A digit takes the place of a capital, and empty pieces leave no trace. -/
example : propertyName "v_2beta" = "v2beta" ∧ propertyName "to__string_" = "toString$" := by
  decide

end RpcTools
