/-
Module: RpcTools.Json
Purpose: JSON values and the reading of records from them.
Main exports: Json, Json.member?, Json.asString?, Json.asBool?, Json.asList?,
  Json.record?, Json.tagged?, Json.asVariant?, Json.sortKeys
-/
import RpcTools.Number

namespace RpcTools

/-- A JSON value.  An object keeps its members in the order in which they are written. -/
inductive Json where
  | null
  | bool (value : Bool)
  | number (value : Number)
  | string (text : String)
  | array (items : List Json)
  | object (members : List (String × Json))
deriving Repr, Inhabited, BEq

namespace Json

/-- The first value filed under a key. -/
def lookup? (key : String) : List (String × Json) → Option Json
  | [] => none
  | (name, value) :: rest => if name = key then some value else lookup? key rest

/-- The value of an object's member. -/
def member? (key : String) : Json → Option Json
  | .object members => lookup? key members
  | _ => none

/-- The text of a string. -/
def asString? : Json → Option String
  | .string text => some text
  | _ => none

/-- The value of a boolean. -/
def asBool? : Json → Option Bool
  | .bool value => some value
  | _ => none

/-- The items of an array. -/
def asList? : Json → Option (List Json)
  | .array items => some items
  | _ => none

/-- The strings of an array of strings. -/
def asStrings? (value : Json) : Option (List String) := do
  (← value.asList?).mapM asString?

/-- The string, or nothing for `null`. -/
def asNullableString? : Json → Option (Option String)
  | .null => some none
  | .string text => some (some text)
  | _ => none

/-- The members of a record with the given field names: an object as it is, or an
array that lists values of the first fields in order. -/
def record? (names : List String) : Json → Option (List (String × Json))
  | .object members => some members
  | .array items =>
      if items.length ≤ names.length then some (names.zip items) else none
  | _ => none

/-- What tells a union's variants apart, and what holds the fields of the variant: the
member with the given key and the object, or the first item of an array and the others. -/
def tagged? (key : String) : Json → Option (Json × Json)
  | .object members => (lookup? key members).map fun tag => (tag, .object members)
  | .array (tag :: fields) => some (tag, .array fields)
  | _ => none

/-- Whether the value is `null`. -/
def isNull : Json → Bool
  | .null => true
  | _ => false

/-- Whether the value is `null` or an object without members. -/
def isNullOrBare : Json → Bool
  | .null => true
  | .object members => members.isEmpty
  | _ => false

/-- The name of a variant without fields: a string, or the key of an object's only member
if the member's value stands for nothing. -/
def asVariant? (isNothing : Json → Bool) : Json → Option String
  | .string name => some name
  | .object [(name, value)] => if isNothing value then some name else none
  | _ => none

/-- A string, or `null` for none. -/
def ofNullable : Option String → Json
  | none => .null
  | some text => .string text

/-- An array of strings. -/
def ofStrings (texts : List String) : Json :=
  .array (texts.map .string)

/-- Whether the value has nothing inside: a scalar or an empty container. -/
def isLeaf : Json → Bool
  | .array items => items.isEmpty
  | .object members => members.isEmpty
  | _ => true

/-- Puts a member in front of the first one with a greater key. -/
def insertMember (member : String × Json) : List (String × Json) → List (String × Json)
  | [] => [member]
  | head :: rest =>
      if member.1 < head.1 then member :: head :: rest else head :: insertMember member rest

mutual

/-- The same value with every object's members in the order of their keys, by code
point. -/
def sortKeys : Json → Json
  | .array items => .array (sortKeysOfItems items)
  | .object members => .object (sortKeysOfMembers members)
  | .null => .null
  | .bool value => .bool value
  | .number value => .number value
  | .string text => .string text

/-- `sortKeys` on every item. -/
def sortKeysOfItems : List Json → List Json
  | [] => []
  | item :: rest => item.sortKeys :: sortKeysOfItems rest

/-- `sortKeys` on every member's value, and the members in the order of their keys. -/
def sortKeysOfMembers : List (String × Json) → List (String × Json)
  | [] => []
  | (key, value) :: rest => insertMember (key, value.sortKeys) (sortKeysOfMembers rest)

end

/-! ### Small laws -/

@[simp] theorem asString?_string (text : String) : (string text).asString? = some text := rfl

@[simp] theorem asBool?_bool (value : Bool) : (bool value).asBool? = some value := rfl

@[simp] theorem asList?_array (items : List Json) : (array items).asList? = some items := rfl

@[simp] theorem asVariant?_string (isNothing : Json → Bool) (name : String) :
    (string name).asVariant? isNothing = some name := rfl

@[simp] theorem asNullableString?_ofNullable (text : Option String) :
    (ofNullable text).asNullableString? = some text := by
  cases text <;> rfl

/-- Values that are each read back as what was written are read back as the whole list. -/
theorem mapM_map_of_readsBack {Entry : Type} {write : Entry → Json} {read : Json → Option Entry}
    (readsBack : ∀ entry, read (write entry) = some entry) (entries : List Entry) :
    (entries.map write).mapM read = some entries := by
  induction entries with
  | nil => rfl
  | cons entry rest inductionHypothesis =>
      rw [List.map_cons, List.mapM_cons, readsBack, inductionHypothesis]
      rfl

@[simp] theorem asStrings?_ofStrings (texts : List String) :
    (ofStrings texts).asStrings? = some texts :=
  mapM_map_of_readsBack asString?_string texts

end Json

end RpcTools
