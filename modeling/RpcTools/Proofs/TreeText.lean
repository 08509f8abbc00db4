/-
Module: RpcTools.Proofs.TreeText
Purpose: The tree in which a value is shown without colours: a line for everything inside, and
  what each line holds.
Main exports: Json.treeLines_eq, Json.LeafShowsAs, Json.PlaceLine, Json.IsTree,
  Json.tree_lines
-/
import RpcTools.OutputFormat
import RpcTools.Proofs.DocumentOrder
import RpcTools.Proofs.ParameterSpelling
import RpcTools.Proofs.ScalarDisplay
import RpcTools.Proofs.Traversal
import RpcTools.Proofs.TrimmedText

namespace RpcTools.Json

/-! ### Lines and places -/

/-- The key of a step into an object. -/
def Step.key? : Step → Option String
  | .key name => some name
  | .index _ => none

/-- The line of a tree for a place that is inside a value. -/
def treeLineAt (depth : Nat) (place : List Step × Json) : TreeLine :=
  ⟨depth + (place.1.length - 1), place.1.getLast?.bind Step.key?, place.2.leaf?⟩

variable {value inner : Json} {path : List Step}

theorem treeLinesOfItems_eq (depth position : Nat) (items : List Json) :
    treeLinesOfItems depth items = (items.zipIdx position).flatMap fun (item, _) =>
      ⟨depth, none, item.leaf?⟩ :: treeLines (depth + 1) item := by
  induction items generalizing position with
  | nil => rfl
  | cons item rest inductionHypothesis =>
      rw [treeLinesOfItems, inductionHypothesis (position + 1), List.zipIdx_cons,
        List.flatMap_cons, List.cons_append]

theorem treeLinesOfMembers_eq (depth : Nat) (members : List (String × Json)) :
    treeLinesOfMembers depth members = members.flatMap fun (key, value) =>
      ⟨depth, some key, value.leaf?⟩ :: treeLines (depth + 1) value := by
  induction members with
  | nil => rfl
  | cons member rest inductionHypothesis =>
      rw [treeLinesOfMembers, inductionHypothesis, List.flatMap_cons, List.cons_append]

theorem treeLines_children (depth : Nat) (value : Json) :
    treeLines depth value = value.children.flatMap fun place =>
      ⟨depth, place.1.key?, place.2.leaf?⟩ :: treeLines (depth + 1) place.2 := by
  cases value with
  | array items => rw [treeLines, treeLinesOfItems_eq depth 0, children, List.flatMap_map]; rfl
  | object members => rw [treeLines, treeLinesOfMembers_eq, children, List.flatMap_map]; rfl
  | null | bool | number | string => rfl

/-- A tree has a line for everything inside a value, in the order of a walk. -/
theorem treeLines_eq (value : Json) (depth : Nat) :
    treeLines depth value = value.inside.map (treeLineAt depth) := by
  induction value using induction_on_children generalizing depth with
  | further value inductionHypothesis =>
      rw [treeLines_children, inside, List.map_flatMap]
      refine List.flatMap_congr fun place direct => ?_
      rw [walk_eq, List.map_cons, List.map_cons, inductionHypothesis place direct, List.map_map]
      refine congrArg₂ List.cons ?_ (List.map_congr_left fun below member => ?_)
      · simp [treeLineAt, under]
      · -- one step more in the path is one level less to start from
        obtain ⟨first, rest, started⟩ :=
          List.exists_cons_of_ne_nil (mem_inside_iff.1 member).1
        simp only [Function.comp_apply, treeLineAt, under, started, List.getLast?_cons_cons,
          List.length_cons, TreeLine.mk.injEq, and_true]
        omega

/-! ### What a line holds -/

/-- What a line starts with after its margin: a key with a colon, or a dash. -/
def Step.label : Step → String
  | .key name => name ++ ":"
  | .index _ => "-"

/-- How a value that nothing is inside of is displayed. -/
inductive LeafShowsAs : Json → String → Prop where
  | null : LeafShowsAs .null "none"
  | emptyArray : LeafShowsAs (.array []) "[]"
  | emptyObject : LeafShowsAs (.object []) "\x7b\x7d"
  | scalar {value : Json} {shown : String} (shows : value.ShowsAs shown) :
      LeafShowsAs value shown

/-- How the line of a value ends: with the value itself if nothing is inside it, and at once
otherwise. -/
inductive EndsAs (value : Json) : String → Prop where
  | leaf {shown : String} (shows : value.LeafShowsAs shown) : EndsAs value (" " ++ shown)
  | branches (inside : value.children ≠ []) : EndsAs value ""

/-- The line of what stands at a path: two blanks for every container that it is in below the
outermost one, its key or a dash, and the end. -/
def PlaceLine (value : Json) (path : List Step) (line : String) : Prop :=
  ∃ containers last inner ending, path = containers ++ [last] ∧
    at? path value = some inner ∧ inner.EndsAs ending ∧
      line = String.ofList (List.replicate (2 * containers.length) ' ') ++ last.label ++ ending

/-- Some lines are those of all members and items of a value, at every depth, one for each and
in the order of the document. -/
structure IsTree (value : Json) (paths : List (List Step)) (lines : List String) : Prop where
  complete : ∀ path, path ∈ paths ↔ path ≠ [] ∧ (at? path value).isSome
  ordered : paths.Pairwise PathBefore
  lines : List.Forall₂ (PlaceLine value) paths lines

theorem isLeaf_sortKeys (value : Json) : value.sortKeys.isLeaf = value.isLeaf := by
  cases value with
  | array items => cases items <;> simp [sortKeys, sortKeysOfItems_eq, isLeaf]
  | object members =>
      have sameLength := (sortKeysOfMembers_perm members).length_eq
      rw [List.length_map] at sameLength
      rw [sortKeys, isLeaf, isLeaf, Bool.eq_iff_iff, List.isEmpty_iff_length_eq_zero,
        List.isEmpty_iff_length_eq_zero, sameLength]
  | null | bool | number | string => rfl

theorem leafText_sortKeys (colored : Bool) (value : Json) :
    leafText colored value.sortKeys = leafText colored value := by
  cases value <;> rfl

theorem leafShowsAs_leafText (leaf : value.isLeaf = true) :
    value.LeafShowsAs (leafText false value) := by
  cases value with
  | null => exact .null
  | array items =>
      obtain rfl := List.isEmpty_iff.1 leaf
      exact .emptyArray
  | object members =>
      obtain rfl := List.isEmpty_iff.1 leaf
      exact .emptyObject
  | bool | number | string => exact .scalar (scalarText?_eq_some_iff.1 rfl)

theorem children_ne_nil (branches : value.isLeaf = false) : value.children ≠ [] := by
  cases value with
  | array items =>
      cases items with
      | nil => cases branches
      | cons item rest => simp [children]
  | object members =>
      cases members with
      | nil => cases branches
      | cons member rest => simp [children]
  | null | bool | number | string => cases branches

/-- What is printed at the end of a line is how the line ends. -/
theorem endsAs_printed (value : Json) :
    value.EndsAs (if value.isLeaf then " " ++ leafText false value else "") := by
  cases leaf : value.isLeaf with
  | true => exact .leaf (leafShowsAs_leafText leaf)
  | false => exact .branches (children_ne_nil leaf)

/-- The text of a line, piece by piece. -/
theorem text_treeLineAt (containers : List Step) (last : Step) (inner : Json) :
    (treeLineAt 0 (containers ++ [last], inner)).text false =
      String.ofList (List.replicate (2 * containers.length) ' ') ++ last.label ++
        if inner.isLeaf then " " ++ leafText false inner else "" := by
  have head : (treeLineAt 0 (containers ++ [last], inner)).head false = last.label := by
    cases last with
    | key name => simp [treeLineAt, TreeLine.head, Step.key?, Step.label]
    | index position => simp [treeLineAt, TreeLine.head, Step.key?, Step.label]
  rw [TreeLine.text, head]
  cases leaf : inner.isLeaf <;> simp [treeLineAt, leaf?, leaf, margin]

theorem placeLine_text (distinct : value.KeysDistinct)
    (found : (path, inner) ∈ value.sortKeys.inside) :
    PlaceLine value path ((treeLineAt 0 (path, inner)).text false) := by
  obtain ⟨started, inWalk⟩ := mem_inside_iff.1 found
  obtain ⟨original, inValue, rfl⟩ := mem_walk_sortKeys_iff.1 inWalk
  obtain ⟨containers, last, rfl⟩ : ∃ containers last, path = containers ++ [last] :=
    ⟨_, _, (List.dropLast_append_getLast started).symm⟩
  rw [text_treeLineAt, isLeaf_sortKeys, leafText_sortKeys]
  exact ⟨containers, last, original, _, rfl, (mem_walk_iff distinct).1 inValue,
    endsAs_printed original, rfl⟩

theorem isTree_print (distinct : value.KeysDistinct) :
    IsTree value (value.sortKeys.inside.map (·.1))
      ((value.sortKeys.treeLines 0).map (·.text false)) := by
  have ordered := walk_sortKeys_ordered distinct
  rw [walk_eq, List.map_cons, List.pairwise_cons] at ordered
  refine ⟨fun path => ?_, ordered.2, ?_⟩
  · rw [List.mem_map]
    constructor
    · intro member
      obtain ⟨place, found, rfl⟩ := member
      obtain ⟨started, inWalk⟩ := mem_inside_iff.1 found
      obtain ⟨original, inValue, _⟩ := mem_walk_sortKeys_iff.1 inWalk
      rw [(mem_walk_iff distinct).1 inValue]
      exact ⟨started, rfl⟩
    · intro leads
      obtain ⟨started, somewhere⟩ := leads
      obtain ⟨original, found⟩ := Option.isSome_iff_exists.1 somewhere
      have inWalk := mem_walk_sortKeys_iff.2 ⟨original, (mem_walk_iff distinct).2 found, rfl⟩
      exact ⟨(path, original.sortKeys), mem_inside_iff.2 ⟨started, inWalk⟩, rfl⟩
  · rw [treeLines_eq, List.map_map, List.forall₂_map_left_iff, List.forall₂_map_right_iff,
      List.forall₂_same]
    exact fun place found => placeLine_text distinct found

/-! ### The text of a tree -/

/-- A line is not blank: its colon or its dash is not. -/
theorem PlaceLine.exists_solid {line : String} (holds : PlaceLine value path line) :
    ∃ character ∈ line.toList, Text.isBlank character = false := by
  obtain ⟨containers, last, inner, ending, _, _, _, rfl⟩ := holds
  cases last with
  | key name => exact ⟨':', by simp [Step.label], by decide⟩
  | index position => exact ⟨'-', by simp [Step.label], by decide⟩

theorem not_mem_of_leafShowsAs {character : Char} {shown : String}
    (control : character.toNat < 0x20) (lacks : ∀ text ∈ inner.asString?, character ∉ text.toList)
    (shows : inner.LeafShowsAs shown) : character ∉ shown.toList := by
  cases shows with
  | null => exact not_mem_of_printable control (by decide)
  | emptyArray => exact not_mem_of_printable control (by decide)
  | emptyObject => exact not_mem_of_printable control (by decide)
  | scalar shows => exact not_mem_of_showsAs control lacks shows

theorem PlaceLine.oneLine {line : String} (holds : PlaceLine value path line)
    (distinct : value.KeysDistinct) (oneLine : value.Lacks '\n') : '\n' ∉ line.toList := by
  obtain ⟨containers, last, inner, ending, rfl, found, ends, rfl⟩ := holds
  have inWalk := (mem_walk_iff distinct).2 found
  have inEnding : '\n' ∉ ending.toList := by
    cases ends with
    | leaf shows =>
        have inLeaf := not_mem_of_leafShowsAs (by decide) (oneLine.texts _ inWalk) shows
        simp [inLeaf]
    | branches inside => simp
  have inLabel : '\n' ∉ last.label.toList := by
    cases last with
    | index position => simp [Step.label]
    | key name =>
        have inKey := holds_of_key_mem (fun key => '\n' ∉ key.toList) oneLine.keys inWalk
          (List.mem_append_right containers List.mem_cons_self)
        simp [Step.label, inKey]
  simp [inLabel, inEnding]

theorem print_tree (colored : Bool) (container : value.isContainer = true) :
    OutputFormat.print colored .pretty value =
      Text.trimEnd (Text.joinWith "\n" ((value.sortKeys.treeLines 0).map (·.text colored))) := by
  cases value with
  | array items => rfl
  | object members => rfl
  | null | bool | number | string => cases container

theorem isContainer_of_branches (branches : value.isLeaf = false) : value.isContainer = true := by
  cases value with
  | array items => rfl
  | object members => rfl
  | null | bool | number | string => cases branches

/-- The tree of a value in which something is has a line for every member and item at every
depth; only the white space at the end of the last line is removed, and this line stays. -/
theorem tree_lines {value : Json} (branches : value.isLeaf = false)
    (distinct : value.KeysDistinct) (oneLine : value.Lacks '\n') :
    ∃ paths front last, IsTree value paths (front ++ [last]) ∧
      Text.split '\n' (OutputFormat.print false .pretty value) = front ++ [Text.trimEnd last] ∧
        Text.trimEnd last ≠ "" := by
  have printed := print_tree false (isContainer_of_branches branches)
  have isTree := isTree_print distinct
  have started : (value.sortKeys.treeLines 0).map (·.text false) ≠ [] := by
    obtain ⟨place, direct⟩ :=
      List.exists_mem_of_ne_nil _ (children_ne_nil ((isLeaf_sortKeys value).trans branches))
    rw [treeLines_eq, ne_eq, List.map_eq_nil_iff, List.map_eq_nil_iff]
    exact List.ne_nil_of_mem (mem_inside_of_mem_children direct)
  obtain ⟨front, last, lines⟩ :
      ∃ front last, (value.sortKeys.treeLines 0).map (·.text false) = front ++ [last] :=
    ⟨_, _, (List.dropLast_append_getLast started).symm⟩
  rw [lines] at printed isTree
  have places : ∀ line ∈ front ++ [last], ∃ path, PlaceLine value path line := by
    intro line member
    obtain ⟨path, _, holds⟩ := exists_of_mem_forall₂ isTree.lines.flip member
    exact ⟨path, holds⟩
  obtain ⟨lastPath, lastHolds⟩ := places last (by simp)
  obtain ⟨character, inLast, solid⟩ := lastHolds.exists_solid
  refine ⟨_, front, last, isTree, ?_, ?_⟩
  · have apart : ∀ line ∈ front ++ [Text.trimEnd last], '\n' ∉ line.toList := by
      intro line member
      rcases List.mem_append.1 member with inFront | isLast
      · obtain ⟨path, holds⟩ := places line (List.mem_append_left _ inFront)
        exact holds.oneLine distinct oneLine
      · rw [List.mem_singleton.1 isLast, Text.toList_trimEnd]
        intro found
        exact lastHolds.oneLine distinct oneLine (Text.dropBlanksEnd_prefix.subset found)
    rw [printed, Text.trimEnd_joinWith "\n" front inLast solid]
    exact Text.split_joinWith_concat apart
  · intro nothing
    have stays := Text.mem_trimEnd inLast solid
    rw [nothing] at stays
    cases stays

/-- An object with arrays in an array, an empty object and white space at the end. -/
def nestedNote : Json :=
  .object
    [("rows", .array [.array [.number (.whole 1), .null], .object []]),
     ("text", .string "a  ")]

theorem tree_lines_nestedNote :
    nestedNote.isLeaf = false ∧ nestedNote.KeysDistinct ∧ nestedNote.Lacks '\n' ∧
      ∃ paths front last, IsTree nestedNote paths (front ++ [last]) ∧
        Text.split '\n' (OutputFormat.print false .pretty nestedNote) =
          front ++ [Text.trimEnd last] ∧ Text.trimEnd last ≠ "" := by
  have distinct : nestedNote.KeysDistinct := by decide
  have oneLine : nestedNote.Lacks '\n' := ⟨by decide, by decide⟩
  exact ⟨rfl, distinct, oneLine, tree_lines rfl distinct oneLine⟩

example : Text.split '\n' (OutputFormat.print false .pretty nestedNote) =
    ["rows:", "  -", "    - 1", "    - none", "  - \x7b\x7d", "text: a"] := by
  decide +kernel

end RpcTools.Json
