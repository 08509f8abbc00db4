/-
Module: RpcTools.Proofs.LeafLines
Purpose: Reading a value back from its lines `path=value`: the scalars that it shows, each with
  its place, and how far two values with the same lines can differ.
Main exports: Json.Legible, Json.ShownAt, Json.LineTells, Json.ReadsBack, Json.Alike,
  Json.lines_readBack
-/
import RpcTools.OutputFormat
import RpcTools.Proofs.DocumentOrder
import RpcTools.Proofs.ParameterSpelling
import RpcTools.Proofs.PathText
import RpcTools.Proofs.ScalarDisplay

namespace RpcTools

namespace Text

/-- The lines of a text; an empty text has none. -/
def linesOf (text : String) : List String :=
  if text.isEmpty then [] else split '\n' text

/-- Lines are found again where they were joined. -/
theorem linesOf_joinWith {lines : List String}
    (oneLine : ∀ line ∈ lines, line ≠ "" ∧ '\n' ∉ line.toList) :
    linesOf (joinWith "\n" lines) = lines := by
  cases lines with
  | nil => rfl
  | cons first rest =>
      have split : Text.split '\n' (joinWith "\n" (first :: rest)) = first :: rest :=
        split_joinWith fun line member => (oneLine line member).2
      have notEmpty : (joinWith "\n" (first :: rest)).isEmpty = false := by
        have written := (oneLine first List.mem_cons_self).1
        rw [Bool.eq_false_iff, ne_eq, String.isEmpty_iff]
        intro nothing
        cases rest with
        | nil => exact written nothing
        | cons second others => simp [joinWith] at nothing
      rw [linesOf, notEmpty, split]
      rfl

end Text

namespace Json

/-! ### Leaves -/

variable {value inner leaf : Json} {shown : String} {step : Step} {path rest : List Step}

/-- A path leads to a scalar that is displayed like this. -/
def ShownAt (value : Json) (path : List Step) (shown : String) : Prop :=
  ∃ leaf, at? path value = some leaf ∧ leaf.ShowsAs shown

/-- What is printed for the scalar at a path. -/
def shownAt? (path : List Step) (value : Json) : Option String :=
  (at? path value).bind scalarText?

theorem shownAt?_eq_some_iff : shownAt? path value = some shown ↔ ShownAt value path shown := by
  simp only [shownAt?, Option.bind_eq_some_iff, scalarText?_eq_some_iff, ShownAt]

theorem scalarText?_sortKeys (value : Json) : value.sortKeys.scalarText? = value.scalarText? := by
  cases value <;> rfl

theorem leavesOfItems_eq (path : List Step) (position : Nat) (items : List Json) :
    leavesOfItems path position items = (items.zipIdx position).flatMap fun (item, index) =>
      leavesBelow (path ++ [.index index]) item := by
  induction items generalizing position with
  | nil => rfl
  | cons item rest inductionHypothesis =>
      rw [leavesOfItems, inductionHypothesis, List.zipIdx_cons, List.flatMap_cons]

theorem leavesOfMembers_eq (path : List Step) (members : List (String × Json)) :
    leavesOfMembers path members = members.flatMap fun (key, value) =>
      leavesBelow (path ++ [.key key]) value := by
  induction members with
  | nil => rfl
  | cons member rest inductionHypothesis =>
      rw [leavesOfMembers, inductionHypothesis, List.flatMap_cons]

/-- The leaves of a value are the scalars to which a walk comes. -/
theorem leavesBelow_eq (value : Json) (path : List Step) :
    leavesBelow path value = value.walk.filterMap fun place =>
      place.2.scalarText?.map fun shown => (path ++ place.1, shown) := by
  induction value using induction_on_children generalizing path with
  | further value inductionHypothesis =>
      have below : value.inside.filterMap (fun place =>
          place.2.scalarText?.map fun shown => (path ++ place.1, shown)) =
            value.children.flatMap fun place => leavesBelow (path ++ [place.1]) place.2 := by
        rw [inside, List.filterMap_flatMap]
        refine List.flatMap_congr fun place direct => ?_
        rw [inductionHypothesis place direct, List.filterMap_map]
        simp [under, Function.comp_def]
      rw [walk_eq, List.filterMap_cons, below]
      cases value with
      | array items =>
          simp only [scalarText?, Option.map_none, leavesBelow, leavesOfItems_eq, children,
            List.flatMap_map]
      | object members =>
          simp only [scalarText?, Option.map_none, leavesBelow, leavesOfMembers_eq, children,
            List.flatMap_map]
      | null | bool | number | string => simp [scalarText?, leavesBelow, children]

theorem mem_leaves_iff :
    (path, shown) ∈ value.leaves ↔
      ∃ leaf, (path, leaf) ∈ value.walk ∧ leaf.scalarText? = some shown := by
  simp [leaves, leavesBelow_eq]

/-- The leaves of a value whose members were put in order are what it shows. -/
theorem mem_leaves_sortKeys_iff (distinct : value.KeysDistinct) :
    (path, shown) ∈ value.sortKeys.leaves ↔ shownAt? path value = some shown := by
  rw [mem_leaves_iff, shownAt?, Option.bind_eq_some_iff]
  constructor
  · rintro ⟨_, found, scalar⟩
    obtain ⟨leaf, inValue, rfl⟩ := mem_walk_sortKeys_iff.1 found
    rw [scalarText?_sortKeys] at scalar
    exact ⟨leaf, (mem_walk_iff distinct).1 inValue, scalar⟩
  · rintro ⟨leaf, found, scalar⟩
    refine ⟨leaf.sortKeys, mem_walk_sortKeys_iff.2 ⟨leaf, (mem_walk_iff distinct).2 found, rfl⟩, ?_⟩
    rw [scalarText?_sortKeys, scalar]

theorem leaves_sortKeys_ordered (distinct : value.KeysDistinct) :
    (value.sortKeys.leaves.map (·.1)).Pairwise PathBefore := by
  have ordered := walk_sortKeys_ordered distinct
  rw [List.pairwise_map] at ordered
  rw [leaves, leavesBelow_eq, List.pairwise_map, List.pairwise_filterMap]
  refine ordered.imp fun before leaf isLeaf other isLeafToo => ?_
  rw [Option.map_eq_some_iff] at isLeaf isLeafToo
  obtain ⟨_, _, rfl⟩ := isLeaf
  obtain ⟨_, _, rfl⟩ := isLeafToo
  exact before

/-- A value whose lines can be read back: its keys are plain and its texts have no line
breaks. -/
structure Legible (value : Json) : Prop where
  distinct : value.KeysDistinct
  plain : ∀ place ∈ value.walk, ∀ key ∈ place.2.ownKeys, PlainKey key
  oneLine : value.Lacks '\n'

theorem Legible.plain_steps (legible : value.Legible) (found : at? path value = some inner) :
    ∀ step ∈ path, step.Plain := by
  intro step member
  cases step with
  | index position => trivial
  | key name =>
      exact holds_of_key_mem PlainKey legible.plain ((mem_walk_iff legible.distinct).2 found) member

theorem Legible.oneLine_steps (legible : value.Legible) (found : at? path value = some inner) :
    ∀ name, Step.key name ∈ path → '\n' ∉ name.toList := fun _ member =>
  holds_of_key_mem (fun name => '\n' ∉ name.toList) legible.oneLine.keys
    ((mem_walk_iff legible.distinct).2 found) member

theorem Legible.oneLine_shown (legible : value.Legible) (found : shownAt? path value = some shown) :
    '\n' ∉ shown.toList := by
  obtain ⟨leaf, leads, shows⟩ := shownAt?_eq_some_iff.1 found
  have lacks := legible.oneLine.texts _ ((mem_walk_iff legible.distinct).2 leads)
  exact not_mem_of_showsAs (by decide) lacks shows

/-! ### Lines -/

/-- What a line tells of a value: what stands before its first equals sign is the text of a path,
what stands behind it is a display; and the text leads along this path only, to a scalar that is
displayed like this. -/
def LineTells (value : Json) (path : List Step) (line : String) : Prop :=
  ∃ leaf shown text, at? path value = some leaf ∧ leaf.ShowsAs shown ∧
    line.toList = text ++ '=' :: shown.toList ∧ '=' ∉ text ∧
      ∀ other inner, LeadsTo value text other inner ↔ other = path ∧ inner = leaf

/-- Some lines are those of all scalars that a value shows, one for each and in the order of
the document, and no two of them have the same path. -/
structure ReadsBack (value : Json) (paths : List (List Step)) (lines : List String) : Prop where
  complete : ∀ path, path ∈ paths ↔ ∃ shown, ShownAt value path shown
  ordered : paths.Pairwise PathBefore
  distinct : (lines.map fun line => line.toList.takeWhile (· != '=')).Nodup
  lines : List.Forall₂ (LineTells value) paths lines

/-- The line for a leaf that has a path. -/
def assignmentLine (leaf : List Step × String) : String :=
  pathText leaf.1 ++ "=" ++ leaf.2

/-- The text of a path leads along this path, and along no other. -/
theorem Legible.leadsTo_iff (legible : value.Legible)
    (found : at? (step :: rest) value = some leaf) (other : List Step) :
    LeadsTo value (pathText (step :: rest)).toList other inner ↔
      other = step :: rest ∧ inner = leaf := by
  have plain := legible.plain_steps found
  rw [Json.leadsTo_iff, toList_pathText_cons (plain step List.mem_cons_self)]
  constructor
  · rintro ⟨first, others, rfl, text, leads⟩
    have plainToo := legible.plain_steps leads
    have same : pathText (first :: others) = pathText (step :: rest) := by
      rw [← String.toList_inj, toList_pathText_cons (plainToo first List.mem_cons_self),
        toList_pathText_cons (plain step List.mem_cons_self), text]
    have samePath := pathText_injective plainToo plain same
    rw [samePath] at leads
    exact ⟨samePath, Option.some.inj (leads.symm.trans found)⟩
  · rintro ⟨rfl, rfl⟩
    exact ⟨step, rest, rfl, rfl, found⟩

/-- No equals sign stands in the text of a path. -/
theorem Legible.equals_not_mem_pathText (legible : value.Legible)
    (found : at? path value = some inner) : '=' ∉ (pathText path).toList := by
  have plain := legible.plain_steps found
  exact not_mem_pathText plain (fun name member => (plain _ member).noEquals) (by decide)
    (by decide) (by decide)

theorem Legible.cut_assignmentLine (legible : value.Legible)
    (found : at? path value = some inner) (shown : String) :
    Text.cutFirst? '=' (assignmentLine (path, shown)).toList =
      some ((pathText path).toList, shown.toList) := by
  refine Text.cutFirst?_eq_some_iff.2 ⟨by simp [assignmentLine], ?_⟩
  exact legible.equals_not_mem_pathText found

theorem exists_step_of_shownAt? (container : value.isContainer = true)
    (found : shownAt? path value = some shown) : ∃ step rest, path = step :: rest := by
  cases path with
  | cons step rest => exact ⟨step, rest, rfl⟩
  | nil =>
      cases value with
      | array items => simp [shownAt?, at?, scalarText?] at found
      | object members => simp [shownAt?, at?, scalarText?] at found
      | null | bool | number | string => cases container

/-- The printed lines are those of the leaves. -/
theorem Legible.linesOf_print (colored : Bool) (container : value.isContainer = true)
    (legible : value.Legible) :
    Text.linesOf (OutputFormat.print colored .text value) =
      value.sortKeys.leaves.map assignmentLine := by
  have plainOf : ∀ leaf ∈ value.sortKeys.leaves,
      pathText leaf.1 ≠ "" ∧ '\n' ∉ (pathText leaf.1).toList ∧ '\n' ∉ leaf.2.toList := by
    rintro ⟨path, shown⟩ member
    have found := (mem_leaves_sortKeys_iff legible.distinct).1 member
    obtain ⟨inner, leads, _⟩ := Option.bind_eq_some_iff.1 found
    have plain := legible.plain_steps leads
    obtain ⟨step, rest, rfl⟩ := exists_step_of_shownAt? container found
    exact ⟨pathText_cons_ne_empty (plain step List.mem_cons_self),
      not_mem_pathText plain (legible.oneLine_steps leads) (by decide) (by decide) (by decide),
      legible.oneLine_shown found⟩
  have written : OutputFormat.print colored .text value =
      Text.joinWith "\n" (value.sortKeys.leaves.map assignmentLine) := by
    rw [OutputFormat.print, lines]
    refine congrArg _ (List.map_congr_left fun leaf member => ?_)
    have named : (pathText leaf.1).isEmpty = false := by simpa using (plainOf leaf member).1
    show leafLine leaf.1 leaf.2 = assignmentLine leaf
    rw [leafLine, named, assignmentLine]
    rfl
  rw [written, Text.linesOf_joinWith]
  rw [List.forall_mem_map]
  intro leaf member
  obtain ⟨_, inPath, oneLine⟩ := plainOf leaf member
  constructor
  · rw [ne_eq, ← String.toList_inj]
    simp [assignmentLine]
  · simp [assignmentLine, inPath, oneLine]

/-- What stands before the first equals sign of a line is the text of the path. -/
theorem Legible.takeWhile_assignmentLine (legible : value.Legible)
    (found : at? path value = some inner) (shown : String) :
    (assignmentLine (path, shown)).toList.takeWhile (· != '=') = (pathText path).toList := by
  have before : ∀ character ∈ (pathText path).toList, (character != '=') = true := by
    intro character member
    have different : character ≠ '=' := by
      rintro rfl
      exact legible.equals_not_mem_pathText found member
    simpa using different
  have letters : (assignmentLine (path, shown)).toList =
      (pathText path).toList ++ '=' :: shown.toList := by
    simp [assignmentLine]
  rw [letters, List.takeWhile_append_of_pos before]
  simp

theorem Legible.lineTells (legible : value.Legible) (container : value.isContainer = true)
    (found : shownAt? path value = some shown) :
    LineTells value path (assignmentLine (path, shown)) := by
  obtain ⟨leaf, leads, shows⟩ := shownAt?_eq_some_iff.1 found
  obtain ⟨step, rest, rfl⟩ := exists_step_of_shownAt? container found
  exact ⟨leaf, shown, _, leads, shows, by simp [assignmentLine],
    legible.equals_not_mem_pathText leads, fun other inner => legible.leadsTo_iff leads other⟩

theorem Legible.readsBack (colored : Bool) (container : value.isContainer = true)
    (legible : value.Legible) :
    ReadsBack value (value.sortKeys.leaves.map (·.1))
      (Text.linesOf (OutputFormat.print colored .text value)) := by
  have shownOf : ∀ leaf ∈ value.sortKeys.leaves, shownAt? leaf.1 value = some leaf.2 :=
    fun _ member => (mem_leaves_sortKeys_iff legible.distinct).1 member
  have ordered := leaves_sortKeys_ordered legible.distinct
  rw [legible.linesOf_print colored container]
  refine ⟨?_, ordered, ?_, ?_⟩
  · intro path
    simp [← shownAt?_eq_some_iff, mem_leaves_sortKeys_iff legible.distinct]
  · -- no two leaves have the same path, and a path is settled by its text
    have nodup : value.sortKeys.leaves.Pairwise fun leaf other => leaf.1 ≠ other.1 :=
      (List.pairwise_map.1 ordered).imp PathBefore.ne
    rw [List.map_map, List.Nodup, List.pairwise_map]
    refine nodup.imp_of_mem fun {leaf other} member memberToo different same => different ?_
    obtain ⟨_, leads, _⟩ := shownAt?_eq_some_iff.1 (shownOf leaf member)
    obtain ⟨_, leadsToo, _⟩ := shownAt?_eq_some_iff.1 (shownOf other memberToo)
    simp only [Function.comp_apply] at same
    rw [legible.takeWhile_assignmentLine leads, legible.takeWhile_assignmentLine leadsToo,
      String.toList_inj] at same
    exact pathText_injective (legible.plain_steps leads) (legible.plain_steps leadsToo) same
  · rw [List.forall₂_map_left_iff, List.forall₂_map_right_iff, List.forall₂_same]
    exact fun leaf member => legible.lineTells container (shownOf leaf member)

/-! ### Values with the same lines -/

/-- Nothing is shown of a value: it is `null`, or a container in which nothing is shown. -/
inductive Hollow : Json → Prop where
  | of {value : Json} (silent : ∀ shown, ¬ value.ShowsAs shown)
      (each : ∀ place ∈ value.children, Hollow place.2) : Hollow value

/-- Values that differ in nothing but what is hollow and in the types of scalars that are shown
alike; an item or a member that is missing is as good as `null`. -/
inductive Alike : Json → Json → Prop where
  | hollow {value other : Json} (nothing : Hollow value) (nothingToo : Hollow other) :
      Alike value other
  | scalar {value other : Json} {shown : String} (here : value.ShowsAs shown)
      (there : other.ShowsAs shown) : Alike value other
  | array {items others : List Json} (each : ∀ position : Nat,
      Alike (items[position]?.getD .null) (others[position]?.getD .null)) :
      Alike (.array items) (.array others)
  | object {members others : List (String × Json)}
      (each : ∀ key, Alike ((lookup? key members).getD .null) ((lookup? key others).getD .null)) :
      Alike (.object members) (.object others)

theorem shownAt?_index (position : Nat) (rest : List Step) (items : List Json) :
    shownAt? (.index position :: rest) (.array items) =
      shownAt? rest (items[position]?.getD .null) := by
  cases found : items[position]? with
  | some item => simp [shownAt?, at?, found]
  | none => cases rest <;> simp [shownAt?, at?, found, scalarText?]

theorem shownAt?_key (name : String) (rest : List Step) (members : List (String × Json)) :
    shownAt? (.key name :: rest) (.object members) =
      shownAt? rest ((lookup? name members).getD .null) := by
  cases found : lookup? name members with
  | some inner => simp [shownAt?, at?, found]
  | none => cases rest <;> simp [shownAt?, at?, found, scalarText?]

/-- Nothing is shown of a value exactly if nothing is shown at any path. -/
theorem hollow_iff (distinct : value.KeysDistinct) :
    Hollow value ↔ ∀ path, shownAt? path value = none := by
  constructor
  · intro hollow path
    induction path generalizing value with
    | nil =>
        cases hollow with
        | of silent _ => exact scalarText?_eq_none_iff.2 silent
    | cons step rest inductionHypothesis =>
        cases hollow with
        | of _ each =>
            rw [Option.eq_none_iff_forall_ne_some]
            intro shown found
            obtain ⟨inner, leads, scalar⟩ := Option.bind_eq_some_iff.1 found
            obtain ⟨child, direct, below⟩ := (at?_cons_eq_some_iff distinct.here).1 leads
            have nothing := inductionHypothesis (distinct.of_mem_children direct)
              (each _ direct)
            rw [shownAt?, below] at nothing
            cases nothing.symm.trans scalar
  · intro nothing
    induction value using induction_on_children with
    | further value inductionHypothesis =>
        refine .of (scalarText?_eq_none_iff.1 (nothing [])) fun place direct => ?_
        have directly : (place.1, place.2) ∈ value.children := direct
        refine inductionHypothesis place direct (distinct.of_mem_children directly) fun path => ?_
        rw [Option.eq_none_iff_forall_ne_some]
        intro shown found
        obtain ⟨inner, leads, scalar⟩ := Option.bind_eq_some_iff.1 found
        have leadsHere : at? (place.1 :: path) value = some inner :=
          (at?_cons_eq_some_iff distinct.here).2 ⟨place.2, direct, leads⟩
        have silent := nothing (place.1 :: path)
        rw [shownAt?, leadsHere] at silent
        cases silent.symm.trans scalar

theorem index_mem_children {items : List Json} {position : Nat}
    (found : items[position]? = some inner) : (.index position, inner) ∈ (array items).children :=
  List.mem_map.2 ⟨(inner, position), List.mk_mem_zipIdx_iff_getElem?.2 found, rfl⟩

theorem key_mem_children {members : List (String × Json)} {name : String}
    (distinct : (object members).ownKeys.Nodup) (found : lookup? name members = some inner) :
    (.key name, inner) ∈ (object members).children :=
  List.mem_map.2 ⟨(name, inner), (lookup?_eq_some_iff distinct).1 found, rfl⟩

theorem KeysDistinct.item {items : List Json} (distinct : (Json.array items).KeysDistinct)
    (position : Nat) : (items[position]?.getD .null).KeysDistinct := by
  cases found : items[position]? with
  | none => decide
  | some item =>
      exact distinct.of_mem_children (index_mem_children found)

theorem KeysDistinct.member {members : List (String × Json)}
    (distinct : (Json.object members).KeysDistinct) (name : String) :
    ((lookup? name members).getD .null).KeysDistinct := by
  cases found : lookup? name members with
  | none => decide
  | some inner =>
      exact distinct.of_mem_children (key_mem_children distinct.here found)

/-- A path with a step that shows something goes into an array by a position, or into an object
by a key. -/
theorem array_or_object_of_shownAt? (found : shownAt? (step :: rest) value = some shown) :
    (∃ items position, value = .array items ∧ step = .index position) ∨
      ∃ members name, value = .object members ∧ step = .key name := by
  cases value with
  | array items =>
      cases step with
      | index position => exact .inl ⟨items, position, rfl, rfl⟩
      | key name => cases found
  | object members =>
      cases step with
      | index position => cases found
      | key name => exact .inr ⟨members, name, rfl, rfl⟩
  | null | bool | number | string => simp [shownAt?, at?] at found

theorem Alike.shownAt?_eq {other : Json} (alike : Alike value other) (distinct : value.KeysDistinct)
    (distinctToo : other.KeysDistinct) (path : List Step) :
    shownAt? path value = shownAt? path other := by
  induction alike generalizing path with
  | hollow nothing nothingToo =>
      rw [(hollow_iff distinct).1 nothing, (hollow_iff distinctToo).1 nothingToo]
  | @scalar value other shown here there =>
      have onlyHere : ∀ {scalar : Json} step rest, scalar.ShowsAs shown →
          shownAt? (step :: rest) scalar = none := by
        intro scalar step rest shows
        cases scalar with
        | bool | number | string => simp [shownAt?, at?]
        | null | array | object => cases shows
      cases path with
      | nil => exact (scalarText?_eq_some_iff.2 here).trans (scalarText?_eq_some_iff.2 there).symm
      | cons step rest => rw [onlyHere step rest here, onlyHere step rest there]
  | array each inductionHypothesis =>
      cases path with
      | nil => rfl
      | cons step rest =>
          cases step with
          | key name => rfl
          | index position =>
              rw [shownAt?_index, shownAt?_index]
              exact inductionHypothesis position (distinct.item position)
                (distinctToo.item position) rest
  | object each inductionHypothesis =>
      cases path with
      | nil => rfl
      | cons step rest =>
          cases step with
          | index position => rfl
          | key name =>
              rw [shownAt?_key, shownAt?_key]
              exact inductionHypothesis name (distinct.member name) (distinctToo.member name) rest

theorem alike_of_shownAt? {other : Json} (distinct : value.KeysDistinct)
    (distinctToo : other.KeysDistinct)
    (same : ∀ path, shownAt? path value = shownAt? path other) : Alike value other := by
  induction value using induction_on_children generalizing other with
  | further value inductionHypothesis =>
      by_cases nothing : ∀ path, shownAt? path value = none
      · have nothingToo : ∀ path, shownAt? path other = none := fun path =>
          (same path).symm.trans (nothing path)
        exact .hollow ((hollow_iff distinct).2 nothing) ((hollow_iff distinctToo).2 nothingToo)
      · obtain ⟨path, something⟩ := not_forall.1 nothing
        obtain ⟨shown, found⟩ := Option.ne_none_iff_exists'.1 something
        have foundToo : shownAt? path other = some shown := (same path).symm.trans found
        -- a missing item or member counts as null, and then nothing is shown on the other side
        have below : ∀ {child another : Json},
            (child = .null ∨ ∃ step, (step, child) ∈ value.children) → another.KeysDistinct →
              (∀ path, shownAt? path child = shownAt? path another) → Alike child another := by
          intro child another place distinctBelow sameBelow
          rcases place with rfl | ⟨step, direct⟩
          · have hollow : Hollow .null := .of nofun (by simp [children])
            refine .hollow hollow ((hollow_iff distinctBelow).2 fun path => ?_)
            rw [← sameBelow path, (hollow_iff (by decide)).1 hollow]
          · exact inductionHypothesis (step, child) direct (distinct.of_mem_children direct)
              distinctBelow sameBelow
        cases path with
        | nil =>
            exact .scalar (scalarText?_eq_some_iff.1 found) (scalarText?_eq_some_iff.1 foundToo)
        | cons step rest =>
            rcases array_or_object_of_shownAt? found with
              ⟨items, position, rfl, rfl⟩ | ⟨members, name, rfl, rfl⟩
            · rcases array_or_object_of_shownAt? foundToo with
                ⟨others, _, rfl, _⟩ | ⟨_, _, _, wrong⟩
              · refine .array fun index => below ?_ (distinctToo.item index) fun path => ?_
                · cases here : items[index]? with
                  | none => exact .inl rfl
                  | some item => exact .inr ⟨_, index_mem_children here⟩
                · rw [← shownAt?_index, ← shownAt?_index, same]
              · cases wrong
            · rcases array_or_object_of_shownAt? foundToo with
                ⟨_, _, _, wrong⟩ | ⟨others, _, rfl, _⟩
              · cases wrong
              · refine .object fun key => below ?_ (distinctToo.member key) fun path => ?_
                · cases here : lookup? key members with
                  | none => exact .inl rfl
                  | some inner => exact .inr ⟨_, key_mem_children distinct.here here⟩
                · rw [← shownAt?_key, ← shownAt?_key, same]

/-- What is shown at a path stands on a line, and what stands on a line is shown. -/
theorem Legible.mem_linesOf_iff (colored : Bool) (container : value.isContainer = true)
    (legible : value.Legible) {line : String} :
    line ∈ Text.linesOf (OutputFormat.print colored .text value) ↔
      ∃ path shown, shownAt? path value = some shown ∧ assignmentLine (path, shown) = line := by
  rw [legible.linesOf_print colored container, List.mem_map, Prod.exists]
  simp only [mem_leaves_sortKeys_iff legible.distinct]

theorem Legible.shownAt?_of_print {other : Json} (colored : Bool)
    (container : value.isContainer = true) (containerToo : other.isContainer = true)
    (legible : value.Legible) (legibleToo : other.Legible)
    (same : OutputFormat.print colored .text value = OutputFormat.print colored .text other)
    (found : shownAt? path value = some shown) : shownAt? path other = some shown := by
  have line := (legible.mem_linesOf_iff colored container).2 ⟨path, shown, found, rfl⟩
  rw [same, legibleToo.mem_linesOf_iff colored containerToo] at line
  obtain ⟨path', shown', foundToo, sameLine⟩ := line
  obtain ⟨_, leads, _⟩ := Option.bind_eq_some_iff.1 found
  obtain ⟨_, leadsToo, _⟩ := Option.bind_eq_some_iff.1 foundToo
  have cut := legible.cut_assignmentLine leads shown
  rw [← sameLine, legibleToo.cut_assignmentLine leadsToo, Option.some.injEq, Prod.mk.injEq,
    String.toList_inj, String.toList_inj] at cut
  obtain ⟨samePath, rfl⟩ := cut
  rw [pathText_injective (legible.plain_steps leads) (legibleToo.plain_steps leadsToo)
    samePath.symm]
  exact foundToo

theorem print_eq_of_shownAt? {other : Json} (colored : Bool) (distinct : value.KeysDistinct)
    (distinctToo : other.KeysDistinct)
    (same : ∀ path, shownAt? path value = shownAt? path other) :
    OutputFormat.print colored .text value = OutputFormat.print colored .text other := by
  have leaves : value.sortKeys.leaves = other.sortKeys.leaves := by
    refine eq_of_ordered (leaves_sortKeys_ordered distinct)
      (leaves_sortKeys_ordered distinctToo) ?_
    rintro ⟨path, shown⟩
    rw [mem_leaves_sortKeys_iff distinct, mem_leaves_sortKeys_iff distinctToo, same]
  rw [OutputFormat.print, OutputFormat.print, lines, lines, leaves]

/-- The lines of an array or an object tell all that is shown of it, each scalar at its place;
and two such values have the same lines exactly if they are alike. -/
theorem lines_readBack (colored : Bool) {value : Json} (container : value.isContainer = true)
    (legible : value.Legible) :
    (∃ paths, ReadsBack value paths (Text.linesOf (OutputFormat.print colored .text value))) ∧
      ∀ other : Json, other.isContainer = true → other.Legible →
        (OutputFormat.print colored .text value = OutputFormat.print colored .text other →
          ∀ path shown, ShownAt value path shown ↔ ShownAt other path shown) ∧
        (OutputFormat.print colored .text value = OutputFormat.print colored .text other ↔
          Alike value other) := by
  refine ⟨⟨_, legible.readsBack colored container⟩, fun other containerToo legibleToo => ?_⟩
  have shown : OutputFormat.print colored .text value = OutputFormat.print colored .text other →
      ∀ path, shownAt? path value = shownAt? path other := by
    intro same path
    refine Option.ext fun shown => ⟨?_, ?_⟩
    · exact legible.shownAt?_of_print colored container containerToo legibleToo same
    · exact legibleToo.shownAt?_of_print colored containerToo container legible same.symm
  refine ⟨fun same path display => ?_, fun same => ?_, fun alike => ?_⟩
  · rw [← shownAt?_eq_some_iff, ← shownAt?_eq_some_iff, shown same path]
  · exact alike_of_shownAt? legible.distinct legibleToo.distinct (shown same)
  · exact print_eq_of_shownAt? colored legible.distinct legibleToo.distinct
      (alike.shownAt?_eq legible.distinct legibleToo.distinct)

/-- One and a half, as it is usually displayed. -/
def oneAndAHalf : Fraction where
  value := 1.5
  finite := by decide
  display := "1.5"
  marks := by decide

/-- An object with an item that is not shown. -/
def countedNote : Json :=
  .object [("text", .string "a=b"), ("counts", .array [.number (.fraction oneAndAHalf), .null])]

/-- Another order, a text in place of the number and an empty object in place of `null`. -/
def spelledNote : Json :=
  .object [("counts", .array [.string "1.5", .object []]), ("text", .string "a=b")]

theorem lines_readBack_countedNote :
    countedNote.isContainer = true ∧ countedNote.Legible ∧
      spelledNote.isContainer = true ∧ spelledNote.Legible ∧
      (∃ paths, ReadsBack countedNote paths
        (Text.linesOf (OutputFormat.print false .text countedNote))) ∧
      (OutputFormat.print false .text countedNote = OutputFormat.print false .text spelledNote ↔
        Alike countedNote spelledNote) := by
  have legible : countedNote.Legible := ⟨by decide, by decide, by decide, by decide⟩
  have legibleToo : spelledNote.Legible := ⟨by decide, by decide, by decide, by decide⟩
  obtain ⟨readsBack, others⟩ := lines_readBack false rfl legible
  exact ⟨rfl, legible, rfl, legibleToo, readsBack, (others spelledNote rfl legibleToo).2⟩

example :
    Text.linesOf (OutputFormat.print false .text countedNote) = ["counts[0]=1.5", "text=a=b"] ∧
      OutputFormat.print false .text countedNote = OutputFormat.print false .text spelledNote := by
  decide +kernel

end Json

end RpcTools
