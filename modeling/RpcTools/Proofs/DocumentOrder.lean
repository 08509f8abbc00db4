/-
Module: RpcTools.Proofs.DocumentOrder
Purpose: Everything that is inside a JSON value, with the paths that lead there, in the order
  of a document whose members are in the order of their keys.
Main exports: Json.children, Json.walk, Json.Step.Before, Json.PathBefore, Json.KeysDistinct,
  Json.Lacks, Json.mem_walk_iff, Json.mem_walk_sortKeys_iff, Json.walk_sortKeys_ordered
-/
import Mathlib.Data.List.Lex
import Mathlib.Data.List.Nodup
import Mathlib.Data.List.Perm.Basic
import RpcTools.Json.Lines

namespace RpcTools.Json

/-! ### What is inside a value -/

/-- Whether a value is an array or an object. -/
def isContainer : Json → Bool
  | .array _ | .object _ => true
  | .null | .bool _ | .number _ | .string _ => false

/-- What is directly inside a value, each with the step that leads there. -/
def children : Json → List (Step × Json)
  | .array items => items.zipIdx.map fun (item, position) => (.index position, item)
  | .object members => members.map fun (key, value) => (.key key, value)
  | .null | .bool _ | .number _ | .string _ => []

/-- A place one step further down. -/
def under (step : Step) (place : List Step × Json) : List Step × Json :=
  (step :: place.1, place.2)

mutual

/-- A value and all that is inside it, at every depth, each with its path; what is inside a
value follows it. -/
def walk : Json → List (List Step × Json)
  | .array items => ([], .array items) :: walkItems 0 items
  | .object members => ([], .object members) :: walkMembers members
  | .null => [([], .null)]
  | .bool value => [([], .bool value)]
  | .number value => [([], .number value)]
  | .string text => [([], .string text)]

/-- `walk` through items, the first of which has the given position. -/
def walkItems (position : Nat) : List Json → List (List Step × Json)
  | [] => []
  | item :: rest => (walk item).map (under (.index position)) ++ walkItems (position + 1) rest

/-- `walk` through members. -/
def walkMembers : List (String × Json) → List (List Step × Json)
  | [] => []
  | (key, value) :: rest => (walk value).map (under (.key key)) ++ walkMembers rest

end

/-- What is inside a value, at every depth, without the value itself. -/
def inside (value : Json) : List (List Step × Json) :=
  value.children.flatMap fun place => place.2.walk.map (under place.1)

theorem walkItems_eq (position : Nat) (items : List Json) :
    walkItems position items = (items.zipIdx position).flatMap fun (item, index) =>
      item.walk.map (under (.index index)) := by
  induction items generalizing position with
  | nil => rfl
  | cons item rest inductionHypothesis =>
      rw [walkItems, inductionHypothesis, List.zipIdx_cons, List.flatMap_cons]

theorem walkMembers_eq (members : List (String × Json)) :
    walkMembers members = members.flatMap fun (key, value) =>
      value.walk.map (under (.key key)) := by
  induction members with
  | nil => rfl
  | cons member rest inductionHypothesis =>
      rw [walkMembers, inductionHypothesis, List.flatMap_cons]

theorem walk_eq (value : Json) : value.walk = ([], value) :: value.inside := by
  cases value with
  | array items => rw [walk, walkItems_eq, inside, children, List.flatMap_map]
  | object members => rw [walk, walkMembers_eq, inside, children, List.flatMap_map]
  | null | bool | number | string => rfl

/-- What holds of a value as soon as it holds of what is directly inside holds of every
value. -/
theorem induction_on_children {motive : Json → Prop} (value : Json)
    (further : ∀ value, (∀ place ∈ value.children, motive place.2) → motive value) :
    motive value := by
  refine @Json.rec motive (fun items => ∀ item ∈ items, motive item)
    (fun members => ∀ member ∈ members, motive member.2) (fun member => motive member.2)
    ?_ ?_ ?_ ?_ ?_ ?_ ?_ ?_ ?_ ?_ ?_ value
  · exact further _ (by simp [children])
  · exact fun _ => further _ (by simp [children])
  · exact fun _ => further _ (by simp [children])
  · exact fun _ => further _ (by simp [children])
  · intro items each
    refine further _ fun place member => ?_
    obtain ⟨⟨item, position⟩, found, rfl⟩ := List.mem_map.1 member
    exact each item (List.mem_of_getElem? (List.mem_zipIdx_iff_getElem?.1 found))
  · intro members each
    refine further _ fun place member => ?_
    obtain ⟨inner, found, rfl⟩ := List.mem_map.1 member
    exact each inner found
  · simp
  · exact fun _ _ here others => List.forall_mem_cons.2 ⟨here, others⟩
  · simp
  · exact fun _ _ here others => List.forall_mem_cons.2 ⟨here, others⟩
  · exact fun _ _ here => here

/-! ### Paths -/

variable {value inner : Json} {step : Step} {path rest : List Step}

theorem nil_mem_walk_iff : ([], inner) ∈ value.walk ↔ inner = value := by
  rw [walk_eq, List.mem_cons, inside, List.mem_flatMap]
  simp [under]

theorem mem_inside_iff : (path, inner) ∈ value.inside ↔ path ≠ [] ∧ (path, inner) ∈ value.walk := by
  cases path with
  | nil => simp [inside, under]
  | cons step rest => simp [walk_eq]

/-- A path into a value is a step to what is directly inside, and a path from there. -/
theorem cons_mem_walk_iff :
    (step :: rest, inner) ∈ value.walk ↔
      ∃ child, (step, child) ∈ value.children ∧ (rest, inner) ∈ child.walk := by
  rw [walk_eq, List.mem_cons, inside, List.mem_flatMap]
  simp only [Prod.mk.injEq, reduceCtorEq, false_and, false_or, List.mem_map, under,
    List.cons.injEq, Prod.exists]
  constructor
  · rintro ⟨other, child, direct, below, found, inChild, ⟨rfl, rfl⟩, rfl⟩
    exact ⟨child, direct, inChild⟩
  · rintro ⟨child, direct, inChild⟩
    exact ⟨step, child, direct, rest, inner, inChild, ⟨rfl, rfl⟩, rfl⟩

theorem mem_inside_of_mem_children {child : Json} (direct : (step, child) ∈ value.children) :
    ([step], child) ∈ value.inside :=
  mem_inside_iff.2 ⟨by simp, cons_mem_walk_iff.2 ⟨child, direct, nil_mem_walk_iff.2 rfl⟩⟩

/-- The keys of a value's own members. -/
def ownKeys : Json → List String
  | .object members => members.map (·.1)
  | .null | .bool _ | .number _ | .string _ | .array _ => []

/-- No object in a value, at any depth, has two members of one key: it is a map. -/
def KeysDistinct (value : Json) : Prop :=
  ∀ place ∈ value.walk, place.2.ownKeys.Nodup

instance (value : Json) : Decidable value.KeysDistinct :=
  inferInstanceAs (Decidable (∀ place ∈ value.walk, place.2.ownKeys.Nodup))

theorem KeysDistinct.here (distinct : value.KeysDistinct) : value.ownKeys.Nodup :=
  distinct ([], value) (nil_mem_walk_iff.2 rfl)

theorem KeysDistinct.of_mem_children {child : Json} (distinct : value.KeysDistinct)
    (direct : (step, child) ∈ value.children) : child.KeysDistinct := fun place member =>
  distinct (step :: place.1, place.2) (cons_mem_walk_iff.2 ⟨child, direct, member⟩)

theorem lookup?_eq_some_iff {members : List (String × Json)} {key : String}
    (distinct : (members.map (·.1)).Nodup) :
    lookup? key members = some inner ↔ (key, inner) ∈ members := by
  induction members with
  | nil => simp [lookup?]
  | cons member rest inductionHypothesis =>
      obtain ⟨name, value⟩ := member
      rw [List.map_cons, List.nodup_cons] at distinct
      rw [lookup?, List.mem_cons, Prod.mk.injEq]
      split
      case isTrue same =>
        subst same
        have onlyHere : (name, inner) ∉ rest := fun member =>
          distinct.1 (List.mem_map.2 ⟨_, member, rfl⟩)
        simp [onlyHere, eq_comm]
      case isFalse different =>
        rw [inductionHypothesis distinct.2]
        simp [Ne.symm different]

/-- Where keys are distinct, a step leads to all that is directly inside under it. -/
theorem at?_cons_eq_some_iff (distinct : value.ownKeys.Nodup) :
    at? (step :: rest) value = some inner ↔
      ∃ child, (step, child) ∈ value.children ∧ at? rest child = some inner := by
  cases value with
  | array items =>
      cases step with
      | key name => simp [at?, children]
      | index position =>
          simp [at?, children, List.mk_mem_zipIdx_iff_getElem?, Option.bind_eq_some_iff]
  | object members =>
      cases step with
      | key name =>
          simp [at?, children, Option.bind_eq_some_iff, lookup?_eq_some_iff distinct]
      | index position => simp [at?, children]
  | null | bool | number | string => simp [at?, children]

/-- The walk through a value comes to all places to which a path leads, and to no others. -/
theorem mem_walk_iff (distinct : value.KeysDistinct) :
    (path, inner) ∈ value.walk ↔ at? path value = some inner := by
  induction path generalizing value with
  | nil =>
      rw [nil_mem_walk_iff, at?, Option.some.injEq]
      exact eq_comm
  | cons step rest inductionHypothesis =>
      rw [cons_mem_walk_iff, at?_cons_eq_some_iff distinct.here]
      refine exists_congr fun child => and_congr_right fun direct => ?_
      exact inductionHypothesis (distinct.of_mem_children direct)

/-- The keys on a path are keys of objects inside. -/
theorem holds_of_key_mem (holds : String → Prop)
    (each : ∀ place ∈ value.walk, ∀ key ∈ place.2.ownKeys, holds key)
    (found : (path, inner) ∈ value.walk) {name : String} (member : Step.key name ∈ path) :
    holds name := by
  induction path generalizing value with
  | nil => cases member
  | cons step rest inductionHypothesis =>
      obtain ⟨child, direct, inChild⟩ := cons_mem_walk_iff.1 found
      rcases List.mem_cons.1 member with rfl | later
      · refine each ([], value) (nil_mem_walk_iff.2 rfl) name ?_
        cases value with
        | object members =>
            simp only [children, List.mem_map, Prod.mk.injEq, Step.key.injEq] at direct
            obtain ⟨entry, inMembers, rfl, _⟩ := direct
            exact List.mem_map.2 ⟨entry, inMembers, rfl⟩
        | array items => simp [children] at direct
        | null | bool | number | string => cases direct
      · refine inductionHypothesis ?_ inChild later
        intro place inWalk
        exact each (step :: place.1, place.2) (cons_mem_walk_iff.2 ⟨child, direct, inWalk⟩)

/-- A character stands in no key and in no text, at any depth. -/
structure Lacks (value : Json) (character : Char) : Prop where
  keys : ∀ place ∈ value.walk, ∀ key ∈ place.2.ownKeys, character ∉ key.toList
  texts : ∀ place ∈ value.walk, ∀ text ∈ place.2.asString?, character ∉ text.toList

/-! ### Members in the order of their keys -/

theorem insertMember_perm (member : String × Json) (members : List (String × Json)) :
    (insertMember member members).Perm (member :: members) := by
  induction members with
  | nil => exact .refl _
  | cons head rest inductionHypothesis =>
      rw [insertMember]
      split
      · exact .refl _
      · exact (inductionHypothesis.cons head).trans (.swap member head rest)

theorem sortKeysOfItems_eq (items : List Json) : sortKeysOfItems items = items.map sortKeys := by
  induction items with
  | nil => rfl
  | cons item rest inductionHypothesis =>
      rw [sortKeysOfItems, inductionHypothesis, List.map_cons]

theorem sortKeysOfMembers_perm (members : List (String × Json)) :
    (sortKeysOfMembers members).Perm (members.map fun (key, value) => (key, value.sortKeys)) := by
  induction members with
  | nil => exact .refl _
  | cons member rest inductionHypothesis =>
      rw [sortKeysOfMembers, List.map_cons]
      exact (insertMember_perm _ _).trans (inductionHypothesis.cons _)

theorem insertMember_sorted {member : String × Json} {members : List (String × Json)}
    (sorted : (members.map (·.1)).Pairwise (· < ·)) (fresh : member.1 ∉ members.map (·.1)) :
    ((insertMember member members).map (·.1)).Pairwise (· < ·) := by
  induction members with
  | nil => exact List.pairwise_singleton _ _
  | cons head rest inductionHypothesis =>
      rw [List.map_cons, List.pairwise_cons] at sorted
      rw [List.map_cons, List.mem_cons, not_or] at fresh
      rw [insertMember]
      split
      case isTrue smaller =>
        rw [List.map_cons, List.pairwise_cons, List.map_cons, List.pairwise_cons]
        refine ⟨List.forall_mem_cons.2 ⟨smaller, fun key member => ?_⟩, sorted⟩
        exact String.lt_trans smaller (sorted.1 key member)
      case isFalse notSmaller =>
        have greater : head.1 < member.1 := Std.lt_of_le_of_ne notSmaller (Ne.symm fresh.1)
        rw [List.map_cons, List.pairwise_cons]
        refine ⟨fun key found => ?_, inductionHypothesis sorted.2 fresh.2⟩
        rw [((insertMember_perm member rest).map (·.1)).mem_iff, List.map_cons,
          List.mem_cons] at found
        rcases found with rfl | inRest
        · exact greater
        · exact sorted.1 key inRest

theorem sortKeysOfMembers_sorted {members : List (String × Json)}
    (distinct : (members.map (·.1)).Nodup) :
    ((sortKeysOfMembers members).map (·.1)).Pairwise (· < ·) := by
  induction members with
  | nil => exact .nil
  | cons member rest inductionHypothesis =>
      obtain ⟨key, value⟩ := member
      rw [List.map_cons, List.nodup_cons] at distinct
      rw [sortKeysOfMembers]
      refine insertMember_sorted (inductionHypothesis distinct.2) ?_
      rw [((sortKeysOfMembers_perm rest).map (·.1)).mem_iff, List.map_map]
      exact distinct.1

theorem mem_children_sortKeys_iff {child : Json} :
    (step, child) ∈ value.sortKeys.children ↔
      ∃ original, (step, original) ∈ value.children ∧ child = original.sortKeys := by
  cases value with
  | array items =>
      simp only [sortKeys, sortKeysOfItems_eq, children, List.zipIdx_map, List.map_map,
        List.mem_map, Prod.exists, Function.comp_apply, Prod.map_apply, id_eq, Prod.mk.injEq]
      constructor
      · rintro ⟨item, position, found, rfl, rfl⟩
        exact ⟨item, ⟨item, position, found, rfl, rfl⟩, rfl⟩
      · rintro ⟨original, ⟨item, position, found, rfl, rfl⟩, rfl⟩
        exact ⟨item, position, found, rfl, rfl⟩
  | object members =>
      simp only [sortKeys, children, List.mem_map, Prod.exists, Prod.mk.injEq,
        (sortKeysOfMembers_perm members).mem_iff]
      constructor
      · rintro ⟨name, inner, ⟨key, original, found, rfl, rfl⟩, rfl, rfl⟩
        exact ⟨original, ⟨key, original, found, rfl, rfl⟩, rfl⟩
      · rintro ⟨original, ⟨key, _, found, rfl, rfl⟩, rfl⟩
        exact ⟨key, _, ⟨key, _, found, rfl, rfl⟩, rfl, rfl⟩
  | null | bool | number | string => simp [sortKeys, children]

theorem ownKeys_sortKeys_perm (value : Json) : value.sortKeys.ownKeys.Perm value.ownKeys := by
  cases value with
  | object members =>
      rw [sortKeys, ownKeys, ownKeys]
      have sorted := (sortKeysOfMembers_perm members).map (·.1)
      rw [List.map_map] at sorted
      exact sorted
  | null | bool | number | string | array => exact .refl _

/-- The same paths lead into a value when its members are put in order. -/
theorem mem_walk_sortKeys_iff :
    (path, inner) ∈ value.sortKeys.walk ↔
      ∃ original, (path, original) ∈ value.walk ∧ inner = original.sortKeys := by
  induction path generalizing value with
  | nil => simp [nil_mem_walk_iff]
  | cons step rest inductionHypothesis =>
      simp only [cons_mem_walk_iff, mem_children_sortKeys_iff]
      constructor
      · rintro ⟨_, ⟨child, direct, rfl⟩, found⟩
        obtain ⟨original, inChild, rfl⟩ := inductionHypothesis.1 found
        exact ⟨original, ⟨child, direct, inChild⟩, rfl⟩
      · rintro ⟨original, ⟨child, direct, inChild⟩, rfl⟩
        exact ⟨child.sortKeys, ⟨child, direct, rfl⟩,
          inductionHypothesis.2 ⟨original, inChild, rfl⟩⟩

/-- What holds everywhere in a value, whatever the order of members, holds everywhere in it
when its members are put in order. -/
theorem forall_walk_sortKeys (holds : Json → Prop)
    (everywhere : ∀ place ∈ value.walk, holds place.2.sortKeys) :
    ∀ place ∈ value.sortKeys.walk, holds place.2 := by
  rintro ⟨path, inner⟩ member
  obtain ⟨original, found, rfl⟩ := mem_walk_sortKeys_iff.1 member
  exact everywhere _ found

theorem asString?_sortKeys (value : Json) : value.sortKeys.asString? = value.asString? := by
  cases value <;> rfl

theorem Lacks.sortKeys (lacks : value.Lacks character) :
    value.sortKeys.Lacks character := by
  constructor
  · apply forall_walk_sortKeys fun inner => ∀ key ∈ inner.ownKeys, character ∉ key.toList
    intro place member key ofPlace
    exact lacks.keys place member key ((ownKeys_sortKeys_perm place.2).mem_iff.1 ofPlace)
  · apply forall_walk_sortKeys fun inner => ∀ text ∈ inner.asString?, character ∉ text.toList
    intro place member text ofPlace
    rw [asString?_sortKeys] at ofPlace
    exact lacks.texts place member text ofPlace

/-! ### The order of a document -/

/-- One step stands before another: a smaller position, or a smaller key. -/
inductive Step.Before : Step → Step → Prop where
  | index {position other : Nat} (less : position < other) :
      Step.Before (.index position) (.index other)
  | key {name other : String} (less : name < other) : Step.Before (.key name) (.key other)

/-- The order of a document whose members are in the order of their keys: a path stands
before all that go on from it, and otherwise the first step that differs decides. -/
def PathBefore : List Step → List Step → Prop :=
  List.Lex Step.Before

theorem Step.Before.asymm {first second : Step} (before : first.Before second) :
    ¬ second.Before first := by
  intro back
  cases before with
  | index less =>
      cases back with
      | index more => omega
  | key less =>
      cases back with
      | key more => exact String.lt_irrefl _ (String.lt_trans less more)

theorem PathBefore.asymm {first second : List Step} (before : PathBefore first second) :
    ¬ PathBefore second first := by
  intro back
  induction before with
  | nil => cases back
  | rel less =>
      cases back with
      | rel more => exact less.asymm more
      | cons _ => exact less.asymm less
  | cons _ inductionHypothesis =>
      cases back with
      | rel more => exact more.asymm more
      | cons further => exact inductionHypothesis further

theorem PathBefore.ne {first second : List Step} (before : PathBefore first second) :
    first ≠ second := by
  rintro rfl
  exact before.asymm before

/-- What stands at paths in the order of a document is settled by what there is. -/
theorem eq_of_ordered {Content : Type} {places others : List (List Step × Content)}
    (ordered : (places.map (·.1)).Pairwise PathBefore)
    (orderedToo : (others.map (·.1)).Pairwise PathBefore)
    (same : ∀ place, place ∈ places ↔ place ∈ others) : places = others := by
  have distinct : places.Nodup := List.Nodup.of_map _ (ordered.imp PathBefore.ne)
  have distinctToo : others.Nodup := List.Nodup.of_map _ (orderedToo.imp PathBefore.ne)
  rw [List.pairwise_map] at ordered orderedToo
  refine List.Perm.eq_of_pairwise ?_ ordered orderedToo
    ((List.perm_ext_iff_of_nodup distinct distinctToo).2 same)
  intro first second _ _ before back
  exact absurd back before.asymm

theorem children_ordered (sorted : value.ownKeys.Pairwise (· < ·)) :
    value.children.Pairwise fun place other => place.1.Before other.1 := by
  cases value with
  | array items =>
      have ascending : (items.zipIdx.map (·.2)).Pairwise (· < ·) := by
        rw [List.zipIdx_map_snd]
        exact List.pairwise_lt_range' 1
      rw [children, List.pairwise_map]
      rw [List.pairwise_map] at ascending
      exact ascending.imp fun less => .index less
  | object members =>
      rw [children, List.pairwise_map]
      rw [ownKeys, List.pairwise_map] at sorted
      exact sorted.imp fun less => .key less
  | null | bool | number | string => exact .nil

/-- Where the members of all objects are in the order of their keys, a walk keeps the order of
the document. -/
theorem walk_ordered (sorted : ∀ place ∈ value.walk, place.2.ownKeys.Pairwise (· < ·)) :
    (value.walk.map (·.1)).Pairwise PathBefore := by
  induction value using induction_on_children with
  | further value inductionHypothesis =>
      have below : ∀ place ∈ value.children,
          ((place.2.walk.map (under place.1)).map (·.1)).Pairwise PathBefore := by
        intro place direct
        have ordered := inductionHypothesis place direct fun inner member =>
          sorted (place.1 :: inner.1, inner.2) (cons_mem_walk_iff.2 ⟨_, direct, member⟩)
        rw [List.map_map, List.pairwise_map]
        rw [List.pairwise_map] at ordered
        exact ordered.imp fun before => .cons before
      rw [walk_eq, List.map_cons, List.pairwise_cons]
      constructor
      · intro path member
        obtain ⟨place, found, rfl⟩ := List.mem_map.1 member
        obtain ⟨direct, _, inWalk⟩ := List.mem_flatMap.1 found
        obtain ⟨further, _, rfl⟩ := List.mem_map.1 inWalk
        exact .nil
      · rw [inside, List.map_flatMap, List.pairwise_flatMap]
        refine ⟨below, ?_⟩
        have here := children_ordered (sorted ([], value) (nil_mem_walk_iff.2 rfl))
        refine here.imp fun before path member other memberToo => ?_
        simp only [List.map_map, List.mem_map, Function.comp_apply, under] at member memberToo
        obtain ⟨_, _, rfl⟩ := member
        obtain ⟨_, _, rfl⟩ := memberToo
        exact .rel before

theorem ownKeys_sortKeys_sorted (distinct : value.ownKeys.Nodup) :
    value.sortKeys.ownKeys.Pairwise (· < ·) := by
  cases value with
  | object members =>
      rw [sortKeys]
      exact sortKeysOfMembers_sorted distinct
  | null | bool | number | string | array => exact .nil

/-- The walk through a value whose members were put in order keeps the order of the
document. -/
theorem walk_sortKeys_ordered (distinct : value.KeysDistinct) :
    (value.sortKeys.walk.map (·.1)).Pairwise PathBefore :=
  walk_ordered <| forall_walk_sortKeys (fun inner => inner.ownKeys.Pairwise (· < ·))
    fun place member => ownKeys_sortKeys_sorted (distinct place member)

end RpcTools.Json
