/-
Module: RpcTools.Proofs.RecordForms
Purpose: What a reader of records makes of small changes to a value: a member that is left out,
  and a change further inside.  A reader overlooks a change if it gives the same with and without
  it; that is shown from one level of a value to the next.
Main exports: Json.listOf?, Json.field?, Json.hasOnly, Json.Overlooks, Json.InItem, Json.InField,
  Json.Drops, Json.InField.field?_eq, Json.Drops.field?_eq
-/
import Mathlib.Data.List.Basic
import Mathlib.Logic.Relation
import Mathlib.Tactic.ByContra
import RpcTools.Json

namespace RpcTools

namespace Json

variable {Entry : Type}

/-! ### Readers -/

/-- The entries of an array, each as it is read. -/
def listOf? (read : Json → Option Entry) (value : Json) : Option (List Entry) := do
  (← value.asList?).mapM read

/-- What is read under one key of a record with the given keys; `missing` if the key is left
out, which is a value for a key with a default and nothing for any other. -/
def field? (names : List String) (missing : Option Entry) (read : Json → Option Entry)
    (key : String) (value : Json) : Option Entry := do
  (lookup? key (← value.record? names)).elim missing read

/-- Whether the value is a record without other keys than the given ones. -/
def hasOnly (names : List String) (value : Json) : Bool :=
  (value.record? names).any fun members => members.all fun member => names.contains member.1

/-- Two computations in a row succeed where both do. -/
theorem bind_eq_some_iff {Result : Type} {found : Option Entry} {next : Entry → Option Result}
    {result : Result} :
    (found >>= next) = some result ↔ ∃ part, found = some part ∧ next part = some result :=
  Option.bind_eq_some_iff

/-- A required key is looked up and then read. -/
theorem bind_eq_elim (found : Option Json) (read : Json → Option Entry) :
    found.bind read = found.elim none read := by
  cases found <;> rfl

theorem elim_listOf? (found : Option Json) (read : Json → Option Entry) :
    found.elim none (listOf? read) =
      (found.elim none asList?).bind fun items => items.mapM read := by
  cases found <;> rfl

theorem listOf?_map {write : Entry → Json} {read : Json → Option Entry}
    (readsBack : ∀ entry, read (write entry) = some entry) (entries : List Entry) :
    listOf? read (.array (entries.map write)) = some entries :=
  mapM_map_of_readsBack readsBack entries

section Lookup

variable {key other : String} {value lighter : Json} {before after : List (String × Json)}

theorem lookup?_cons (key name : String) (value : Json) (rest : List (String × Json)) :
    lookup? key ((name, value) :: rest) = if name = key then some value else lookup? key rest :=
  rfl

theorem lookup?_append (key : String) (before after : List (String × Json)) :
    lookup? key (before ++ after) = (lookup? key before).or (lookup? key after) := by
  induction before with
  | nil => rfl
  | cons member rest inductionHypothesis =>
      obtain ⟨name, value⟩ := member
      rw [List.cons_append, lookup?_cons, lookup?_cons, inductionHypothesis]
      split <;> rfl

theorem lookup?_eq_none (absent : key ∉ before.map (·.1)) : lookup? key before = none := by
  induction before with
  | nil => rfl
  | cons member rest inductionHypothesis =>
      obtain ⟨name, value⟩ := member
      rw [List.map_cons, List.mem_cons, not_or] at absent
      rw [lookup?_cons, if_neg (Ne.symm absent.1), inductionHypothesis absent.2]

theorem mem_keys_of_lookup? (found : lookup? key before = some value) :
    key ∈ before.map (·.1) := by
  by_contra absent
  rw [lookup?_eq_none absent] at found
  cases found

/-- Under another key a member makes no difference. -/
theorem lookup?_member_of_ne (different : key ≠ other) :
    lookup? other (before ++ (key, value) :: after) = lookup? other (before ++ after) := by
  rw [lookup?_append, lookup?_append, lookup?_cons, if_neg different]

/-- What is read under a key does not depend on the value of one member, unless it is the member
with this key and its value is read as something else. -/
theorem elim_lookup?_changed {missing : Option Entry} {read : Json → Option Entry}
    (same : key = other → read lighter = read value) :
    (lookup? other (before ++ (key, lighter) :: after)).elim missing read =
      (lookup? other (before ++ (key, value) :: after)).elim missing read := by
  by_cases here : key = other
  · simp only [lookup?_append, lookup?_cons, if_pos here]
    cases lookup? other before with
    | none => exact same here
    | some _ => rfl
  · rw [lookup?_member_of_ne here, lookup?_member_of_ne here]

end Lookup

section Records

variable {names : List String} {key : String} {value part : Json}
variable {members : List (String × Json)} {missing : Option Entry} {read : Json → Option Entry}

theorem field?_of_record? (isRecord : value.record? names = some members) :
    value.field? names missing read key = (lookup? key members).elim missing read := by
  rw [field?, isRecord]
  rfl

theorem hasOnly_of_record? (isRecord : value.record? names = some members) :
    value.hasOnly names = members.all fun member => names.contains member.1 := by
  rw [hasOnly, isRecord, Option.any_some]

/-- A member of an object is read under its key. -/
theorem field?_of_member? (found : value.member? key = some part) :
    value.field? names missing read key = read part := by
  cases value with
  | object members =>
      have isPart : lookup? key members = some part := found
      rw [field?_of_record? rfl, isPart, Option.elim_some]
  | null | bool | number | string | array => cases found

end Records

/-! ### Changes -/

/-- The reader gives the same with and without the change. -/
def Overlooks (read : Json → Option Entry) (sheds : Json → Json → Prop) : Prop :=
  ∀ value lighter, sheds value lighter → read lighter = read value

/-- A change in one item of an array. -/
inductive InItem (sheds : Json → Json → Prop) : Json → Json → Prop where
  | item {value lighter : Json} (before after : List Json) (here : sheds value lighter) :
      InItem sheds (.array (before ++ value :: after)) (.array (before ++ lighter :: after))

/-- A change in what stands under one key of a record with the given keys: in a member of an
object, or in the item of an array that has the key's place. -/
inductive InField (names : List String) (key : String) (sheds : Json → Json → Prop) :
    Json → Json → Prop where
  | member {value lighter : Json} (before after : List (String × Json))
      (here : sheds value lighter) :
      InField names key sheds (.object (before ++ (key, value) :: after))
        (.object (before ++ (key, lighter) :: after))
  | place {value lighter : Json} (before after : List Json)
      (named : names[before.length]? = some key) (here : sheds value lighter) :
      InField names key sheds (.array (before ++ value :: after))
        (.array (before ++ lighter :: after))

/-- The removal of an object's member, the only one with its key. -/
inductive Drops (removable : String → Json → Prop) : Json → Json → Prop where
  | member {key : String} {value : Json} (before after : List (String × Json))
      (only : key ∉ (before ++ after).map (·.1)) (here : removable key value) :
      Drops removable (.object (before ++ (key, value) :: after)) (.object (before ++ after))

section Changes

variable {names : List String} {key other : String} {value lighter : Json}
variable {sheds : Json → Json → Prop} {removable : String → Json → Prop}
variable {missing : Option Entry} {read : Json → Option Entry}

/-- What is overlooked once is overlooked as often as it happens. -/
theorem Overlooks.reflTransGen (overlooks : Overlooks read sheds) :
    Overlooks read (Relation.ReflTransGen sheds) := by
  intro value lighter changes
  induction changes with
  | refl => rfl
  | tail _ last inductionHypothesis => rw [overlooks _ _ last, inductionHypothesis]

theorem Overlooks.or {otherSheds : Json → Json → Prop} (overlooks : Overlooks read sheds)
    (others : Overlooks read otherSheds) :
    Overlooks read fun value lighter => sheds value lighter ∨ otherSheds value lighter := by
  rintro value lighter (change | change)
  · exact overlooks value lighter change
  · exact others value lighter change

theorem Overlooks.listOf? (overlooks : Overlooks read sheds) :
    Overlooks (listOf? read) (InItem sheds) := by
  rintro _ _ ⟨before, after, here⟩
  change List.mapM read _ = List.mapM read _
  rw [List.mapM_append, List.mapM_append, List.mapM_cons, List.mapM_cons, overlooks _ _ here]

/-- A change under a key leaves a record a record with the same other members. -/
theorem InField.record?_cases (change : InField names key sheds value lighter) :
    (value.record? names = none ∧ lighter.record? names = none) ∨
      ∃ before after part lighterPart, sheds part lighterPart ∧
        value.record? names = some (before ++ (key, part) :: after) ∧
        lighter.record? names = some (before ++ (key, lighterPart) :: after) := by
  rcases change with ⟨before, after, here⟩ | ⟨before, after, named, here⟩
  · exact .inr ⟨before, after, _, _, here, rfl, rfl⟩
  · by_cases fits : before.length + after.length + 1 ≤ names.length
    · obtain ⟨inNames, isKey⟩ := List.getElem?_eq_some_iff.1 named
      have cut : names = names.take before.length ++ key :: names.drop (before.length + 1) := by
        rw [← isKey, ← List.drop_eq_getElem_cons, List.take_append_drop]
      have zipped (item : Json) : (Json.array (before ++ item :: after)).record? names =
          some ((names.take before.length).zip before ++
            (key, item) :: (names.drop (before.length + 1)).zip after) := by
        rw [record?, if_pos (by simpa [Nat.add_assoc] using fits)]
        conv_lhs => rw [cut]
        rw [List.zip_append (by simp; omega), List.zip_cons_cons]
      exact .inr ⟨_, _, _, _, here, zipped _, zipped _⟩
    · have tooLong (item : Json) : (Json.array (before ++ item :: after)).record? names = none :=
        if_neg (by simpa [Nat.add_assoc] using fits)
      exact .inl ⟨tooLong _, tooLong _⟩

/-- A change under a key does not show under any key if the reader of this key overlooks it. -/
theorem InField.field?_eq (change : InField names key sheds value lighter)
    (overlooks : key = other → Overlooks read sheds) :
    lighter.field? names missing read other = value.field? names missing read other := by
  rcases change.record?_cases with
    ⟨unread, lighterUnread⟩ | ⟨before, after, part, lighterPart, here, members, lighterMembers⟩
  · rw [field?, field?, unread, lighterUnread]
  · rw [field?_of_record? members, field?_of_record? lighterMembers]
    exact elim_lookup?_changed fun same => overlooks same _ _ here

theorem InField.hasOnly_eq (change : InField names key sheds value lighter) :
    lighter.hasOnly names = value.hasOnly names := by
  rcases change.record?_cases with
    ⟨unread, lighterUnread⟩ | ⟨before, after, part, lighterPart, here, members, lighterMembers⟩
  · rw [hasOnly, hasOnly, unread, lighterUnread]
  · rw [hasOnly_of_record? members, hasOnly_of_record? lighterMembers]
    simp only [List.all_append, List.all_cons]

/-- A removed member does not show under any key if it is read as what a missing one counts
for. -/
theorem Drops.field?_eq (drops : Drops removable value lighter)
    (passes : ∀ part, removable key part → read part = missing) :
    lighter.field? names missing read key = value.field? names missing read key := by
  obtain @⟨dropped, part, before, after, only, here⟩ := drops
  rw [field?_of_record? rfl, field?_of_record? rfl]
  by_cases same : dropped = key
  · subst same
    have absent : dropped ∉ before.map (·.1) := by
      intro inBefore
      rw [List.map_append] at only
      exact only (List.mem_append_left _ inBefore)
    rw [lookup?_eq_none only, lookup?_append, lookup?_eq_none absent, lookup?_cons, if_pos rfl]
    exact (passes part here).symm
  · rw [lookup?_member_of_ne same]

theorem Drops.hasOnly_eq (drops : Drops removable value lighter)
    (known : ∀ key part, removable key part → key ∈ names) :
    lighter.hasOnly names = value.hasOnly names := by
  obtain @⟨dropped, part, before, after, only, here⟩ := drops
  have inNames : names.contains dropped = true := List.contains_iff_mem.2 (known dropped part here)
  rw [hasOnly_of_record? rfl, hasOnly_of_record? rfl]
  simp only [List.all_append, List.all_cons, inNames, Bool.true_and]

end Changes

end Json

end RpcTools
