/-
Module: RpcTools.Proofs.ParameterSpelling
Purpose: Options written out as a parameter, and read back from it.
Main exports: PlainValue, PluginOptions.Spells, PluginOptions.ofParameter_of_spells
-/
import Mathlib.Data.List.Nodup
import Mathlib.Data.List.Perm.Basic
import RpcTools.Plugin.Options
import RpcTools.Text.Segments

namespace RpcTools

/-! ### Texts without white space around them -/

namespace Text

variable {characters : List Char} {text : String}

theorem dropBlanks_suffix : dropBlanks characters <:+ characters :=
  List.dropWhile_suffix isBlank

theorem dropBlanksEnd_prefix : dropBlanksEnd characters <+: characters := by
  rw [dropBlanksEnd, ← List.reverse_suffix, List.reverse_reverse]
  exact dropBlanks_suffix

theorem dropBlanks_eq_self_iff :
    dropBlanks characters = characters ↔
      ∀ first, characters.head? = some first → isBlank first = false := by
  cases characters with
  | nil => simp [dropBlanks]
  | cons first rest =>
      cases blank : isBlank first with
      | false => simp [dropBlanks, blank]
      | true =>
          have shorter : dropBlanks (first :: rest) ≠ first :: rest := by
            intro same
            have fits : (dropBlanks rest).length ≤ rest.length := dropBlanks_suffix.length_le
            rw [dropBlanks, List.dropWhile_cons_of_pos blank, ← dropBlanks] at same
            rw [same, List.length_cons] at fits
            omega
          simp [shorter, blank]

theorem dropBlanksEnd_eq_self_iff :
    dropBlanksEnd characters = characters ↔
      ∀ last, characters.getLast? = some last → isBlank last = false := by
  rw [dropBlanksEnd, List.reverse_eq_iff, dropBlanks_eq_self_iff, List.head?_reverse]

/-- A text is trimmed exactly if no blank is at either end. -/
theorem trim_eq_self_iff :
    trim text = text ↔
      (∀ first, text.toList.head? = some first → isBlank first = false) ∧
        ∀ last, text.toList.getLast? = some last → isBlank last = false := by
  rw [← dropBlanks_eq_self_iff, ← dropBlanksEnd_eq_self_iff, ← String.toList_inj, toList_trim]
  constructor
  · intro trimmed
    -- what is left is as long as the text, so nothing was dropped at the start either
    have all : text.toList.length ≤ (dropBlanks text.toList).length := by
      have kept : dropBlanksEnd (dropBlanks text.toList) <+: dropBlanks text.toList :=
        dropBlanksEnd_prefix
      rw [trimmed] at kept
      exact kept.length_le
    have atStart : dropBlanks text.toList = text.toList :=
      dropBlanks_suffix.eq_of_length_le all
    rw [atStart] at trimmed
    exact ⟨atStart, trimmed⟩
  · rintro ⟨atStart, atEnd⟩
    rw [atStart, atEnd]

/-! ### Texts with separators -/

/-- Pieces without separators are found again between the separators. -/
theorem split_joinWith {separator : Char} {first : String} {pieces : List String}
    (absent : ∀ piece ∈ first :: pieces, separator ∉ piece.toList) :
    split separator (joinWith (String.singleton separator) (first :: pieces)) =
      first :: pieces := by
  induction pieces generalizing first with
  | nil =>
      have inFirst := absent first (by simp)
      simp [joinWith, split, segments_of_not_mem inFirst]
  | cons second rest inductionHypothesis =>
      have inFirst := absent first (by simp)
      have onwards := inductionHypothesis fun piece member =>
        absent piece (List.mem_cons_of_mem first member)
      rw [split] at onwards
      simp [joinWith, split, segments_append_cons, segments_of_not_mem inFirst, onwards]

theorem split_joinWith_concat {separator : Char} {front : List String} {last : String}
    (absent : ∀ piece ∈ front ++ [last], separator ∉ piece.toList) :
    split separator (joinWith (String.singleton separator) (front ++ [last])) =
      front ++ [last] := by
  cases whole : front ++ [last] with
  | nil => simp at whole
  | cons first rest =>
      rw [whole] at absent
      exact split_joinWith absent

end Text

/-! ### Entries -/

/-- A value that a parameter can tell as it is. -/
structure PlainValue (value : String) : Prop where
  named : value ≠ ""
  noComma : ',' ∉ value.toList
  trimmed : Text.trim value = value

/-- A word that an entry can begin with: without commas, equals signs and blanks at its
ends, and not empty. -/
structure OptionKey.PlainWord (word : String) : Prop where
  noComma : ',' ∉ word.toList
  noEquals : '=' ∉ word.toList
  trimmed : Text.trim word = word
  solid : ∃ first rest, word.toList = first :: rest ∧ Text.isBlank first = false

theorem OptionKey.plainWord_word (key : OptionKey) : PlainWord key.word := by
  cases key <;> exact ⟨by decide, by decide, by decide, _, _, rfl, by decide⟩

namespace PluginOptions

/-- The entry that tells a value about a key. -/
def entryOf : OptionKey × String → String
  | (.config, value) => "config=" ++ value
  | (.commandFile, value) => "command_file=" ++ value
  | (.outputFile, value) => "output=" ++ value

variable {key : OptionKey} {value : String}

@[simp] theorem toList_entryOf :
    (entryOf (key, value)).toList = key.word.toList ++ '=' :: value.toList := by
  cases key <;> simp [entryOf, OptionKey.word]

theorem isEmpty_entryOf : (entryOf (key, value)).isEmpty = false := by
  rw [Bool.eq_false_iff, ne_eq, String.isEmpty_iff, ← String.toList_inj]
  simp

theorem not_comma_mem_entryOf (plain : PlainValue value) :
    ',' ∉ (entryOf (key, value)).toList := by
  simp [key.plainWord_word.noComma, plain.noComma]

/-- An entry begins with a letter and ends with the end of its value. -/
theorem trim_entryOf (plain : PlainValue value) :
    Text.trim (entryOf (key, value)) = entryOf (key, value) := by
  obtain ⟨first, rest, letters, solid⟩ := key.plainWord_word.solid
  obtain ⟨_, atEnd⟩ := Text.trim_eq_self_iff.1 plain.trimmed
  have hasEnd : value.toList ≠ [] := by simpa using plain.named
  rw [Text.trim_eq_self_iff, toList_entryOf]
  constructor
  · intro found isFirst
    rw [letters] at isFirst
    cases isFirst
    exact solid
  · intro last isLast
    refine atEnd last ?_
    rw [List.getLast?_append_cons] at isLast
    rwa [List.getLast?_cons_of_ne_nil hasEnd] at isLast

theorem assignment?_entryOf (plain : PlainValue value) :
    assignment? (entryOf (key, value)) = some (key.word, value) := by
  have cut : Text.cutFirst? '=' (entryOf (key, value)).toList =
      some (key.word.toList, value.toList) :=
    Text.cutFirst?_eq_some_iff.2 ⟨toList_entryOf, key.plainWord_word.noEquals⟩
  rw [assignment?, cut]
  simp [plain.trimmed, key.plainWord_word.trimmed]

/-- One step of reading: an entry about a key of which nothing was said before. -/
theorem add_entryOf {options : PluginOptions} (plain : PlainValue value)
    (free : options.get? key = none) :
    options.add (entryOf (key, value)) = .ok (options.set key value) := by
  have named : value.isEmpty = false := by simpa using plain.named
  simp [add, assignment?_entryOf plain, named, OptionKey.ofWord?_word, free]

/-! ### Parameters -/

/-- A parameter with an entry for each assignment. -/
def spelling (assignments : List (OptionKey × String)) : String :=
  Text.joinWith "," (assignments.map entryOf)

/-- What options say, one key after the other. -/
def assignments (options : PluginOptions) : List (OptionKey × String) :=
  OptionKey.all.filterMap fun key => (options.get? key).map fun value => (key, value)

/-- A parameter spells options if it has an entry for whatever they say, in any order. -/
inductive Spells (options : PluginOptions) : String → Prop where
  | inOrder {spelled : List (OptionKey × String)} (order : spelled.Perm options.assignments) :
      Spells options (spelling spelled)

theorem entries_spelling {spelled : List (OptionKey × String)}
    (plain : ∀ assignment ∈ spelled, PlainValue assignment.2) :
    entries (spelling spelled) = spelled.map entryOf := by
  cases spelled with
  | nil => decide
  | cons first rest =>
      have split : Text.split ',' (spelling (first :: rest)) =
          (first :: rest).map entryOf := by
        refine Text.split_joinWith ?_
        rw [← List.map_cons, List.forall_mem_map]
        exact fun assignment member => not_comma_mem_entryOf (plain assignment member)
      have trims : ((first :: rest).map entryOf).map Text.trim =
          (first :: rest).map entryOf := by
        rw [List.map_map]
        exact List.map_congr_left fun assignment member =>
          trim_entryOf (plain assignment member)
      rw [entries, split, trims, List.filter_eq_self, List.forall_mem_map]
      intro assignment _
      rw [isEmpty_entryOf]
      rfl

/-- Reading entries about different keys, of which nothing was said before, adds what they
tell and nothing else. -/
theorem foldlM_add {spelled : List (OptionKey × String)} {options : PluginOptions}
    (plain : ∀ assignment ∈ spelled, PlainValue assignment.2)
    (distinct : (spelled.map (·.1)).Nodup)
    (free : ∀ assignment ∈ spelled, options.get? assignment.1 = none) :
    ∃ read, (spelled.map entryOf).foldlM add options = .ok read ∧
      ∀ key value, read.get? key = some value ↔
        (key, value) ∈ spelled ∨ options.get? key = some value := by
  induction spelled generalizing options with
  | nil => exact ⟨options, rfl, by simp⟩
  | cons first rest inductionHypothesis =>
      obtain ⟨key, value⟩ := first
      -- the keys of the other entries differ from this one and stay free
      rw [List.map_cons, List.nodup_cons] at distinct
      rw [List.forall_mem_cons] at plain free
      have freeOnwards : ∀ assignment ∈ rest,
          (options.set key value).get? assignment.1 = none := by
        intro assignment member
        have different : assignment.1 ≠ key := by
          rintro rfl
          exact distinct.1 (List.mem_map.2 ⟨_, member, rfl⟩)
        rw [get?_set_of_ne options value different]
        exact free.2 assignment member
      obtain ⟨read, reads, meaning⟩ := inductionHypothesis plain.2 distinct.2 freeOnwards
      refine ⟨read, ?_, ?_⟩
      · rw [List.map_cons, List.foldlM_cons, add_entryOf plain.1 free.1]
        exact reads
      · intro other told
        rw [meaning, List.mem_cons, Prod.mk.injEq]
        by_cases same : other = key
        · subst same
          have onlyHere : (other, told) ∉ rest := fun member =>
            distinct.1 (List.mem_map.2 ⟨_, member, rfl⟩)
          simp [onlyHere, free.1, eq_comm]
        · simp [same, get?_set_of_ne options value same]

theorem mem_assignments {options : PluginOptions} :
    (key, value) ∈ options.assignments ↔ options.get? key = some value := by
  have known : key ∈ OptionKey.all := by cases key <;> decide
  simp [assignments, known]

theorem nodup_assignments (options : PluginOptions) :
    (options.assignments.map (·.1)).Nodup := by
  rw [assignments, List.map_filterMap]
  refine List.Nodup.filterMap ?_ (by decide : OptionKey.all.Nodup)
  intro first second key fromFirst fromSecond
  simp only [Option.map_map, Option.mem_def, Option.map_eq_some_iff, Function.comp_apply]
    at fromFirst fromSecond
  obtain ⟨_, _, rfl⟩ := fromFirst
  obtain ⟨_, _, rfl⟩ := fromSecond
  rfl

/-- Options with plain values are read back from every parameter that spells them. -/
theorem ofParameter_of_spells {options : PluginOptions} {parameter : String}
    (plain : ∀ key value, options.get? key = some value → PlainValue value)
    (spells : options.Spells parameter) : ofParameter parameter = .ok options := by
  obtain @⟨spelled, order⟩ := spells
  have plainSpelled : ∀ assignment ∈ spelled, PlainValue assignment.2 := fun assignment member =>
    plain assignment.1 assignment.2 (mem_assignments.1 (order.mem_iff.1 member))
  have distinct : (spelled.map (·.1)).Nodup :=
    (order.map _).nodup_iff.2 options.nodup_assignments
  obtain ⟨read, reads, meaning⟩ := foldlM_add plainSpelled distinct fun assignment _ =>
    get?_empty assignment.1
  have same : read = options := by
    refine ext_get? fun key => Option.ext fun value => ?_
    rw [meaning, order.mem_iff, mem_assignments, get?_empty]
    simp
  rw [ofParameter, entries_spelling plainSpelled, reads, same]

/-- The order does not matter, and only the first equals sign divides. -/
example : ofParameter "command_file=a=b.proto,config=c.toml" =
    .ok ⟨some "c.toml", some "a=b.proto", none⟩ := by
  decide +kernel

end PluginOptions

end RpcTools
