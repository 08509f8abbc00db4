/-
Module: RpcTools.Proofs.PathText
Purpose: The texts of paths into a value: what they are made of, and how they are read.
Main exports: Json.PlainKey, Json.Step.Plain, Json.LeadsTo, Json.leadsTo_iff,
  Json.pathText_injective
-/
import RpcTools.Json.Lines

namespace RpcTools

namespace Text

/-- Where a class of characters ends is settled by the text. -/
theorem eq_of_append_eq (inClass : Char → Bool) {front other back others : List Char}
    (all : ∀ character ∈ front, inClass character = true)
    (allToo : ∀ character ∈ other, inClass character = true)
    (ends : ∀ first, back.head? = some first → inClass first = false)
    (endsToo : ∀ first, others.head? = some first → inClass first = false)
    (same : front ++ back = other ++ others) : front = other ∧ back = others := by
  have none_taken : ∀ {rest : List Char},
      (∀ first, rest.head? = some first → inClass first = false) →
        rest.takeWhile inClass = [] := by
    intro rest stops
    cases rest with
    | nil => rfl
    | cons first after =>
        rw [List.takeWhile_cons_of_neg]
        simp [stops first rfl]
  have taken := congrArg (List.takeWhile inClass) same
  rw [List.takeWhile_append_of_pos all, List.takeWhile_append_of_pos allToo, none_taken ends,
    none_taken endsToo, List.append_nil, List.append_nil] at taken
  subst taken
  exact ⟨rfl, List.append_cancel_left same⟩

end Text

namespace Json

/-! ### The text of a path -/

/-- A key that a line can tell as it is. -/
structure PlainKey (key : String) : Prop where
  named : key ≠ ""
  noPoint : '.' ∉ key.toList
  noBracket : '[' ∉ key.toList
  noEquals : '=' ∉ key.toList

instance (key : String) : Decidable (PlainKey key) :=
  decidable_of_iff (key ≠ "" ∧ '.' ∉ key.toList ∧ '[' ∉ key.toList ∧ '=' ∉ key.toList)
    ⟨fun ⟨named, noPoint, noBracket, noEquals⟩ => ⟨named, noPoint, noBracket, noEquals⟩,
      fun ⟨named, noPoint, noBracket, noEquals⟩ => ⟨named, noPoint, noBracket, noEquals⟩⟩

/-- A step with a key that a line can tell, or to any position. -/
def Step.Plain : Step → Prop
  | .key name => PlainKey name
  | .index _ => True

/-- What a step adds to the text of a path. -/
def Step.characters : Step → List Char
  | .key name => '.' :: name.toList
  | .index position => '[' :: (Nat.toDigits 10 position ++ [']'])

/-- What a path starts with: the first key has no point before it. -/
def Step.firstCharacters : Step → List Char
  | .key name => name.toList
  | .index position => (Step.index position).characters

variable {step : Step} {path other rest : List Step}

theorem Step.firstCharacters_ne_nil (plain : step.Plain) : step.firstCharacters ≠ [] := by
  cases step with
  | key name => simpa [firstCharacters] using plain.named
  | index position => simp [firstCharacters, characters]

theorem toList_foldl_extendPath {path : List Step} {base : String} (started : base ≠ "") :
    (path.foldl extendPath base).toList = base.toList ++ path.flatMap Step.characters := by
  induction path generalizing base with
  | nil => simp
  | cons step rest inductionHypothesis =>
      have notEmpty : base.isEmpty = false := by simpa using started
      have extended : (extendPath base step).toList = base.toList ++ step.characters := by
        cases step with
        | key name => simp [extendPath, notEmpty, Step.characters]
        | index position => simp [extendPath, Step.characters, Nat.toString_eq_repr]
      have startedToo : extendPath base step ≠ "" := by
        rw [ne_eq, ← String.toList_inj, extended]
        simp [started]
      rw [List.foldl_cons, inductionHypothesis startedToo, extended, List.flatMap_cons,
        List.append_assoc]

/-- The text of a path is the text of its first step, and then of the others. -/
theorem toList_pathText_cons (plain : step.Plain) :
    (pathText (step :: rest)).toList = step.firstCharacters ++ rest.flatMap Step.characters := by
  have first : (extendPath "" step).toList = step.firstCharacters := by
    cases step with
    | key name => simp [extendPath, Step.firstCharacters]
    | index position =>
        simp [extendPath, Step.firstCharacters, Step.characters, Nat.toString_eq_repr]
  have started : extendPath "" step ≠ "" := by
    rw [ne_eq, ← String.toList_inj, first]
    exact Step.firstCharacters_ne_nil plain
  rw [pathText, List.foldl_cons, toList_foldl_extendPath started, first]

/-- Whether a character can stand inside a key. -/
def isInner (character : Char) : Bool :=
  character != '.' && character != '['

theorem PlainKey.all_isInner {key : String} (plain : PlainKey key) :
    ∀ character ∈ key.toList, isInner character = true := by
  intro character member
  have notPoint : character ≠ '.' := by
    rintro rfl
    exact plain.noPoint member
  have notBracket : character ≠ '[' := by
    rintro rfl
    exact plain.noBracket member
  simp [isInner, notPoint, notBracket]

/-- A key ends where the next step begins. -/
theorem ends_of_flatMap_characters (path : List Step) (first : Char)
    (isFirst : (path.flatMap Step.characters).head? = some first) : isInner first = false := by
  cases path with
  | nil => cases isFirst
  | cons step rest =>
      cases step with
      | key name =>
          cases isFirst
          decide
      | index position =>
          cases isFirst
          decide

/-- Keys are told apart by what they are and by what follows. -/
theorem eq_of_key_append {key name : String} (plain : PlainKey key) (plainToo : PlainKey name)
    (same : key.toList ++ path.flatMap Step.characters =
      name.toList ++ other.flatMap Step.characters) :
    key = name ∧ path.flatMap Step.characters = other.flatMap Step.characters := by
  obtain ⟨sameKey, sameRest⟩ := Text.eq_of_append_eq isInner plain.all_isInner plainToo.all_isInner
    (ends_of_flatMap_characters path) (ends_of_flatMap_characters other) same
  exact ⟨String.toList_inj.1 sameKey, sameRest⟩

theorem eq_of_index_append {position index : Nat} {back others : List Char}
    (same : Nat.toDigits 10 position ++ ']' :: back = Nat.toDigits 10 index ++ ']' :: others) :
    position = index ∧ back = others := by
  have isDigit : ∀ {number : Nat}, ∀ character ∈ Nat.toDigits 10 number,
      character.isDigit = true := fun _ member =>
    Nat.isDigit_of_mem_toDigits (by decide) (by decide) member
  have ends : ∀ {rest : List Char} (first : Char), (']' :: rest).head? = some first →
      first.isDigit = false := by
    intro rest first isFirst
    cases isFirst
    decide
  obtain ⟨sameDigits, sameRest⟩ := Text.eq_of_append_eq Char.isDigit
    isDigit isDigit ends ends same
  refine ⟨?_, (List.cons.inj sameRest).2⟩
  have numbers := congrArg (fun digits => Nat.ofDigitChars 10 digits 0) sameDigits
  simpa [Nat.ofDigitChars_toDigits] using numbers

theorem eq_of_flatMap_characters (plain : ∀ step ∈ path, step.Plain)
    (plainToo : ∀ step ∈ other, step.Plain)
    (same : path.flatMap Step.characters = other.flatMap Step.characters) : path = other := by
  induction path generalizing other with
  | nil =>
      cases other with
      | nil => rfl
      | cons step rest => cases step <;> cases same
  | cons step rest inductionHypothesis =>
      cases other with
      | nil => cases step <;> cases same
      | cons second others =>
          rw [List.forall_mem_cons] at plain plainToo
          rw [List.flatMap_cons, List.flatMap_cons] at same
          cases step with
          | key name =>
              cases second with
              | key key =>
                  simp only [Step.characters, List.cons_append, List.cons.injEq, true_and] at same
                  obtain ⟨rfl, sameRest⟩ := eq_of_key_append plain.1 plainToo.1 same
                  rw [inductionHypothesis plain.2 plainToo.2 sameRest]
              | index position => simp [Step.characters] at same
          | index position =>
              cases second with
              | key key => simp [Step.characters] at same
              | index index =>
                  simp only [Step.characters, List.cons_append, List.cons.injEq, true_and,
                    List.append_assoc, List.nil_append] at same
                  obtain ⟨rfl, sameRest⟩ := eq_of_index_append same
                  rw [inductionHypothesis plain.2 plainToo.2 sameRest]

theorem pathText_cons_ne_empty (plain : step.Plain) : pathText (step :: rest) ≠ "" := by
  rw [ne_eq, ← String.toList_inj, toList_pathText_cons plain]
  simp [Step.firstCharacters_ne_nil plain]

/-- A key does not begin like a position. -/
theorem firstCharacters_key_ne_index {key : String} {position : Nat} (plain : PlainKey key)
    (back others : List Char) :
    (Step.key key).firstCharacters ++ back ≠ (Step.index position).firstCharacters ++ others := by
  intro same
  have starts := @Step.firstCharacters_ne_nil (.key key) plain
  simp only [Step.firstCharacters, Step.characters] at same starts
  cases letters : key.toList with
  | nil => exact starts letters
  | cons first rest =>
      rw [letters, List.cons_append, List.cons_append] at same
      have bracket : first = '[' := (List.cons.inj same).1
      exact plain.noBracket (by rw [letters, bracket]; exact List.mem_cons_self)

/-- A path with plain keys is settled by its text. -/
theorem pathText_injective (plain : ∀ step ∈ path, step.Plain)
    (plainToo : ∀ step ∈ other, step.Plain) (same : pathText path = pathText other) :
    path = other := by
  cases path with
  | nil =>
      cases other with
      | nil => rfl
      | cons second others =>
          exact absurd same.symm (pathText_cons_ne_empty (plainToo second List.mem_cons_self))
  | cons step rest =>
      cases other with
      | nil => exact absurd same (pathText_cons_ne_empty (plain step List.mem_cons_self))
      | cons second others =>
          rw [List.forall_mem_cons] at plain plainToo
          rw [← String.toList_inj, toList_pathText_cons plain.1,
            toList_pathText_cons plainToo.1] at same
          cases step with
          | key name =>
              cases second with
              | key key =>
                  obtain ⟨rfl, sameRest⟩ := eq_of_key_append plain.1 plainToo.1 same
                  rw [eq_of_flatMap_characters plain.2 plainToo.2 sameRest]
              | index position => exact absurd same (firstCharacters_key_ne_index plain.1 _ _)
          | index position =>
              cases second with
              | key key => exact absurd same.symm (firstCharacters_key_ne_index plainToo.1 _ _)
              | index index =>
                  simp only [Step.firstCharacters, Step.characters, List.cons_append,
                    List.cons.injEq, true_and, List.append_assoc, List.nil_append] at same
                  obtain ⟨rfl, sameRest⟩ := eq_of_index_append same
                  rw [eq_of_flatMap_characters plain.2 plainToo.2 sameRest]

/-- Whatever does not stand in keys and is no digit or bracket does not stand in the text of a
path. -/
theorem not_mem_pathText {character : Char} (plain : ∀ step ∈ path, step.Plain)
    (absent : ∀ name, Step.key name ∈ path → character ∉ name.toList)
    (notPoint : character ≠ '.') (notBracket : character ≠ '[' ∧ character ≠ ']')
    (notDigit : character.isDigit = false) : character ∉ (pathText path).toList := by
  have inStep : ∀ step ∈ path, character ∉ step.characters ∧ character ∉ step.firstCharacters := by
    intro step member
    cases step with
    | key name => simp [Step.characters, Step.firstCharacters, absent name member, notPoint]
    | index position =>
        have notInDigits : character ∉ Nat.toDigits 10 position := by
          intro found
          rw [Nat.isDigit_of_mem_toDigits (by decide) (by decide) found] at notDigit
          cases notDigit
        simp [Step.characters, Step.firstCharacters, notInDigits, notBracket]
  cases path with
  | nil => simp [pathText]
  | cons step rest =>
      rw [List.forall_mem_cons] at inStep
      rw [toList_pathText_cons (plain step List.mem_cons_self), List.mem_append, not_or]
      refine ⟨inStep.1.2, ?_⟩
      rw [List.mem_flatMap]
      rintro ⟨other, member, found⟩
      exact (inStep.2 other member).1 found

/-! ### Following the text of a path -/

variable {value leaf : Json} {text : List Char}

/-- Following the text of further steps through a value: there is a point before every key, and
brackets are around every position. -/
inductive LeadsOn : Json → List Char → List Step → Json → Prop where
  | arrived (value : Json) : LeadsOn value [] [] value
  | key {members : List (String × Json)} {name : String} {inner leaf : Json} {text : List Char}
      {path : List Step} (found : lookup? name members = some inner)
      (onwards : LeadsOn inner text path leaf) :
      LeadsOn (.object members) ('.' :: (name.toList ++ text)) (.key name :: path) leaf
  | index {items : List Json} {position : Nat} {item leaf : Json} {text : List Char}
      {path : List Step} (found : items[position]? = some item)
      (onwards : LeadsOn item text path leaf) :
      LeadsOn (.array items) ('[' :: (Nat.toDigits 10 position ++ ']' :: text))
        (.index position :: path) leaf

/-- Following the text of a path through a value: there is no point before the first key. -/
inductive LeadsTo : Json → List Char → List Step → Json → Prop where
  | key {members : List (String × Json)} {name : String} {inner leaf : Json} {text : List Char}
      {path : List Step} (found : lookup? name members = some inner)
      (onwards : LeadsOn inner text path leaf) :
      LeadsTo (.object members) (name.toList ++ text) (.key name :: path) leaf
  | index {items : List Json} {position : Nat} {item leaf : Json} {text : List Char}
      {path : List Step} (found : items[position]? = some item)
      (onwards : LeadsOn item text path leaf) :
      LeadsTo (.array items) ('[' :: (Nat.toDigits 10 position ++ ']' :: text))
        (.index position :: path) leaf

theorem leadsOn_iff :
    LeadsOn value text path leaf ↔
      text = path.flatMap Step.characters ∧ at? path value = some leaf := by
  constructor
  · intro leads
    induction leads with
    | arrived value => exact ⟨rfl, rfl⟩
    | key found _ inductionHypothesis =>
        obtain ⟨rfl, onwards⟩ := inductionHypothesis
        exact ⟨by simp [Step.characters], by simp [at?, found, onwards]⟩
    | index found _ inductionHypothesis =>
        obtain ⟨rfl, onwards⟩ := inductionHypothesis
        exact ⟨by simp [Step.characters], by simp [at?, found, onwards]⟩
  · rintro ⟨rfl, leads⟩
    induction path generalizing value with
    | nil =>
        cases leads
        exact .arrived _
    | cons step rest inductionHypothesis =>
        rw [List.flatMap_cons]
        cases step with
        | key name =>
            cases value with
            | object members =>
                obtain ⟨inner, found, onwards⟩ := Option.bind_eq_some_iff.1 leads
                exact .key found (inductionHypothesis onwards)
            | null | bool | number | string | array => cases leads
        | index position =>
            cases value with
            | array items =>
                obtain ⟨item, found, onwards⟩ := Option.bind_eq_some_iff.1 leads
                rw [Step.characters, List.cons_append, List.append_assoc, List.singleton_append]
                exact .index found (inductionHypothesis onwards)
            | null | bool | number | string | object => cases leads

/-- A text leads along a path exactly if it is made of the steps of this path. -/
theorem leadsTo_iff :
    LeadsTo value text path leaf ↔ ∃ step rest, path = step :: rest ∧
      text = step.firstCharacters ++ rest.flatMap Step.characters ∧
        at? path value = some leaf := by
  constructor
  · intro leads
    cases leads with
    | key found onwards =>
        obtain ⟨rfl, leads⟩ := leadsOn_iff.1 onwards
        exact ⟨_, _, rfl, rfl, by simp [at?, found, leads]⟩
    | index found onwards =>
        obtain ⟨rfl, leads⟩ := leadsOn_iff.1 onwards
        exact ⟨_, _, rfl, by simp [Step.firstCharacters, Step.characters],
          by simp [at?, found, leads]⟩
  · rintro ⟨step, rest, rfl, rfl, leads⟩
    cases step with
    | key name =>
        cases value with
        | object members =>
            obtain ⟨inner, found, onwards⟩ := Option.bind_eq_some_iff.1 leads
            exact .key found (leadsOn_iff.2 ⟨rfl, onwards⟩)
        | null | bool | number | string | array => cases leads
    | index position =>
        cases value with
        | array items =>
            obtain ⟨item, found, onwards⟩ := Option.bind_eq_some_iff.1 leads
            rw [Step.firstCharacters, Step.characters, List.cons_append, List.append_assoc,
              List.singleton_append]
            exact .index found (leadsOn_iff.2 ⟨rfl, onwards⟩)
        | null | bool | number | string | object => cases leads

end Json

end RpcTools
