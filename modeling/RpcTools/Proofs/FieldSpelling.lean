/-
Module: RpcTools.Proofs.FieldSpelling
Purpose: How a field has to be declared for generated code to know it under a given name.
Main exports: Trailed, propertyName_eq_word_iff, SpellsAccountId,
  propertyName_eq_accountId_iff
-/
import Mathlib.Tactic.ByContra
import RpcTools.Proofs.ExportedNames

namespace RpcTools

/-! ### What capitals are made of -/

namespace Text

theorem isLower_bounds {character : Char} (small : character.isLower = true) :
    97 ≤ character.toNat ∧ character.toNat ≤ 122 := by
  obtain ⟨lower, upper⟩ := Bool.and_eq_true_iff.1 small
  exact ⟨of_decide_eq_true lower, of_decide_eq_true upper⟩

/-- No upper-case form has a small letter of ASCII. -/
theorem isLower_of_mem_upperForm {character letter : Char}
    (member : letter ∈ upperForm character) : letter.isLower = false := by
  by_contra small
  have bounds := isLower_bounds (by simpa using small)
  have nonzero : letter.toNat ≠ 0 := by omega
  have origin := hasUpperForm character
  generalize upperForm character = form at member origin
  cases origin with
  | ascii ascii =>
      have raised := forall_isAscii
        (motive := fun character => character.toUpper.isLower = false) (by decide) ascii
      rw [List.mem_singleton.1 member] at small
      exact small raised
  | expanded listed =>
      have noSmall : ∀ entry ∈ uppercaseExpansions, ∀ code ∈ entry.2,
          ¬ (97 ≤ code ∧ code ≤ 122) := by decide
      obtain ⟨code, inEntry, same⟩ := List.mem_map.1 member
      obtain rfl := eq_toNat_of_ofNat_eq nonzero same
      exact noSmall _ listed _ inEntry bounds
  | @shifted run listed covered =>
      have aside : ∀ run ∈ uppercaseRuns,
          122 < (run.first : Int) + run.shift ∨ (run.last : Int) + run.shift < 97 := by
        decide +kernel
      have image := eq_toNat_of_ofNat_eq nonzero (List.mem_singleton.1 member).symm
      have imageBounds := CaseRun.image_bounds covered (by rw [image]; exact nonzero)
      have apart := aside run listed
      omega
  | kept beyondAscii =>
      obtain rfl := List.mem_singleton.1 member
      simp only [isAscii, decide_eq_false_iff_not] at beyondAscii
      omega

theorem upperForm_ne_nil (character : Char) : upperForm character ≠ [] := by
  have origin := hasUpperForm character
  generalize upperForm character = form at origin
  cases origin with
  | ascii => simp
  | expanded listed =>
      have someCode : ∀ entry ∈ uppercaseExpansions, entry.2 ≠ [] := by decide
      simpa using someCode _ listed
  | shifted => simp
  | kept => simp

/-- The letters that are a capital `I` in upper case: itself, the small letter, and the one
without a dot. -/
def RaisesToI (character : Char) : Prop :=
  character = 'I' ∨ character = 'i' ∨ character = 'ı'

/-- An upper-case form that starts with a capital `I` is no more than that. -/
theorem upperForm_eq_I_cons_iff {character : Char} {rest : List Char} :
    upperForm character = 'I' :: rest ↔ RaisesToI character ∧ rest = [] := by
  constructor
  · intro form
    have origin := hasUpperForm character
    rw [form] at origin
    generalize whole : 'I' :: rest = form at origin
    cases origin with
    | ascii ascii =>
        obtain ⟨raised, rfl⟩ := List.cons.inj whole
        have letters := forall_isAscii
          (motive := fun character => 'I' = character.toUpper → RaisesToI character)
          (by unfold RaisesToI; decide) ascii
        exact ⟨letters raised, rfl⟩
    | expanded listed =>
        have noStart : ∀ entry ∈ uppercaseExpansions, entry.2.head? ≠ some 73 := by decide
        refine absurd ?_ (noStart _ listed)
        obtain ⟨code, others, codes, same, _⟩ := List.map_eq_cons_iff.1 whole.symm
        obtain rfl : code = 73 := eq_toNat_of_ofNat_eq (by decide) same
        rw [codes]
        rfl
    | @shifted run listed covered =>
        obtain ⟨same, rfl⟩ := List.cons.inj whole
        have image : run.image character.toNat = 73 :=
          eq_toNat_of_ofNat_eq (by decide) same.symm
        have onlyOne : ∀ run ∈ uppercaseRuns,
            (73 < (run.first : Int) + run.shift ∨ (run.last : Int) + run.shift < 73) ∨
              (run.first = 0x131 ∧ run.last = 0x131) := by
          decide +kernel
        have bounds := CaseRun.image_bounds covered (by rw [image]; decide)
        rw [image] at bounds
        simp only [CaseRun.covers, Bool.and_eq_true, decide_eq_true_eq] at covered
        have dotless : character.toNat = 0x131 := by
          have here := onlyOne run listed
          omega
        exact ⟨.inr (.inr (Char.toNat_inj.1 dotless)), rfl⟩
    | kept beyondAscii =>
        obtain ⟨rfl, rfl⟩ := List.cons.inj whole
        exact absurd beyondAscii (by decide)
  · rintro ⟨rfl | rfl | rfl, rfl⟩ <;> decide

end Text

/-! ### One character of a declared name -/

section Step

variable {character : Char} {rest : List Char}

theorem camelCased_underscore (capital : Bool) (rest : List Char) :
    camelCased capital ('_' :: rest) = camelCased true rest := by
  rw [camelCased, if_pos rfl]

theorem camelCased_digit (capital : Bool) (digit : character.isDigit = true) :
    camelCased capital (character :: rest) = character :: camelCased false rest := by
  have different : character ≠ '_' := by
    rintro rfl
    cases digit
  rw [camelCased, if_neg different, if_pos digit]

theorem camelCased_kept (different : character ≠ '_') :
    camelCased false (character :: rest) = character :: camelCased false rest := by
  simp [camelCased, different]

theorem camelCased_raised (different : character ≠ '_') (noDigit : character.isDigit = false) :
    camelCased true (character :: rest) =
      Text.upperForm character ++ camelCased false rest := by
  simp [camelCased, different, noDigit]

/-- One underscore asks for a capital as well as many do. -/
theorem camelCased_underscores (capital : Bool) (count : Nat) (rest : List Char) :
    camelCased capital (List.replicate (count + 1) '_' ++ rest) = camelCased true rest := by
  induction count generalizing capital with
  | zero => exact camelCased_underscore capital rest
  | succ count inductionHypothesis =>
      rw [List.replicate_succ, List.cons_append, camelCased_underscore, inductionHypothesis]

end Step

/-! ### Properties taken apart -/

section Camel

variable {declared rest : List Char}

theorem camelCased_cons_ne_nil {capital : Bool} {character : Char}
    (different : character ≠ '_') : camelCased capital (character :: rest) ≠ [] := by
  cases capital with
  | false => simp [camelCased_kept different]
  | true =>
      cases digit : character.isDigit with
      | false => simp [camelCased_raised different digit, Text.upperForm_ne_nil]
      | true => simp [camelCased_digit true digit]

/-- Nothing is left exactly of underscores. -/
theorem camelCased_eq_nil_iff {capital : Bool} :
    camelCased capital declared = [] ↔ ∃ count, declared = List.replicate count '_' := by
  induction declared generalizing capital with
  | nil => exact iff_of_true rfl ⟨0, rfl⟩
  | cons character others inductionHypothesis =>
      by_cases same : character = '_'
      · subst same
        rw [camelCased_underscore, inductionHypothesis]
        constructor
        · rintro ⟨count, rfl⟩
          exact ⟨count + 1, rfl⟩
        · rintro ⟨_ | count, whole⟩
          · cases whole
          · exact ⟨count, (List.cons.inj whole).2⟩
      · apply iff_of_false (camelCased_cons_ne_nil same)
        rintro ⟨_ | count, whole⟩
        · cases whole
        · exact same (List.cons.inj whole).1

/-- What comes after an underscore starts with a digit, or with the upper-case form of the
first character that is no underscore. -/
theorem exists_of_camelCased_true {first : Char}
    (camel : camelCased true declared = first :: rest) :
    ∃ count character others,
      declared = List.replicate count '_' ++ character :: others ∧
        ((first.isDigit = true ∧ character = first ∧ camelCased false others = rest) ∨
          ∃ form, Text.upperForm character = first :: form ∧
            form ++ camelCased false others = rest) := by
  induction declared with
  | nil => cases camel
  | cons character others inductionHypothesis =>
      by_cases same : character = '_'
      · subst same
        rw [camelCased_underscore] at camel
        obtain ⟨count, next, later, rfl, starts⟩ := inductionHypothesis camel
        exact ⟨count + 1, next, later, rfl, starts⟩
      · refine ⟨0, character, others, rfl, ?_⟩
        cases digit : character.isDigit with
        | true =>
            rw [camelCased_digit true digit] at camel
            obtain ⟨rfl, later⟩ := List.cons.inj camel
            exact .inl ⟨digit, rfl, later⟩
        | false =>
            obtain ⟨start, form, whole⟩ :=
              List.exists_cons_of_ne_nil (Text.upperForm_ne_nil character)
            rw [camelCased_raised same digit, whole, List.cons_append] at camel
            obtain ⟨rfl, ends⟩ := List.cons.inj camel
            exact .inr ⟨form, whole, ends⟩

/-- What comes after an underscore does not start with a small letter. -/
theorem camelCased_true_ne_small_cons {letter : Char} (small : letter.isLower = true) :
    camelCased true declared ≠ letter :: rest := by
  intro camel
  obtain ⟨_, character, others, _, starts⟩ := exists_of_camelCased_true camel
  rcases starts with ⟨digit, _⟩ | ⟨form, whole, _⟩
  · have bounds := Text.isLower_bounds small
    simp only [Char.isDigit, Bool.and_eq_true, decide_eq_true_eq] at digit
    have atMost : letter.toNat ≤ 57 := digit.2
    omega
  · have inForm : letter ∈ Text.upperForm character := by simp [whole]
    rw [Text.isLower_of_mem_upperForm inForm] at small
    cases small

/-- A small letter is never raised, so it was declared where it stands. -/
theorem camelCased_eq_small_cons_iff {letter : Char} (small : letter.isLower = true) :
    camelCased false declared = letter :: rest ↔
      ∃ others, declared = letter :: others ∧ camelCased false others = rest := by
  have noUnderscore : letter ≠ '_' := by
    rintro rfl
    cases small
  constructor
  · intro camel
    cases declared with
    | nil => cases camel
    | cons character others =>
        by_cases same : character = '_'
        · rw [same, camelCased_underscore] at camel
          exact absurd camel (camelCased_true_ne_small_cons small)
        · rw [camelCased_kept same] at camel
          obtain ⟨rfl, later⟩ := List.cons.inj camel
          exact ⟨others, rfl, later⟩
  · rintro ⟨others, rfl, rfl⟩
    exact camelCased_kept noUnderscore

theorem camelCased_eq_small_append_iff {word : List Char}
    (small : ∀ letter ∈ word, letter.isLower = true) :
    camelCased false declared = word ++ rest ↔
      ∃ others, declared = word ++ others ∧ camelCased false others = rest := by
  induction word generalizing declared with
  | nil => simp
  | cons letter word inductionHypothesis =>
      obtain ⟨smallLetter, smallWord⟩ := List.forall_mem_cons.1 small
      rw [List.cons_append, camelCased_eq_small_cons_iff smallLetter]
      constructor
      · rintro ⟨others, rfl, camel⟩
        obtain ⟨later, rfl, ends⟩ := (inductionHypothesis smallWord).1 camel
        exact ⟨later, rfl, ends⟩
      · rintro ⟨later, rfl, ends⟩
        exact ⟨_, rfl, (inductionHypothesis smallWord).2 ⟨later, rfl, ends⟩⟩

theorem camelCased_eq_small_iff {word : List Char}
    (small : ∀ letter ∈ word, letter.isLower = true) :
    camelCased false declared = word ↔
      ∃ count, declared = word ++ List.replicate count '_' := by
  have whole : camelCased false declared = word ++ [] ↔ _ :=
    camelCased_eq_small_append_iff small
  rw [List.append_nil] at whole
  rw [whole]
  constructor
  · rintro ⟨others, rfl, ends⟩
    obtain ⟨count, rfl⟩ := camelCased_eq_nil_iff.1 ends
    exact ⟨count, rfl⟩
  · rintro ⟨count, rfl⟩
    exact ⟨_, rfl, camelCased_eq_nil_iff.2 ⟨count, rfl⟩⟩

/-- A capital `I` was declared as it is, or raised after an underscore. -/
theorem camelCased_eq_I_cons_iff :
    camelCased false declared = 'I' :: rest ↔
      ∃ others, camelCased false others = rest ∧
        (declared = 'I' :: others ∨
          ∃ count letter, Text.RaisesToI letter ∧
            declared = List.replicate (count + 1) '_' ++ letter :: others) := by
  constructor
  · intro camel
    cases declared with
    | nil => cases camel
    | cons character others =>
        by_cases same : character = '_'
        · subst same
          rw [camelCased_underscore] at camel
          obtain ⟨count, letter, later, rfl, starts⟩ := exists_of_camelCased_true camel
          rcases starts with ⟨digit, _⟩ | ⟨form, whole, ends⟩
          · cases digit
          · obtain ⟨raises, rfl⟩ := Text.upperForm_eq_I_cons_iff.1 whole
            exact ⟨later, ends, .inr ⟨count, letter, raises, rfl⟩⟩
        · rw [camelCased_kept same] at camel
          obtain ⟨rfl, ends⟩ := List.cons.inj camel
          exact ⟨others, ends, .inl rfl⟩
  · rintro ⟨others, rfl, rfl | ⟨count, letter, raises, rfl⟩⟩
    · exact camelCased_kept (by decide)
    · have form : Text.upperForm letter = ['I'] :=
        Text.upperForm_eq_I_cons_iff.2 ⟨raises, rfl⟩
      have plain : letter ≠ '_' ∧ letter.isDigit = false := by
        rcases raises with rfl | rfl | rfl <;> decide
      rw [camelCased_underscores, camelCased_raised plain.1 plain.2, form]
      rfl

end Camel

/-! ### Names of properties -/

/-- Only what every object has is marked. -/
theorem propertyName_eq_iff {declared name : String} (unmarked : '$' ∉ name.toList)
    (free : name ∉ objectProperties) :
    propertyName declared = name ↔ camelCased false declared.toList = name.toList := by
  simp only [propertyName]
  split
  next collides =>
    refine iff_of_false ?_ ?_
    · rintro rfl
      simp at unmarked
    · intro camel
      rw [camel, String.ofList_toList] at collides
      exact free collides
  next =>
    rw [← String.toList_inj, String.toList_ofList]

/-- A declared name is a word, or the word with underscores after it. -/
def Trailed (word declared : String) : Prop :=
  ∃ count, declared.toList = word.toList ++ List.replicate count '_'

/-- A property that is a word in small letters was declared as this word, with any number of
underscores after it. -/
theorem propertyName_eq_word_iff {declared word : String}
    (small : ∀ letter ∈ word.toList, letter.isLower = true) (free : word ∉ objectProperties) :
    propertyName declared = word ↔ Trailed word declared := by
  have unmarked : '$' ∉ word.toList := by
    intro member
    cases small _ member
  rw [propertyName_eq_iff unmarked free, camelCased_eq_small_iff small, Trailed]

/-- The names that a field can be declared with so that generated code knows it as
`accountId`.  Between the words there may be underscores, and then the second word may start
with any letter whose capital is `I`. -/
inductive SpellsAccountId : List Char → Prop where
  | capital {declared : List Char} (after : Nat)
      (spelled : declared = "account".toList ++ 'I' :: 'd' :: List.replicate after '_') :
      SpellsAccountId declared
  | raised {declared : List Char} {letter : Char} (between after : Nat)
      (raises : Text.RaisesToI letter)
      (spelled : declared = "account".toList ++ List.replicate (between + 1) '_' ++
        letter :: 'd' :: List.replicate after '_') :
      SpellsAccountId declared

theorem propertyName_eq_accountId_iff {declared : String} :
    propertyName declared = "accountId" ↔ SpellsAccountId declared.toList := by
  have words : "accountId".toList = "account".toList ++ ['I', 'd'] := by decide
  have smallAccount : ∀ letter ∈ "account".toList, letter.isLower = true :=
    List.all_eq_true.1 (by decide)
  have smallEnd : ∀ letter ∈ ['d'], letter.isLower = true := List.all_eq_true.1 (by decide)
  rw [propertyName_eq_iff (by decide) (by decide), words,
    camelCased_eq_small_append_iff smallAccount]
  constructor
  · rintro ⟨others, spelled, camel⟩
    obtain ⟨later, ends, starts⟩ := camelCased_eq_I_cons_iff.1 camel
    obtain ⟨after, rfl⟩ := (camelCased_eq_small_iff smallEnd).1 ends
    rcases starts with rfl | ⟨between, letter, raises, rfl⟩
    · exact .capital after spelled
    · exact .raised between after raises (by rw [spelled, List.append_assoc]; rfl)
  · intro spells
    cases spells with
    | capital after spelled =>
        refine ⟨_, spelled, camelCased_eq_I_cons_iff.2 ⟨_, ?_, .inl rfl⟩⟩
        exact (camelCased_eq_small_iff smallEnd).2 ⟨after, rfl⟩
    | raised between after raises spelled =>
        rw [List.append_assoc] at spelled
        refine ⟨_, spelled, camelCased_eq_I_cons_iff.2 ⟨_, ?_, .inr ⟨between, _, raises, rfl⟩⟩⟩
        exact (camelCased_eq_small_iff smallEnd).2 ⟨after, rfl⟩

example : propertyName "account__id_" = "accountId" := by decide

end RpcTools
