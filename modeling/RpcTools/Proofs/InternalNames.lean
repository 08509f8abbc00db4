/-
Module: RpcTools.Proofs.InternalNames
Purpose: The name of a method can be told from its internal name, unless underscores stand
  before small letters in it already.
Main exports: Text.withCapitals, Text.Unmarked, Text.withCapitals_underscoredWords_iff,
  Text.underscoredWords_withCapitals_iff, internalNames_undone
-/
import Mathlib.Data.List.Chain
import RpcTools.Proofs.FieldSpelling
import RpcTools.Proofs.ToolNameCollisions

namespace RpcTools

namespace Text

/-! ### Letters of ASCII -/

theorem isAscii_of_isLower {letter : Char} (small : letter.isLower = true) :
    isAscii letter = true := by
  have atMost := (isLower_bounds small).2
  simp only [isAscii, decide_eq_true_eq]
  omega

/-- What is so for the capitals among the codes of ASCII is so for every capital. -/
theorem forall_isUpper {motive : Char → Prop}
    (inTable : ∀ code < 128, (Char.ofNat code).isUpper = true → motive (Char.ofNat code))
    {character : Char} (capital : character.isUpper = true) : motive character :=
  forall_isAscii (motive := fun character => character.isUpper = true → motive character)
    inTable (isAscii_of_isUpper capital) capital

/-- What is so for the small letters among the codes of ASCII is so for every small letter. -/
theorem forall_isLower {motive : Char → Prop}
    (inTable : ∀ code < 128, (Char.ofNat code).isLower = true → motive (Char.ofNat code))
    {letter : Char} (small : letter.isLower = true) : motive letter :=
  forall_isAscii (motive := fun letter => letter.isLower = true → motive letter)
    inTable (isAscii_of_isLower small) small

theorem isLower_toLower {character : Char} (capital : character.isUpper = true) :
    character.toLower.isLower = true :=
  forall_isUpper (motive := fun character => character.toLower.isLower = true) (by decide) capital

theorem isUpper_toUpper {letter : Char} (small : letter.isLower = true) :
    letter.toUpper.isUpper = true :=
  forall_isLower (motive := fun letter => letter.toUpper.isUpper = true) (by decide) small

theorem toLower_toUpper_of_isLower {letter : Char} (small : letter.isLower = true) :
    letter.toUpper.toLower = letter :=
  forall_isLower (motive := fun letter => letter.toUpper.toLower = letter) (by decide) small

/-- No letter is both a capital and small. -/
theorem isLower_of_isUpper {character : Char} (capital : character.isUpper = true) :
    character.isLower = false :=
  forall_isUpper (motive := fun character => character.isLower = false) (by decide) capital

theorem isUpper_of_isLower {letter : Char} (small : letter.isLower = true) :
    letter.isUpper = false := by
  apply Bool.eq_false_iff.2
  intro capital
  rw [isLower_of_isUpper capital] at small
  exact Bool.false_ne_true small

/-! ### Capitals for marked letters

An underscore marks the small letter of ASCII right after it. -/

/-- The characters from left to right with a capital for every marked letter and its mark. -/
def restored : List Char → List Char
  | [] => []
  | [last] => [last]
  | character :: next :: rest =>
      if character = '_' ∧ next.isLower = true then next.toUpper :: restored rest
      else character :: restored (next :: rest)

/-- The text with a capital for every marked letter and its mark. -/
def withCapitals (text : String) : String :=
  String.ofList (restored text.toList)

/-- No letter is marked: what comes right after an underscore is no small letter of ASCII. -/
def Unmarked (characters : List Char) : Prop :=
  characters.IsChain fun character next => character = '_' → next.isLower = false

theorem unmarked_of_not_mem {characters : List Char} (absent : '_' ∉ characters) :
    Unmarked characters := by
  apply List.isChain_iff_forall_rel_of_append_cons_cons.2
  intro character next before after whole isUnderscore
  rw [whole, isUnderscore] at absent
  exact absurd List.mem_append_cons_self absent

theorem restored_marked {letter : Char} (small : letter.isLower = true) (rest : List Char) :
    restored ('_' :: letter :: rest) = letter.toUpper :: restored rest :=
  if_pos ⟨rfl, small⟩

theorem restored_kept {character : Char} {rest : List Char}
    (unmarked : ∀ next ∈ rest.head?, character = '_' → next.isLower = false) :
    restored (character :: rest) = character :: restored rest := by
  cases rest with
  | nil => rfl
  | cons next others =>
      apply if_neg
      intro marked
      have notSmall := unmarked next rfl marked.1
      rw [notSmall] at marked
      exact Bool.false_ne_true marked.2

/-! ### Names that are underscored -/

theorem underscored_capital {character : Char} (capital : character.isUpper = true) :
    underscored character = ['_', character.toLower] :=
  if_pos capital

theorem underscored_other {character : Char} (other : character.isUpper = false) :
    underscored character = [character] :=
  if_neg (by simp [other])

theorem isUpper_of_mem_underscored {character written : Char}
    (member : written ∈ underscored character) : written.isUpper = false := by
  cases capital : character.isUpper with
  | true =>
      rw [underscored_capital capital] at member
      rcases List.mem_cons.1 member with rfl | small
      · rfl
      · rw [List.mem_singleton.1 small]
        exact isUpper_of_isLower (isLower_toLower capital)
  | false =>
      rw [underscored_other capital] at member
      rw [List.mem_singleton.1 member]
      exact capital

theorem isUpper_of_mem_underscoredWords {text : String} {written : Char}
    (member : written ∈ (underscoredWords text).toList) : written.isUpper = false := by
  rw [toList_underscoredWords] at member
  obtain ⟨character, _, inPiece⟩ := List.mem_flatMap.1 member
  exact isUpper_of_mem_underscored inPiece

/-- Text that does not begin with a small letter does not begin with one when it is underscored:
a capital at its start gets its mark first. -/
theorem isLower_head_flatMap {characters : List Char}
    (notSmall : ∀ first ∈ characters.head?, first.isLower = false) :
    ∀ first ∈ (characters.flatMap underscored).head?, first.isLower = false := by
  intro first begins
  cases characters with
  | nil => cases begins
  | cons character rest =>
      rw [List.flatMap_cons] at begins
      cases capital : character.isUpper with
      | true =>
          rw [underscored_capital capital] at begins
          obtain rfl := Option.some.inj begins
          rfl
      | false =>
          rw [underscored_other capital] at begins
          obtain rfl := Option.some.inj begins
          exact notSmall character rfl

/-- The only marked letters are those that were capitals. -/
theorem restored_flatMap_underscored {characters : List Char} (unmarked : Unmarked characters) :
    restored (characters.flatMap underscored) = characters := by
  induction characters with
  | nil => rfl
  | cons character rest inductionHypothesis =>
      obtain ⟨notSmall, unmarkedRest⟩ := List.isChain_cons.1 unmarked
      have onwards := inductionHypothesis unmarkedRest
      rw [List.flatMap_cons]
      cases capital : character.isUpper with
      | true =>
          rw [underscored_capital capital, List.cons_append, List.singleton_append,
            restored_marked (isLower_toLower capital), onwards, toUpper_toLower capital]
      | false =>
          rw [underscored_other capital, List.singleton_append, restored_kept, onwards]
          intro next begins isUnderscore
          exact isLower_head_flatMap (fun first member => notSmall first member isUnderscore)
            next begins

/-- Where a text does not begin with a small letter, it does not with the capitals either. -/
theorem isLower_head_restored {next : Char} {rest : List Char} (notSmall : next.isLower = false) :
    ∀ first ∈ (restored (next :: rest)).head?, first.isLower = false := by
  intro first begins
  cases rest with
  | nil =>
      obtain rfl := Option.some.inj begins
      exact notSmall
  | cons second others =>
      rw [restored] at begins
      split at begins
      next marked =>
        obtain rfl := Option.some.inj begins
        exact isLower_of_isUpper (isUpper_toUpper marked.2)
      next =>
        obtain rfl := Option.some.inj begins
        exact notSmall

/-- All marks are gone with the capitals. -/
theorem unmarked_restored (characters : List Char) : Unmarked (restored characters) := by
  fun_induction restored characters with
  | case1 => exact .nil
  | case2 last => exact .singleton last
  | case3 character next rest marked inductionHypothesis =>
      apply List.isChain_cons.2
      refine ⟨?_, inductionHypothesis⟩
      intro following _ isUnderscore
      have capital := isUpper_toUpper marked.2
      rw [isUnderscore] at capital
      exact absurd capital (by decide)
  | case4 character next rest kept inductionHypothesis =>
      apply List.isChain_cons.2
      refine ⟨?_, inductionHypothesis⟩
      intro following begins isUnderscore
      have notSmall : next.isLower = false :=
        Bool.eq_false_iff.2 fun small => kept ⟨isUnderscore, small⟩
      exact isLower_head_restored notSmall following begins

theorem flatMap_underscored_restored {characters : List Char}
    (noCapital : ∀ character ∈ characters, character.isUpper = false) :
    (restored characters).flatMap underscored = characters := by
  fun_induction restored characters with
  | case1 => rfl
  | case2 last =>
      rw [List.flatMap_singleton, underscored_other (noCapital last List.mem_cons_self)]
  | case3 character next rest marked inductionHypothesis =>
      obtain ⟨_, noCapitalOn⟩ := List.forall_mem_cons.1 noCapital
      have onwards := inductionHypothesis (List.forall_mem_cons.1 noCapitalOn).2
      rw [List.flatMap_cons, underscored_capital (isUpper_toUpper marked.2), onwards,
        toLower_toUpper_of_isLower marked.2, marked.1]
      rfl
  | case4 character next rest kept inductionHypothesis =>
      obtain ⟨notCapital, noCapitalOn⟩ := List.forall_mem_cons.1 noCapital
      rw [List.flatMap_cons, underscored_other notCapital, inductionHypothesis noCapitalOn]
      rfl

/-! ### Both directions -/

theorem withCapitals_underscoredWords_iff {name : String} :
    withCapitals (underscoredWords name) = name ↔ Unmarked name.toList := by
  rw [withCapitals, toList_underscoredWords, ← String.toList_inj, String.toList_ofList]
  constructor
  · intro undone
    rw [← undone]
    exact unmarked_restored _
  · exact restored_flatMap_underscored

theorem underscoredWords_withCapitals_iff {text : String} :
    underscoredWords (withCapitals text) = text ↔
      ∀ character ∈ text.toList, character.isUpper = false := by
  constructor
  · intro same character member
    rw [← same] at member
    exact isUpper_of_mem_underscoredWords member
  · intro noCapital
    rw [underscoredWords, withCapitals, String.toList_ofList,
      flatMap_underscored_restored noCapital, String.ofList_toList]

theorem underscoredWords_injective {name other : String} (unmarked : Unmarked name.toList)
    (otherUnmarked : Unmarked other.toList)
    (same : underscoredWords name = underscoredWords other) : name = other := by
  rw [← withCapitals_underscoredWords_iff.2 unmarked, same,
    withCapitals_underscoredWords_iff.2 otherUnmarked]

end Text

/-! ### Internal names -/

/-- Capitals for the marked letters turn the underscored form of a name back into the name
exactly if no letter of the name was marked before.  That form never has a capital, and every
text without capitals is the underscored form of what these turn it into.  So methods without
underscores in their names have one internal name only if they have one name. -/
theorem internalNames_undone :
    (∀ name : String, Text.withCapitals (Text.underscoredWords name) = name ↔
      Text.Unmarked name.toList) ∧
    (∀ text : String, Text.underscoredWords (Text.withCapitals text) = text ↔
      ∀ character ∈ text.toList, character.isUpper = false) ∧
    (∀ name : String, ∀ character ∈ (Text.underscoredWords name).toList,
      character.isUpper = false) ∧
    ∀ service otherService method other : String, '_' ∉ method.toList → '_' ∉ other.toList →
      ((ToolNames.ofMethod service method).internalName =
          (ToolNames.ofMethod otherService other).internalName ↔ method = other) := by
  refine ⟨fun _ => Text.withCapitals_underscoredWords_iff,
    fun _ => Text.underscoredWords_withCapitals_iff,
    fun _ _ => Text.isUpper_of_mem_underscoredWords, ?_⟩
  intro service otherService method other absent otherAbsent
  constructor
  · intro same
    exact Text.underscoredWords_injective (Text.unmarked_of_not_mem absent)
      (Text.unmarked_of_not_mem otherAbsent) same
  · intro same
    rw [same]
    rfl

theorem internalNames_undone_send :
    'm' ∈ (Text.underscoredWords "MessageSend").toList ∧ 'm'.isUpper = false ∧
      '_' ∉ "MessageSend".toList ∧ '_' ∉ "messageSend".toList ∧
      ((ToolNames.ofMethod "UserService" "MessageSend").internalName =
          (ToolNames.ofMethod "UserAdminService" "messageSend").internalName ↔
        "MessageSend" = "messageSend") := by
  have member : 'm' ∈ (Text.underscoredWords "MessageSend").toList := by decide
  have absent : '_' ∉ "MessageSend".toList := by decide
  have otherAbsent : '_' ∉ "messageSend".toList := by decide
  exact ⟨member, internalNames_undone.2.2.1 "MessageSend" 'm' member, absent, otherAbsent,
    internalNames_undone.2.2.2 "UserService" "UserAdminService" _ _ absent otherAbsent⟩

/-- Of two underscores next to each other only the second is a mark.  A letter that is marked
before looks as if it had been a capital. -/
example :
    Text.withCapitals (Text.underscoredWords "Get__A_1") = "Get__A_1" ∧
      Text.underscoredWords "set_id" = Text.underscoredWords "setId" := by
  decide

end RpcTools
