/-
Module: RpcTools.Proofs.ScalarDisplay
Purpose: How scalars are displayed, beside what is printed for them.
Main exports: Json.ShowsAs, Json.scalarText?_eq_some_iff, Json.not_mem_of_showsAs
-/
import RpcTools.Json.Lines

namespace RpcTools.Json

/-- How a scalar other than `null` is displayed: a word for a truth, decimal digits for a whole
number, a text as it is. -/
inductive ShowsAs : Json → String → Prop where
  | yes : ShowsAs (.bool true) "true"
  | no : ShowsAs (.bool false) "false"
  | whole (value : UInt64) :
      ShowsAs (.number (.whole value)) (String.ofList (Nat.toDigits 10 value.toNat))
  | negative (value : Int64) (below : value < 0) :
      ShowsAs (.number (.negative value below))
        (String.ofList ('-' :: Nat.toDigits 10 value.toInt.natAbs))
  | fraction (held : Fraction) : ShowsAs (.number (.fraction held)) held.display
  | string (text : String) : ShowsAs (.string text) text

variable {value : Json} {shown : String}

/-- A number is displayed as its text. -/
theorem showsAs_number_iff {number : Number} :
    ShowsAs (.number number) shown ↔ number.text = shown := by
  cases number with
  | whole value =>
      have digits : (Number.whole value).text = String.ofList (Nat.toDigits 10 value.toNat) := by
        simp [← String.toList_inj]
      rw [digits]
      constructor
      · intro shows
        cases shows
        rfl
      · rintro rfl
        exact .whole value
  | negative value below =>
      have digits : (Number.negative value below).text =
          String.ofList ('-' :: Nat.toDigits 10 value.toInt.natAbs) := by
        simp [← String.toList_inj]
      rw [digits]
      constructor
      · intro shows
        cases shows
        rfl
      · rintro rfl
        exact .negative value below
  | fraction held =>
      constructor
      · intro shows
        cases shows
        rfl
      · rintro rfl
        exact .fraction held

/-- What is printed for a scalar is how it is displayed. -/
theorem scalarText?_eq_some_iff : value.scalarText? = some shown ↔ value.ShowsAs shown := by
  constructor
  · intro printed
    cases value with
    | bool truth =>
        cases printed
        cases truth with
        | true => exact .yes
        | false => exact .no
    | number number => exact showsAs_number_iff.2 (Option.some.inj printed)
    | string text =>
        cases printed
        exact .string shown
    | null | array | object => cases printed
  · intro shows
    cases value with
    | bool truth => cases shows <;> rfl
    | number number => rw [scalarText?, showsAs_number_iff.1 shows]
    | string text =>
        cases shows
        rfl
    | null | array | object => cases shows

theorem scalarText?_eq_none_iff :
    value.scalarText? = none ↔ ∀ shown, ¬ value.ShowsAs shown := by
  simp only [Option.eq_none_iff_forall_ne_some, ← scalarText?_eq_some_iff, ne_eq]

/-! ### Control characters -/

variable {character : Char}

theorem not_mem_of_printable {letters : String} (control : character.toNat < 0x20)
    (printable : letters.toList.all fun letter => decide (0x20 ≤ letter.toNat)) :
    character ∉ letters.toList := by
  intro member
  have high := of_decide_eq_true (List.all_eq_true.1 printable character member)
  omega

/-- Marks of numbers are no control characters. -/
theorem isMark_eq_false (control : character.toNat < 0x20) :
    Number.isMark character = false := by
  have noDigit : character.isDigit = false := by
    cases digit : character.isDigit with
    | false => rfl
    | true =>
        simp only [Char.isDigit, Bool.and_eq_true, decide_eq_true_eq,
          UInt32.le_iff_toNat_le] at digit
        have low : 0x30 ≤ character.toNat := digit.1
        omega
  have noSign : character ∉ ['-', '+', '.', 'e', 'E'] := by
    intro member
    simp only [List.mem_cons, List.not_mem_nil, or_false] at member
    rcases member with rfl | rfl | rfl | rfl | rfl <;> exact absurd control (by decide)
  simp [Number.isMark, noDigit, noSign]

/-- A control character is displayed of a scalar only if it stands in a text. -/
theorem not_mem_of_showsAs (control : character.toNat < 0x20)
    (lacks : ∀ text ∈ value.asString?, character ∉ text.toList)
    (shows : value.ShowsAs shown) : character ∉ shown.toList := by
  cases value with
  | string text =>
      cases shows
      exact lacks _ rfl
  | number number =>
      obtain rfl := showsAs_number_iff.1 shows
      intro member
      have mark := Number.isMark_of_mem_text member
      rw [isMark_eq_false control] at mark
      cases mark
  | bool truth =>
      cases shows with
      | yes => exact not_mem_of_printable control (by decide)
      | no => exact not_mem_of_printable control (by decide)
  | null | array | object => cases shows

end RpcTools.Json
