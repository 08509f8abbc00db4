/-
Module: RpcTools.Proofs.ColouredTree
Purpose: Colours only decorate: a tree that is shown in colours is, without its escape sequences,
  the tree that is shown without colours.
Main exports: Text.outsideEscapes, Text.withoutEscapes, Text.Decorates,
  Json.print_without_escapes
-/
import RpcTools.Proofs.TreeText

namespace RpcTools

namespace Text

/-! ### Escape sequences -/

/-- Where a character stands among escape sequences. -/
inductive EscapePlace where
  /-- In the text itself. -/
  | outside
  /-- Directly behind the character that starts a sequence. -/
  | started
  /-- Behind the bracket that makes it a control sequence. -/
  | control

/-- Whether a character ends a control sequence. -/
def endsControl (character : Char) : Bool :=
  decide (0x40 ≤ character.toNat) && decide (character.toNat ≤ 0x7E)

/-- The characters that belong to no escape sequence, where the first of all stands at a place.
A sequence is one character behind its start, or a bracket and what follows up to the first
character that ends a control sequence. -/
def outsideEscapes : EscapePlace → List Char → List Char
  | _, [] => []
  | .outside, character :: rest =>
      if character = '\x1b' then outsideEscapes .started rest
      else character :: outsideEscapes .outside rest
  | .started, character :: rest =>
      if character = '[' then outsideEscapes .control rest else outsideEscapes .outside rest
  | .control, character :: rest =>
      if endsControl character then outsideEscapes .outside rest
      else outsideEscapes .control rest

/-- A text without its escape sequences. -/
def withoutEscapes (text : String) : String :=
  String.ofList (outsideEscapes .outside text.toList)

/-- A text is another one with escape sequences in it, none of which is left open. -/
def Decorates (decorated plain : String) : Prop :=
  ∀ rest, outsideEscapes .outside (decorated.toList ++ rest) =
    plain.toList ++ outsideEscapes .outside rest

variable {decorated plain text : String} {characters front right : List Char}

theorem outsideEscapes_control {parameters rest : List Char} {last : Char}
    (inner : ∀ character ∈ parameters, endsControl character = false)
    (ends : endsControl last = true) :
    outsideEscapes .control (parameters ++ last :: rest) = outsideEscapes .outside rest := by
  induction parameters with
  | nil => simp [outsideEscapes, ends]
  | cons character others inductionHypothesis =>
      rw [List.forall_mem_cons] at inner
      rw [List.cons_append, outsideEscapes, inner.1, if_neg Bool.false_ne_true,
        inductionHypothesis inner.2]

theorem outsideEscapes_opening (style : Style) (rest : List Char) :
    outsideEscapes .outside (style.opening ++ rest) = outsideEscapes .outside rest := by
  have inner : ∀ character ∈ style.parameters, endsControl character = false := by
    cases style <;> simp [Style.parameters, endsControl]
  have skipped := @outsideEscapes_control style.parameters rest 'm' inner (by decide)
  simp only [Style.opening, List.cons_append, List.append_assoc, List.nil_append]
  exact skipped

theorem outsideEscapes_reset (rest : List Char) :
    outsideEscapes .outside (Style.reset ++ rest) = outsideEscapes .outside rest :=
  @outsideEscapes_control ['0'] rest 'm' (by simp [endsControl]) (by decide)

theorem mem_of_mem_outsideEscapes {character : Char} {place : EscapePlace}
    (member : character ∈ outsideEscapes place characters) : character ∈ characters := by
  fun_induction outsideEscapes place characters
  case case1 => cases member
  case case3 first rest _ inductionHypothesis =>
    rcases List.mem_cons.1 member with rfl | inRest
    · exact List.mem_cons_self
    · exact List.mem_cons_of_mem _ (inductionHypothesis inRest)
  case case2 inductionHypothesis | case4 inductionHypothesis | case5 inductionHypothesis |
      case6 inductionHypothesis | case7 inductionHypothesis =>
    exact List.mem_cons_of_mem _ (inductionHypothesis member)

/-- White space at the end adds nothing but white space to what is outside of escape sequences. -/
theorem exists_blanks_outsideEscapes (place : EscapePlace) (front : List Char)
    (blank : OnlyBlanks right) :
    ∃ left, OnlyBlanks left ∧
      outsideEscapes place (front ++ right) = outsideEscapes place front ++ left := by
  fun_induction outsideEscapes place front with
  | case1 place =>
      refine ⟨outsideEscapes place right, fun character member => ?_, rfl⟩
      exact blank character (mem_of_mem_outsideEscapes member)
  | case2 rest inductionHypothesis => exact inductionHypothesis
  | case3 first rest notStart inductionHypothesis =>
      obtain ⟨left, blankLeft, same⟩ := inductionHypothesis
      refine ⟨left, blankLeft, ?_⟩
      rw [List.cons_append, outsideEscapes, if_neg notStart, same, List.cons_append]
  | case4 rest inductionHypothesis => exact inductionHypothesis
  | case5 first rest notBracket inductionHypothesis =>
      rw [List.cons_append, outsideEscapes, if_neg notBracket]
      exact inductionHypothesis
  | case6 first rest ends inductionHypothesis =>
      rw [List.cons_append, outsideEscapes, if_pos ends]
      exact inductionHypothesis
  | case7 first rest goesOn inductionHypothesis =>
      rw [List.cons_append, outsideEscapes, if_neg goesOn]
      exact inductionHypothesis

/-- White space at the end may be removed before the escape sequences are, or only after that. -/
theorem trimEnd_withoutEscapes_trimEnd (text : String) :
    trimEnd (withoutEscapes (trimEnd text)) = trimEnd (withoutEscapes text) := by
  obtain ⟨right, blank, whole⟩ := exists_dropBlanksEnd_blanks text.toList
  obtain ⟨left, blankLeft, same⟩ :=
    exists_blanks_outsideEscapes .outside (dropBlanksEnd text.toList) blank
  rw [← whole] at same
  apply String.toList_injective
  simp only [toList_trimEnd, withoutEscapes, String.toList_ofList]
  rw [same, dropBlanksEnd_append_of_blank blankLeft]

/-! ### Decorated texts -/

theorem Decorates.withoutEscapes_eq (decorates : Decorates decorated plain) :
    withoutEscapes decorated = plain := by
  have whole := decorates []
  rw [List.append_nil, outsideEscapes, List.append_nil] at whole
  rw [withoutEscapes, whole, String.ofList_toList]

/-- A text without the start of a sequence decorates itself. -/
theorem Decorates.self (plainText : '\x1b' ∉ text.toList) : Decorates text text := by
  intro rest
  generalize text.toList = characters at plainText
  induction characters with
  | nil => rfl
  | cons first others inductionHypothesis =>
      rw [List.mem_cons, not_or] at plainText
      rw [List.cons_append, outsideEscapes, if_neg (Ne.symm plainText.1),
        inductionHypothesis plainText.2, List.cons_append]

theorem Decorates.append {other otherPlain : String} (decorates : Decorates decorated plain)
    (decoratesToo : Decorates other otherPlain) :
    Decorates (decorated ++ other) (plain ++ otherPlain) := by
  intro rest
  rw [String.toList_append, List.append_assoc, decorates, decoratesToo, String.toList_append,
    List.append_assoc]

theorem Decorates.joinWith {separator : String} {lines others : List String}
    (between : Decorates separator separator) (each : List.Forall₂ Decorates lines others) :
    Decorates (Text.joinWith separator lines) (Text.joinWith separator others) := by
  induction each with
  | nil => exact fun rest => rfl
  | @cons line other rest othersRest first further inductionHypothesis =>
      cases further with
      | nil => simpa [Text.joinWith] using first
      | cons second beyond =>
          have joined := (first.append between).append inductionHypothesis
          simpa [Text.joinWith] using joined

/-- Where no sequence starts, no style has to be started again. -/
theorem reopened_eq_self (style : Style) (plainText : '\x1b' ∉ characters) :
    style.reopened characters = characters := by
  fun_induction Style.reopened style characters with
  | case1 rest => exact absurd List.mem_cons_self plainText
  | case2 first rest _ inductionHypothesis =>
      rw [inductionHypothesis fun member => plainText (List.mem_cons_of_mem _ member)]
  | case3 => rfl

/-- A style surrounds a text by its opening and the reset, and changes nothing else. -/
theorem toList_paint (style : Style) (plainText : '\x1b' ∉ text.toList) :
    (Style.paint true style text).toList = style.opening ++ (text.toList ++ Style.reset) := by
  simp [Style.paint, reopened_eq_self style plainText]

theorem Decorates.paint (style : Style) (plainText : '\x1b' ∉ text.toList) :
    Decorates (Style.paint true style text) text := by
  intro rest
  rw [toList_paint style plainText, List.append_assoc, outsideEscapes_opening, List.append_assoc,
    Decorates.self plainText, outsideEscapes_reset]

end Text

namespace Json

open Text (Decorates)

/-! ### The coloured tree -/

variable {value inner : Json} {path : List Step}

/-- Every leaf is painted in one style. -/
theorem exists_leafText_eq_paint (leaf : Json) : ∃ style, ∀ colored,
    leafText colored leaf = Style.paint colored style (leafText false leaf) := by
  cases leaf with
  | null | bool | number | string | array | object => exact ⟨_, fun _ => rfl⟩

theorem not_mem_leafText {character : Char} (control : character.toNat < 0x20)
    (lacks : ∀ text ∈ inner.asString?, character ∉ text.toList) :
    character ∉ (leafText false inner).toList := by
  cases inner with
  | null => exact not_mem_of_printable control (by decide)
  | array items => exact @not_mem_of_printable _ "[]" control (by decide)
  | object members => exact @not_mem_of_printable _ "\x7b\x7d" control (by decide)
  | bool | number | string =>
      exact not_mem_of_showsAs control lacks (scalarText?_eq_some_iff.1 rfl)

theorem decorates_leafText (lacks : ∀ text ∈ inner.asString?, '\x1b' ∉ text.toList) :
    Decorates (leafText true inner) (leafText false inner) := by
  obtain ⟨style, painted⟩ := exists_leafText_eq_paint inner
  rw [painted true]
  exact Decorates.paint style (not_mem_leafText (by decide) lacks)

theorem decorates_head {line : TreeLine} (inKey : ∀ key ∈ line.key, '\x1b' ∉ key.toList) :
    Decorates (line.head true) (line.head false) := by
  rw [TreeLine.head, TreeLine.head]
  cases keyed : line.key with
  | none => exact Decorates.self (by decide)
  | some key =>
      have colon : Decorates ":" ":" := Decorates.self (by decide)
      exact (Decorates.paint .boldBlue (inKey key keyed)).append colon

theorem decorates_text {line : TreeLine} (inKey : ∀ key ∈ line.key, '\x1b' ∉ key.toList)
    (inLeaf : ∀ leaf ∈ line.leaf, ∀ text ∈ leaf.asString?, '\x1b' ∉ text.toList) :
    Decorates (line.text true) (line.text false) := by
  have marginPlain : '\x1b' ∉ (margin line.depth).toList := by simp [margin]
  have start := (Decorates.self marginPlain).append (decorates_head inKey)
  rw [TreeLine.text, TreeLine.text]
  cases ends : line.leaf with
  | none => exact start.append (Decorates.self (by decide))
  | some leaf =>
      have blank : Decorates " " " " := Decorates.self (by decide)
      exact start.append (blank.append (decorates_leafText (inLeaf leaf ends)))

/-- Each line of the coloured tree decorates the line of the plain one. -/
theorem decorates_treeLineAt (plain : value.Lacks '\x1b')
    (found : (path, inner) ∈ value.inside) :
    Decorates ((treeLineAt 0 (path, inner)).text true)
      ((treeLineAt 0 (path, inner)).text false) := by
  have inWalk := (mem_inside_iff.1 found).2
  apply decorates_text
  · intro key isKey
    obtain ⟨step, isLast, named⟩ := Option.bind_eq_some_iff.1 isKey
    have inPath := List.mem_of_getLast? isLast
    cases step with
    | index position => cases named
    | key name =>
        cases named
        exact holds_of_key_mem (fun key => '\x1b' ∉ key.toList) plain.keys inWalk inPath
  · intro leaf isLeafHere text isText
    obtain ⟨_, isInner⟩ := Option.ite_none_right_eq_some.1 isLeafHere
    cases isInner
    exact plain.texts _ inWalk text isText

theorem forall₂_decorates_treeLines (plain : value.Lacks '\x1b') :
    List.Forall₂ Decorates ((value.treeLines 0).map (·.text true))
      ((value.treeLines 0).map (·.text false)) := by
  rw [treeLines_eq, List.map_map, List.map_map, List.forall₂_map_left_iff,
    List.forall₂_map_right_iff, List.forall₂_same]
  exact fun place found => decorates_treeLineAt plain found

theorem print_scalar (colored : Bool) (scalar : value.isContainer = false) :
    OutputFormat.print colored .pretty value = Text.trimEnd (leafText colored value) := by
  cases value with
  | array | object => cases scalar
  | null | bool | number | string => rfl

/-- Before white space at their ends is removed, the coloured text decorates the plain one. -/
theorem exists_untrimmed (plain : value.Lacks '\x1b') :
    ∃ decorated bare, Decorates decorated bare ∧
      OutputFormat.print true .pretty value = Text.trimEnd decorated ∧
        OutputFormat.print false .pretty value = Text.trimEnd bare := by
  cases container : value.isContainer with
  | true =>
      have lines := forall₂_decorates_treeLines plain.sortKeys
      have joined := Decorates.joinWith (@Decorates.self "\n" (by decide)) lines
      exact ⟨_, _, joined, print_tree true container, print_tree false container⟩
  | false =>
      have here := plain.texts ([], value) (nil_mem_walk_iff.2 rfl)
      exact ⟨_, _, decorates_leafText here, print_scalar true container,
        print_scalar false container⟩

/-- Colours only decorate: without its escape sequences, and without the white space that they
shield at its end, a coloured tree is the one without colours. -/
theorem print_without_escapes {value : Json} (plain : value.Lacks '\x1b') :
    Text.trimEnd (Text.withoutEscapes (OutputFormat.print true .pretty value)) =
      OutputFormat.print false .pretty value := by
  obtain ⟨decorated, bare, decorates, coloured, uncoloured⟩ := exists_untrimmed plain
  rw [coloured, Text.trimEnd_withoutEscapes_trimEnd, decorates.withoutEscapes_eq, uncoloured]

/-- A tenth, displayed with an exponent. -/
def aTenth : Fraction where
  value := 0.1
  finite := by decide
  display := "1e-1"
  marks := by decide

/-- An object whose last line ends in white space that a reset shields. -/
def paddedNote : Json :=
  .object
    [("tags", .array [.null, .array [], .number (.fraction aTenth)]), ("text", .string "a\t ")]

theorem print_without_escapes_paddedNote :
    paddedNote.Lacks '\x1b' ∧
      Text.trimEnd (Text.withoutEscapes (OutputFormat.print true .pretty paddedNote)) =
        OutputFormat.print false .pretty paddedNote := by
  have plain : paddedNote.Lacks '\x1b' := ⟨by decide, by decide⟩
  exact ⟨plain, print_without_escapes plain⟩

example : Text.withoutEscapes (OutputFormat.print true .pretty paddedNote) =
    "tags:\n  - none\n  - []\n  - 1e-1\ntext: a\t " := by
  decide +kernel

end Json

end RpcTools
