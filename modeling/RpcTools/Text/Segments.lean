/-
Module: RpcTools.Text.Segments
Purpose: Cutting a text at a separator, joining the pieces, and looking for one text
  inside another.
Main exports: segments, split, joinWith, occursIn, contains, cutFirst?
-/
namespace RpcTools.Text

/-- The pieces between the separators, at least one; separators next to each other
leave empty pieces. -/
def segments (separator : Char) : List Char → List (List Char)
  | [] => [[]]
  | character :: rest =>
      if character = separator then [] :: segments separator rest
      else
        match segments separator rest with
        | [] => [[character]]
        | piece :: pieces => (character :: piece) :: pieces

/-- `segments` on texts. -/
def split (separator : Char) (text : String) : List String :=
  (segments separator text.toList).map String.ofList

/-- The pieces with a separator between each two. -/
def joinWith (separator : String) : List String → String
  | [] => ""
  | [piece] => piece
  | piece :: pieces => piece ++ separator ++ joinWith separator pieces

/-- Whether the characters of `needle` stand next to each other somewhere. -/
def occursIn (needle : List Char) : List Char → Bool
  | [] => needle.isEmpty
  | character :: rest =>
      needle.isPrefixOf (character :: rest) || occursIn needle rest

/-- Whether one text stands inside another. -/
def contains (text needle : String) : Bool :=
  occursIn needle.toList text.toList

/-- What stands before and after the first separator. -/
def cutFirst? (separator : Char) : List Char → Option (List Char × List Char)
  | [] => none
  | character :: rest =>
      if character = separator then some ([], rest)
      else (cutFirst? separator rest).map fun (before, after) => (character :: before, after)

/-! ### Small laws -/

theorem segments_ne_nil (separator : Char) (characters : List Char) :
    segments separator characters ≠ [] := by
  cases characters with
  | nil => simp [segments]
  | cons character rest =>
      rw [segments]
      split
      · simp
      · split <;> simp

/-- A separator divides the pieces of a text into those before and those after it. -/
theorem segments_append_cons (separator : Char) (before after : List Char) :
    segments separator (before ++ separator :: after) =
      segments separator before ++ segments separator after := by
  induction before with
  | nil => simp [segments]
  | cons character rest inductionHypothesis =>
      by_cases same : character = separator
      · simp [segments, same, inductionHypothesis]
      · rw [List.cons_append, segments, segments, if_neg same, if_neg same,
          inductionHypothesis]
        match pieces : segments separator rest with
        | [] => exact absurd pieces (segments_ne_nil separator rest)
        | piece :: others => rfl

theorem segments_of_not_mem {separator : Char} {characters : List Char}
    (absent : separator ∉ characters) : segments separator characters = [characters] := by
  induction characters with
  | nil => rfl
  | cons character rest inductionHypothesis =>
      have different : character ≠ separator := fun same => absent (by simp [same])
      rw [segments, if_neg different,
        inductionHypothesis fun member => absent (List.mem_cons_of_mem character member)]

/-- The first piece is what the text starts with, and the others stand further on. -/
theorem exists_segments_eq_cons (separator : Char) (characters : List Char) :
    ∃ first others, segments separator characters = first :: others ∧
      first <+: characters ∧ ∀ piece ∈ others, piece <:+: characters := by
  induction characters with
  | nil => exact ⟨[], [], rfl, List.nil_prefix, by simp⟩
  | cons character rest inductionHypothesis =>
      obtain ⟨first, others, cut, starts, inside⟩ := inductionHypothesis
      have further : ∀ piece ∈ others, piece <:+: character :: rest := fun piece member =>
        (inside piece member).trans (List.suffix_cons character rest).isInfix
      by_cases same : character = separator
      · refine ⟨[], first :: others, by rw [segments, if_pos same, cut], List.nil_prefix, ?_⟩
        intro piece member
        rcases List.mem_cons.1 member with rfl | later
        · exact starts.isInfix.trans (List.suffix_cons character rest).isInfix
        · exact further piece later
      · exact ⟨character :: first, others, by rw [segments, if_neg same, cut],
          List.cons_prefix_cons.2 ⟨rfl, starts⟩, further⟩

/-- A piece stands in the text that it is cut from. -/
theorem infix_of_mem_segments {separator : Char} {characters piece : List Char}
    (member : piece ∈ segments separator characters) : piece <:+: characters := by
  obtain ⟨first, others, cut, starts, inside⟩ := exists_segments_eq_cons separator characters
  rw [cut] at member
  rcases List.mem_cons.1 member with rfl | later
  · exact starts.isInfix
  · exact inside piece later

/-- `occursIn` decides the infix order of core. -/
theorem occursIn_iff {needle characters : List Char} :
    occursIn needle characters = true ↔ needle <:+: characters := by
  induction characters with
  | nil => simp [occursIn]
  | cons character rest inductionHypothesis =>
      simp [occursIn, List.infix_cons_iff, inductionHypothesis]

/-- Nothing is lost by a cut: the separator stands between the two parts, and not in
the first. -/
theorem cutFirst?_eq_some_iff {separator : Char} {characters before after : List Char} :
    cutFirst? separator characters = some (before, after) ↔
      characters = before ++ separator :: after ∧ separator ∉ before := by
  induction characters generalizing before with
  | nil => simp [cutFirst?]
  | cons character rest inductionHypothesis =>
      rw [cutFirst?]
      split
      next same =>
        subst same
        cases before with
        | nil => simp [eq_comm]
        | cons head tail => simp; grind
      next different =>
        simp only [Option.map_eq_some_iff, Prod.exists, Prod.mk.injEq]
        constructor
        · rintro ⟨head, tail, found, rfl, rfl⟩
          obtain ⟨rfl, absent⟩ := inductionHypothesis.1 found
          simp [absent, Ne.symm different]
        · rintro ⟨whole, absent⟩
          cases before with
          | nil => simp at whole; exact absurd whole.1 different
          | cons head tail =>
              simp only [List.cons_append, List.cons.injEq] at whole
              obtain ⟨rfl, rfl⟩ := whole
              exact ⟨tail, after,
                inductionHypothesis.2 ⟨rfl, fun member => absent (by simp [member])⟩, rfl, rfl⟩

/-- There is one way to cut a text at its first separator. -/
theorem cut_unique {separator : Char} {before after otherBefore otherAfter : List Char}
    (absent : separator ∉ before) (otherAbsent : separator ∉ otherBefore)
    (same : before ++ separator :: after = otherBefore ++ separator :: otherAfter) :
    before = otherBefore ∧ after = otherAfter := by
  have cut : cutFirst? separator (before ++ separator :: after) = some (before, after) :=
    cutFirst?_eq_some_iff.2 ⟨rfl, absent⟩
  rw [same, cutFirst?_eq_some_iff.2 ⟨rfl, otherAbsent⟩] at cut
  cases cut
  exact ⟨rfl, rfl⟩

/-- There is one way to cut a text at its last separator. -/
theorem cutLast_unique {separator : Char} {before after otherBefore otherAfter : List Char}
    (absent : separator ∉ after) (otherAbsent : separator ∉ otherAfter)
    (same : before ++ separator :: after = otherBefore ++ separator :: otherAfter) :
    before = otherBefore ∧ after = otherAfter := by
  have backwards :
      after.reverse ++ separator :: before.reverse =
        otherAfter.reverse ++ separator :: otherBefore.reverse := by
    simpa using congrArg List.reverse same
  obtain ⟨sameAfter, sameBefore⟩ :=
    cut_unique (by simpa using absent) (by simpa using otherAbsent) backwards
  exact ⟨List.reverse_inj.1 sameBefore, List.reverse_inj.1 sameAfter⟩

theorem cutFirst?_eq_none_iff {separator : Char} {characters : List Char} :
    cutFirst? separator characters = none ↔ separator ∉ characters := by
  constructor
  · intro uncut member
    obtain ⟨before, after, whole, absent⟩ := List.eq_append_cons_of_mem member
    rw [cutFirst?_eq_some_iff.2 ⟨whole, absent⟩] at uncut
    cases uncut
  · intro absent
    cases cut : cutFirst? separator characters with
    | none => rfl
    | some parts =>
        obtain ⟨rfl, _⟩ := cutFirst?_eq_some_iff.1 cut
        simp at absent

end RpcTools.Text
