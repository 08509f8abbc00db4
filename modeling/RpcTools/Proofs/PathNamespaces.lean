/-
Module: RpcTools.Proofs.PathNamespaces
Purpose: The namespace of the generated module for a file, read off the segments at the end of
  the file's path.
Main exports: ThirdFromEnd, namespaceOfPath?_eq_some_iff
-/
import RpcTools.ParameterType
import RpcTools.Proofs.Traversal

namespace RpcTools

/-! ### The last segments of a path -/

namespace Text

variable {separator : Char} {characters last : List Char} {front : List (List Char)}

/-- A text has no separator, or a last one. -/
theorem not_mem_or_exists_last (separator : Char) (characters : List Char) :
    separator ∉ characters ∨
      ∃ before last, characters = before ++ separator :: last ∧ separator ∉ last := by
  rcases none_or_last (· = separator) characters with never | ⟨before, _, last, rfl, rfl, absent⟩
  · exact .inl fun member => never separator member rfl
  · exact .inr ⟨before, last, rfl, fun member => absent _ member rfl⟩

/-- The last piece of a text is all of it, or what stands behind the last separator. -/
theorem segments_eq_concat_iff :
    segments separator characters = front ++ [last] ↔
      separator ∉ last ∧ ((front = [] ∧ characters = last) ∨
        ∃ before, characters = before ++ separator :: last ∧
          segments separator before = front) := by
  constructor
  · intro cut
    rcases not_mem_or_exists_last separator characters with absent | ⟨before, final, rfl, absent⟩
    · rw [segments_of_not_mem absent] at cut
      have cut : [] ++ [characters] = front ++ [last] := cut
      obtain ⟨rfl, same⟩ := List.append_inj' cut rfl
      obtain rfl := (List.cons.inj same).1
      exact ⟨absent, .inl ⟨rfl, rfl⟩⟩
    · rw [segments_append_cons, segments_of_not_mem absent] at cut
      obtain ⟨rfl, same⟩ := List.append_inj' cut rfl
      obtain rfl := (List.cons.inj same).1
      exact ⟨absent, .inr ⟨before, rfl, rfl⟩⟩
  · rintro ⟨absent, ⟨rfl, rfl⟩ | ⟨before, rfl, rfl⟩⟩
    · exact segments_of_not_mem absent
    · rw [segments_append_cons, segments_of_not_mem absent]

end Text

/-- A path ends in a segment and two more behind it. -/
inductive ThirdFromEnd (path segment : String) : Prop where
  | of {place version base : List Char} (written : segment ≠ "")
      (whole : path.toList = place ++ segment.toList ++ '/' :: version ++ '/' :: base)
      (starts : place = [] ∨ ∃ before, place = before ++ ['/'])
      (noSlash : ∀ part ∈ [segment.toList, version, base], '/' ∉ part) :
      ThirdFromEnd path segment

/-- What stands before a segment is nothing, or ends in a slash. -/
theorem exists_front_segments_iff {characters segment : List Char} :
    (∃ front, Text.segments '/' characters = front ++ [segment]) ↔
      '/' ∉ segment ∧ ∃ place, characters = place ++ segment ∧
        (place = [] ∨ ∃ before, place = before ++ ['/']) := by
  constructor
  · rintro ⟨front, cut⟩
    obtain ⟨noSlash, ⟨_, rfl⟩ | ⟨before, rfl, _⟩⟩ := Text.segments_eq_concat_iff.1 cut
    · exact ⟨noSlash, [], rfl, .inl rfl⟩
    · exact ⟨noSlash, before ++ ['/'], by simp, .inr ⟨before, rfl⟩⟩
  · rintro ⟨noSlash, place, rfl, rfl | ⟨before, rfl⟩⟩
    · exact ⟨[], Text.segments_eq_concat_iff.2 ⟨noSlash, .inl ⟨rfl, rfl⟩⟩⟩
    · exact ⟨_, Text.segments_eq_concat_iff.2 ⟨noSlash, .inr ⟨before, by simp, rfl⟩⟩⟩

/-- One more segment at the end of a path stands behind a slash. -/
theorem segments_eq_concat_concat_iff {characters segment last : List Char}
    {front : List (List Char)} :
    Text.segments '/' characters = front ++ [segment] ++ [last] ↔
      '/' ∉ last ∧ ∃ before, characters = before ++ '/' :: last ∧
        Text.segments '/' before = front ++ [segment] := by
  rw [Text.segments_eq_concat_iff]
  simp

theorem thirdFromEnd_iff {path segment : String} :
    ThirdFromEnd path segment ↔ segment ≠ "" ∧ ∃ front version base,
      Text.segments '/' path.toList = front ++ [segment.toList] ++ [version] ++ [base] := by
  simp only [segments_eq_concat_concat_iff]
  constructor
  · rintro @⟨place, version, base, written, whole, starts, noSlash⟩
    simp only [List.forall_mem_cons] at noSlash
    obtain ⟨inSegment, inVersion, inBase, _⟩ := noSlash
    obtain ⟨front, cut⟩ := exists_front_segments_iff.2 ⟨inSegment, place, rfl, starts⟩
    exact ⟨written, front, version, base, inBase, _, whole, inVersion, _, rfl, cut⟩
  · rintro ⟨written, front, version, base, inBase, _, whole, inVersion, _, rfl, cut⟩
    obtain ⟨inSegment, place, rfl, starts⟩ := exists_front_segments_iff.1 ⟨front, cut⟩
    exact .of written whole starts (by simp [inSegment, inVersion, inBase])

/-- The namespace of a file is the third of its path's segments from the end, unless that is
empty. -/
theorem namespaceOfPath?_eq_some_iff {path namespaceName : String} :
    namespaceOfPath? path = some namespaceName ↔ ThirdFromEnd path namespaceName := by
  rw [thirdFromEnd_iff]
  constructor
  · intro found
    rw [namespaceOfPath?] at found
    split at found
    next base version third rest backwards =>
      have forwards := congrArg (fun pieces => pieces.reverse.map String.toList) backwards
      simp only [List.reverse_reverse, Text.split, List.map_map, List.reverse_cons,
        List.map_append, List.map_cons, List.map_nil] at forwards
      by_cases empty : third.isEmpty
      · rw [if_pos empty] at found
        cases found
      · rw [if_neg empty, Option.some.injEq] at found
        subst found
        refine ⟨fun missing => empty (by rw [missing]; rfl), _, _, _, Eq.trans ?_ forwards⟩
        simp [Function.comp_def]
    next => cases found
  · rintro ⟨written, front, version, base, cut⟩
    have kept : namespaceName.isEmpty = false := by
      simpa using written
    have backwards :
        (Text.split '/' path).reverse =
          String.ofList base :: String.ofList version :: namespaceName ::
            (front.map String.ofList).reverse := by
      simp [Text.split, cut]
    rw [namespaceOfPath?, backwards]
    simp [kept]

end RpcTools
