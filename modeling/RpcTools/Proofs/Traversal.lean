/-
Module: RpcTools.Proofs.Traversal
Purpose: Lists that are walked with a computation which can fail: success is success
  everywhere, and the first failure is the one that is reported.  And lists that are searched for
  the last entry of a kind.
Main exports: foldlM_cons_of_ok, mapM_eq_ok_iff, mapM_eq_error_of_first, mapM_congr,
  exists_forall₂, exists_of_mem_forall₂, none_or_last
-/
import Mathlib.Data.List.Forall2

namespace RpcTools

variable {Entry Result Fault : Type} {step : Entry → Except Fault Result}

/-- What is extended by one entry is extended by the others afterwards. -/
theorem foldlM_cons_of_ok {State : Type} {extend : State → Entry → Except Fault State}
    {state next : State} {entry : Entry} (rest : List Entry)
    (here : extend state entry = .ok next) :
    (entry :: rest).foldlM extend state = rest.foldlM extend next := by
  rw [List.foldlM_cons, here]
  rfl

theorem mapM_cons_of_ok {entry : Entry} {result : Result} (rest : List Entry)
    (here : step entry = .ok result) :
    (entry :: rest).mapM step = (rest.mapM step).map (result :: ·) := by
  rw [List.mapM_cons, here]
  cases rest.mapM step <;> rfl

/-- A walk succeeds with the results of its steps, one for each entry. -/
theorem mapM_eq_ok_iff {entries : List Entry} {results : List Result} :
    entries.mapM step = .ok results ↔
      List.Forall₂ (fun entry result => step entry = .ok result) entries results := by
  induction entries generalizing results with
  | nil =>
      rw [List.mapM_nil, List.forall₂_nil_left_iff]
      exact ⟨fun same => (Except.ok.inj same).symm, fun same => congrArg Except.ok same.symm⟩
  | cons entry rest inductionHypothesis =>
      rw [List.forall₂_cons_left_iff]
      cases here : step entry with
      | error fault =>
          rw [List.mapM_cons, here]
          constructor
          · intro success
            cases success
          · rintro ⟨result, others, success, _, _⟩
            cases success
      | ok result =>
          rw [mapM_cons_of_ok rest here]
          constructor
          · intro success
            cases others : rest.mapM step with
            | error fault =>
                rw [others] at success
                cases success
            | ok values =>
                rw [others] at success
                cases success
                exact ⟨result, values, rfl, inductionHypothesis.1 others, rfl⟩
          · rintro ⟨value, values, same, others, rfl⟩
            cases same
            rw [inductionHypothesis.2 others]
            rfl

/-- A walk stops at the first entry that fails. -/
theorem mapM_eq_error_of_first {before after : List Entry} {entry : Entry} {fault : Fault}
    (passed : ∀ earlier ∈ before, ∃ result, step earlier = .ok result)
    (failed : step entry = .error fault) :
    (before ++ entry :: after).mapM step = .error fault := by
  induction before with
  | nil =>
      rw [List.nil_append, List.mapM_cons, failed]
      rfl
  | cons head rest inductionHypothesis =>
      obtain ⟨result, here⟩ := passed head List.mem_cons_self
      rw [List.cons_append, mapM_cons_of_ok _ here,
        inductionHypothesis fun earlier member => passed earlier (List.mem_cons_of_mem _ member)]
      rfl

/-- A walk depends on nothing but what its steps come to at the entries. -/
theorem mapM_congr {other : Entry → Except Fault Result} {entries : List Entry}
    (same : ∀ entry ∈ entries, step entry = other entry) :
    entries.mapM step = entries.mapM other := by
  induction entries with
  | nil => rfl
  | cons entry rest inductionHypothesis =>
      rw [List.mapM_cons, List.mapM_cons, same entry List.mem_cons_self,
        inductionHypothesis fun later member => same later (List.mem_cons_of_mem _ member)]

/-- If every entry has a partner, so has the list. -/
theorem exists_forall₂ {agrees : Entry → Result → Prop} {entries : List Entry}
    (partner : ∀ entry ∈ entries, ∃ result, agrees entry result) :
    ∃ results, List.Forall₂ agrees entries results := by
  induction entries with
  | nil => exact ⟨[], .nil⟩
  | cons entry rest inductionHypothesis =>
      obtain ⟨result, here⟩ := partner entry List.mem_cons_self
      obtain ⟨results, others⟩ := inductionHypothesis fun other member =>
        partner other (List.mem_cons_of_mem entry member)
      exact ⟨result :: results, .cons here others⟩

/-- Every entry of a list with partners has one. -/
theorem exists_of_mem_forall₂ {agrees : Entry → Result → Prop} {entries : List Entry}
    {results : List Result} (partners : List.Forall₂ agrees entries results) {entry : Entry}
    (member : entry ∈ entries) : ∃ result ∈ results, agrees entry result := by
  induction partners with
  | nil => cases member
  | @cons head partner rest others here _ inductionHypothesis =>
      rcases List.mem_cons.1 member with rfl | later
      · exact ⟨partner, List.mem_cons_self, here⟩
      · obtain ⟨result, inOthers, agreed⟩ := inductionHypothesis later
        exact ⟨result, List.mem_cons_of_mem _ inOthers, agreed⟩

/-- No entry of a list is of a kind, or one of them is the last. -/
theorem none_or_last (kind : Entry → Prop) (entries : List Entry) :
    (∀ entry ∈ entries, ¬ kind entry) ∨
      ∃ before entry later, entries = before ++ entry :: later ∧ kind entry ∧
        ∀ other ∈ later, ¬ kind other := by
  induction entries with
  | nil => exact .inl fun entry member => absurd member List.not_mem_nil
  | cons head rest inductionHypothesis =>
      rcases inductionHypothesis with never | ⟨before, entry, later, rfl, here, last⟩
      · by_cases first : kind head
        · exact .inr ⟨[], head, rest, rfl, first, never⟩
        · exact .inl (List.forall_mem_cons.2 ⟨first, never⟩)
      · exact .inr ⟨head :: before, entry, later, rfl, here, last⟩

end RpcTools
