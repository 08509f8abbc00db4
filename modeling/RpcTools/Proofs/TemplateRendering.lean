/-
Module: RpcTools.Proofs.TemplateRendering
Purpose: The text of a template, part by part: texts and values as they are, loops as the
  texts of their turns, and no difference between texts in a row and one text.
Main exports: renderNodes_mergedNodes, Renders, Renders.renderNodes_eq, render_each_of_map,
  render_each_with_commas
-/
import Mathlib.Data.List.Forall2
import RpcTools.Template.BuiltIn

namespace RpcTools

/-! ### Texts in a row

A template's text is read into parts of which no two texts are neighbours.  For what is
rendered it does not matter where a text is cut. -/

theorem renderNodes_cons (scope : Scope) (node : TemplateNode) (rest : List TemplateNode) :
    renderNodes scope (node :: rest) = (do
      let first ← node.render scope
      let others ← renderNodes scope rest
      pure (first ++ others)) := by
  rw [renderNodes]

theorem renderNodes_append (scope : Scope) (front back : List TemplateNode) :
    renderNodes scope (front ++ back) = (do
      let first ← renderNodes scope front
      let second ← renderNodes scope back
      pure (first ++ second)) := by
  induction front with
  | nil =>
      have nothing : renderNodes scope [] = pure "" := by rw [renderNodes]; rfl
      simp only [List.nil_append, nothing, pure_bind, String.empty_append, bind_pure]
  | cons node rest inductionHypothesis =>
      rw [List.cons_append, renderNodes_cons, renderNodes_cons, inductionHypothesis]
      simp only [bind_assoc, pure_bind, String.append_assoc]

@[simp] theorem render_text (scope : Scope) (content : String) :
    (TemplateNode.text content).render scope = .ok content := by
  rw [TemplateNode.render]

theorem renderNodes_before (scope : Scope) (node : TemplateNode)
    (rest : List TemplateNode) :
    renderNodes scope (node.before rest) = renderNodes scope (node :: rest) := by
  unfold TemplateNode.before
  split
  · simp only [renderNodes_cons, render_text]
    cases renderNodes scope _ with
    | error fault => rfl
    | ok others => exact congrArg Except.ok String.append_assoc
  · rfl

mutual

theorem TemplateNode.render_merged :
    ∀ (node : TemplateNode) (scope : Scope), node.merged.render scope = node.render scope
  | .text _, _ => by rw [TemplateNode.merged]
  | .value _, _ => by rw [TemplateNode.merged]
  | .each path body none, scope => by
      simp only [TemplateNode.merged, TemplateNode.render, renderNodes_mergedNodes body]
  | .each path body (some otherwise), scope => by
      simp only [TemplateNode.merged, TemplateNode.render, renderNodes_mergedNodes body,
        renderNodes_mergedNodes otherwise]
  | .choice path expected body otherwise, scope => by
      simp only [TemplateNode.merged, TemplateNode.render, renderNodes_mergedNodes body,
        renderNodes_mergedNodes otherwise]
  | .unknown _, _ => by rw [TemplateNode.merged]

/-- Running texts together changes nothing about what is rendered. -/
theorem renderNodes_mergedNodes :
    ∀ (nodes : List TemplateNode) (scope : Scope),
      renderNodes scope (mergedNodes nodes) = renderNodes scope nodes
  | [], _ => by rw [mergedNodes]
  | node :: rest, scope => by
      rw [mergedNodes, renderNodes_before, renderNodes_cons, renderNodes_cons,
        TemplateNode.render_merged node scope, renderNodes_mergedNodes rest scope]

end

/-! ### One text for each part -/

/-- The parts put these texts next to each other, one for each part. -/
def Renders (scope : Scope) (nodes : List TemplateNode) (texts : List String) : Prop :=
  List.Forall₂ (fun node text => node.render scope = .ok text) nodes texts

theorem Renders.renderNodes_eq {scope : Scope} {nodes : List TemplateNode}
    {texts : List String} (renders : Renders scope nodes texts) :
    renderNodes scope nodes = .ok (String.join texts) := by
  induction renders with
  | nil => simp [renderNodes]
  | cons head tail inductionHypothesis =>
      rw [renderNodes_cons, head, inductionHypothesis, String.join_cons]
      rfl

theorem Renders.append {scope : Scope} {front back : List TemplateNode}
    {frontTexts backTexts : List String} (first : Renders scope front frontTexts)
    (second : Renders scope back backTexts) :
    Renders scope (front ++ back) (frontTexts ++ backTexts) :=
  List.rel_append first second

theorem render_value {scope : Scope} {path : TemplatePath} {value : Json}
    (found : scope.resolve? path = some value) :
    (TemplateNode.value path).render scope = .ok value.inserted := by
  rw [TemplateNode.render, found]

theorem render_choice {scope : Scope} {path : TemplatePath} {value : Json}
    (found : scope.resolve? path = some value) (expected : Bool)
    (body otherwise : List TemplateNode) :
    (TemplateNode.choice path expected body otherwise).render scope =
      if value.isTruthy = expected then renderNodes scope body
      else renderNodes scope otherwise := by
  rw [TemplateNode.render, found]
  rfl

/-! ### Loops

A loop over the values of a list puts the texts of the turns next to each other.  Each turn
has its value at hand; what else its scope holds is left open, so a body may only refer to
the value. -/

section Loops

variable {Entry : Type} {scope : Scope} {path : TemplatePath} {entries : List Entry}
  {view : Entry → Json} {write : Entry → String} {body : List TemplateNode}

theorem mapM_turnsFrom (scope : Scope)
    (turns : ∀ entry ∈ entries, ∀ turn : Scope, turn.here = view entry →
      renderNodes turn body = .ok (write entry)) (index : Nat) :
    ((scope.turnsFrom index (entries.map view)).mapM fun turn => renderNodes turn body) =
      .ok (entries.map write) := by
  induction entries generalizing index with
  | nil => rfl
  | cons entry rest inductionHypothesis =>
      have here := turns entry List.mem_cons_self
      have others := inductionHypothesis
        (fun other member => turns other (List.mem_cons_of_mem entry member)) (index + 1)
      rw [List.map_cons, Scope.turnsFrom, List.mapM_cons, here _ rfl, others]
      rfl

/-- A loop puts the texts of its turns next to each other. -/
theorem render_each_of_map (found : scope.resolve? path = some (.array (entries.map view)))
    (turns : ∀ entry ∈ entries, ∀ turn : Scope, turn.here = view entry →
      renderNodes turn body = .ok (write entry)) :
    (TemplateNode.each path body none).render scope =
      .ok (String.join (entries.map write)) := by
  rw [TemplateNode.render, found]
  simp only [Option.bind_some, Scope.turns?, mapM_turnsFrom scope turns 0]
  rfl

/-- The comma is left out in the last turn. -/
theorem render_commaUnlessLast {turn : Scope} {isLast : Bool}
    (last : Json.lookup? "last" turn.turn = some (.bool isLast)) :
    BuiltIn.commaUnlessLast.render turn = .ok (if isLast then "" else ", ") := by
  have found : turn.resolve? (.ofLoop "last") = some (.bool isLast) := last
  rw [BuiltIn.commaUnlessLast, render_choice found]
  cases isLast with
  | true => simp [Json.isTruthy, renderNodes]
  | false =>
      simp only [Json.isTruthy, render_text, renderNodes]
      rfl

theorem renderNodes_with_comma {turn : Scope} {text : String} {isLast : Bool}
    (rendered : renderNodes turn body = .ok text)
    (last : Json.lookup? "last" turn.turn = some (.bool isLast)) :
    renderNodes turn (body ++ [BuiltIn.commaUnlessLast]) =
      .ok (text ++ if isLast then "" else ", ") := by
  rw [renderNodes_append, rendered, renderNodes_cons, render_commaUnlessLast last]
  simp only [renderNodes]
  exact congrArg (fun comma => Except.ok (text ++ comma)) String.append_empty

theorem mapM_turnsFrom_with_commas (scope : Scope)
    (turns : ∀ entry ∈ entries, ∀ turn : Scope, turn.here = view entry →
      renderNodes turn body = .ok (write entry)) (index : Nat) :
    ∃ texts,
      ((scope.turnsFrom index (entries.map view)).mapM fun turn =>
        renderNodes turn (body ++ [BuiltIn.commaUnlessLast])) = .ok texts ∧
      String.join texts = Text.joinWith ", " (entries.map write) := by
  induction entries generalizing index with
  | nil => exact ⟨[], rfl, rfl⟩
  | cons entry rest inductionHypothesis =>
      have here := turns entry List.mem_cons_self
      obtain ⟨texts, others, joined⟩ := inductionHypothesis
        (fun other member => turns other (List.mem_cons_of_mem entry member)) (index + 1)
      rw [List.map_cons, Scope.turnsFrom, List.mapM_cons,
        renderNodes_with_comma (here _ rfl) rfl, others]
      refine ⟨_, rfl, ?_⟩
      rw [String.join_cons, joined]
      cases rest with
      | nil => simp [Text.joinWith]
      | cons next later => simp [Text.joinWith]

/-- A loop whose turns end with a comma, the last excepted, separates its texts with
commas. -/
theorem render_each_with_commas
    (found : scope.resolve? path = some (.array (entries.map view)))
    (turns : ∀ entry ∈ entries, ∀ turn : Scope, turn.here = view entry →
      renderNodes turn body = .ok (write entry)) :
    (TemplateNode.each path (body ++ [BuiltIn.commaUnlessLast]) none).render scope =
      .ok (Text.joinWith ", " (entries.map write)) := by
  obtain ⟨texts, rendered, joined⟩ := mapM_turnsFrom_with_commas scope turns 0
  rw [TemplateNode.render, found]
  simp only [Option.bind_some, Scope.turns?, rendered, ← joined]
  rfl

end Loops

end RpcTools
